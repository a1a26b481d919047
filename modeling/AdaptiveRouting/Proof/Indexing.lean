import AdaptiveRouting.Lib.Multimap
import AdaptiveRouting.Proof.Bindings
import AdaptiveRouting.Proof.Counters

/-!
# What the indexes list

A scan of the records and the evidence reports the policies that bind a path, target a route or a set,
or hear from a source. `State.Reported` says that the indexes list nothing else and keep no empty entry;
`State.RoutesOf` and `State.PathsOf` say that they list all of it for one policy. Indexing a policy
keeps all three (`reindexPolicy_listed`) and gives it what the scan reports of it, its paths when each
finds room (`Vacant`).
-/

namespace AdaptiveRouting

open Multimap

namespace State

/-! ## A scan -/

/-- The policy has a candidate for the path. -/
def Binds (s : State) (policy : AdaptivePolicyId) (path : PathId) : Prop :=
  ∃ record, s.policies[policy]? = some record ∧ path ∈ record.paths

def TargetsRoute (s : State) (policy : AdaptivePolicyId) (route : RouteId) : Prop :=
  ∃ record, s.policies[policy]? = some record ∧ record.policy.semantics.target.route = route

def TargetsSet (s : State) (policy : AdaptivePolicyId) (set : MultipathSetId) : Prop :=
  ∃ record, s.policies[policy]? = some record ∧
    record.policy.semantics.target.multipathSet = some set

/-- A series of the source is there for a path the policy binds. -/
def HearsFrom (s : State) (policy : AdaptivePolicyId) (source : EvidenceSourceId) : Prop :=
  ∃ key ∈ s.evidence, key.source = source ∧ s.Binds policy key.path

/-- The indexes keep no empty entry and list only what a scan reports. -/
structure Reported (s : State) : Prop where
  tidyPath : Tidy s.policiesByPath
  tidyRoute : Tidy s.policiesByRoute
  tidySet : Tidy s.policiesBySet
  tidySource : Tidy s.policiesBySource
  path : ∀ path policy, Enlists s.policiesByPath path policy → s.Binds policy path
  route : ∀ route policy, Enlists s.policiesByRoute route policy → s.TargetsRoute policy route
  set : ∀ set policy, Enlists s.policiesBySet set policy → s.TargetsSet policy set
  source : ∀ source policy, Enlists s.policiesBySource source policy → s.HearsFrom policy source

/-- The policy's route and set are listed. -/
structure RoutesOf (s : State) (policy : AdaptivePolicyId) : Prop where
  route : ∀ route, s.TargetsRoute policy route → Enlists s.policiesByRoute route policy
  set : ∀ set, s.TargetsSet policy set → Enlists s.policiesBySet set policy

/-- The policy's paths and sources are listed. -/
structure PathsOf (s : State) (policy : AdaptivePolicyId) : Prop where
  path : ∀ path, s.Binds policy path → Enlists s.policiesByPath path policy
  source : ∀ source, s.HearsFrom policy source → Enlists s.policiesBySource source policy

/-! ## What a scan reads -/

/-- The four indexes. -/
structure IndexTables where
  byPath : PolicyIndex .pathId
  byRoute : PolicyIndex .routeId
  bySet : PolicyIndex .multipathSetId
  bySource : PolicyIndex .evidenceSourceId

def indexes (s : State) : IndexTables where
  byPath := s.policiesByPath
  byRoute := s.policiesByRoute
  bySet := s.policiesBySet
  bySource := s.policiesBySource

/-- What a scan reads of a policy: its paths and its target. -/
def outline (s : State) (policy : AdaptivePolicyId) : Option (List PathId × PolicyTarget) :=
  (s.policies[policy]?).map fun record => (record.paths, record.policy.semantics.target)

/-- The indexes and what a scan reads are the same. -/
structure SameScan (s s' : State) : Prop where
  indexes : s'.indexes = s.indexes
  evidence : s'.evidence = s.evidence
  outline : ∀ policy, s'.outline policy = s.outline policy

section
variable {s s' s'' : State} {policy : AdaptivePolicyId}

theorem binds_iff {path : PathId} :
    s.Binds policy path ↔ ∃ o, s.outline policy = some o ∧ path ∈ o.1 := by
  unfold Binds outline
  simp only [Option.map_eq_some_iff]
  constructor
  · rintro ⟨record, hrecord, hpath⟩
    exact ⟨_, ⟨record, hrecord, rfl⟩, hpath⟩
  · rintro ⟨_, ⟨record, hrecord, rfl⟩, hpath⟩
    exact ⟨record, hrecord, hpath⟩

theorem targetsRoute_iff {route : RouteId} :
    s.TargetsRoute policy route ↔ ∃ o, s.outline policy = some o ∧ o.2.route = route := by
  unfold TargetsRoute outline
  simp only [Option.map_eq_some_iff]
  constructor
  · rintro ⟨record, hrecord, hroute⟩
    exact ⟨_, ⟨record, hrecord, rfl⟩, hroute⟩
  · rintro ⟨_, ⟨record, hrecord, rfl⟩, hroute⟩
    exact ⟨record, hrecord, hroute⟩

theorem targetsSet_iff {set : MultipathSetId} :
    s.TargetsSet policy set ↔ ∃ o, s.outline policy = some o ∧ o.2.multipathSet = some set := by
  unfold TargetsSet outline
  simp only [Option.map_eq_some_iff]
  constructor
  · rintro ⟨record, hrecord, hset⟩
    exact ⟨_, ⟨record, hrecord, rfl⟩, hset⟩
  · rintro ⟨_, ⟨record, hrecord, rfl⟩, hset⟩
    exact ⟨record, hrecord, hset⟩

theorem binds_congr (h : s'.outline policy = s.outline policy) (path : PathId) :
    s'.Binds policy path ↔ s.Binds policy path := by
  rw [binds_iff, binds_iff, h]

theorem hearsFrom_congr (hevidence : s'.evidence = s.evidence)
    (h : s'.outline policy = s.outline policy) (source : EvidenceSourceId) :
    s'.HearsFrom policy source ↔ s.HearsFrom policy source := by
  unfold HearsFrom
  simp only [hevidence, binds_congr h]

theorem SameScan.refl (s : State) : SameScan s s := ⟨rfl, rfl, fun _ => rfl⟩

theorem SameScan.trans (h₁ : SameScan s s') (h₂ : SameScan s' s'') : SameScan s s'' where
  indexes := h₂.indexes.trans h₁.indexes
  evidence := h₂.evidence.trans h₁.evidence
  outline := fun policy => (h₂.outline policy).trans (h₁.outline policy)

theorem SameScan.byPath (h : SameScan s s') : s'.policiesByPath = s.policiesByPath :=
  congrArg IndexTables.byPath h.indexes

theorem SameScan.byRoute (h : SameScan s s') : s'.policiesByRoute = s.policiesByRoute :=
  congrArg IndexTables.byRoute h.indexes

theorem SameScan.bySet (h : SameScan s s') : s'.policiesBySet = s.policiesBySet :=
  congrArg IndexTables.bySet h.indexes

theorem SameScan.bySource (h : SameScan s s') : s'.policiesBySource = s.policiesBySource :=
  congrArg IndexTables.bySource h.indexes

theorem Reported.congr (hs : s.Reported) (h : SameScan s s') : s'.Reported where
  tidyPath := h.byPath ▸ hs.tidyPath
  tidyRoute := h.byRoute ▸ hs.tidyRoute
  tidySet := h.bySet ▸ hs.tidySet
  tidySource := h.bySource ▸ hs.tidySource
  path := fun path policy hlists =>
    (binds_congr (h.outline policy) path).2 (hs.path path policy (h.byPath ▸ hlists))
  route := fun route policy hlists => by
    have htargets := hs.route route policy (h.byRoute ▸ hlists)
    rw [targetsRoute_iff] at htargets ⊢
    rwa [h.outline]
  set := fun set policy hlists => by
    have htargets := hs.set set policy (h.bySet ▸ hlists)
    rw [targetsSet_iff] at htargets ⊢
    rwa [h.outline]
  source := fun source policy hlists =>
    (hearsFrom_congr h.evidence (h.outline policy) source).2
      (hs.source source policy (h.bySource ▸ hlists))

theorem RoutesOf.congr (hs : s.RoutesOf policy) (h : SameScan s s') : s'.RoutesOf policy where
  route := fun route htargets => by
    rw [targetsRoute_iff, h.outline, ← targetsRoute_iff] at htargets
    exact h.byRoute ▸ hs.route route htargets
  set := fun set htargets => by
    rw [targetsSet_iff, h.outline, ← targetsSet_iff] at htargets
    exact h.bySet ▸ hs.set set htargets

theorem PathsOf.congr (hs : s.PathsOf policy) (h : SameScan s s') : s'.PathsOf policy where
  path := fun path hbinds =>
    h.byPath ▸ hs.path path ((binds_congr (h.outline policy) path).1 hbinds)
  source := fun source hhears => h.bySource ▸
    hs.source source ((hearsFrom_congr h.evidence (h.outline policy) source).1 hhears)

end

/-! ## Paths in turn -/

section
variable {bound : Nat} {policy other : AdaptivePolicyId} {index : PolicyIndex .pathId} {path : PathId}

/-- Every candidate is listed or, in its turn, finds fewer paths than the bound. -/
def Vacant (bound : Nat) (policy : AdaptivePolicyId) (index : PolicyIndex .pathId)
    (candidates : List CandidateRecord) : Prop :=
  ∀ before candidate after, candidates = before ++ candidate :: after →
    Enlists index candidate.binding.path policy ∨
      (before.foldl (fun index c => PolicyIndex.add index c.binding.path policy) index).size < bound

theorem add_size (index : PolicyIndex .pathId) (path : PathId) (policy : AdaptivePolicyId) :
    index.size ≤ (PolicyIndex.add index path policy).size ∧
      (PolicyIndex.add index path policy).size ≤ index.size + 1 :=
  ⟨Std.ExtTreeMap.size_le_size_insert, Std.ExtTreeMap.size_insert_le⟩

theorem addPaths_size (policy : AdaptivePolicyId) (candidates : List CandidateRecord)
    (index : PolicyIndex .pathId) : index.size ≤
      (candidates.foldl (fun index c => PolicyIndex.add index c.binding.path policy) index).size := by
  induction candidates generalizing index with
  | nil => exact Nat.le_refl _
  | cons c rest ih => exact Nat.le_trans (add_size index c.binding.path policy).1 (ih _)

theorem enlists_of_indexPaths {candidates : List CandidateRecord}
    (h : Enlists (indexPaths bound policy index candidates) path other) :
    (policy = other ∧ ∃ c ∈ candidates, c.binding.path = path) ∨ Enlists index path other := by
  induction candidates generalizing index with
  | nil => exact .inr h
  | cons c rest ih =>
    unfold indexPaths at h
    split at h
    · exact .inr h
    · rcases ih h with ⟨hpolicy, c', hc', hpath⟩ | h
      · exact .inl ⟨hpolicy, c', List.mem_cons_of_mem _ hc', hpath⟩
      · rcases enlists_add.1 h with ⟨hpath, hpolicy⟩ | h
        · exact .inl ⟨hpolicy, c, List.mem_cons_self, hpath⟩
        · exact .inr h

theorem indexPaths_keeps (candidates : List CandidateRecord) (h : Enlists index path other) :
    Enlists (indexPaths bound policy index candidates) path other := by
  induction candidates generalizing index with
  | nil => exact h
  | cons c rest ih =>
    unfold indexPaths
    split
    · exact h
    · exact ih (enlists_add.2 (.inr h))

theorem indexPaths_tidy (candidates : List CandidateRecord) (h : Tidy index) :
    Tidy (indexPaths bound policy index candidates) := by
  induction candidates generalizing index with
  | nil => exact h
  | cons c rest ih =>
    unfold indexPaths
    split
    · exact h
    · exact ih h.add

theorem indexPaths_size (candidates : List CandidateRecord) (h : index.size ≤ bound) :
    (indexPaths bound policy index candidates).size ≤ bound := by
  induction candidates generalizing index with
  | nil => exact h
  | cons c rest ih =>
    unfold indexPaths
    split
    · exact h
    · apply ih
      have hadd := (add_size index c.binding.path policy).2
      omega

/-- Where every candidate finds room, all their paths are listed. -/
theorem indexPaths_lists {candidates : List CandidateRecord}
    (h : Vacant bound policy index candidates) :
    ∀ c ∈ candidates, Enlists (indexPaths bound policy index candidates) c.binding.path policy := by
  induction candidates generalizing index with
  | nil => simp
  | cons c rest ih =>
    intro c' hc'
    unfold indexPaths
    split
    · rename_i hfull
      -- the index is full, so a candidate that has room is one already listed
      obtain ⟨before, after, hsplit⟩ := List.append_of_mem hc'
      rcases h before c' after hsplit with hlisted | hroom
      · exact hlisted
      · have hsize := addPaths_size policy before index
        omega
    · have hadded : Enlists (PolicyIndex.add index c.binding.path policy) c.binding.path policy :=
        enlists_add.2 (.inl ⟨rfl, rfl⟩)
      rcases List.mem_cons.1 hc' with rfl | hrest
      · exact indexPaths_keeps rest hadded
      · refine ih (fun before candidate after hsplit => ?_) c' hrest
        rcases h (c :: before) candidate after (by rw [hsplit]; rfl) with hlisted | hroom
        · exact .inl (enlists_add.2 (.inr hlisted))
        · exact .inr hroom

end

/-! ## Indexing a policy -/

section
variable {s : State} {limits : Limits} {policy other : AdaptivePolicyId} {record : PolicyRecord}

theorem mem_evidenceSources {source : EvidenceSourceId} : source ∈ s.evidenceSources record ↔
    ∃ key ∈ s.evidence, key.source = source ∧ key.path ∈ record.paths := by
  unfold evidenceSources PolicyRecord.paths
  simp only [List.mem_flatMap, List.mem_map, List.mem_filter, Std.ExtTreeMap.mem_keys, beq_iff_eq]
  constructor
  · rintro ⟨key, hkey, c, ⟨hc, hpath⟩, hsource⟩
    exact ⟨key, hkey, hsource, c, hc, hpath.symm⟩
  · rintro ⟨key, hkey, hsource, c, hc, hpath⟩
    exact ⟨key, hkey, c, ⟨hc, hpath.symm⟩, hsource⟩

theorem binds_of (hrecord : s.policies[policy]? = some record) (path : PathId) :
    s.Binds policy path ↔ path ∈ record.paths := by
  unfold Binds
  rw [hrecord]
  simp

theorem hearsFrom_of (hrecord : s.policies[policy]? = some record) (source : EvidenceSourceId) :
    s.HearsFrom policy source ↔ source ∈ s.evidenceSources record := by
  rw [mem_evidenceSources]
  unfold HearsFrom
  simp only [binds_of hrecord]

theorem reindexPolicy_outline (s : State) (limits : Limits) (policy other : AdaptivePolicyId) :
    (s.reindexPolicy limits policy).outline other = s.outline other := by
  unfold outline
  rw [reindexPolicy_policies]

theorem reindexPolicy_evidence (s : State) (limits : Limits) (policy : AdaptivePolicyId) :
    (s.reindexPolicy limits policy).evidence = s.evidence :=
  evidence_of_gauges (s.reindexPolicy_gauges limits policy)

section
variable (hrecord : s.policies[policy]? = some record)
include hrecord

theorem reindexPolicy_of : s.reindexPolicy limits policy = { s with
    policiesByPath := indexPaths (limits.maxPoliciesPerPath * 16).toNat policy s.policiesByPath
      record.candidates
    policiesByRoute := PolicyIndex.add s.policiesByRoute record.policy.semantics.target.route policy
    policiesBySet := record.policy.semantics.target.multipathSet.elim s.policiesBySet fun set =>
      PolicyIndex.add s.policiesBySet set policy
    policiesBySource := (s.evidenceSources record).foldl
      (fun index source => PolicyIndex.add index source policy) s.policiesBySource } := by
  unfold reindexPolicy
  simp only [hrecord]
  cases record.policy.semantics.target.multipathSet <;> rfl

theorem enlists_reindexRoute {route : RouteId} :
    Enlists (s.reindexPolicy limits policy).policiesByRoute route other ↔
      (record.policy.semantics.target.route = route ∧ policy = other) ∨
        Enlists s.policiesByRoute route other := by
  rw [reindexPolicy_of hrecord]
  exact enlists_add

theorem enlists_reindexSet {set : MultipathSetId} :
    Enlists (s.reindexPolicy limits policy).policiesBySet set other ↔
      (record.policy.semantics.target.multipathSet = some set ∧ policy = other) ∨
        Enlists s.policiesBySet set other := by
  rw [reindexPolicy_of hrecord]
  dsimp only
  cases record.policy.semantics.target.multipathSet with
  | none => simp
  | some found =>
    rw [Option.some.injEq]
    exact enlists_add

theorem enlists_reindexSource {source : EvidenceSourceId} :
    Enlists (s.reindexPolicy limits policy).policiesBySource source other ↔
      (policy = other ∧ source ∈ s.evidenceSources record) ∨ Enlists s.policiesBySource source other := by
  rw [reindexPolicy_of hrecord]
  refine (enlists_foldl_add (fun source => source) (s.evidenceSources record)).trans ?_
  simp

end

theorem reindexPolicy_listed (hs : s.Reported) : (s.reindexPolicy limits policy).Reported := by
  cases hrecord : s.policies[policy]? with
  | none =>
    unfold reindexPolicy
    rw [hrecord]
    exact hs
  | some record =>
    have hsame := s.reindexPolicy_policies limits policy
    have hevidence := s.reindexPolicy_evidence limits policy
    refine ⟨?_, ?_, ?_, ?_, fun path other h => ?_, fun route other h => ?_, fun set other h => ?_,
      fun source other h => ?_⟩
    · rw [reindexPolicy_of hrecord]
      exact indexPaths_tidy _ hs.tidyPath
    · rw [reindexPolicy_of hrecord]
      exact hs.tidyRoute.add
    · rw [reindexPolicy_of hrecord]
      cases record.policy.semantics.target.multipathSet with
      | none => exact hs.tidySet
      | some set => exact hs.tidySet.add
    · rw [reindexPolicy_of hrecord]
      exact hs.tidySource.foldl (fun index source => PolicyIndex.add index source policy)
        (fun _ _ h => h.add) _
    · rw [binds_congr (reindexPolicy_outline ..)]
      rw [reindexPolicy_of hrecord] at h
      rcases enlists_of_indexPaths h with ⟨rfl, c, hc, rfl⟩ | h
      · exact (binds_of hrecord _).2 (List.mem_map_of_mem hc)
      · exact hs.path path other h
    · unfold TargetsRoute
      rw [hsame]
      rcases (enlists_reindexRoute hrecord).1 h with ⟨hroute, rfl⟩ | h
      · exact ⟨record, hrecord, hroute⟩
      · exact hs.route route other h
    · unfold TargetsSet
      rw [hsame]
      rcases (enlists_reindexSet hrecord).1 h with ⟨hset, rfl⟩ | h
      · exact ⟨record, hrecord, hset⟩
      · exact hs.set set other h
    · rw [hearsFrom_congr hevidence (reindexPolicy_outline ..)]
      rcases (enlists_reindexSource hrecord).1 h with ⟨rfl, hsource⟩ | h
      · exact (hearsFrom_of hrecord source).2 hsource
      · exact hs.source source other h

/-- The route and the set of the policy itself are listed, and those of the others stay. -/
theorem reindexPolicy_routesOf (hs : policy ≠ other → s.RoutesOf other) :
    (s.reindexPolicy limits policy).RoutesOf other := by
  have hsame := s.reindexPolicy_policies limits policy
  cases hrecord : s.policies[policy]? with
  | none =>
    have hnone : s.reindexPolicy limits policy = s := by
      unfold reindexPolicy
      rw [hrecord]
    rw [hnone]
    by_cases hother : policy = other
    · subst hother
      refine ⟨?_, ?_⟩
      · rintro route ⟨found, hfound, -⟩
        rw [hrecord] at hfound
        cases hfound
      · rintro set ⟨found, hfound, -⟩
        rw [hrecord] at hfound
        cases hfound
    · exact hs hother
  | some record =>
    refine ⟨?_, ?_⟩
    · rintro route ⟨found, hfound, hroute⟩
      rw [hsame] at hfound
      rw [enlists_reindexRoute hrecord]
      by_cases hother : policy = other
      · subst hother
        rw [hrecord] at hfound
        cases hfound
        exact .inl ⟨hroute, rfl⟩
      · exact .inr ((hs hother).route route ⟨found, hfound, hroute⟩)
    · rintro set ⟨found, hfound, hset⟩
      rw [hsame] at hfound
      rw [enlists_reindexSet hrecord]
      by_cases hother : policy = other
      · subst hother
        rw [hrecord] at hfound
        cases hfound
        exact .inl ⟨hset, rfl⟩
      · exact .inr ((hs hother).set set ⟨found, hfound, hset⟩)

/-- So are its paths, when each finds room, and its sources. -/
theorem reindexPolicy_pathsOf (hs : policy ≠ other → s.PathsOf other)
    (hroom : policy = other → ∀ record, s.policies[policy]? = some record →
      Vacant (limits.maxPoliciesPerPath * 16).toNat policy s.policiesByPath record.candidates) :
    (s.reindexPolicy limits policy).PathsOf other := by
  have houtline := s.reindexPolicy_outline limits policy other
  have hevidence := s.reindexPolicy_evidence limits policy
  cases hrecord : s.policies[policy]? with
  | none =>
    have hnone : s.reindexPolicy limits policy = s := by
      unfold reindexPolicy
      rw [hrecord]
    rw [hnone]
    by_cases hother : policy = other
    · subst hother
      refine ⟨?_, ?_⟩
      · rintro path ⟨found, hfound, -⟩
        rw [hrecord] at hfound
        cases hfound
      · rintro source ⟨key, -, -, found, hfound, -⟩
        rw [hrecord] at hfound
        cases hfound
    · exact hs hother
  | some record =>
    refine ⟨fun path hbinds => ?_, fun source hhears => ?_⟩
    · rw [binds_congr houtline] at hbinds
      rw [reindexPolicy_of hrecord]
      by_cases hother : policy = other
      · subst hother
        rw [binds_of hrecord] at hbinds
        obtain ⟨c, hc, rfl⟩ := List.mem_map.1 hbinds
        exact indexPaths_lists (hroom rfl record hrecord) c hc
      · exact indexPaths_keeps _ ((hs hother).path path hbinds)
    · rw [hearsFrom_congr hevidence houtline] at hhears
      rw [enlists_reindexSource hrecord]
      by_cases hother : policy = other
      · subst hother
        exact .inl ⟨rfl, (hearsFrom_of hrecord source).1 hhears⟩
      · exact .inr ((hs hother).source source hhears)

end

end State

end AdaptiveRouting
