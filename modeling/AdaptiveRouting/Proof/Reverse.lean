import AdaptiveRouting.Proof.Indexing

/-!
# What the operations do to the indexes

An update takes its policy out of the indexes (`enlists_unindexPath` and its siblings) and indexes it
again, a declaration and a creation index it, a publication adds its sources, a recovery starts over.
Each keeps `State.Reported` and lists the route and the set of every policy; the paths and the sources
too, unless the path index is full or the publication goes unindexed.
-/

namespace AdaptiveRouting

open Multimap

/-- The index erases as a multimap does. -/
theorem PolicyIndex.remove_eq {d : IdDomain} (index : PolicyIndex d) (key : StrongId d)
    (policy : AdaptivePolicyId) : index.remove key policy = Multimap.remove index key policy := by
  unfold PolicyIndex.remove Multimap.remove
  cases index[key]? <;> rfl

namespace State

section
variable {s : State} {limits : Limits} {policy other : AdaptivePolicyId} {record : PolicyRecord}

/-! ## Taking a policy out -/

theorem unindexPolicy_of (hrecord : s.policies[policy]? = some record) : s.unindexPolicy policy =
    { s with
      policiesByPath := record.candidates.foldl
        (fun index candidate => Multimap.remove index candidate.binding.path policy) s.policiesByPath
      policiesByRoute := Multimap.remove s.policiesByRoute record.policy.semantics.target.route policy
      policiesBySet := record.policy.semantics.target.multipathSet.elim s.policiesBySet fun set =>
        Multimap.remove s.policiesBySet set policy
      policiesBySource := (s.evidenceSources record).foldl
        (fun index source => Multimap.remove index source policy) s.policiesBySource } := by
  unfold unindexPolicy
  simp only [hrecord, PolicyIndex.remove_eq]
  cases record.policy.semantics.target.multipathSet <;> rfl

theorem unindexPolicy_none (hrecord : s.policies[policy]? = none) : s.unindexPolicy policy = s := by
  unfold unindexPolicy
  rw [hrecord]

theorem enlists_unindexPath (hs : s.Reported) {path : PathId} :
    Enlists (s.unindexPolicy policy).policiesByPath path other ↔
      Enlists s.policiesByPath path other ∧ policy ≠ other := by
  cases hrecord : s.policies[policy]? with
  | none =>
    rw [unindexPolicy_none hrecord]
    refine ⟨fun h => ⟨h, ?_⟩, fun h => h.1⟩
    rintro rfl
    obtain ⟨record, hfound, -⟩ := hs.path path policy h
    rw [hrecord] at hfound
    cases hfound
  | some record =>
    rw [unindexPolicy_of hrecord, enlists_foldl_remove fun c : CandidateRecord => c.binding.path]
    refine and_congr_right fun h => not_congr (and_iff_left_of_imp ?_)
    rintro rfl
    have hbinds := hs.path path policy h
    rw [binds_of hrecord] at hbinds
    exact List.mem_map.1 hbinds

theorem enlists_unindexRoute (hs : s.Reported) {route : RouteId} :
    Enlists (s.unindexPolicy policy).policiesByRoute route other ↔
      Enlists s.policiesByRoute route other ∧ policy ≠ other := by
  cases hrecord : s.policies[policy]? with
  | none =>
    rw [unindexPolicy_none hrecord]
    refine ⟨fun h => ⟨h, ?_⟩, fun h => h.1⟩
    rintro rfl
    obtain ⟨record, hfound, -⟩ := hs.route route policy h
    rw [hrecord] at hfound
    cases hfound
  | some record =>
    rw [unindexPolicy_of hrecord, enlists_remove]
    refine and_congr_right fun h => not_congr (and_iff_right_of_imp ?_)
    rintro rfl
    obtain ⟨found, hfound, hroute⟩ := hs.route route policy h
    rw [hrecord] at hfound
    cases hfound
    exact hroute

theorem enlists_unindexSet (hs : s.Reported) {set : MultipathSetId} :
    Enlists (s.unindexPolicy policy).policiesBySet set other ↔
      Enlists s.policiesBySet set other ∧ policy ≠ other := by
  have htargets (h : Enlists s.policiesBySet set policy) : s.TargetsSet policy set := hs.set set policy h
  cases hrecord : s.policies[policy]? with
  | none =>
    rw [unindexPolicy_none hrecord]
    refine ⟨fun h => ⟨h, ?_⟩, fun h => h.1⟩
    rintro rfl
    obtain ⟨record, hfound, -⟩ := htargets h
    rw [hrecord] at hfound
    cases hfound
  | some record =>
    have hset (h : Enlists s.policiesBySet set policy) :
        record.policy.semantics.target.multipathSet = some set := by
      obtain ⟨found, hfound, hset⟩ := htargets h
      rw [hrecord] at hfound
      cases hfound
      exact hset
    rw [unindexPolicy_of hrecord]
    dsimp only
    cases htarget : record.policy.semantics.target.multipathSet with
    | none =>
      refine ⟨fun h => ⟨h, ?_⟩, fun h => h.1⟩
      rintro rfl
      rw [htarget] at hset
      cases hset h
    | some found =>
      rw [Option.elim_some, enlists_remove]
      refine and_congr_right fun h => not_congr (and_iff_right_of_imp ?_)
      rintro rfl
      rw [htarget] at hset
      exact Option.some.inj (hset h)

theorem enlists_unindexSource (hs : s.Reported) {source : EvidenceSourceId} :
    Enlists (s.unindexPolicy policy).policiesBySource source other ↔
      Enlists s.policiesBySource source other ∧ policy ≠ other := by
  cases hrecord : s.policies[policy]? with
  | none =>
    rw [unindexPolicy_none hrecord]
    refine ⟨fun h => ⟨h, ?_⟩, fun h => h.1⟩
    rintro rfl
    obtain ⟨key, -, -, record, hfound, -⟩ := hs.source source policy h
    rw [hrecord] at hfound
    cases hfound
  | some record =>
    rw [unindexPolicy_of hrecord, enlists_foldl_remove fun source => source]
    refine and_congr_right fun h => not_congr (and_iff_left_of_imp ?_)
    rintro rfl
    have hhears := hs.source source policy h
    rw [hearsFrom_of hrecord] at hhears
    exact ⟨source, hhears, rfl⟩

theorem unindexPolicy_tidy (hs : s.Reported) (policy : AdaptivePolicyId) :
    Tidy (s.unindexPolicy policy).policiesByPath ∧
    Tidy (s.unindexPolicy policy).policiesByRoute ∧ Tidy (s.unindexPolicy policy).policiesBySet ∧
    Tidy (s.unindexPolicy policy).policiesBySource := by
  cases hrecord : s.policies[policy]? with
  | none =>
    rw [unindexPolicy_none hrecord]
    exact ⟨hs.tidyPath, hs.tidyRoute, hs.tidySet, hs.tidySource⟩
  | some record =>
    rw [unindexPolicy_of hrecord]
    refine ⟨?_, hs.tidyRoute.remove, ?_, ?_⟩
    · exact hs.tidyPath.foldl (fun index (c : CandidateRecord) => remove index c.binding.path policy)
        (fun _ _ h => h.remove) _
    · cases record.policy.semantics.target.multipathSet with
      | none => exact hs.tidySet
      | some set => exact hs.tidySet.remove
    · exact hs.tidySource.foldl (fun index source => remove index source policy)
        (fun _ _ h => h.remove) _

/-! ## Writing a record -/

/-- A policy taken out of the indexes with another record: nothing of it is listed, and the other
policies are as before. -/
def withdrawn (s : State) (policy : AdaptivePolicyId) (record : PolicyRecord) : State :=
  { s.unindexPolicy policy with
    policies := (s.unindexPolicy policy).policies.insert policy record }

theorem withdrawn_outline (s : State) (record : PolicyRecord) (hne : policy ≠ other) :
    (s.withdrawn policy record).outline other = s.outline other := by
  have hpolicies := s.unindexPolicy_policies policy
  unfold outline withdrawn
  dsimp only
  rw [get_insert_ne hne, hpolicies]

theorem withdrawn_evidence (s : State) (policy : AdaptivePolicyId) (record : PolicyRecord) :
    (s.withdrawn policy record).evidence = s.evidence :=
  evidence_of_gauges (s.unindexPolicy_gauges policy)

theorem withdrawn_listed (hs : s.Reported) (record : PolicyRecord) :
    (s.withdrawn policy record).Reported := by
  obtain ⟨hpath, hroute, hset, hsource⟩ := unindexPolicy_tidy hs policy
  have hevidence := s.withdrawn_evidence policy record
  refine ⟨hpath, hroute, hset, hsource, fun path other h => ?_, fun route other h => ?_,
    fun set other h => ?_, fun source other h => ?_⟩
  · obtain ⟨h, hne⟩ := (enlists_unindexPath hs).1 h
    exact (binds_congr (s.withdrawn_outline record hne) path).2 (hs.path path other h)
  · obtain ⟨h, hne⟩ := (enlists_unindexRoute hs).1 h
    have htargets := hs.route route other h
    rwa [targetsRoute_iff, ← s.withdrawn_outline record hne, ← targetsRoute_iff] at htargets
  · obtain ⟨h, hne⟩ := (enlists_unindexSet hs).1 h
    have htargets := hs.set set other h
    rwa [targetsSet_iff, ← s.withdrawn_outline record hne, ← targetsSet_iff] at htargets
  · obtain ⟨h, hne⟩ := (enlists_unindexSource hs).1 h
    exact (hearsFrom_congr hevidence (s.withdrawn_outline record hne) source).2
      (hs.source source other h)

theorem withdrawn_routesOf (hl : s.Reported) (hs : s.RoutesOf other) (record : PolicyRecord)
    (hne : policy ≠ other) : (s.withdrawn policy record).RoutesOf other where
  route := fun route htargets => by
    rw [targetsRoute_iff, s.withdrawn_outline record hne, ← targetsRoute_iff] at htargets
    exact (enlists_unindexRoute hl).2 ⟨hs.route route htargets, hne⟩
  set := fun set htargets => by
    rw [targetsSet_iff, s.withdrawn_outline record hne, ← targetsSet_iff] at htargets
    exact (enlists_unindexSet hl).2 ⟨hs.set set htargets, hne⟩

theorem withdrawn_pathsOf (hl : s.Reported) (hs : s.PathsOf other) (record : PolicyRecord)
    (hne : policy ≠ other) : (s.withdrawn policy record).PathsOf other where
  path := fun path hbinds => by
    rw [binds_congr (s.withdrawn_outline record hne)] at hbinds
    exact (enlists_unindexPath hl).2 ⟨hs.path path hbinds, hne⟩
  source := fun source hhears => by
    rw [hearsFrom_congr (s.withdrawn_evidence policy record) (s.withdrawn_outline record hne)] at hhears
    exact (enlists_unindexSource hl).2 ⟨hs.source source hhears, hne⟩

end

end State

/-- How many paths the index takes. -/
def Limits.indexedPaths (limits : Limits) : Nat := (limits.maxPoliciesPerPath * 16).toNat

namespace State

/-! ## An update -/

section
variable {s : State} {limits : Limits} {policy other : AdaptivePolicyId} {record : PolicyRecord}

/-- The paths that other policies bind and earlier candidates are paths of the index. -/
theorem withdrawn_keys (hs : s.Reported) {before : List CandidateRecord} {path : PathId} :
    path ∈ before.foldl (fun index c => PolicyIndex.add index c.binding.path policy)
        (s.unindexPolicy policy).policiesByPath ↔
      (∃ c ∈ before, c.binding.path = path) ∨
        ∃ other, policy ≠ other ∧ Enlists s.policiesByPath path other := by
  have htidy : Tidy (before.foldl (fun index c => PolicyIndex.add index c.binding.path policy)
      (s.unindexPolicy policy).policiesByPath) :=
    (unindexPolicy_tidy hs policy).1.foldl (fun index (c : CandidateRecord) =>
      PolicyIndex.add index c.binding.path policy) (fun _ _ h => h.add) _
  have hlists (other : AdaptivePolicyId) :
      Enlists (before.foldl (fun index c => PolicyIndex.add index c.binding.path policy)
        (s.unindexPolicy policy).policiesByPath) path other ↔
      (policy = other ∧ ∃ c ∈ before, c.binding.path = path) ∨
        (Enlists s.policiesByPath path other ∧ policy ≠ other) := by
    rw [← enlists_unindexPath hs]
    exact enlists_foldl_add (fun c : CandidateRecord => c.binding.path) before
  rw [htidy.mem_iff]
  simp only [hlists]
  constructor
  · rintro ⟨other, ⟨-, hearlier⟩ | ⟨hlisted, hne⟩⟩
    · exact .inl hearlier
    · exact .inr ⟨other, hne, hlisted⟩
  · rintro (hearlier | ⟨other, hne, hlisted⟩)
    · exact ⟨policy, .inl ⟨rfl, hearlier⟩⟩
    · exact ⟨other, .inr ⟨hlisted, hne⟩⟩

/-- An update that keeps the candidates finds room for them when the index has room for one more
path, or when the last candidate's path is its own. -/
theorem withdrawn_vacant (hs : s.Reported) (hpaths : s.PathsOf policy)
    (hrecord : s.policies[policy]? = some record) (ho : record.Ordered)
    (hsize : s.policiesByPath.size ≤ limits.indexedPaths)
    (hroom : s.policiesByPath.size < limits.indexedPaths ∨
      ∀ last other, record.candidates.getLast? = some last → policy ≠ other →
        ¬ s.Binds other last.binding.path) :
    Vacant limits.indexedPaths policy (s.unindexPolicy policy).policiesByPath record.candidates := by
  intro before c after hsplit
  right
  have hbefore : ∀ b ∈ before, b ∈ record.candidates := fun b hb => by simp [hsplit, hb]
  have hmem {candidate : CandidateRecord} (hin : candidate ∈ record.candidates) :
      candidate.binding.path ∈ s.policiesByPath :=
    hs.tidyPath.mem_iff.2
      ⟨policy, hpaths.path _ ((binds_of hrecord _).2 (List.mem_map_of_mem hin))⟩
  have hkeys : ∀ path, path ∈ before.foldl (fun index c => PolicyIndex.add index c.binding.path policy)
      (s.unindexPolicy policy).policiesByPath → path ∈ s.policiesByPath := by
    intro path hpath
    rcases (withdrawn_keys hs).1 hpath with ⟨b, hb, rfl⟩ | ⟨other, -, hlisted⟩
    · exact hmem (hbefore b hb)
    · exact hs.tidyPath.mem_iff.2 ⟨other, hlisted⟩
  rcases hroom with hroom | hown
  · exact Nat.lt_of_le_of_lt (size_le_of_keys hkeys) hroom
  · obtain ⟨last, hlast⟩ : ∃ last, (c :: after).getLast? = some last :=
      ⟨_, List.getLast?_eq_some_getLast (List.cons_ne_nil c after)⟩
    have hlastIn : last ∈ c :: after := List.mem_of_getLast? hlast
    have hlastOf : record.candidates.getLast? = some last := by
      rw [hsplit, List.getLast?_append, hlast, Option.some_or]
    refine Nat.lt_of_lt_of_le (size_lt_of_keys hkeys (hmem (List.mem_of_getLast? hlastOf)) ?_) hsize
    intro hin
    rcases (withdrawn_keys hs).1 hin with ⟨b, hb, hsame⟩ | ⟨other, hne, hlisted⟩
    · have hordered : record.candidates.Pairwise fun a b =>
          compare a.binding.path b.binding.path = .lt := ho
      rw [hsplit] at hordered
      have hless := (List.pairwise_append.1 hordered).2.2 b hb last hlastIn
      rw [hsame] at hless
      have hself : compare last.binding.path last.binding.path = .eq := Std.ReflCmp.compare_self
      rw [hself] at hless
      cases hless
    · exact hown last other hlastOf hne (hs.path _ _ hlisted)

end

/-! ## A policy that gains paths -/

section
variable {s s₁ : State} {limits : Limits} {policy other : AdaptivePolicyId}

/-- Policies come and gain paths; the indexes and the evidence stay. -/
structure Gains (s s₁ : State) : Prop where
  indexes : s₁.indexes = s.indexes
  evidence : s₁.evidence = s.evidence
  outline : ∀ policy o, s.outline policy = some o →
    ∃ paths, s₁.outline policy = some (paths, o.2) ∧ ∀ path ∈ o.1, path ∈ paths

theorem Gains.binds (h : Gains s s₁) {path : PathId} (hbinds : s.Binds policy path) :
    s₁.Binds policy path := by
  obtain ⟨o, ho, hpath⟩ := binds_iff.1 hbinds
  obtain ⟨paths, houtline, hkept⟩ := h.outline policy o ho
  exact binds_iff.2 ⟨_, houtline, hkept path hpath⟩

theorem Gains.listed (h : Gains s s₁) (hs : s.Reported) : s₁.Reported := by
  have hpath : s₁.policiesByPath = s.policiesByPath := congrArg IndexTables.byPath h.indexes
  have hroute : s₁.policiesByRoute = s.policiesByRoute := congrArg IndexTables.byRoute h.indexes
  have hset : s₁.policiesBySet = s.policiesBySet := congrArg IndexTables.bySet h.indexes
  have hsource : s₁.policiesBySource = s.policiesBySource := congrArg IndexTables.bySource h.indexes
  refine ⟨hpath ▸ hs.tidyPath, hroute ▸ hs.tidyRoute, hset ▸ hs.tidySet, hsource ▸ hs.tidySource,
    fun path other hlists => ?_, fun route other hlists => ?_, fun set other hlists => ?_,
    fun source other hlists => ?_⟩
  · exact h.binds (hs.path path other (hpath ▸ hlists))
  · obtain ⟨o, ho, htarget⟩ := targetsRoute_iff.1 (hs.route route other (hroute ▸ hlists))
    obtain ⟨paths, houtline, -⟩ := h.outline other o ho
    exact targetsRoute_iff.2 ⟨_, houtline, htarget⟩
  · obtain ⟨o, ho, htarget⟩ := targetsSet_iff.1 (hs.set set other (hset ▸ hlists))
    obtain ⟨paths, houtline, -⟩ := h.outline other o ho
    exact targetsSet_iff.2 ⟨_, houtline, htarget⟩
  · obtain ⟨key, hkey, hsame, hbinds⟩ := hs.source source other (hsource ▸ hlists)
    exact ⟨key, h.evidence ▸ hkey, hsame, h.binds hbinds⟩

end

/-! ## Notifications -/

section
variable {s s' : State} {limits : Limits} {policy other : AdaptivePolicyId} {record : PolicyRecord}

theorem putRecord_sameScan {record' : PolicyRecord} (hrecord : s.policies[policy]? = some record)
    (hpaths : record'.paths = record.paths) (hpolicy : record'.policy = record.policy) :
    SameScan s (s.putRecord policy record') where
  indexes := rfl
  evidence := rfl
  outline := fun other => by
    unfold outline
    rw [putRecord_policies]
    by_cases hother : policy = other
    · subst hother
      rw [Std.ExtTreeMap.getElem?_insert_self, hrecord, Option.map_some, Option.map_some, hpaths,
        hpolicy]
    · rw [get_insert_ne hother]

theorem applyInvalidation_sameScan (s : State) (path : PathId) :
    SameScan s (s.applyInvalidation path) where
  indexes := by
    obtain ⟨_, _, h⟩ := s.applyInvalidation_eq path
    rw [h]
    rfl
  evidence := congrArg Gauges.evidence (s.applyInvalidation_notified path).evidence
  outline := fun other => by
    unfold outline
    rw [applyInvalidation_get]
    split
    · rw [Option.map_map]
      refine Option.map_congr fun record _ => ?_
      have hpaths : (record.bumped path).paths = record.paths :=
        PolicyRecord.modifyCandidate_paths fun _ _ => rfl
      have hpolicy : (record.bumped path).policy = record.policy :=
        PolicyRecord.policy_of_frame (PolicyRecord.modifyCandidate_frame ..)
      simp [hpaths, hpolicy]
    · rfl

/-- The record with one more candidate. -/
def declaredRecord (record : PolicyRecord) (n : UpstreamNotification) : PolicyRecord :=
  { record with candidates := sortCandidates (record.candidates ++ [{ binding := n.binding }]) }

theorem mem_declaredRecord {n : UpstreamNotification} {c : CandidateRecord} :
    c ∈ (declaredRecord record n).candidates ↔ c ∈ record.candidates ∨ c = { binding := n.binding } := by
  unfold declaredRecord sortCandidates
  dsimp only
  rw [(List.perm_insertionSort _ _).mem_iff]
  simp

theorem declared_gains {n : UpstreamNotification} (hrecord : s.policies[policy]? = some record) :
    Gains s (s.putRecord policy (declaredRecord record n)) where
  indexes := rfl
  evidence := rfl
  outline := fun other o ho => by
    unfold outline at ho ⊢
    rw [putRecord_policies]
    by_cases hother : policy = other
    · subst hother
      rw [hrecord, Option.map_some, Option.some.injEq] at ho
      rw [Std.ExtTreeMap.getElem?_insert_self]
      refine ⟨(declaredRecord record n).paths, by rw [← ho]; rfl, fun path hpath => ?_⟩
      rw [← ho] at hpath
      obtain ⟨c, hc, rfl⟩ := List.mem_map.1 hpath
      exact List.mem_map_of_mem (mem_declaredRecord.2 (.inl hc))
    · rw [get_insert_ne hother, ho]
      exact ⟨o.1, rfl, fun _ h => h⟩

/-- A new candidate finds room when the index takes one more path. -/
theorem declared_vacant {n : UpstreamNotification} (hs : s.Reported) (hpaths : s.PathsOf policy)
    (hrecord : s.policies[policy]? = some record) (ho : (declaredRecord record n).Ordered)
    (hroom : s.policiesByPath.size < limits.indexedPaths) :
    Vacant limits.indexedPaths policy s.policiesByPath (declaredRecord record n).candidates := by
  intro before c after hsplit
  have hlisted {candidate : CandidateRecord} (hin : candidate ∈ record.candidates) :
      Enlists s.policiesByPath candidate.binding.path policy :=
    hpaths.path _ ((binds_of hrecord _).2 (List.mem_map_of_mem hin))
  rcases mem_declaredRecord.1 (by rw [hsplit]; simp : c ∈ (declaredRecord record n).candidates) with
    hold | hfresh
  · exact .inl (hlisted hold)
  · refine .inr (Nat.lt_of_le_of_lt (size_le_of_keys fun path hpath => ?_) hroom)
    have htidy : Tidy (before.foldl (fun index c => PolicyIndex.add index c.binding.path policy)
        s.policiesByPath) :=
      hs.tidyPath.foldl (fun index (c : CandidateRecord) =>
        PolicyIndex.add index c.binding.path policy) (fun _ _ h => h.add) _
    obtain ⟨q, hq⟩ := htidy.mem_iff.1 hpath
    have hadded := (enlists_foldl_add (fun c : CandidateRecord => c.binding.path) before).1 hq
    rcases hadded with ⟨rfl, b, hb, rfl⟩ | hq
    · rcases mem_declaredRecord.1 (by rw [hsplit]; simp [hb] : b ∈ (declaredRecord record n).candidates)
        with hold | hagain
      · exact hs.tidyPath.mem_iff.2 ⟨policy, hlisted hold⟩
      · have hordered : (declaredRecord record n).candidates.Pairwise fun a b =>
            compare a.binding.path b.binding.path = .lt := ho
        rw [hsplit] at hordered
        have hless := (List.pairwise_append.1 hordered).2.2 b hb c List.mem_cons_self
        have hself : compare c.binding.path c.binding.path = .eq := Std.ReflCmp.compare_self
        rw [hagain, ← hfresh, hself] at hless
        cases hless
    · exact hs.tidyPath.mem_iff.2 ⟨q, hq⟩

/-- A notification whose candidate is not declared declares it. -/
def Declares (n : UpstreamNotification) (record : PolicyRecord) : Prop :=
  n.event = .declareCandidate ∧ record.findCandidate n.binding.path = none

/-- What an accepted notification does to a scan: nothing, unless it declares a candidate. -/
theorem Applies.scan {n : UpstreamNotification} (h : Applies limits s record n s')
    (hrecord : s.policies[n.policy]? = some record) :
    SameScan s s' ∨ Declares n record ∧
      s' = (s.putRecord n.policy (declaredRecord record n)).reindexPolicy limits n.policy := by
  have hedited : SameScan s (s.editBinding n.policy record n.binding.path n.edit) :=
    putRecord_sameScan hrecord (PolicyRecord.modifyCandidate_paths fun c hc =>
      n.edit_path (PolicyRecord.findCandidate_path hc))
      (PolicyRecord.policy_of_frame (PolicyRecord.modifyCandidate_frame ..))
  cases h with
  | declared event fresh => exact .inr ⟨⟨event, fresh⟩, rfl⟩
  | edited => exact .inl hedited
  | invalidated => exact .inl (hedited.trans (applyInvalidation_sameScan _ _))

end

/-! ## A creation -/

section
variable {s : State} {limits : Limits} {other : AdaptivePolicyId} {record : PolicyRecord}
  {names : Std.ExtTreeMap AdaptivePolicyName AdaptivePolicyId}

/-- The state with a new record, before it is indexed. -/
def inserted (s : State) (record : PolicyRecord)
    (names : Std.ExtTreeMap AdaptivePolicyName AdaptivePolicyId) : State :=
  { s with policies := s.policies.insertIfNew record.policy.id record, policyNames := names }

theorem inserted_outline (h : s.outline other ≠ none ∨ record.policy.id ≠ other) :
    (s.inserted record names).outline other = s.outline other := by
  unfold outline inserted at *
  dsimp only
  rw [Std.ExtTreeMap.getElem?_insertIfNew, if_neg]
  rintro ⟨hsame, hfresh⟩
  have hid := Std.LawfulEqCmp.eq_of_compare hsame
  rcases h with h | h
  · subst hid
    apply h
    rw [Std.ExtTreeMap.mem_iff_isSome_getElem?] at hfresh
    rw [Option.not_isSome_iff_eq_none.1 hfresh]
    rfl
  · exact h hid

theorem inserted_gains : Gains s (s.inserted record names) where
  indexes := rfl
  evidence := rfl
  outline := fun policy o ho => by
    refine ⟨o.1, ?_, fun _ h => h⟩
    rw [inserted_outline (.inl (by rw [ho]; simp)), ho]

/-- A new record has no candidate; a record that was there has all of them listed. -/
theorem inserted_vacant (hpaths : s.PathsOf record.policy.id) (hnone : record.candidates = [])
    {found : PolicyRecord} (hfound : (s.inserted record names).policies[record.policy.id]? = some found) :
    Vacant limits.indexedPaths record.policy.id s.policiesByPath found.candidates := by
  intro before c after hsplit
  unfold inserted at hfound
  cases hold : s.policies[record.policy.id]? with
  | none =>
    rw [insertIfNew_get hold] at hfound
    cases hfound
    rw [hnone] at hsplit
    simp at hsplit
  | some old =>
    rw [get_insertIfNew hold, Option.some.injEq] at hfound
    subst hfound
    have hc : c ∈ old.candidates := by simp [hsplit]
    exact .inl (hpaths.path _ ((binds_of hold _).2 (List.mem_map_of_mem hc)))

theorem inserted_routesOf (hs : s.RoutesOf other) (hne : record.policy.id ≠ other) :
    (s.inserted record names).RoutesOf other where
  route := fun route htargets => by
    rw [targetsRoute_iff, inserted_outline (.inr hne), ← targetsRoute_iff] at htargets
    exact hs.route route htargets
  set := fun set htargets => by
    rw [targetsSet_iff, inserted_outline (.inr hne), ← targetsSet_iff] at htargets
    exact hs.set set htargets

theorem inserted_pathsOf (hs : s.PathsOf other) (hne : record.policy.id ≠ other) :
    (s.inserted record names).PathsOf other where
  path := fun path hbinds => hs.path path ((binds_congr (inserted_outline (.inr hne)) path).1 hbinds)
  source := fun source hhears => by
    have houtline : (s.inserted record names).outline other = s.outline other :=
      inserted_outline (.inr hne)
    have hevidence : (s.inserted record names).evidence = s.evidence := rfl
    exact hs.source source ((hearsFrom_congr hevidence houtline source).1 hhears)

end

/-! ## A publication -/

section
variable {s : State} {limits : Limits} {policy : AdaptivePolicyId} {source : EvidenceSourceId}

/-- The evidence has a series for each publication. -/
theorem mem_published (batch : List (Ticks × EvidencePublication)) {key : EvidenceKey} :
    key ∈ (batch.foldl (applyPublication limits) s).evidence ↔
      key ∈ s.evidence ∨ ∃ p ∈ batch.map (·.2), p.key = key := by
  induction batch generalizing s with
  | nil => simp
  | cons accepted rest ih =>
    have hone : key ∈ (applyPublication limits s accepted).evidence ↔
        accepted.2.key = key ∨ key ∈ s.evidence := by
      unfold applyPublication
      dsimp only
      rw [Std.ExtTreeMap.mem_insert, Std.LawfulEqCmp.compare_eq_iff_eq]
    rw [List.foldl_cons, ih, hone]
    simp only [List.map_cons, List.mem_cons, exists_eq_or_imp]
    tauto

theorem hearsFrom_published (batch : List (Ticks × EvidencePublication)) :
    (batch.foldl (applyPublication limits) s).HearsFrom policy source ↔ s.HearsFrom policy source ∨
      ∃ p ∈ batch.map (·.2), p.source = source ∧ s.Binds policy p.path := by
  have hbinds (path : PathId) : (batch.foldl (applyPublication limits) s).Binds policy path ↔
      s.Binds policy path := by
    unfold Binds
    rw [foldl_keeps (f := applyPublication limits) State.policies fun _ _ => rfl]
  unfold HearsFrom
  simp only [mem_published, hbinds]
  constructor
  · rintro ⟨key, hkey | ⟨p, hp, rfl⟩, hsource, hpath⟩
    · exact .inl ⟨key, hkey, hsource, hpath⟩
    · exact .inr ⟨p, hp, hsource, hpath⟩
  · rintro (⟨key, hkey, hsource, hpath⟩ | ⟨p, hp, hsource, hpath⟩)
    · exact ⟨key, .inl hkey, hsource, hpath⟩
    · exact ⟨p.key, .inr ⟨p, hp, rfl⟩, hsource, hpath⟩

theorem enlists_indexSources (publications : List EvidencePublication) :
    Enlists (s.indexSources publications).policiesBySource source policy ↔
      (∃ p ∈ publications, p.source = source ∧ Enlists s.policiesByPath p.path policy) ∨
        Enlists s.policiesBySource source policy := by
  unfold indexSources
  dsimp only
  generalize s.policiesBySource = index
  induction publications generalizing index with
  | nil => simp
  | cons p rest ih =>
    rw [List.foldl_cons, ih]
    simp only [List.mem_cons, exists_eq_or_imp]
    cases hindex : s.policiesByPath[p.path]? with
    | none =>
      have hnone : ¬ Enlists s.policiesByPath p.path policy := by simp [Enlists, hindex]
      simp [hnone]
    | some dependents =>
      have hsome : Enlists s.policiesByPath p.path policy ↔ policy ∈ dependents.toList := by
        simp [Enlists, hindex]
      have hone : Enlists (dependents.toList.foldl
          (fun index policy => PolicyIndex.add index p.source policy) index) source policy ↔
          (p.source = source ∧ policy ∈ dependents.toList) ∨ Enlists index source policy :=
        enlists_foldl_values dependents.toList
      dsimp only
      rw [hone, hsome]
      exact or_left_comm.trans or_assoc.symm

theorem indexSources_tidy (hs : Tidy s.policiesBySource) (publications : List EvidencePublication) :
    Tidy (s.indexSources publications).policiesBySource := by
  unfold indexSources
  dsimp only
  generalize s.policiesBySource = index at hs
  induction publications generalizing index with
  | nil => exact hs
  | cons p rest ih =>
    rw [List.foldl_cons]
    apply ih
    split
    · exact hs
    · exact hs.foldl (fun index policy => PolicyIndex.add index p.source policy) (fun _ _ h => h.add) _

end

end State

end AdaptiveRouting
