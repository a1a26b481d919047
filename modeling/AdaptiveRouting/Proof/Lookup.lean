import AdaptiveRouting.Proof.Removal

/-!
# Searches and scans

The binary searches of the snapshots and of the candidates find what a scan of the list finds
(`EvidenceSnapshot.find_eq_find?`, `PolicyRecord.findCandidate_eq_find?`). For a snapshot this rests on
`finish`, which sorts the values by the order the search goes by, whatever the order they were added in
(`EvidenceSnapshot.finish_ordered`).
-/

namespace AdaptiveRouting

/-! ## Scans -/

/-- A scan for a key finds an element exactly when the list has it, if no two have the same key. -/
theorem find?_eq_some_of_distinct {α κ : Type} [BEq κ] [LawfulBEq κ] {key : α → κ} {xs : List α}
    (h : (xs.map key).Nodup) {k : κ} {a : α} :
    xs.find? (fun x => key x == k) = some a ↔ a ∈ xs ∧ key a = k := by
  constructor
  · intro hfind
    exact ⟨List.mem_of_find?_eq_some hfind, beq_iff_eq.1 (List.find?_some hfind :)⟩
  · rintro ⟨hmem, rfl⟩
    cases hfind : xs.find? fun x => key x == key a with
    | none => exact absurd (beq_self_eq_true _) (List.find?_eq_none.1 hfind a hmem)
    | some b =>
      have hkey := beq_iff_eq.1 (List.find?_some hfind :)
      rw [List.inj_on_of_nodup_map h (List.mem_of_find?_eq_some hfind) hmem hkey]

/-! ## Snapshots -/

namespace EvidenceSnapshot

section
variable {builder : EvidenceSnapshot} {values : List ResolvedEvidence}

/-- The values that were added, in that order. -/
theorem addValues_values (builder : EvidenceSnapshot) (values : List ResolvedEvidence) :
    (values.foldl addValue builder).values = builder.values ++ values := by
  induction values generalizing builder with
  | nil => exact (List.append_nil _).symm
  | cons value rest ih =>
    rw [List.foldl_cons, ih]
    exact List.append_assoc ..

theorem mem_finish {s : EvidenceSnapshot} {value : ResolvedEvidence} :
    value ∈ s.finish.values ↔ value ∈ s.values :=
  (List.perm_insertionSort _ s.values).mem_iff

theorem finish_ordered {s : EvidenceSnapshot}
    (h : (s.values.map fun value => (value.path, value.kind)).Nodup) : s.finish.Ordered := by
  have horder : Std.TransCmp ResolvedEvidence.order :=
    inferInstanceAs (Std.TransCmp (compareLex _ _))
  exact (ResolvedEvidence.decides h).ranked_pairwise (h.of_map _)

/-- The search of a finished snapshot is a scan of the values that were added. -/
theorem find_eq_find? (hempty : builder.values = [])
    (hdistinct : (values.map fun value => (value.path, value.kind)).Nodup) (path : PathId)
    (kind : MetricKind) : (values.foldl addValue builder).finish.find path kind =
      values.find? fun value => value.path == path && value.kind == kind := by
  have hvalues : (values.foldl addValue builder).values = values := by
    rw [addValues_values, hempty, List.nil_append]
  have hscan : (values.find? fun value => value.path == path && value.kind == kind) =
      values.find? fun value => (value.path, value.kind) == (path, kind) := rfl
  refine Option.ext fun value => ?_
  rw [find_iff (finish_ordered (hvalues.symm ▸ hdistinct)), mem_finish, hvalues, hscan,
    find?_eq_some_of_distinct hdistinct, Prod.mk.injEq]

end

end EvidenceSnapshot

/-! ## Candidates -/

/-- The search of sorted candidates is a scan of them. -/
theorem PolicyRecord.findCandidate_eq_find? {record : PolicyRecord} (h : record.Ordered)
    (path : PathId) : record.findCandidate path =
      record.candidates.find? fun candidate => candidate.binding.path == path := by
  refine Option.ext fun candidate => ?_
  rw [find?_eq_some_of_distinct (Search.keys_nodup h)]
  constructor
  · intro hfind
    exact ⟨findCandidate_mem hfind, findCandidate_path hfind⟩
  · rintro ⟨hmem, rfl⟩
    obtain ⟨index, hindex⟩ := List.mem_iff_getElem?.1 hmem
    unfold findCandidate candidateIdx
    rw [Search.findIdx_of_getElem? h hindex, Option.bind_some, hindex]

/-- Both searches end, and find what a scan does. -/
theorem searches_scan :
    (∀ (builder : EvidenceSnapshot) (values : List ResolvedEvidence), builder.values = [] →
      (values.map fun value => (value.path, value.kind)).Nodup → ∀ path kind,
        let snapshot := (values.foldl EvidenceSnapshot.addValue builder).finish
        (∃ last, Search.Ends (fun element => element.before path kind) snapshot.values 0
          snapshot.values.length last) ∧
        snapshot.find path kind =
          values.find? fun value => value.path == path && value.kind == kind) ∧
    ∀ record : PolicyRecord, record.Ordered → ∀ path,
      (∃ last, Search.Ends (fun candidate => compare candidate.binding.path path == .lt)
        record.candidates 0 record.candidates.length last) ∧
      record.findCandidate path =
        record.candidates.find? fun candidate => candidate.binding.path == path :=
  ⟨fun _ _ hempty hdistinct path kind => ⟨⟨_, Search.lowerBound_ends ..⟩,
    EvidenceSnapshot.find_eq_find? hempty hdistinct path kind⟩,
    fun _ hordered path => ⟨⟨_, Search.lowerBound_ends ..⟩,
      PolicyRecord.findCandidate_eq_find? hordered path⟩⟩

open Scenario in
/-- Two latencies that are added the wrong way round. -/
def twoPaths : List ResolvedEvidence :=
  [{ path := right, kind := .pathLatency, source := name "source", sourceGeneration := ⟨1⟩
     aggregate := { value := default, sampleCount := 2 } },
    { path := left, kind := .pathLatency, source := name "source", sourceGeneration := ⟨1⟩
      aggregate := { value := default, sampleCount := 1 } }]

open Scenario in
def twoCandidates : PolicyRecord where
  policy := { id := policy, name := name "policy", semantics, scope := (create 1).scope }
  candidates := [{ binding := binding left }, { binding := binding right }]

open Scenario in
theorem twoPaths_found :
    let builder : EvidenceSnapshot := { id := default, generation := ⟨1⟩, epoch := ⟨1⟩ }
    ((twoPaths.foldl EvidenceSnapshot.addValue builder).finish.find left .pathLatency).map
      (·.aggregate.sampleCount) = some 1 ∧
    twoCandidates.findCandidate right = some { binding := binding right } := by
  intro builder
  have hdistinct : (twoPaths.map fun value => (value.path, value.kind)).Nodup := by decide
  have hordered : twoCandidates.Ordered := by
    refine .cons (fun candidate hcandidate => ?_) (List.pairwise_singleton ..)
    rw [List.mem_singleton.1 hcandidate]
    decide
  rw [(searches_scan.1 builder twoPaths rfl hdistinct left .pathLatency).2,
    (searches_scan.2 twoCandidates hordered right).2]
  exact ⟨by decide, rfl⟩

end AdaptiveRouting
