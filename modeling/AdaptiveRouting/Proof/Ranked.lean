import AdaptiveRouting.Lib.Ranking
import AdaptiveRouting.Proof.Publication
import AdaptiveRouting.Proof.Unrelated

/-!
# The canonical ranking

The comparator of the ranking reads a mix of keys and stops early on metrics it cannot compare. On the
evaluations of one policy it never does (`Graded`): there it is the strict part of a lexicographic
order of keys (`ranksAhead_eq`), the last of which is the path. So the candidates of distinct paths
have one ranking, whatever the order of the candidates and of the evidence (`rank_canonical`).
-/

namespace AdaptiveRouting

open Guard Engine

/-! ## Keys -/

/-- Less is better. -/
def MetricValue.badness (v : MetricValue) : Int :=
  match v.orientation with
  | .lowerIsBetter => v.value
  | .higherIsBetter => -v.value

/-- What the objective compares. -/
def objectiveKey (semantics : PolicySemantics) (e : CandidateEvaluation) : List Int :=
  match semantics.objective.mode with
  | .weightedScore => [-((e.score.getD 0).toNat : Int)]
  | .lexicographic => e.metrics.map MetricValue.badness

/-- The order of the keys: eligibility, priority, quality, objective, path. -/
def rankOrder (semantics : PolicySemantics) : CandidateEvaluation → CandidateEvaluation → Ordering :=
  compareLex (compareOn fun e => if e.eligible then (0 : Int) else 1) <|
  compareLex (compareOn fun e => -(e.priority.toNat : Int)) <|
  compareLex (compareOn fun e => -(e.quality.rank : Int)) <|
  compareLex (compareOn (objectiveKey semantics)) (compareOn (·.path))

/-- An evaluation as phase one builds it under a lexicographic objective: an eligible candidate has a
valid value for every term, and another one has none. -/
structure CandidateEvaluation.Graded (semantics : PolicySemantics) (e : CandidateEvaluation) :
    Prop where
  measured : semantics.objective.mode = .lexicographic → e.eligible = true →
    List.Forall₂ (fun (term : ObjectiveTerm) (value : MetricValue) =>
      value.kind = term.kind ∧ value.valid = true) semantics.objective.terms e.metrics
  bare : semantics.objective.mode = .lexicographic → e.eligible = false → e.metrics = []

theorem metricIsBetter_eq {a b : MetricValue} (h : a.kind = b.kind) :
    metricIsBetter a b = decide (a.badness < b.badness) := by
  unfold metricIsBetter MetricValue.badness MetricValue.orientation
  rw [h]
  cases (describeMetric b.kind).orientation with
  | lowerIsBetter => rfl
  | higherIsBetter => simp

theorem badness_eq_iff {a b : MetricValue} (h : a.kind = b.kind) :
    a.badness = b.badness ↔ a.value = b.value := by
  unfold MetricValue.badness MetricValue.orientation
  rw [h]
  cases (describeMetric b.kind).orientation with
  | lowerIsBetter => rfl
  | higherIsBetter => exact Int.neg_inj

/-- The metrics of two eligible candidates are compared to the end. -/
theorem lexicographicAhead_eq {terms : List ObjectiveTerm} {as bs : List MetricValue}
    (ha : List.Forall₂ (fun term value => value.kind = term.kind ∧ value.valid = true) terms as)
    (hb : List.Forall₂ (fun term value => value.kind = term.kind ∧ value.valid = true) terms bs)
    (last : Ordering) :
    (lexicographicAhead terms as bs).getD last.isLT =
      ((compare (as.map MetricValue.badness) (bs.map MetricValue.badness)).then last).isLT := by
  induction ha generalizing bs with
  | nil =>
    cases hb
    rfl
  | @cons term a terms as hvalue _ ih =>
    cases hb with
    | @cons _ b _ bs hvalue' hrest =>
      have hkind : a.kind = b.kind := hvalue.1.trans hvalue'.1.symm
      have hlists : compare ((a :: as).map MetricValue.badness) ((b :: bs).map MetricValue.badness) =
          (compare a.badness b.badness).then
            (compare (as.map MetricValue.badness) (bs.map MetricValue.badness)) :=
        List.compareLex_cons_cons
      rw [hlists, Ordering.then_assoc, lexicographicAhead]
      simp only [hvalue.2, hvalue'.2, Bool.not_true, Bool.or_self, Bool.false_eq_true, if_false]
      by_cases heq : a.value = b.value
      · rw [if_neg (by simpa using heq), ih hrest,
          compare_eq_iff_eq.2 ((badness_eq_iff hkind).2 heq)]
        rfl
      · rw [if_pos heq, Option.getD_some, metricIsBetter_eq hkind]
        rcases lt_trichotomy a.badness b.badness with hlt | hsame | hgt
        · rw [compare_lt_iff_lt.2 hlt]
          simpa using hlt
        · exact absurd ((badness_eq_iff hkind).1 hsame) heq
        · rw [compare_gt_iff_gt.2 hgt]
          simpa using Int.le_of_lt hgt

/-- One key of the comparator decides, or the keys behind it do. -/
theorem key_eq {x y : Int} {c : Bool} {rest : Ordering} (hc : x ≠ y → c = decide (x < y))
    (hrest : x = y → c = rest.isLT) : c = ((compare x y).then rest).isLT := by
  rcases lt_trichotomy x y with hlt | heq | hgt
  · rw [hc hlt.ne, compare_lt_iff_lt.2 hlt]
    simpa using hlt
  · rw [hrest heq, compare_eq_iff_eq.2 heq]
    rfl
  · rw [hc hgt.ne', compare_gt_iff_gt.2 hgt]
    simpa using hgt.le

/-- Among the evaluations of a policy the comparator is the order of the keys. -/
theorem ranksAhead_eq {semantics : PolicySemantics} {a b : CandidateEvaluation}
    (ha : a.Graded semantics) (hb : b.Graded semantics) :
    ranksAhead semantics a b = (rankOrder semantics a b).isLT := by
  have hpath : decide (a.path < b.path) = (compare a.path b.path).isLT := by
    show decide (compare a.path b.path = .lt) = _
    cases compare a.path b.path <;> rfl
  unfold ranksAhead
  simp only [rankOrder, compareLex, compareOn]
  refine key_eq (fun hne => ?_) fun heq => ?_
  · have heligible : a.eligible ≠ b.eligible := fun hc => hne (by rw [hc])
    rw [if_pos heligible]
    cases hae : a.eligible <;> cases hbe : b.eligible <;> simp_all
  · have heligible : a.eligible = b.eligible := by
      cases hae : a.eligible <;> cases hbe : b.eligible <;> simp_all
    rw [if_neg (by simpa using heligible)]
    refine key_eq (fun hne => ?_) fun heq => ?_
    · have hpriority : a.priority ≠ b.priority := fun hc => hne (by rw [hc])
      rw [if_pos hpriority]
      refine decide_eq_decide.2 ?_
      show b.priority < a.priority ↔ _
      rw [UInt32.lt_iff_toNat_lt]
      omega
    · have hpriority : a.priority = b.priority := UInt32.toNat_inj.1 (by omega)
      rw [if_neg (by simpa using hpriority)]
      refine key_eq (fun hne => ?_) fun heq => ?_
      · have hquality : a.quality.rank ≠ b.quality.rank := fun hc => hne (by rw [hc])
        rw [if_pos hquality]
        refine decide_eq_decide.2 ?_
        omega
      · have hquality : a.quality.rank = b.quality.rank := by omega
        rw [if_neg (by simpa using hquality)]
        unfold objectiveKey
        cases hmode : semantics.objective.mode with
        | weightedScore =>
          have hlist (x y : Int) : compare [x] [y] = compare x y := by
            have hcons : compare [x] [y] = (compare x y).then (compare ([] : List Int) []) :=
              List.compareLex_cons_cons
            rw [hcons]
            cases compare x y <;> rfl
          dsimp only
          rw [hlist]
          refine key_eq (fun hne => ?_) fun heq => ?_
          · have hscore : a.score.getD 0 ≠ b.score.getD 0 := fun hc => hne (by rw [hc])
            rw [if_pos hscore]
            refine decide_eq_decide.2 ?_
            show b.score.getD 0 < a.score.getD 0 ↔ _
            rw [UInt64.lt_iff_toNat_lt]
            omega
          · have hscore : a.score.getD 0 = b.score.getD 0 := UInt64.toNat_inj.1 (by omega)
            rw [if_neg (by simpa using hscore), hpath]
        | lexicographic =>
          dsimp only
          rw [hpath]
          cases hae : a.eligible with
          | true =>
            exact lexicographicAhead_eq (ha.measured hmode hae)
              (hb.measured hmode (heligible ▸ hae)) _
          | false =>
            rw [ha.bare hmode hae, hb.bare hmode (heligible ▸ hae)]
            cases semantics.objective.terms <;> rfl

/-! ## The evaluations of a policy -/

section
variable {s : State} {record : PolicyRecord} {now : Ticks} {id : EvidenceSnapshotId}

/-- A captured value is a value of the metric it was looked up for. -/
theorem objectiveMetrics_valid {path : PathId} {metrics : List MetricValue}
    (h : (s.copyInputs now id record).objectiveMetrics path = .ok metrics) :
    List.Forall₂ (fun (term : ObjectiveTerm) (value : MetricValue) =>
      value.kind = term.kind ∧ value.valid = true)
      record.policy.semantics.objective.terms metrics := by
  refine (EvaluationInputs.objectiveMetrics_ok_iff.1 h).imp fun term value hvalue => ?_
  obtain ⟨requirement, quality, hfound, hlookup⟩ := hvalue
  obtain ⟨hkind, hvalid⟩ := State.lookupMetric_value rfl hlookup
  have hterm : (requirement.kind == term.kind) = true := by
    unfold PolicySemantics.findRequirement at hfound
    simpa using List.find?_some hfound
  exact ⟨hkind.trans (beq_iff_eq.1 hterm), hvalid⟩

theorem evaluateCandidate_graded (candidate : CandidateRecord) :
    ((s.copyInputs now id record).evaluateCandidate candidate).Graded record.policy.semantics := by
  unfold EvaluationInputs.evaluateCandidate
  dsimp only
  split
  · exact ⟨fun _ h => (by cases h), fun _ _ => rfl⟩
  · split
    · exact ⟨fun _ h => (by cases h), fun _ _ => rfl⟩
    · split
      · exact ⟨fun _ h => (by cases h), fun _ _ => rfl⟩
      · rename_i metrics hmetrics
        split
        · exact ⟨fun _ _ => objectiveMetrics_valid hmetrics, fun _ h => (by cases h)⟩
        · rename_i hmode
          change record.policy.semantics.objective.mode = _ at hmode
          split <;> exact ⟨fun h => (by simp [hmode] at h), fun h => (by simp [hmode] at h)⟩

/-- Candidates of distinct paths have distinct evaluations, told apart by the order of the keys. -/
theorem evaluations_decide (hdistinct : record.paths.Nodup) :
    Ranking.Decides (rankOrder record.policy.semantics) (ranksAhead record.policy.semantics)
        (record.candidates.map (s.copyInputs now id record).evaluateCandidate) ∧
      (record.candidates.map (s.copyInputs now id record).evaluateCandidate).Nodup := by
  have hpaths : (record.candidates.map (s.copyInputs now id record).evaluateCandidate).map (·.path) =
      record.paths := by
    rw [List.map_map]
    exact List.map_congr_left fun candidate _ => EvaluationInputs.evaluateCandidate_path _ candidate
  rw [← hpaths] at hdistinct
  refine ⟨⟨fun a ha b hb => ?_, fun a ha b hb heq => ?_⟩, hdistinct.of_map _⟩
  · obtain ⟨_, -, rfl⟩ := List.mem_map.1 ha
    obtain ⟨_, -, rfl⟩ := List.mem_map.1 hb
    exact ranksAhead_eq (evaluateCandidate_graded _) (evaluateCandidate_graded _)
  · refine List.inj_on_of_nodup_map hdistinct ha hb ?_
    simp only [rankOrder, compareLex_eq_eq, compareOn] at heq
    exact Std.LawfulEqCmp.eq_of_compare heq.2.2.2.2

end

/-! ## The order of the candidates -/

namespace ResolvedEvidence

/-- The order of the values of a snapshot. -/
def order : ResolvedEvidence → ResolvedEvidence → Ordering :=
  compareLex (compareOn (·.path)) (compareOn (·.kind))

theorem before_eq (a b : ResolvedEvidence) : a.before b.path b.kind = (order a b).isLT := by
  have hkind : decide (a.kind.code < b.kind.code) = (compare a.kind b.kind).isLT := by
    show _ = (compare a.kind.code b.kind.code).isLT
    rw [Bool.eq_iff_iff, decide_eq_true_iff, Ordering.isLT_iff_eq_lt, Std.compare_eq_lt]
  have hpath : decide (a.path < b.path) = (compare a.path b.path).isLT := by
    show decide (compare a.path b.path = .lt) = _
    cases compare a.path b.path <;> rfl
  have heq : (a.path == b.path) = (compare a.path b.path).isEq := by
    rw [Bool.eq_iff_iff, beq_iff_eq, Ordering.isEq_iff_eq_eq, Std.LawfulEqCmp.compare_eq_iff_eq]
  unfold before
  simp only [order, compareLex, compareOn]
  rw [hpath, heq, hkind]
  cases compare a.path b.path <;> simp

/-- The order tells values of distinct paths and metrics apart. -/
theorem decides {values : List ResolvedEvidence}
    (h : (values.map fun value => (value.path, value.kind)).Nodup) :
    Ranking.Decides order (fun a b => a.before b.path b.kind) values where
  ahead_eq a _ b _ := a.before_eq b
  separates a ha b hb heq := by
    refine List.inj_on_of_nodup_map h ha hb ?_
    simp only [order, compareLex_eq_eq, compareOn] at heq
    rw [Std.LawfulEqCmp.eq_of_compare heq.1, Std.LawfulEqCmp.eq_of_compare heq.2]

end ResolvedEvidence

namespace State

section
variable {s s' : State} {record record' : PolicyRecord}

/-- A snapshot resolves a metric of a path once. -/
theorem resolveEvidence_distinct (hcheck : record.policy.semantics.check = .ok ())
    (hdistinct : record.paths.Nodup) :
    ((s.resolveEvidence record).map fun value => (value.path, value.kind)).Nodup := by
  refine List.pairwise_map.2 (List.pairwise_flatMap.2 ⟨fun candidate _ => ?_, ?_⟩)
  · have hkinds : (record.policy.semantics.evidence.map (·.kind)).Nodup := by
      unfold PolicySemantics.check at hcheck
      iterate 9 obtain ⟨-, hcheck⟩ := seq_ok hcheck
      obtain ⟨hkinds, -⟩ := seq_ok hcheck
      simpa [hasDuplicates] using hkinds
    refine List.pairwise_filterMap.2 ((List.pairwise_map.1 hkinds).imp fun {a b} hab value hvalue
      value' hvalue' heq => hab ?_)
    obtain ⟨_, -, rfl⟩ := Option.map_eq_some_iff.1 hvalue
    obtain ⟨_, -, rfl⟩ := Option.map_eq_some_iff.1 hvalue'
    exact congrArg Prod.snd heq
  · refine (List.pairwise_map.1 hdistinct).imp fun {a b} hab value hvalue value' hvalue' heq =>
      hab ?_
    obtain ⟨_, -, hvalue⟩ := List.mem_filterMap.1 hvalue
    obtain ⟨_, -, hvalue'⟩ := List.mem_filterMap.1 hvalue'
    obtain ⟨_, -, rfl⟩ := Option.map_eq_some_iff.1 hvalue
    obtain ⟨_, -, rfl⟩ := Option.map_eq_some_iff.1 hvalue'
    exact congrArg Prod.fst heq

/-- So the order tells its values apart. -/
theorem resolveEvidence_decides (hcheck : record.policy.semantics.check = .ok ())
    (hdistinct : record.paths.Nodup) :
    Ranking.Decides ResolvedEvidence.order (fun a b => a.before b.path b.kind)
        (s.resolveEvidence record) ∧ (s.resolveEvidence record).Nodup := by
  have hkeys := s.resolveEvidence_distinct hcheck hdistinct
  exact ⟨ResolvedEvidence.decides hkeys, hkeys.of_map _⟩

/-- So they have one order. -/
theorem values_canonical (hcheck : record.policy.semantics.check = .ok ())
    (hdistinct : record.paths.Nodup) {values : List ResolvedEvidence}
    (hperm : values.Perm (s.resolveEvidence record)) :
    Ranking.ranked (fun a b => a.before b.path b.kind) values =
      Ranking.ranked (fun a b => a.before b.path b.kind) (s.resolveEvidence record) := by
  have horder : Std.TransCmp ResolvedEvidence.order :=
    inferInstanceAs (Std.TransCmp (compareLex _ _))
  obtain ⟨hdecides, hnodup⟩ := s.resolveEvidence_decides hcheck hdistinct
  exact hdecides.ranked_eq hnodup hperm

/-- What a capture finds does not depend on the order of the candidates. -/
theorem captureEvidence_perm (hcheck : record.policy.semantics.check = .ok ())
    (hdistinct : record.paths.Nodup) {candidates : List CandidateRecord}
    (hperm : candidates.Perm record.candidates) (now : Ticks) (id : EvidenceSnapshotId)
    (path : PathId) (kind : MetricKind) :
    (s.captureEvidence now id { record with candidates }).find path kind =
      (s.captureEvidence now id record).find path kind := by
  have hvalues : (s.captureEvidence now id { record with candidates }).values =
      (s.captureEvidence now id record).values :=
    values_canonical hcheck hdistinct (hperm.flatMap_right _)
  unfold EvidenceSnapshot.find
  rw [hvalues]

end

end State

/-! ## The order of the arrivals -/

/-- Batches published one after the other, each at its clock readings; every one is taken. -/
def State.publishAll (limits : Limits) (s : State)
    (calls : List ((Nat → Ticks) × PublishEvidenceRequest)) : Option State :=
  calls.foldlM (fun s call =>
    let after := s.publishEvidence limits call.1 call.2
    if after.2.outcome = .policyUpdated then some after.1 else none) s

/-- The publications of the batches, each with the reading it is accepted at. -/
def arrivals (calls : List ((Nat → Ticks) × PublishEvidenceRequest)) :
    List (Ticks × EvidencePublication) :=
  calls.flatMap fun call => acceptances call.1 call.2.publications

/-- The publications of one series. -/
def arrivalsOf (key : EvidenceKey) (calls : List ((Nat → Ticks) × PublishEvidenceRequest)) :
    List (Ticks × EvidencePublication) :=
  (arrivals calls).filter fun arrival => arrival.2.key = key

namespace State

section
variable {limits : Limits} {s s' : State}

/-- A batch that is taken applies its publications. -/
theorem publishEvidence_taken {clock : Nat → Ticks} {request : PublishEvidenceRequest}
    (h : (s.publishEvidence limits clock request).2.outcome = .policyUpdated) :
    (s.publishEvidence limits clock request).1.evidence =
      ((acceptances clock request.publications).foldl (applyPublication limits) s).evidence := by
  unfold publishEvidence at h ⊢
  cases hchecks : s.publishChecks limits request with
  | error answer =>
    simp only [hchecks] at h
    exact absurd h (s.publishChecks_refuses limits request answer hchecks)
  | ok fingerprint =>
    dsimp only
    split
    · rfl
    · rw [recordAttempt_evidence]
      rfl

theorem publishAll_cons {call : (Nat → Ticks) × PublishEvidenceRequest}
    {rest : List ((Nat → Ticks) × PublishEvidenceRequest)}
    (h : s.publishAll limits (call :: rest) = some s') :
    (s.publishEvidence limits call.1 call.2).2.outcome = .policyUpdated ∧
      (s.publishEvidence limits call.1 call.2).1.publishAll limits rest = some s' := by
  rw [publishAll, List.foldlM_cons] at h
  obtain ⟨s₁, hcall, hrest⟩ := Option.bind_eq_some_iff.1 h
  dsimp only at hcall
  split at hcall
  · rename_i htaken
    cases hcall
    exact ⟨htaken, hrest⟩
  · cases hcall

/-- Each series gets its own publications, in their order. -/
theorem publishAll_get {calls : List ((Nat → Ticks) × PublishEvidenceRequest)}
    (h : s.publishAll limits calls = some s') (key : EvidenceKey) :
    s'.evidence[key]? = (arrivalsOf key calls).foldl
      (fun series arrival => some (EvidenceSeries.append limits arrival.1 arrival.2 series))
      s.evidence[key]? := by
  induction calls generalizing s with
  | nil =>
    cases h
    rfl
  | cons call rest ih =>
    obtain ⟨htaken, hrest⟩ := publishAll_cons h
    rw [ih hrest, publishEvidence_taken htaken, applyPublications_get]
    unfold arrivalsOf arrivals
    rw [List.flatMap_cons, List.filter_append, List.foldl_append]

theorem publishAll_policies {calls : List ((Nat → Ticks) × PublishEvidenceRequest)}
    (h : s.publishAll limits calls = some s') : s'.policies = s.policies := by
  induction calls generalizing s with
  | nil =>
    cases h
    rfl
  | cons call rest ih =>
    rw [ih (publishAll_cons h).2, publishEvidence_policies]

/-- The order in which the publications of distinct series arrive leaves no mark on the evidence. -/
theorem publishAll_evidence {s₁ s₂ : State}
    {calls calls' : List ((Nat → Ticks) × PublishEvidenceRequest)}
    (h₁ : s.publishAll limits calls = some s₁) (h₂ : s.publishAll limits calls' = some s₂)
    (hsame : ∀ key, arrivalsOf key calls' = arrivalsOf key calls) : s₂.evidence = s₁.evidence := by
  refine Std.ExtTreeMap.ext_getElem? fun key => ?_
  rw [publishAll_get h₁, publishAll_get h₂, hsame]

end

end State

/-! ## One ranking -/

section
variable {s : State} {record : PolicyRecord}

/-- The ranking of permuted candidates over the same evidence. -/
theorem rank_perm (hcheck : record.policy.semantics.check = .ok ()) (hdistinct : record.paths.Nodup)
    {s' : State} {candidates : List CandidateRecord} (hperm : candidates.Perm record.candidates)
    (hevidence : s'.evidence = s.evidence) (now : Ticks) (id id' : EvidenceSnapshotId) :
    (s'.copyInputs now id' { record with candidates }).rank = (s.copyInputs now id record).rank := by
  have hfind (path : PathId) (kind : MetricKind) :
      (s'.captureEvidence now id' { record with candidates }).find path kind =
        (s.captureEvidence now id record).find path kind := by
    rw [State.captureEvidence_perm hcheck hdistinct hperm]
    exact State.captureEvidence_find (fun key _ => by rw [hevidence]) rfl rfl now now id id' path kind
  have hlookup : (s'.copyInputs now id' { record with candidates }).lookupMetric =
      (s.copyInputs now id record).lookupMetric :=
    @EvaluationInputs.lookupMetric_congr (s.copyInputs now id record) _ hfind
  have hcaptured : (s'.copyInputs now id' { record with candidates }).evaluateCandidate =
      (s.copyInputs now id record).evaluateCandidate := by
    funext candidate
    unfold EvaluationInputs.evaluateCandidate EvaluationInputs.evidenceGate
      EvaluationInputs.objectiveMetrics
    rw [hlookup]
    rfl
  have htrans : Std.TransCmp (rankOrder record.policy.semantics) :=
    inferInstanceAs (Std.TransCmp (compareLex _ _))
  obtain ⟨hdecides, hnodup⟩ := @evaluations_decide s record now id hdistinct
  show Ranking.ranked _ (candidates.map _) = _
  rw [hcaptured]
  exact hdecides.ranked_eq hnodup (hperm.map _)

/-- The ranking of candidates of distinct paths under a valid policy: a sorted permutation by a strict
total order, the eligible candidates first, which neither the order of the candidates nor that of the
series of the evidence changes, nor the order in which evidence of distinct series arrived. -/
theorem rank_canonical (hcheck : record.policy.semantics.check = .ok ())
    (hdistinct : record.paths.Nodup) (now : Ticks) (id : EvidenceSnapshotId) :
    let inputs := s.copyInputs now id record
    let evaluations := record.candidates.map inputs.evaluateCandidate
    let ahead := ranksAhead record.policy.semantics
    Ranking.StrictlyOrders ahead evaluations ∧
      inputs.rank.Perm evaluations ∧
      inputs.rank.Pairwise (fun a b => ahead a b = true) ∧
      inputs.rank.Pairwise (fun a b => b.eligible = true → a.eligible = true) ∧
      (∀ (candidates : List CandidateRecord) (s' : State) (id' : EvidenceSnapshotId),
        candidates.Perm record.candidates → s'.evidence.toList.Perm s.evidence.toList →
        (s'.copyInputs now id' { record with candidates }).rank = inputs.rank) ∧
      ∀ (limits : Limits) (calls calls' : List ((Nat → Ticks) × PublishEvidenceRequest))
        (s₁ s₂ : State),
        s.publishAll limits calls = some s₁ → s.publishAll limits calls' = some s₂ →
        (∀ key, arrivalsOf key calls' = arrivalsOf key calls) →
        s₂.policies = s₁.policies ∧
          (s₂.copyInputs now id record).rank = (s₁.copyInputs now id record).rank := by
  intro inputs evaluations ahead
  have htrans : Std.TransCmp (rankOrder record.policy.semantics) :=
    inferInstanceAs (Std.TransCmp (compareLex _ _))
  obtain ⟨hdecides, hnodup⟩ := @evaluations_decide s record now id hdistinct
  have hranked := hdecides.ranked_pairwise hnodup
  refine ⟨hdecides.strictlyOrders, List.perm_insertionSort _ _, hranked,
    hranked.imp fun {a b} hab heligible => ?_, fun candidates s' id' hperm hseries => ?_,
    fun limits calls calls' s₁ s₂ h₁ h₂ hsame => ⟨?_, ?_⟩⟩
  · by_contra hne
    unfold ranksAhead at hab
    rw [if_pos (by rw [heligible]; exact hne)] at hab
    exact hne hab
  · exact rank_perm hcheck hdistinct hperm (Std.ExtTreeMap.ext_toList hseries) now id id'
  · rw [State.publishAll_policies h₁, State.publishAll_policies h₂]
  · exact State.copyInputs_rank (fun key _ => by rw [State.publishAll_evidence h₁ h₂ hsame]) now id id

end

open Scenario in
/-- Two candidates, declared in either order. -/
theorem challenged_rank_canonical :
    ∃ record, (after challenged).state.policies[policy]? = some record ∧
      record.candidates.reverse ≠ record.candidates ∧
      ∀ now id, ((after challenged).state.copyInputs now id
        { record with candidates := record.candidates.reverse }).rank =
          ((after challenged).state.copyInputs now id record).rank := by
  obtain ⟨record, hrecord, htest⟩ : ∃ record,
      (after challenged).state.policies[policy]? = some record ∧
        decide (record.policy.semantics = semantics ∧ record.paths.Nodup ∧
          record.candidates.reverse ≠ record.candidates) = true :=
    (Option.any_eq_true _ _).1 (by decide +kernel)
  obtain ⟨hsemantics, hdistinct, hreverse⟩ := of_decide_eq_true htest
  have hcheck : record.policy.semantics.check = .ok () := by
    rw [hsemantics]
    decide +kernel
  exact ⟨record, hrecord, hreverse, fun now id =>
    (rank_canonical hcheck hdistinct now id).2.2.2.2.1 record.candidates.reverse
      (after challenged).state id (List.reverse_perm _) (List.Perm.refl _)⟩

end AdaptiveRouting
