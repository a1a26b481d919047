import AdaptiveRouting.Proof.Freshness
import AdaptiveRouting.Proof.HoldDown
import AdaptiveRouting.Proof.Scenario

/-!
# Currentness and eligibility

A snapshot without blockers and an evaluation of the same inputs judge the established preference by
two lists of conditions. A current preference is eligible exactly when it also has what only the
evaluation asks for: membership of the target's set, and evidence for the terms of the objective that
rest on optional requirements (`Underpinned`, `current_is_eligible_iff`). The score of a weighted
objective is never in the way (`weightedScore_isSome`).
-/

namespace AdaptiveRouting

open Guard Engine

/-! ## Scores -/

theorem inI64_of {n : Int} (hlow : 0 ≤ n) (hhigh : n ≤ 100000000000000) : inI64 n = true := by
  unfold inI64
  rw [Bool.and_eq_true, decide_eq_true_eq, decide_eq_true_eq]
  exact ⟨Int.le_trans (by decide) hlow, Int.le_trans hhigh (by decide)⟩

theorem clampBasisPoints_le (result : Int) : (clampBasisPoints result).toNat ≤ 10000 := by
  unfold clampBasisPoints
  split
  · decide
  · split
    · decide
    · rw [Nat.toUInt32, UInt32.toNat_ofNat']
      exact Nat.le_trans (Nat.mod_le ..) (by omega)

/-- The range of a kind is not empty, and far from the limits of the arithmetic. -/
theorem describeMetric_span (kind : MetricKind) :
    0 < (describeMetric kind).maximum - (describeMetric kind).minimum ∧
      (describeMetric kind).maximum - (describeMetric kind).minimum ≤ 4000000000 := by
  cases kind <;> decide

theorem scaledBasisPoints_some {goodness : Int} (h : goodness ≤ 4000000000) (span : Int) :
    ∃ normalized : UInt32, (if goodness ≤ 0 then some 0
      else (multiplyOk goodness 10000).bind fun scaled =>
        some (clampBasisPoints (scaled.tdiv span))) = some normalized ∧
      normalized.toNat ≤ 10000 := by
  by_cases hnone : goodness ≤ 0
  · rw [if_pos hnone]
    exact ⟨0, rfl, by decide⟩
  · have hscaled : multiplyOk goodness 10000 = some (goodness * 10000) :=
      if_pos (inI64_of (by omega) (by omega))
    rw [if_neg hnone, hscaled]
    exact ⟨_, rfl, clampBasisPoints_le _⟩

/-- A value in the range of its kind has a place on the scale. -/
theorem normalizeToBasisPoints_some {value : MetricValue} (h : value.valid = true) :
    ∃ normalized, normalizeToBasisPoints value = some normalized ∧ normalized.toNat ≤ 10000 := by
  have hok := value.ok
  rw [if_pos h] at hok
  simp only [metricDecodable, Bool.and_eq_true, decide_eq_true_eq] at hok
  obtain ⟨⟨-, hminimum⟩, hmaximum⟩ := hok
  obtain ⟨hspan, hbounded⟩ := describeMetric_span value.kind
  unfold normalizeToBasisPoints
  rw [h, Bool.not_true, if_neg (by simp)]
  dsimp only
  rw [if_neg (by omega)]
  cases (describeMetric value.kind).orientation with
  | lowerIsBetter =>
    have hgoodness : (describeMetric value.kind).maximum - value.value ≤ 4000000000 := by omega
    exact scaledBasisPoints_some hgoodness _
  | higherIsBetter =>
    have hgoodness : value.value - (describeMetric value.kind).minimum ≤ 4000000000 := by omega
    exact scaledBasisPoints_some hgoodness _

/-- One term of the sum adds at most the scale squared. -/
theorem weightedTerm_some {numerator : Int} {term : ScoreTerm} {value : MetricValue}
    (hkind : value.kind = term.kind) (hvalid : value.valid = true)
    (hweight : term.weightBps ≤ basisPointsScale) (hlow : 0 ≤ numerator)
    (hhigh : numerator ≤ 1000000000000) :
    ∃ sum, weightedTerm numerator (term, value) = some sum ∧ numerator ≤ sum ∧
      sum ≤ numerator + 100000000 := by
  obtain ⟨normalized, hnormalized, hle⟩ := normalizeToBasisPoints_some hvalid
  have hweight : term.weightBps.toNat ≤ 10000 := UInt32.le_iff_toNat_le.1 hweight
  have hproduct : term.weightBps.toNat * normalized.toNat ≤ 10000 * 10000 :=
    Nat.mul_le_mul hweight hle
  have hcast : (term.weightBps.toNat : Int) * (normalized.toNat : Int) =
      ((term.weightBps.toNat * normalized.toNat : Nat) : Int) := by simp
  have hweighted : multiplyOk term.weightBps.toNat normalized.toNat =
      some ((term.weightBps.toNat * normalized.toNat : Nat) : Int) := by
    rw [← hcast]
    exact if_pos (inI64_of (by omega) (by omega))
  have hadded : addOk numerator (term.weightBps.toNat * normalized.toNat : Nat) =
      some (numerator + (term.weightBps.toNat * normalized.toNat : Nat)) :=
    if_pos (inI64_of (by omega) (by omega))
  refine ⟨numerator + (term.weightBps.toNat * normalized.toNat : Nat), ?_, by omega, by omega⟩
  unfold weightedTerm
  rw [if_neg (by simp [hkind]), hnormalized]
  simp only [Option.bind_eq_bind, Option.bind_some, hweighted, hadded]

theorem weightedSum_some (entries : List (ScoreTerm × MetricValue)) (numerator : Int)
    (hentries : ∀ entry ∈ entries, entry.2.kind = entry.1.kind ∧ entry.2.valid = true ∧
      entry.1.weightBps ≤ basisPointsScale)
    (hlow : 0 ≤ numerator)
    (hhigh : numerator + entries.length * 100000000 ≤ 1000000000000) :
    ∃ sum, entries.foldlM weightedTerm numerator = some sum ∧ 0 ≤ sum := by
  induction entries generalizing numerator with
  | nil => exact ⟨numerator, rfl, hlow⟩
  | cons entry rest ih =>
    obtain ⟨hkind, hvalid, hweight⟩ := hentries entry List.mem_cons_self
    rw [List.length_cons] at hhigh
    obtain ⟨sum, hsum, hgrows, hbound⟩ :=
      weightedTerm_some hkind hvalid hweight hlow (by omega)
    rw [List.foldlM_cons, hsum]
    exact ih sum (fun entry hentry => hentries entry (List.mem_cons_of_mem _ hentry)) (by omega)
      (by omega)

def MetricKind.all : List MetricKind :=
  [.pathUtilization, .linkUtilization, .pathLatency, .queuePressure, .packetLoss, .errorRate,
    .healthDegradation, .congestionScore, .pathQuality, .operatorPolicySignal]

theorem MetricKind.mem_all (kind : MetricKind) : kind ∈ all := by
  cases kind <;> decide

/-- No list without repetitions has more kinds than there are. -/
theorem kinds_length {kinds : List MetricKind} (h : kinds.Nodup) : kinds.length ≤ 10 :=
  (List.subperm_of_subset h fun kind _ => kind.mem_all).length_le

/-- The objective of a valid policy scores any values of its kinds. -/
theorem weightedScore_isSome {objective : ObjectiveSpec} {values : List MetricValue}
    (hvalid : objective.valid = true) (hmode : objective.mode = .weightedScore)
    (hvalues : List.Forall₂ (fun term value => value.kind = term.kind ∧ value.valid = true)
      objective.terms values) :
    (weightedScore objective.terms values).isSome = true := by
  unfold ObjectiveSpec.valid at hvalid
  simp only [hmode, Bool.and_eq_true, Bool.not_eq_true', List.all_eq_true] at hvalid
  obtain ⟨⟨⟨⟨hterms, -⟩, hweights⟩, hdistinct⟩, -⟩ := hvalid
  have hlength := hvalues.length_eq
  have hkinds : (objective.terms.map (·.kind)).Nodup := by simpa [hasDuplicates] using hdistinct
  have hfew := kinds_length hkinds
  rw [List.length_map] at hfew
  obtain ⟨sum, hsum, hnonneg⟩ := weightedSum_some (objective.terms.zip values) 0
    (fun entry hentry => by
      obtain ⟨hkind, hvalid⟩ := List.forall₂_iff_zip.1 hvalues |>.2 hentry
      refine ⟨hkind, hvalid, ?_⟩
      have hweight := (hweights entry.1 (List.of_mem_zip hentry).1).2
      simp only [Bool.or_eq_false_iff, decide_eq_false_iff_not, UInt32.not_lt] at hweight
      exact hweight.2)
    (Int.le_refl 0) (by rw [List.length_zip]; omega)
  unfold weightedScore
  rw [if_neg (by simp [hterms, hlength]), hsum]
  simp only [Option.bind_eq_bind, Option.bind_some]
  rw [if_neg (by omega)]
  have hrounded : 0 ≤ (sum + 5000).tdiv 10000 := Int.tdiv_nonneg (by omega) (by decide)
  rw [if_neg (by omega)]
  rfl

/-! ## Eligibility -/

namespace EvaluationInputs

section
variable {inputs : EvaluationInputs} {path : PathId}

/-- The lookups of the requirements decide the gate. -/
theorem evidenceGate_none_iff : (inputs.evidenceGate path).1 = none ↔
    ∀ requirement ∈ inputs.policy.semantics.evidence, requirement.required = true →
      ∃ value, inputs.lookupMetric path requirement = .ok value := by
  refine ⟨fun h => (gate_looksUp _ none 4 h).2, fun h => ?_⟩
  unfold evidenceGate
  refine List.foldlRecOn (motive := fun gate : Option SuppressionReason × Nat => gate.1 = none) _ _ rfl
    fun gate hgate requirement hmem => ?_
  cases hlookup : inputs.lookupMetric path requirement with
  | ok value => exact hgate
  | error reason =>
    have hoptional : requirement.required = false := by
      by_contra hrequired
      obtain ⟨value, hvalue⟩ := h requirement hmem (by simpa using hrequired)
      rw [hlookup] at hvalue
      cases hvalue
    simp [hoptional, hgate]

/-- The terms of the objective have values when their requirements do. -/
theorem objectiveMetrics_ok_iff {metrics : List MetricValue} :
    inputs.objectiveMetrics path = .ok metrics ↔
      List.Forall₂ (fun (term : ObjectiveTerm) value => ∃ requirement quality,
        inputs.policy.semantics.findRequirement term.kind = some requirement ∧
          inputs.lookupMetric path requirement = .ok (value, quality))
        inputs.policy.semantics.objective.terms metrics := by
  unfold objectiveMetrics
  rw [mapM_ok_iff]
  have hterm (term : ObjectiveTerm) (value : MetricValue) : (do
      let requirement ← orRefuse (inputs.policy.semantics.findRequirement term.kind)
        SuppressionReason.noTriggerDeclared
      let found ← inputs.lookupMetric path requirement
      return found.1) = .ok value ↔ ∃ requirement quality,
        inputs.policy.semantics.findRequirement term.kind = some requirement ∧
          inputs.lookupMetric path requirement = .ok (value, quality) := by
    constructor
    · intro h
      obtain ⟨requirement, hfound, h⟩ := bind_ok h
      obtain ⟨⟨found, quality⟩, hlookup, h⟩ := bind_ok h
      cases h
      exact ⟨requirement, quality, orRefuse_ok hfound, hlookup⟩
    · intro h
      obtain ⟨requirement, quality, hfound, hlookup⟩ := h
      rw [bind_of (orRefuse_of hfound), bind_of hlookup]
      rfl
  constructor
  · exact fun h => h.imp fun term value => (hterm term value).1
  · exact fun h => h.imp fun term value => (hterm term value).2

/-- What makes a candidate eligible. -/
theorem evaluateCandidate_eligible_iff {candidate : CandidateRecord} :
    (inputs.evaluateCandidate candidate).eligible = true ↔
      upstreamRejection inputs.policy.semantics.target candidate.binding = none ∧
      (inputs.evidenceGate candidate.binding.path).1 = none ∧
      ∃ metrics, inputs.objectiveMetrics candidate.binding.path = .ok metrics ∧
        (inputs.policy.semantics.objective.mode = .weightedScore →
          (weightedScore inputs.policy.semantics.objective.terms metrics).isSome = true) := by
  unfold evaluateCandidate
  dsimp only
  cases hupstream : upstreamRejection inputs.policy.semantics.target candidate.binding with
  | some outcome => simp [CandidateEvaluation.reject]
  | none =>
    cases hgate : inputs.evidenceGate candidate.binding.path with
    | mk rejection weakest =>
      cases rejection with
      | some reason => simp [CandidateEvaluation.reject]
      | none =>
        cases hmetrics : inputs.objectiveMetrics candidate.binding.path with
        | error reason => simp [CandidateEvaluation.reject]
        | ok metrics =>
          cases hmode : inputs.policy.semantics.objective.mode with
          | lexicographic => simp
          | weightedScore =>
            cases hscore : weightedScore inputs.policy.semantics.objective.terms metrics with
            | none => simp [CandidateEvaluation.reject, hscore]
            | some score => simp [hscore]

/-- The ranking of a ticket is that of its inputs. -/
theorem evaluate_ranking (inputs : EvaluationInputs) (dependencies : DependencySnapshot) :
    (inputs.evaluate dependencies).ranking = inputs.rank := by
  have hcore {ticket issued : EvaluationTicket} (h : issued.core = ticket.core) :
      issued.ranking = ticket.ranking :=
    show issued.core.ranking = ticket.core.ranking from congrArg _ h
  unfold evaluate
  dsimp only
  split
  · rfl
  · rename_i best _
    split
    · rcases inputs.establish_ends best { inputs.blankTicket dependencies with
          emergency := inputs.emergencyReason.isSome } with h | ⟨h, -⟩
      · exact hcore h.core
      · exact hcore h
    · split
      · rfl
      · rcases inputs.adapt_ends best (EvaluationTicket.towards
            { inputs.blankTicket dependencies with
              emergency := inputs.emergencyReason.isSome } best) with h | ⟨h, -⟩
        · exact hcore h.core
        · exact hcore h

end

end EvaluationInputs

/-! ## What a capture resolves -/

namespace State

section
variable {s : State} {record : PolicyRecord}

/-- The chosen series is good enough for the requirement. -/
theorem chooseSeries_quality {path : PathId} {requirement : EvidenceRequirement}
    {series : EvidenceSeries} (h : s.chooseSeries path requirement = some series) :
    requirement.minQuality.rank ≤ series.quality.rank := by
  unfold chooseSeries at h
  revert h
  refine List.foldlRecOn (motive := fun chosen : Option EvidenceSeries => chosen = some series → _)
    _ _ (fun h => by cases h) fun chosen hchosen entry _ h => ?_
  split at h
  · exact hchosen h
  · rename_i husable
    simp only [Bool.or_eq_true, not_or, decide_eq_true_eq, Nat.not_lt] at husable
    split at h
    · cases h
      exact husable.1.2
    · split at h
      · cases h
        exact husable.1.2
      · exact hchosen h

/-- The chosen series is a stored one of the path and the metric, and has samples. -/
theorem chooseSeries_stored {path : PathId} {requirement : EvidenceRequirement}
    {series : EvidenceSeries} (h : s.chooseSeries path requirement = some series) :
    series.samples ≠ [] ∧ ∃ key : EvidenceKey, s.evidence[key]? = some series ∧ key.path = path ∧
      key.kind = requirement.kind := by
  unfold chooseSeries at h
  revert h
  refine List.foldlRecOn (motive := fun chosen : Option EvidenceSeries => chosen = some series → _)
    _ _ (fun h => by cases h) fun chosen hchosen entry hentry h => ?_
  split at h
  · exact hchosen h
  · rename_i husable
    simp only [bne_iff_ne, Bool.or_eq_true, not_or, not_not] at husable
    have hstored : entry.2.samples ≠ [] ∧ ∃ key : EvidenceKey, s.evidence[key]? = some entry.2 ∧
        key.path = path ∧ key.kind = requirement.kind :=
      ⟨by simpa using husable.2, entry.1,
        Std.ExtTreeMap.mem_toList_iff_getElem?_eq_some.1 hentry, husable.1.1⟩
    split at h
    · cases h
      exact hstored
    · split at h
      · cases h
        exact hstored
      · exact hchosen h

theorem aggregateFor_chosen {path : PathId} {requirement : EvidenceRequirement}
    {aggregate : EvidenceAggregate} {series : EvidenceSeries}
    (h : s.aggregateFor path requirement = some (aggregate, series)) :
    s.chooseSeries path requirement = some series ∧ aggregate.value.kind = requirement.kind := by
  obtain ⟨chosen, hchosen, hrest⟩ := Option.bind_eq_some_iff.1 h
  obtain ⟨aggregated, -, hrest⟩ := Option.bind_eq_some_iff.1 hrest
  obtain ⟨value, hvalue, hrest⟩ := Option.bind_eq_some_iff.1 hrest
  obtain ⟨oldest, -, hrest⟩ := Option.bind_eq_some_iff.1 hrest
  obtain ⟨newest, -, hrest⟩ := Option.bind_eq_some_iff.1 hrest
  cases hrest
  refine ⟨hchosen, ?_⟩
  unfold MetricValue.make MetricValue.decode at hvalue
  split at hvalue
  · cases hvalue
    rfl
  · cases hvalue

/-- What a capture has is the aggregate of a candidate for a requirement of the policy. -/
theorem captured_aggregate {now : Ticks} {id : EvidenceSnapshotId} {resolved : ResolvedEvidence}
    (h : resolved ∈ (s.captureEvidence now id record).values) :
    ∃ requirement ∈ record.policy.semantics.evidence, ∃ series,
      s.aggregateFor resolved.path requirement = some (resolved.aggregate, series) ∧
        resolved.kind = requirement.kind ∧ resolved.quality = series.quality ∧
        resolved.source = series.source ∧ resolved.sourceGeneration = series.sourceGeneration := by
  change resolved ∈ (s.resolveEvidence record).insertionSort _ at h
  rw [List.mem_insertionSort] at h
  obtain ⟨candidate, -, hmem⟩ := List.mem_flatMap.1 h
  obtain ⟨requirement, hrequirement, hresolved⟩ := List.mem_filterMap.1 hmem
  obtain ⟨⟨aggregate, series⟩, haggregate, rfl⟩ := Option.map_eq_some_iff.1 hresolved
  exact ⟨requirement, hrequirement, series, haggregate, rfl, rfl, rfl, rfl⟩

/-- What a capture finds for a requirement of the policy was resolved for a requirement of its kind. -/
theorem captured_resolved {now : Ticks} {id : EvidenceSnapshotId} {path : PathId} {kind : MetricKind}
    {resolved : ResolvedEvidence}
    (h : (s.captureEvidence now id record).find path kind = some resolved) :
    ∃ requirement ∈ record.policy.semantics.evidence, requirement.kind = kind ∧
      requirement.minQuality.rank ≤ resolved.quality.rank ∧ resolved.aggregate.value.kind = kind := by
  obtain ⟨hmem, -, rfl⟩ := EvidenceSnapshot.find_mem h
  obtain ⟨requirement, hrequirement, series, haggregate, hkind, hquality, -⟩ := captured_aggregate hmem
  obtain ⟨hchosen, hvalue⟩ := aggregateFor_chosen haggregate
  refine ⟨requirement, hrequirement, hkind.symm, ?_, hvalue.trans hkind.symm⟩
  rw [hquality]
  exact chooseSeries_quality hchosen

/-- There is one requirement of a kind in a valid policy. -/
theorem requirement_unique {semantics : PolicySemantics} (hcheck : semantics.check = .ok ())
    {a b : EvidenceRequirement} (ha : a ∈ semantics.evidence) (hb : b ∈ semantics.evidence)
    (h : a.kind = b.kind) : a = b := by
  unfold PolicySemantics.check at hcheck
  iterate 9 obtain ⟨-, hcheck⟩ := seq_ok hcheck
  obtain ⟨hdistinct, -⟩ := seq_ok hcheck
  have hnodup : (semantics.evidence.map (·.kind)).Nodup := by simpa [hasDuplicates] using hdistinct
  exact List.inj_on_of_nodup_map hnodup ha hb h

/-- The evidence the state has for a requirement of a policy is good enough at a clock reading. -/
def Usable (s : State) (now : Ticks) (record : PolicyRecord) (path : PathId)
    (requirement : EvidenceRequirement) : Prop :=
  ∃ resolved, (s.captureEvidence now default record).find path requirement.kind = some resolved ∧
    resolved.Supports requirement ∧ resolved.aggregate.age now ≤ requirement.maxAge

theorem usable_iff {now : Ticks} (id : EvidenceSnapshotId) {path : PathId}
    {requirement : EvidenceRequirement} : s.Usable now record path requirement ↔
    ∃ value, (s.copyInputs now id record).lookupMetric path requirement = .ok value := by
  rw [EvaluationInputs.lookupMetric_ok_iff]
  have hfind := @State.captureEvidence_find s s record record (fun _ _ => rfl) rfl rfl now now
    default id path requirement.kind
  unfold Usable
  rw [← hfind]
  rfl

/-- A value looked up in captured evidence is a value of the kind. -/
theorem lookupMetric_value {inputs : EvaluationInputs} {now : Ticks} {id : EvidenceSnapshotId}
    (hevidence : inputs.evidence = s.captureEvidence now id record) {path : PathId}
    {requirement : EvidenceRequirement} {value : MetricValue} {quality : EvidenceQuality}
    (h : inputs.lookupMetric path requirement = .ok (value, quality)) :
    value.kind = requirement.kind ∧ value.valid = true := by
  obtain ⟨resolved, hfound, h⟩ := bind_ok h
  obtain ⟨hvalid, h⟩ := seq_ok h
  obtain ⟨-, h⟩ := seq_ok h
  obtain ⟨-, h⟩ := seq_ok h
  obtain ⟨-, h⟩ := seq_ok h
  obtain ⟨-, h⟩ := seq_ok h
  cases h
  rw [hevidence] at hfound
  obtain ⟨_, -, -, -, hkind⟩ := captured_resolved (orRefuse_ok hfound)
  refine ⟨hkind, ?_⟩
  simp only [EvidenceAggregate.valid, Bool.not_eq_false', Bool.and_eq_true] at hvalid
  exact hvalid.2

end

end State

/-! ## The two judgments -/

theorem exists_forall₂_iff {α β : Type} {R : α → β → Prop} {xs : List α} :
    (∃ ys, List.Forall₂ R xs ys) ↔ ∀ x ∈ xs, ∃ y, R x y := by
  induction xs with
  | nil => simp
  | cons x rest ih =>
    rw [List.forall_mem_cons, ← ih]
    constructor
    · intro h
      obtain ⟨ys, h⟩ := h
      cases h with
      | cons hx hrest => exact ⟨⟨_, hx⟩, _, hrest⟩
    · intro h
      obtain ⟨⟨y, hx⟩, ys, hrest⟩ := h
      exact ⟨y :: ys, .cons hx hrest⟩

section
variable {s : State} {now : Ticks} {record : PolicyRecord}

/-- An evaluation finds a candidate eligible when it is usable upstream and every required requirement
and every term of the objective has its evidence. -/
theorem eligible_iff (hcheck : record.policy.semantics.check = .ok ()) {id : EvidenceSnapshotId}
    {candidate : CandidateRecord} :
    ((s.copyInputs now id record).evaluateCandidate candidate).eligible = true ↔
      upstreamRejection record.policy.semantics.target candidate.binding = none ∧
      (∀ requirement ∈ record.policy.semantics.evidence, requirement.required = true →
        s.Usable now record candidate.binding.path requirement) ∧
      ∀ term ∈ record.policy.semantics.objective.terms, ∀ requirement,
        record.policy.semantics.findRequirement term.kind = some requirement →
        s.Usable now record candidate.binding.path requirement := by
  have hdeclared : ∀ term ∈ record.policy.semantics.objective.terms,
      (record.policy.semantics.findRequirement term.kind).isSome = true := by
    have h := hcheck
    unfold PolicySemantics.check at h
    iterate 20 obtain ⟨-, h⟩ := seq_ok h
    have hterms := refuseIf_ok h
    intro term hterm
    have hfound := List.any_eq_false.1 hterms term hterm
    rwa [Bool.not_eq_true, Option.isNone_eq_false_iff] at hfound
  have hobjective : record.policy.semantics.objective.valid = true := by
    have h := hcheck
    unfold PolicySemantics.check at h
    iterate 14 obtain ⟨-, h⟩ := seq_ok h
    obtain ⟨hvalid, -⟩ := seq_ok h
    simpa using hvalid
  rw [EvaluationInputs.evaluateCandidate_eligible_iff, EvaluationInputs.evidenceGate_none_iff]
  refine and_congr_right fun _ => and_congr ?_ ?_
  · refine forall_congr' fun requirement => forall_congr' fun _ => forall_congr' fun _ => ?_
    exact (State.usable_iff _).symm
  · constructor
    · intro h term hterm requirement hfound
      obtain ⟨metrics, hmetrics, -⟩ := h
      obtain ⟨value, other, quality, hother, hlookup⟩ := exists_forall₂_iff.1
        ⟨metrics, EvaluationInputs.objectiveMetrics_ok_iff.1 hmetrics⟩ term hterm
      cases hfound.symm.trans hother
      exact (State.usable_iff _).2 ⟨_, hlookup⟩
    · intro h
      obtain ⟨metrics, hmetrics⟩ := (exists_forall₂_iff (R := fun (term : ObjectiveTerm) value =>
        ∃ requirement quality, record.policy.semantics.findRequirement term.kind = some requirement ∧
          (s.copyInputs now id record).lookupMetric candidate.binding.path requirement =
            .ok (value, quality))).2 fun term hterm => by
          obtain ⟨requirement, hfound⟩ := Option.isSome_iff_exists.1 (hdeclared term hterm)
          obtain ⟨⟨value, quality⟩, hlookup⟩ := (State.usable_iff _).1 (h term hterm requirement hfound)
          exact ⟨value, requirement, quality, hfound, hlookup⟩
      refine ⟨metrics, EvaluationInputs.objectiveMetrics_ok_iff.2 hmetrics, fun hmode => ?_⟩
      refine weightedScore_isSome hobjective hmode (hmetrics.imp fun term value h => ?_)
      obtain ⟨requirement, quality, hfound, hlookup⟩ := h
      obtain ⟨hkind, hvalid⟩ := State.lookupMetric_value rfl hlookup
      have hterm : (requirement.kind == term.kind) = true := by
        unfold PolicySemantics.findRequirement at hfound
        simpa using List.find?_some hfound
      exact ⟨hkind.trans (beq_iff_eq.1 hterm), hvalid⟩

/-- A note is made or not. -/
theorem mem_noted {c : Prop} [Decidable c] {noted blocker : Currentness}
    (h : blocker ∈ if c then [noted] else []) : blocker = noted := by
  split at h
  · exact List.mem_singleton.1 h
  · cases h

theorem noted_nil {c : Prop} [Decidable c] {noted : Currentness}
    (h : (if c then [noted] else []) = []) : ¬ c := by
  intro hc
  rw [if_pos hc] at h
  cases h

/-- A snapshot never notes that the preference is current as a blocker. -/
theorem snapshotBlockers_ne {inputs : EvaluationInputs} {holdDown cooldown : Ticks} :
    ∀ blocker ∈ s.snapshotBlockers record inputs holdDown cooldown, blocker ≠ .current := by
  intro blocker hblocker
  have hnoted {c : Prop} [Decidable c] {noted : Currentness} (hne : noted ≠ .current)
      (h : blocker ∈ if c then [noted] else []) : blocker ≠ .current := mem_noted h ▸ hne
  unfold State.snapshotBlockers at hblocker
  simp only [List.mem_append] at hblocker
  rcases hblocker with (((((h | h) | h) | h) | h) | h) | h
  · exact hnoted (by decide) h
  · exact hnoted (by decide) h
  · exact hnoted (by decide) h
  · split at h
    · unfold State.preferenceBlockers at h
      split at h
      · rw [List.mem_singleton.1 h]
        decide
      · simp only [List.mem_append] at h
        rcases h with ((h | h) | h) | h
        · exact hnoted (by decide) h
        · exact hnoted (by decide) h
        · exact hnoted (by decide) h
        · exact hnoted (by decide) h
    · cases h
  · split at h
    · obtain ⟨requirement, -, h⟩ := List.mem_filterMap.1 h
      split at h
      · cases h
        decide
      · dsimp only at h
        split at h <;> cases h
        decide
    · cases h
  · exact hnoted (by decide) h
  · exact hnoted (by decide) h

/-- Nothing stands against the binding. -/
theorem preferenceBlockers_nil (h : State.preferenceBlockers record = []) :
    ∃ candidate, record.findCandidate record.preference.preferredPath = some candidate ∧
      candidate.binding.pathAuthority.legal = true ∧ candidate.binding.route.current = true ∧
      candidate.binding.available = true ∧
      (record.policy.semantics.target.multipathSet.isSome = true →
        (candidate.binding.multipath.any fun m => m.current) = true) := by
  unfold State.preferenceBlockers at h
  split at h
  · cases h
  · rename_i candidate hfound
    simp only [List.append_eq_nil_iff] at h
    obtain ⟨⟨⟨hauthority, hroute⟩, hset⟩, havailable⟩ := h
    have hauthority := noted_nil hauthority
    have hroute := noted_nil hroute
    have hset := noted_nil hset
    have havailable := noted_nil havailable
    simp only [Bool.or_eq_true, Bool.not_eq_true', not_or, Bool.not_eq_false]
      at hauthority hroute havailable
    refine ⟨candidate, hfound, hauthority.1, hroute, havailable, fun htarget => ?_⟩
    rw [htarget, Bool.true_and, Bool.not_eq_true', Bool.not_eq_false] at hset
    obtain ⟨m, hm, hcurrent⟩ := (Option.any_eq_true _ _).1 hset
    rw [Bool.and_eq_true] at hcurrent
    exact (Option.any_eq_true _ _).2 ⟨m, hm, hcurrent.1⟩

/-- Nothing stands against the evidence: every required requirement has its evidence. -/
theorem evidenceBlockers_nil (hcheck : record.policy.semantics.check = .ok ())
    {id : EvidenceSnapshotId} (h : State.evidenceBlockers (s.copyInputs now id record) = []) :
    ∀ requirement ∈ record.policy.semantics.evidence, requirement.required = true →
      s.Usable now record record.preference.preferredPath requirement := by
  intro requirement hmem hrequired
  have hnone := List.filterMap_eq_nil_iff.1 h requirement
    (List.mem_filter.2 ⟨hmem, hrequired⟩)
  refine (State.usable_iff id).2 (EvaluationInputs.lookupMetric_ok_iff.2 ?_)
  split at hnone
  · cases hnone
  · rename_i resolved hfound
    dsimp only at hnone
    split at hnone
    · cases hnone
    · rename_i husable
      simp only [Bool.or_eq_true, not_or, Bool.not_eq_true', Bool.not_eq_false, decide_eq_true_eq,
        UInt32.not_lt, UInt64.not_lt] at husable
      obtain ⟨⟨⟨hvalid, hsamples⟩, hage⟩, hwindow⟩ := husable
      obtain ⟨other, hother, hkind, hquality, -⟩ := State.captured_resolved hfound
      cases State.requirement_unique hcheck hother hmem hkind
      exact ⟨resolved, hfound, ⟨hvalid, hquality, hsamples, hwindow⟩, hage⟩

end

/-- What a preference's eligibility rests on that a snapshot does not look at: its set binding is of the
target's set and lists it, and the terms of the objective have evidence where their requirements are
optional. -/
structure State.Underpins (s : State) (now : Ticks) (record : PolicyRecord) : Prop where
  member : ∀ set candidate multipath, record.policy.semantics.target.multipathSet = some set →
    record.findCandidate record.preference.preferredPath = some candidate →
    candidate.binding.multipath = some multipath →
    multipath.set = set ∧ multipath.contains record.preference.preferredPath = true
  terms : ∀ term ∈ record.policy.semantics.objective.terms, ∀ requirement,
    record.policy.semantics.findRequirement term.kind = some requirement →
    requirement.required = false → s.Usable now record record.preference.preferredPath requirement

theorem head_current {blockers : List Currentness} (hne : ∀ blocker ∈ blockers, blocker ≠ .current)
    (h : blockers.head?.getD .current = .current) : blockers = [] := by
  cases blockers with
  | nil => rfl
  | cons blocker rest => exact absurd h (hne blocker List.mem_cons_self)

/-- A snapshot reports CURRENT when it notes nothing. -/
theorem snapshot_current {config : EngineConfig} {e e' : Engine} {now : Ticks}
    {policy : AdaptivePolicyId} {record : PolicyRecord} {view : AdaptationSnapshot}
    (hrecord : e.state.policies[policy]? = some record)
    (h : e.step config (.snapshot now policy) = some (e', .view (some view)))
    (hcurrent : view.currentness = .current) : ∃ id holdDown cooldown,
      e.state.snapshotBlockers record (e.state.copyInputs now id record) holdDown cooldown = [] := by
  obtain ⟨⟨e₁, seen⟩, hsnapshot, he⟩ := Option.map_eq_some_iff.1 h
  cases he
  unfold snapshot at hsnapshot
  rw [hrecord] at hsnapshot
  obtain ⟨⟨id, ids₁⟩, -, hsnapshot⟩ := Option.bind_eq_some_iff.1 hsnapshot
  obtain ⟨⟨evidence, ids₂⟩, -, hsnapshot⟩ := Option.bind_eq_some_iff.1 hsnapshot
  cases hsnapshot
  exact ⟨evidence, _, _, head_current snapshotBlockers_ne hcurrent⟩

/-- In every reachable state, an established preference that a snapshot reports CURRENT is eligible in
the evaluation of the same inputs exactly when the state underpins it. -/
theorem current_is_eligible_iff {config : EngineConfig} {nonce : Text} {e e' : Engine}
    (hrun : RunUnder config (fun _ op => Validated config.limits op) (Engine.start config nonce) e)
    {policy : AdaptivePolicyId} {record : PolicyRecord} {now : Ticks} {view : AdaptationSnapshot}
    (hrecord : e.state.policies[policy]? = some record)
    (hestablished : record.preference.established = true)
    (h : e.step config (.snapshot now policy) = some (e', .view (some view)))
    (hcurrent : view.currentness = .current) (id : EvidenceSnapshotId)
    (dependencies : DependencySnapshot) :
    (∃ ranked ∈ ((e.state.copyInputs now id record).evaluate dependencies).ranking,
      ranked.path = record.preference.preferredPath ∧ ranked.eligible = true) ↔
      e.state.Underpins now record := by
  have hcheck := (sane_run hrun policy record hrecord).semantics
  have hordered : record.Ordered :=
    Ordered.reachable ⟨nonce, hrun.mono fun _ _ _ => trivial⟩ policy record hrecord
  rw [EvaluationInputs.evaluate_ranking]
  obtain ⟨seen, holdDown, cooldown, hblockers⟩ := snapshot_current hrecord h hcurrent
  unfold State.snapshotBlockers at hblockers
  simp only [hestablished, if_true, List.append_eq_nil_iff] at hblockers
  obtain ⟨⟨⟨⟨-, hpreference⟩, hevidence⟩, -⟩, -⟩ := hblockers
  obtain ⟨candidate, hfound, hlegal, hroute, havailable, hset⟩ := preferenceBlockers_nil hpreference
  have hpath := PolicyRecord.findCandidate_path hfound
  constructor
  · intro hranked
    obtain ⟨ranked, hmem, hpreferred, heligible⟩ := hranked
    obtain ⟨other, hother, rfl⟩ := EvaluationInputs.mem_rank _ hmem
    rw [EvaluationInputs.evaluateCandidate_path] at hpreferred
    obtain rfl : other = candidate := Search.eq_of_key_eq hordered hother
      (PolicyRecord.findCandidate_mem hfound) (hpreferred.trans hpath.symm)
    obtain ⟨hupstream, -, hterms⟩ := (eligible_iff hcheck).1 heligible
    refine ⟨fun set current multipath htarget hc hm => ?_, fun term hterm requirement hdeclared _ => ?_⟩
    · rw [hfound] at hc
      cases hc
      unfold upstreamRejection at hupstream
      simp only [hlegal, hroute, havailable, htarget, hm, Bool.not_true, Bool.false_eq_true, if_false,
        Option.any_some] at hupstream
      split at hupstream
      · rename_i hmember
        simp only [Bool.and_eq_true, beq_iff_eq, hpath] at hmember
        exact ⟨hmember.1.2, hmember.2⟩
      · cases hupstream
    · rw [← hpath]
      exact hterms term hterm requirement hdeclared
  · intro hunderpins
    refine ⟨(e.state.copyInputs now id record).evaluateCandidate candidate, ?_, ?_, ?_⟩
    · unfold EvaluationInputs.rank
      rw [List.mem_insertionSort]
      exact List.mem_map_of_mem (PolicyRecord.findCandidate_mem hfound)
    · rw [EvaluationInputs.evaluateCandidate_path, hpath]
    · have hrequired := evidenceBlockers_nil hcheck hevidence
      refine (eligible_iff hcheck).2 ⟨?_, ?_, fun term hterm requirement hdeclared => ?_⟩
      · unfold upstreamRejection
        simp only [hlegal, hroute, havailable, Bool.not_true, Bool.false_eq_true, if_false]
        cases htarget : record.policy.semantics.target.multipathSet with
        | none => rfl
        | some set =>
          obtain ⟨multipath, hm, hcurrent⟩ := (Option.any_eq_true _ _).1 (hset (by simp [htarget]))
          obtain ⟨hsame, hmember⟩ := hunderpins.member set _ multipath htarget hfound hm
          simp [hm, hcurrent, hsame, hpath, hmember]
      · rw [hpath]
        exact hrequired
      · rw [hpath]
        cases hneeded : requirement.required with
        | true =>
          exact hrequired requirement (List.mem_of_find?_eq_some hdeclared) hneeded
        | false => exact hunderpins.terms term hterm requirement hdeclared hneeded

/-! ## A path that left its set -/

/-- A snapshot that reports CURRENT. -/
def Answer.current : Answer → Bool
  | .view (some seen) => seen.currentness == .current
  | _ => false

theorem Answer.current_view {answer : Answer} (h : answer.current = true) :
    ∃ view, answer = .view (some view) ∧ view.currentness = .current := by
  unfold current at h
  split at h
  · exact ⟨_, rfl, by simpa using h⟩
  · cases h

/-- The evaluation at a clock reading finds the preferred path eligible. -/
def PolicyRecord.eligibleAt (r : PolicyRecord) (s : State) (now : Ticks) : Bool :=
  (s.copyInputs now default r).rank.any fun ranked =>
    ranked.path == r.preference.preferredPath && ranked.eligible

theorem eligibleAt_iff {s : State} {now : Ticks} {record : PolicyRecord}
    (dependencies : DependencySnapshot) : record.eligibleAt s now = true ↔
    ∃ ranked ∈ ((s.copyInputs now default record).evaluate dependencies).ranking,
      ranked.path = record.preference.preferredPath ∧ ranked.eligible = true := by
  rw [EvaluationInputs.evaluate_ranking, PolicyRecord.eligibleAt, List.any_eq_true]
  simp only [Bool.and_eq_true, beq_iff_eq]

namespace Scenario

def trunk : MultipathSetId := name "trunk"

def trunkOf (members : List PathId) : MultipathBinding :=
  { set := trunk, generation := ⟨1⟩, members, current := true }

def trunked (members : List PathId) : UpstreamNotification :=
  { policy, binding := { binding left with multipath := some (trunkOf members) } }

/-- The policy prefers the left path of the trunk. -/
def bundled : List Op :=
  [register, .createPolicy 0 { create 1 with
      semantics := { semantics with target := { route, multipathSet := some trunk } } }, activate,
    notify (trunked [left]) "left", publish left 100 "left-evidence",
    .evaluate 2 2 (evaluation "establish")]

/-- The left path leaves the trunk, whose generation stays. -/
def dropLeft : Op := notify { trunked [right] with event := .setMembership } "members"

theorem validated_after {ops : List Op} (h : returns ops = true) (hops : recoverless ops = true) :
    RunUnder config (fun _ op => Validated config.limits op) (Engine.start config "n") (after ops) :=
  Runs.runAll_under (Validated config.limits) (runAll_after h) fun op hmem durable hdurable => by
    rw [Option.isNone_iff_eq_none.1 (List.all_eq_true.1 hops op hmem)] at hdurable
    cases hdurable

/-- A snapshot of the policy that reports CURRENT. -/
theorem snapshot_after {ops : List Op} {now : Ticks}
    (h : returns (ops ++ [.snapshot now policy]) = true)
    (hcurrent : answers ops (.snapshot now policy) Answer.current = true) :
    ∃ view, (after ops).step config (.snapshot now policy) =
      some (after (ops ++ [.snapshot now policy]), .view (some view)) ∧ view.currentness = .current := by
  obtain ⟨answer, hstep⟩ := step_after ops (.snapshot now policy) h
  unfold answers at hcurrent
  rw [hstep] at hcurrent
  obtain ⟨view, rfl, hview⟩ := Answer.current_view hcurrent
  exact ⟨view, hstep, hview⟩

/-- The policy's record with its established preference, and a snapshot that reports it CURRENT. -/
theorem current_after {ops : List Op} {now : Ticks} (eligible : Bool)
    (h : returns (ops ++ [.snapshot now policy]) = true)
    (hcurrent : answers ops (.snapshot now policy) Answer.current = true)
    (hrecord : ((after ops).state.policies[policy]?).any (fun record =>
      record.policy.lifecycle == .active && record.preference.established &&
        record.eligibleAt (after ops).state now == eligible) = true) :
    ∃ e' view record, (after ops).step config (.snapshot now policy) = some (e', .view (some view)) ∧
      view.currentness = .current ∧ (after ops).state.policies[policy]? = some record ∧
      record.policy.lifecycle = .active ∧ record.preference.established = true ∧
      record.eligibleAt (after ops).state now = eligible := by
  obtain ⟨view, hstep, hview⟩ := snapshot_after h hcurrent
  obtain ⟨record, hfound, htest⟩ := (Option.any_eq_true _ _).1 hrecord
  simp only [Bool.and_eq_true, beq_iff_eq] at htest
  exact ⟨_, view, record, hstep, hview, hfound, htest.1.1, htest.1.2, htest.2⟩

end Scenario

open Scenario in
/-- The member of the trunk is current and eligible. -/
theorem current_member_is_underpinned :
    ∃ record, (after bundled).state.policies[policy]? = some record ∧
      (after bundled).state.Underpins 3 record := by
  obtain ⟨_, view, record, hstep, hview, hrecord, -, hestablished, heligible⟩ :=
    @current_after bundled 3 true (by decide +kernel) (by decide +kernel) (by decide +kernel)
  exact ⟨record, hrecord, (current_is_eligible_iff
    (validated_after (by decide +kernel : returns bundled = true) (by decide +kernel)) hrecord
    hestablished hstep hview default ((after bundled).state.buildDependencies 3 record default)).1
    ((eligibleAt_iff _).1 heligible)⟩

open Scenario in
/-- A path that left its set is still reported CURRENT. -/
theorem former_member_is_current :
    Engine.Reachable config (after (bundled ++ [dropLeft])) ∧ ∃ e' view record,
      (after (bundled ++ [dropLeft])).step config (.snapshot 3 policy) =
        some (e', .view (some view)) ∧
      view.currentness = .current ∧
      (after (bundled ++ [dropLeft])).state.policies[policy]? = some record ∧
      record.policy.lifecycle = .active ∧ record.preference.established = true ∧
      ∀ dependencies, ¬ ∃ ranked ∈ (((after (bundled ++ [dropLeft])).state.copyInputs 3 default
        record).evaluate dependencies).ranking,
        ranked.path = record.preference.preferredPath ∧ ranked.eligible = true := by
  obtain ⟨e', view, record, hstep, hview, hrecord, hactive, hestablished, heligible⟩ :=
    @current_after (bundled ++ [dropLeft]) 3 false (by decide +kernel) (by decide +kernel)
      (by decide +kernel)
  refine ⟨reachable_after (by decide +kernel), e', view, record, hstep, hview, hrecord, hactive,
    hestablished, fun dependencies hranked => ?_⟩
  rw [(eligibleAt_iff dependencies).2 hranked] at heligible
  cases heligible

end AdaptiveRouting
