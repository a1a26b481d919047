import AdaptiveRouting.Proof.Currentness
import AdaptiveRouting.Proof.Exits

/-!
# Why a candidate is rejected

The conditions of a candidate in the documented order, and the first one it fails
(`EvaluationInputs.firstFailure`). The loop over the evidence requirements goes on after a failure, so
the ranking has the last required metric that is missing in place of the first
(`evaluateCandidate_reports`).
-/

namespace AdaptiveRouting

open Guard

namespace EvaluationInputs

section
variable (inputs : EvaluationInputs)

/-! ## Conditions -/

/-- Why a requirement keeps a path from being a candidate. -/
def requirementFailure (path : PathId) (requirement : EvidenceRequirement) :
    Option SuppressionReason :=
  if requirement.required then refusal (inputs.lookupMetric path requirement) else none

/-- The failures of the requirements, in declaration order. -/
def requirementFailures (path : PathId) : List SuppressionReason :=
  inputs.policy.semantics.evidence.filterMap (inputs.requirementFailure path)

/-- Why a term of the objective has no value. -/
def termFailure (path : PathId) (term : ObjectiveTerm) : Option SuppressionReason :=
  match inputs.policy.semantics.findRequirement term.kind with
  | none => some .noTriggerDeclared
  | some requirement => refusal (inputs.lookupMetric path requirement)

/-- The values of the terms have no score. -/
def unscored (path : PathId) : Bool :=
  match inputs.policy.semantics.objective.mode, inputs.objectiveMetrics path with
  | .weightedScore, .ok metrics =>
    (weightedScore inputs.policy.semantics.objective.terms metrics).isNone
  | _, _ => false

/-- The failed condition of a candidate that is reported when `pick` takes one of the evidence
requirements that failed. -/
def failureBy (pick : List SuppressionReason → Option SuppressionReason) (candidate : CandidateRecord) :
    Option (SuppressionReason × Outcome) :=
  let path := candidate.binding.path
  let semantics := inputs.policy.semantics
  match upstreamRejection semantics.target candidate.binding with
  | some outcome => some (.upstreamDependencyStale, outcome)
  | none =>
    match pick (inputs.requirementFailures path) with
    | some reason => some (reason, reason.outcome)
    | none =>
      match semantics.objective.terms.findSome? (inputs.termFailure path) with
      | some reason => some (reason, reason.outcome)
      | none => if inputs.unscored path then some (.evidenceUnknown, .incompatibleMetric) else none

/-- The first failed condition of a candidate. -/
def firstFailure : CandidateRecord → Option (SuppressionReason × Outcome) :=
  inputs.failureBy List.head?

/-- A rejected candidate has its first failed condition in the ranking. -/
def ReportsFirst (candidate : CandidateRecord) : Prop :=
  (inputs.evaluateCandidate candidate).eligible = false →
    inputs.firstFailure candidate = some ((inputs.evaluateCandidate candidate).rejection,
      (inputs.evaluateCandidate candidate).rejectionOutcome)

end

/-! ## What the ranking has -/

section
variable {inputs : EvaluationInputs} {path : PathId} {candidate : CandidateRecord}

/-- The gate keeps the last requirement that fails. -/
theorem evidenceGate_eq (inputs : EvaluationInputs) (path : PathId) :
    (inputs.evidenceGate path).1 = (inputs.requirementFailures path).getLast? := by
  refine (@foldl_keeps_last _ _ _ _ Prod.fst (inputs.requirementFailure path) (fun gate requirement => ?_)
    (none, 4) _).trans (Option.or_none ..)
  unfold requirementFailure
  cases inputs.lookupMetric path requirement with
  | ok value => rw [refusal_ok, ite_self, Option.none_or]
  | error reason => cases requirement.required <;> rfl

theorem objectiveMetrics_refusal (inputs : EvaluationInputs) (path : PathId) :
    refusal (inputs.objectiveMetrics path) =
      inputs.policy.semantics.objective.terms.findSome? (inputs.termFailure path) := by
  unfold objectiveMetrics
  rw [refusal_mapM]
  congr 1
  funext term
  unfold termFailure
  cases inputs.policy.semantics.findRequirement term.kind with
  | none => rfl
  | some requirement =>
    simp only
    cases hlookup : inputs.lookupMetric path requirement with
    | error reason => simp [hlookup, bind, Except.bind]
    | ok value => simp [hlookup, bind, Except.bind, pure, Except.pure]

/-- What the ranking reports of a candidate: the last evidence requirement it fails, not the first. -/
theorem evaluateCandidate_reports (inputs : EvaluationInputs) (candidate : CandidateRecord) :
    ((inputs.evaluateCandidate candidate).eligible, (inputs.evaluateCandidate candidate).rejection,
      (inputs.evaluateCandidate candidate).rejectionOutcome) =
      match inputs.failureBy List.getLast? candidate with
      | none => (true, .none, .noChange)
      | some (reason, outcome) => (false, reason, outcome) := by
  have hgate := inputs.evidenceGate_eq candidate.binding.path
  have hmetrics := inputs.objectiveMetrics_refusal candidate.binding.path
  unfold evaluateCandidate failureBy unscored
  dsimp only
  cases upstreamRejection inputs.policy.semantics.target candidate.binding with
  | some outcome => rfl
  | none =>
    dsimp only
    rw [← hgate, ← hmetrics]
    rcases inputs.evidenceGate candidate.binding.path with ⟨_ | reason, weakest⟩
    · dsimp only
      cases inputs.objectiveMetrics candidate.binding.path with
      | error reason => rfl
      | ok metrics =>
        dsimp only [refusal_ok]
        cases inputs.policy.semantics.objective.mode with
        | lexicographic => rfl
        | weightedScore =>
          cases hscore : weightedScore inputs.policy.semantics.objective.terms metrics with
          | none => simp [hscore, CandidateEvaluation.reject]
          | some score => simp [hscore]
    · rfl

theorem failureBy_eq_iff (inputs : EvaluationInputs) (candidate : CandidateRecord) :
    inputs.failureBy List.head? candidate = inputs.failureBy List.getLast? candidate ↔
      upstreamRejection inputs.policy.semantics.target candidate.binding ≠ none ∨
        (inputs.requirementFailures candidate.binding.path).getLast? =
          (inputs.requirementFailures candidate.binding.path).head? := by
  unfold failureBy
  dsimp only
  cases upstreamRejection inputs.policy.semantics.target candidate.binding with
  | some outcome => simp
  | none =>
    cases inputs.requirementFailures candidate.binding.path with
    | nil => simp
    | cons first rest =>
      obtain ⟨last, hlast⟩ : ∃ last, (first :: rest).getLast? = some last :=
        ⟨_, List.getLast?_eq_some_getLast (by simp)⟩
      rw [hlast, List.head?_cons]
      simp only [Option.some.injEq, Prod.mk.injEq, ne_eq, not_true_eq_false, false_or]
      exact ⟨fun h => h.1.symm, fun h => by rw [h]; exact ⟨rfl, rfl⟩⟩

/-- A candidate has its first failed condition in the ranking exactly when it is rejected upstream, or
the last required metric it misses is missing for the same reason as the first. -/
theorem reportsFirst_iff (inputs : EvaluationInputs) (candidate : CandidateRecord) :
    inputs.ReportsFirst candidate ↔
      upstreamRejection inputs.policy.semantics.target candidate.binding ≠ none ∨
        (inputs.requirementFailures candidate.binding.path).getLast? =
          (inputs.requirementFailures candidate.binding.path).head? := by
  rw [← failureBy_eq_iff]
  have hreports := inputs.evaluateCandidate_reports candidate
  unfold ReportsFirst firstFailure
  cases hrecorded : inputs.failureBy List.getLast? candidate with
  | none =>
    rw [hrecorded] at hreports
    have heligible : (inputs.evaluateCandidate candidate).eligible = true := congrArg Prod.fst hreports
    have hsame : inputs.failureBy List.head? candidate = inputs.failureBy List.getLast? candidate := by
      refine (inputs.failureBy_eq_iff candidate).2 (.inr ?_)
      unfold failureBy at hrecorded
      dsimp only at hrecorded
      split at hrecorded
      · cases hrecorded
      · split at hrecorded
        · cases hrecorded
        · rename_i hnone
          rw [List.getLast?_eq_none_iff.1 hnone]
          rfl
    rw [hsame, hrecorded, heligible]
    exact ⟨fun _ => rfl, fun _ h => by cases h⟩
  | some failure =>
    rw [hrecorded] at hreports
    obtain ⟨reason, outcome⟩ := failure
    simp only [Prod.mk.injEq] at hreports
    obtain ⟨hineligible, hreason, houtcome⟩ := hreports
    rw [hineligible, hreason, houtcome]
    exact ⟨fun h => h rfl, fun h _ => h⟩

/-- The ranking has every candidate with the first condition it fails, exactly under that
condition. -/
theorem ranking_reports_first_iff (inputs : EvaluationInputs) (dependencies : DependencySnapshot) :
    (inputs.evaluate dependencies).ranking.Perm (inputs.candidates.map inputs.evaluateCandidate) ∧
      ∀ candidate, inputs.ReportsFirst candidate ↔
        upstreamRejection inputs.policy.semantics.target candidate.binding ≠ none ∨
          (inputs.requirementFailures candidate.binding.path).getLast? =
            (inputs.requirementFailures candidate.binding.path).head? := by
  rw [evaluate_ranking]
  exact ⟨List.perm_insertionSort _ _, inputs.reportsFirst_iff⟩

end

end EvaluationInputs

namespace Scenario

/-- The policy needs two samples of the latency first, and one of the packet loss. -/
def lossy : CreatePolicyRequest :=
  { create 1 with semantics := { semantics with
      evidence := [{ ewmaAlphaBps := 0, minSamples := 2, maxAge := 1000 },
        { kind := .packetLoss, ewmaAlphaBps := 0, maxAge := 1000 }] } }

/-- The left path has one sample of its latency. -/
def sparse : List Op :=
  [register, .createPolicy 0 lossy, activate, notify (declare left) "left",
    publish left 100 "left-evidence"]

end Scenario

open Scenario in
/-- The latency of the left path has too few samples, and the ranking says that its loss is not
known. -/
theorem last_failure_reported : Engine.Reachable config (after sparse) ∧
    ∃ record, (after sparse).state.policies[policy]? = some record ∧
      ∃ candidate ∈ record.candidates,
        let inputs := (after sparse).state.copyInputs 2 default record
        inputs.firstFailure candidate = some (.insufficientSamples, .insufficientEvidence) ∧
          (inputs.evaluateCandidate candidate).eligible = false ∧
          (inputs.evaluateCandidate candidate).rejection = .evidenceUnknown ∧
          ¬ inputs.ReportsFirst candidate := by
  obtain ⟨record, hrecord, htest⟩ : ∃ record,
      (after sparse).state.policies[policy]? = some record ∧
        (record.candidates.any fun candidate =>
          let inputs := (after sparse).state.copyInputs 2 default record
          inputs.firstFailure candidate == some (.insufficientSamples, .insufficientEvidence) &&
            !(inputs.evaluateCandidate candidate).eligible &&
            (inputs.evaluateCandidate candidate).rejection == .evidenceUnknown) = true :=
    (Option.any_eq_true _ _).1 (by decide +kernel)
  obtain ⟨candidate, hmem, htest⟩ := List.any_eq_true.1 htest
  simp only [Bool.and_eq_true, beq_iff_eq, Bool.not_eq_true'] at htest
  obtain ⟨⟨hfirst, hineligible⟩, hrecorded⟩ := htest
  refine ⟨reachable_after (by decide +kernel), record, hrecord, candidate, hmem, hfirst, hineligible,
    hrecorded, fun hreports => ?_⟩
  have hsame := hreports hineligible
  rw [hfirst, hrecorded] at hsame
  cases hsame

end AdaptiveRouting
