import AdaptiveRouting.Proof.Adaptation

/-!
# Honest commits

Phase two compares the dependencies, the timing and the target's authority that a ticket states, and
evaluates nothing. A commit is honest when it installs what an evaluation of the state would choose,
and skips the timing gates only in an emergency (`HonestCommit`). A ticket nobody issued need not be
(`forged_ticket_commits`).
-/

namespace AdaptiveRouting

open Guard Engine

/-! ## Refusals of phase two -/

theorem rejection_ne_committed {outcome : Outcome} (h : outcome.isRejection = true) :
    outcome ≠ .decisionCommitted := by
  rintro rfl
  cases h

namespace State

theorem replayCheck_outcome {s : State} {attempt : MutationAttemptId} {fingerprint : Text}
    {answer : OperationResult} (h : s.replayCheck attempt fingerprint = some answer) :
    answer.outcome ≠ .decisionCommitted := by
  unfold replayCheck at h
  split at h
  · cases h
    rw [makeResult_outcome]
    nofun
  · split at h
    · cases h
    · split at h
      · cases h
        rw [makeResult_outcome]
        nofun
      · cases h
        rw [makeResult_outcome]
        nofun

/-- A refusal of phase two reports a commit only when a rejected ticket brings that outcome. -/
theorem commitChecks_refused {s : State} {request : CommitDecisionRequest} {answer : OperationResult}
    (h : s.commitChecks request = .error answer) :
    request.ticket.lifecycle = .rejected ∧ answer.outcome = request.ticket.outcome ∨
      request.ticket.lifecycle ≠ .rejected ∧ answer.outcome ≠ .decisionCommitted := by
  unfold commitChecks at h
  rcases seq_error h with ⟨hrejected, rfl⟩ | ⟨hrejected, h⟩
  · exact .inl ⟨by simpa using hrejected, makeResult_outcome ..⟩
  · refine .inr ⟨by simpa using hrejected, ?_⟩
    have hguard {c : Bool} {outcome : Outcome} {detail : Text} {policy : AdaptivePolicyId}
        (ho : outcome.isRejection = true) :
        Refuses (fun answer => answer.outcome ≠ .decisionCommitted)
          (refuseIf c (s.makeResult outcome detail policy)) :=
      .guard (rejection_ne_committed (makeResult_isRejection ho))
    revert h
    refine Refuses.bind (hguard rfl) (fun _ => ?_) answer
    refine .bind (fun e he => rejection_ne_committed (s.requireCaller_rejecting _ _ _ _ e he))
      fun _ => ?_
    refine .bind (.found (rejection_ne_committed (makeResult_isRejection rfl))) fun record => ?_
    refine .bind (hguard rfl) fun _ => .bind (hguard rfl) fun _ => ?_
    refine .bind (hguard (lifecycleOutcome_isRejection _)) fun _ => .bind (hguard rfl) fun _ => ?_
    refine .bind (hguard rfl) fun _ => .bind (hguard rfl) fun _ => ?_
    refine .bind (.absent fun e he => ?_) fun _ => ?_
    · obtain ⟨drift, hdrift, rfl⟩ := Option.map_eq_some_iff.1 he
      split at hdrift
      · exact rejection_ne_committed
          (makeResult_isRejection (dependencyDrift_isRejection hdrift))
      · cases hdrift
    · exact .bind (.absent fun e he => replayCheck_outcome he) fun _ => .ok _

end State

/-! ## Honesty -/

namespace State

/-- The policy's inputs at a clock reading. -/
def inputsAt (s : State) (now : Ticks) (record : PolicyRecord) : EvaluationInputs :=
  s.copyInputs now default record

/-- What phase one would issue for the policy at a clock reading. -/
def reevaluate (s : State) (now : Ticks) (record : PolicyRecord) : EvaluationTicket :=
  (s.inputsAt now record).evaluate (s.buildDependencies now record default)

end State

/-- A commit that installed, in `s'`, what an evaluation of `s` at the commit's clock chooses, and
skipped the timing gates only in an emergency. Every other outcome is honest. -/
def HonestCommit (s s' : State) (now : Ticks) (ticket : EvaluationTicket) (outcome : Outcome) :
    Prop :=
  outcome = .decisionCommitted → ∃ record record',
    s.policies[ticket.dependencies.policy]? = some record ∧
    s'.policies[ticket.dependencies.policy]? = some record' ∧
    (s.reevaluate now record).lifecycle = .eligible ∧
    record'.preference.established = true ∧
    record'.preference.preferredPath = (s.reevaluate now record).targetPreference ∧
    (ticket.emergency = true → (s.inputsAt now record).emergencyReason.isSome = true)

namespace Scenario

/-- The policy has one candidate and no evidence. -/
def unmeasured : List Op := [register, .createPolicy 0 (create 1), activate, notify (declare left) "left"]

/-- A ticket nobody issued: what phase two compares, and a target. -/
def forged : EvaluationTicket where
  dependencies :=
    { policy, policyGeneration := ⟨1⟩, evidenceGeneration := ⟨1⟩, epoch := ⟨1⟩
      authorityGeneration := ⟨1⟩, candidatePathAuthority := [(binding left).pathAuthority]
      candidatePathWatermarks := [0], candidates := [left] }
  lifecycle := .eligible
  targetPreference := left

def commitForged : Op := .commitEvaluation 4 (phaseTwo forged "forged")

end Scenario

open Scenario in
/-- A forged ticket commits a preference no evaluation of the state proposes. -/
theorem forged_ticket_commits :
    Engine.Reachable config (after unmeasured) ∧
      (∃ result, (after unmeasured).step config commitForged =
        some (after (unmeasured ++ [commitForged]), .result result) ∧
          result.outcome = .decisionCommitted) ∧
      ¬ HonestCommit (after unmeasured).state (after (unmeasured ++ [commitForged])).state 4 forged
        .decisionCommitted := by
  refine ⟨reachable_after (by decide +kernel),
    step_result (by decide +kernel) (by decide +kernel), fun hhonest => ?_⟩
  obtain ⟨record, -, hrecord, -, hl, -⟩ := hhonest rfl
  have hsuppressed : ((after unmeasured).state.policies[forged.dependencies.policy]?).all (fun record =>
      ((after unmeasured).state.reevaluate 4 record).lifecycle == .suppressed) = true := by
    decide +kernel
  rw [hrecord, Option.all_some, hl] at hsuppressed
  cases hsuppressed

end AdaptiveRouting
