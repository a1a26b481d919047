import AdaptiveRouting.Proof.Caller

/-!
# Effects

What one operation can do to the policy records, said once (`step_policies`): keep them, write the
record of one policy (`Rewrites`, with the checks that let the request pass), add a policy, make
every policy revalidate, apply a batch of notifications, or recover a store. Invariants of the
records are proved by cases on `PolicyChange`.
-/

namespace AdaptiveRouting

open Guard

/-! ## What each entry point does to the state -/

section
variable {limits : Limits} {e e' : Engine} {now : Ticks} {result : OperationResult}

/-- A creation leaves the state alone, records a refused attempt, or adds the policy. -/
theorem createPolicy_state {request : CreatePolicyRequest}
    (h : createPolicy limits e now request = some (e', result)) :
    e'.state = e.state ∨ ∃ fingerprint, e.state.createChecks limits request = .ok fingerprint ∧
      ((∃ outcome detail, e'.state =
          e.state.recordAttempt limits request.context.attempt fingerprint outcome detail) ∨
        ∃ id ids, e.ids.mint .policy = some (id, ids) ∧
          e'.state = (e.state.addPolicy limits (e.state.newRecord now id request)).recordAttempt
            limits request.context.attempt fingerprint .policyCreated "policy created") := by
  unfold createPolicy at h
  dsimp only at h
  split at h
  · cases h
    exact .inl rfl
  · rename_i fingerprint hchecks
    refine .inr ⟨fingerprint, hchecks, ?_⟩
    split at h
    · cases h
      exact .inl ⟨_, _, rfl⟩
    · split at h
      · cases h
        exact .inl ⟨_, _, rfl⟩
      · obtain ⟨⟨id, ids⟩, hmint, h⟩ := Option.bind_eq_some_iff.1 h
        cases h
        exact .inr ⟨id, ids, hmint, rfl⟩

/-- The state an update leaves. -/
theorem updatePolicy_state (limits : Limits) (now : Ticks) (s : State)
    (request : UpdatePolicyRequest) :
    (s.updatePolicy limits now request).1 = s ∨ ∃ record fingerprint generation,
      s.updateChecks limits request = .ok (record, fingerprint, generation) ∧
      (s.updatePolicy limits now request).1.policies =
        s.policies.insert request.policy (s.updatedRecord now request generation record) := by
  unfold State.updatePolicy
  split
  · exact .inl rfl
  · rename_i record fingerprint generation hchecks
    exact .inr ⟨record, fingerprint, generation, hchecks, by simp⟩

/-- The record an accepted update leaves. -/
theorem updatePolicy_get {limits : Limits} {now : Ticks} {s : State} {request : UpdatePolicyRequest}
    {record : PolicyRecord} {fingerprint : Text} {generation : AdaptivePolicyGeneration}
    (h : s.updateChecks limits request = .ok (record, fingerprint, generation)) :
    (s.updatePolicy limits now request).1.policies[request.policy]? =
      some (s.updatedRecord now request generation record) := by
  unfold State.updatePolicy
  simp [h]

theorem transitionPolicy_state (s : State) (request : PolicyLifecycleRequest) :
    (s.transitionPolicy request).1 = s ∨ ∃ record next,
      s.transitionChecks request = .ok (record, next) ∧
      ((request.event = .revalidate ∧ (record.candidates.any (·.usable)) = false ∧
          (s.transitionPolicy request).1 = s.putRecord request.policy
            { record with policy := { record.policy with lifecycle := .revalidationRequired } }) ∨
        (request.event = .revalidate → (record.candidates.any (·.usable)) = true) ∧
          (s.transitionPolicy request).1 = s.putRecord request.policy
            { record with policy := { record.policy with lifecycle := next, epoch := s.epoch } }) := by
  unfold State.transitionPolicy
  split
  · exact .inl rfl
  · rename_i record next hchecks
    refine .inr ⟨record, next, hchecks, ?_⟩
    dsimp only
    split
    · rename_i hheld
      simp only [Bool.and_eq_true, decide_eq_true_eq, Bool.not_eq_true'] at hheld
      exact .inl ⟨hheld.1, hheld.2, rfl⟩
    · rename_i hmoved
      refine .inr ⟨fun hevent => ?_, rfl⟩
      simpa [hevent] using hmoved

theorem revokePolicy_state (limits : Limits) (s : State) (request : RevokePolicyRequest) :
    (s.revokePolicy limits request).1 = s ∨ ∃ record revocation,
      s.revokeChecks limits request = .ok record ∧
      (s.revokePolicy limits request).1.standing = s.standing ∧
      (s.revokePolicy limits request).1.policies = s.policies.insert request.policy { record with
        revocation := some revocation
        policy := { record.policy with lifecycle := .revoked, epoch := s.epoch } } := by
  unfold State.revokePolicy
  split
  · exact .inl rfl
  · rename_i record hchecks
    exact .inr ⟨record, _, hchecks, rfl, rfl⟩

/-- What phase one does: it reads the state, and issues a ticket. -/
theorem beginEvaluation_cases {request : EvaluateRequest} {ticket : EvaluationTicket}
    (h : beginEvaluation limits e now request = some (e', ticket)) :
    e'.state = e.state ∧
      (beginChecks limits e request = .error ticket ∨
        ∃ record evaluation evidence decision, beginChecks limits e request = .ok record ∧
          ticket = { (e.state.copyInputs now evidence record).evaluate
            (e.state.buildDependencies now record evaluation) with decision }) := by
  unfold beginEvaluation at h
  split at h
  · rename_i refused hchecks
    cases h
    exact ⟨rfl, .inl hchecks⟩
  · rename_i record hchecks
    obtain ⟨⟨evaluation, ids₁⟩, -, h⟩ := Option.bind_eq_some_iff.1 h
    obtain ⟨⟨evidence, ids₂⟩, -, h⟩ := Option.bind_eq_some_iff.1 h
    obtain ⟨⟨decision, ids₃⟩, -, h⟩ := Option.bind_eq_some_iff.1 h
    cases h
    exact ⟨rfl, .inr ⟨record, evaluation, evidence, decision, hchecks, rfl⟩⟩

/-- The ticket's target is what the policy already prefers. -/
def alreadyCurrent (record : PolicyRecord) (ticket : EvaluationTicket) : Bool :=
  record.preference.established && record.preference.preferredPath == ticket.targetPreference

/-- What phase two can do, and what it then answers. -/
inductive CommitEffect (limits : Limits) (s : State) (now : Ticks)
    (request : CommitDecisionRequest) : State → Outcome → Prop
  | refused {answer : OperationResult} (checks : s.commitChecks request = .error answer) :
      CommitEffect limits s now request s answer.outcome
  | suppressed {record : PolicyRecord} {id : AdaptationDecisionId} {decision : AdaptationDecision}
      (checks : s.commitChecks request = .ok record)
      (ineligible : request.ticket.lifecycle ≠ .eligible)
      (decides : decision = s.suppressedDecision record request id) :
      CommitEffect limits s now request
        (((s.putRecord request.ticket.dependencies.policy
          (record.remember limits (historyEntry decision now))).journal limits decision).recordAttempt
          limits request.context.attempt (fingerprintCommit request.ticket) request.ticket.outcome
          decision.digest)
        request.ticket.outcome
  | unchanged {record : PolicyRecord} (checks : s.commitChecks request = .ok record)
      (eligible : request.ticket.lifecycle = .eligible)
      (current : alreadyCurrent record request.ticket = true) :
      CommitEffect limits s now request
        (s.recordAttempt limits request.context.attempt (fingerprintCommit request.ticket) .noChange
          "the target preference is already current")
        .noChange
  | unverified {record : PolicyRecord} {outcome : Outcome} {detail : Text}
      (checks : s.commitChecks request = .ok record)
      (eligible : request.ticket.lifecycle = .eligible)
      (other : alreadyCurrent record request.ticket = false)
      (verified : s.verifyCommit limits now record request.ticket = .error (outcome, detail)) :
      CommitEffect limits s now request s outcome
  | committed {record : PolicyRecord} {target : CandidateRecord} {adaptation : AdaptationGeneration}
      {transitionGeneration : TransitionGeneration} {transition : TransitionPlanId}
      {id : AdaptationDecisionId} {preference : RoutingPreference}
      (checks : s.commitChecks request = .ok record)
      (eligible : request.ticket.lifecycle = .eligible)
      (other : alreadyCurrent record request.ticket = false)
      (verified : s.verifyCommit limits now record request.ticket =
        .ok (target, adaptation, transitionGeneration))
      (installs : preference = s.committedPreference now record request.ticket request.context target
        adaptation transitionGeneration transition id) :
      CommitEffect limits s now request
        (((s.putRecord request.ticket.dependencies.policy
          (State.committedRecord limits now record preference
            (s.committedDecision now record request.ticket preference))).journal limits
          (s.committedDecision now record request.ticket preference)).recordAttempt limits
          request.context.attempt (fingerprintCommit request.ticket) .decisionCommitted
          "decision committed")
        .decisionCommitted

theorem commitTicket_cases {request : CommitDecisionRequest}
    (h : commitTicket limits e now request = some (e', result)) :
    CommitEffect limits e.state now request e'.state result.outcome := by
  unfold commitTicket at h
  dsimp only at h
  split at h
  · rename_i answer hchecks
    cases h
    exact .refused hchecks
  · rename_i record hchecks
    split at h
    · rename_i hineligible
      obtain ⟨⟨id, ids⟩, -, h⟩ := Option.bind_eq_some_iff.1 h
      cases h
      rw [State.makeResult_outcome]
      exact .suppressed hchecks hineligible rfl
    · rename_i heligible
      have heligible : request.ticket.lifecycle = .eligible := Decidable.not_not.1 heligible
      split at h
      · rename_i hcurrent
        cases h
        rw [State.makeResult_outcome]
        exact .unchanged hchecks heligible hcurrent
      · rename_i hother
        have hother : alreadyCurrent record request.ticket = false := Bool.eq_false_iff.2 hother
        split at h
        · rename_i outcome detail hverified
          cases h
          rw [State.makeResult_outcome]
          exact .unverified hchecks heligible hother hverified
        · rename_i verified hverified
          obtain ⟨target, adaptation, transitionGeneration⟩ := verified
          unfold installCommit at h
          obtain ⟨⟨transition, ids⟩, -, h⟩ := Option.bind_eq_some_iff.1 h
          obtain ⟨⟨id, ids⟩, -, h⟩ := Option.bind_eq_some_iff.1 h
          cases h
          rw [State.makeResult_outcome]
          exact .committed hchecks heligible hother hverified rfl

theorem commitEvaluation_cases {request : CommitDecisionRequest}
    (h : commitEvaluation limits e now request = some (e', result)) :
    CommitEffect limits e.state now request e'.state result.outcome := by
  obtain ⟨⟨e₁, r₁⟩, h₁, h₂⟩ := Option.map_eq_some_iff.1 h
  cases h₂
  have hstate : e₁.settled.state = e₁.state := by
    unfold Engine.settled
    split <;> rfl
  rw [hstate]
  exact commitTicket_cases h₁

/-- `evaluate` is phase one, then phase two on its ticket unless the commit is deferred or the ticket
was refused. -/
theorem evaluate_phases {begun : Ticks} {request : EvaluateRequest}
    (h : evaluate limits e begun now request = some (e', result)) :
    ∃ e₁ ticket, beginEvaluation limits e begun request = some (e₁, ticket) ∧
      (e'.state = e.state ∧ result.outcome = ticket.outcome ∧
          (request.deferCommit = true ∨ ticket.lifecycle = .rejected) ∨
        request.deferCommit = false ∧
          CommitEffect limits e.state now { ticket, context := request.context } e'.state
            result.outcome) := by
  unfold evaluate at h
  obtain ⟨⟨e₁, ticket⟩, hbegin, h⟩ := Option.bind_eq_some_iff.1 h
  refine ⟨e₁, ticket, hbegin, ?_⟩
  have hstate := (beginEvaluation_cases hbegin).1
  dsimp only at h
  split at h
  · rename_i hrefused
    cases h
    exact .inl ⟨hstate, rfl, .inr hrefused.1⟩
  · split at h
    · rename_i hdefer
      split at h
      · cases h
        exact .inl ⟨hstate, rfl, .inl hdefer⟩
      · cases h
        exact .inl ⟨hstate, rfl, .inl hdefer⟩
    · rename_i hdefer
      refine .inr ⟨Bool.eq_false_iff.2 hdefer, ?_⟩
      rw [← hstate]
      exact commitEvaluation_cases h

theorem evaluate_cases {begun : Ticks} {request : EvaluateRequest}
    (h : evaluate limits e begun now request = some (e', result)) :
    ∃ e₁ ticket, beginEvaluation limits e begun request = some (e₁, ticket) ∧
      (e'.state = e.state ∧ result.outcome = ticket.outcome ∨ request.deferCommit = false ∧
        CommitEffect limits e.state now { ticket, context := request.context } e'.state
          result.outcome) := by
  obtain ⟨e₁, ticket, hbegin, hends⟩ := evaluate_phases h
  exact ⟨e₁, ticket, hbegin, hends.imp_left fun hstops => ⟨hstops.1, hstops.2.1⟩⟩

/-- What a rollback can do, and what it then answers. -/
inductive RollbackEffect (limits : Limits) (s : State) (now : Ticks) (request : RollbackRequest) :
    State → Outcome → Prop
  | refused {answer : OperationResult} (checks : s.rollbackChecks request = .error answer) :
      RollbackEffect limits s now request s answer.outcome
  | declined {record : PolicyRecord} {refusal : State.RollbackRefusal}
      (checks : s.rollbackChecks request = .ok record)
      (verified : State.verifyRollback record = .error refusal) (unrecorded : refusal.recorded = none) :
      RollbackEffect limits s now request s refusal.outcome
  | recorded {record : PolicyRecord} {refusal : State.RollbackRefusal} {detail : Text}
      (checks : s.rollbackChecks request = .ok record)
      (verified : State.verifyRollback record = .error refusal)
      (records : refusal.recorded = some detail) :
      RollbackEffect limits s now request
        (s.recordAttempt limits request.context.attempt (fingerprintRollback request) refusal.outcome
          detail)
        refusal.outcome
  | restored {record : PolicyRecord} {target : CandidateRecord} {adaptation : AdaptationGeneration}
      {transitionGeneration : TransitionGeneration} {transition : TransitionPlanId}
      {id : AdaptationDecisionId} {decision : AdaptationDecision}
      (checks : s.rollbackChecks request = .ok record)
      (verified : State.verifyRollback record = .ok (target, adaptation, transitionGeneration))
      (decides : decision =
        s.rollbackDecision now record request id target adaptation transitionGeneration) :
      RollbackEffect limits s now request
        (((s.putRecord request.policy
          (State.rolledBackRecord limits now record target decision transition)).journal limits
          decision).recordAttempt limits request.context.attempt (fingerprintRollback request)
          .decisionCommitted "rollback committed")
        .decisionCommitted

theorem rollback_cases {request : RollbackRequest}
    (h : rollback limits e now request = some (e', result)) :
    RollbackEffect limits e.state now request e'.state result.outcome := by
  unfold rollback at h
  dsimp only at h
  split at h
  · rename_i answer hchecks
    cases h
    exact .refused hchecks
  · rename_i record hchecks
    split at h
    · rename_i refusal hverified
      cases h
      rw [State.makeResult_outcome]
      cases hrecorded : refusal.recorded with
      | none => exact .declined hchecks hverified hrecorded
      | some detail => exact .recorded hchecks hverified hrecorded
    · rename_i target adaptation transitionGeneration hverified
      obtain ⟨⟨id, ids⟩, -, h⟩ := Option.bind_eq_some_iff.1 h
      obtain ⟨⟨transition, ids⟩, -, h⟩ := Option.bind_eq_some_iff.1 h
      cases h
      rw [State.makeResult_outcome]
      exact .restored hchecks hverified rfl

theorem snapshot_cases {policy : AdaptivePolicyId} {view : Option AdaptationSnapshot}
    (h : snapshot limits e now policy = some (e', view)) :
    e'.state = e.state ∨ ∃ retained, e'.state = e.state.retainSnapshot limits retained := by
  unfold snapshot at h
  split at h
  · cases h
    exact .inl rfl
  · obtain ⟨⟨id, ids₁⟩, -, h⟩ := Option.bind_eq_some_iff.1 h
    obtain ⟨⟨evidence, ids₂⟩, -, h⟩ := Option.bind_eq_some_iff.1 h
    cases h
    exact .inr ⟨_, rfl⟩

end

/-! ## Recovery -/

/-- A durable state the engine recovers from. -/
def DurableState.admissible (d : DurableState) (limits : Limits) : Bool :=
  d.formatVersion == persistenceFormatVersion && !d.exceedsLimits limits &&
    d.epoch.next.isSome && d.authorityGeneration.next.isSome

theorem applyDurable_cases (s : State) (config : EngineConfig) (now : Ticks) (d : DurableState)
    (origin : Text) :
    d.admissible config.limits = false ∧ (s.applyDurable config now d origin).1 = s ∨
      d.admissible config.limits = true ∧ ∃ epoch authority, d.epoch.next = some epoch ∧
        d.authorityGeneration.next = some authority ∧
        (s.applyDurable config now d origin).1 =
          State.recoveredState config now d epoch authority := by
  unfold State.applyDurable DurableState.admissible
  split
  · rename_i hversion
    exact .inl ⟨by simp [hversion], rfl⟩
  · rename_i hversion
    split
    · rename_i hlimits
      exact .inl ⟨by simp [hlimits], rfl⟩
    · rename_i hlimits
      split
      · rename_i epoch authority hepoch hauthority
        refine .inr ⟨?_, epoch, authority, hepoch, hauthority, rfl⟩
        simpa [hepoch, hauthority, hlimits] using hversion
      · rename_i hexhausted
        refine .inl ⟨?_, rfl⟩
        cases hepoch : d.epoch.next with
        | none => simp
        | some epoch =>
          cases hauthority : d.authorityGeneration.next with
          | none => simp
          | some authority => exact absurd hauthority (hexhausted epoch authority hepoch)

/-- The durable state an operation recovers, if it does. -/
def Op.recovers (limits : Limits) : Op → Option DurableState
  | .decodeStore _ (.ok durable) _ => if durable.admissible limits then some durable else none
  | _ => none

theorem Op.recovers_some {limits : Limits} {op : Op} {durable : DurableState}
    (h : op.recovers limits = some durable) :
    ∃ now origin, op = .decodeStore now (.ok durable) origin ∧ durable.admissible limits = true := by
  cases op with
  | decodeStore now decoded origin =>
    cases decoded with
    | error refusal => cases h
    | ok found =>
      simp only [recovers, Option.ite_none_right_eq_some] at h
      obtain ⟨hadmissible, hfound⟩ := h
      cases hfound
      exact ⟨now, origin, rfl, hadmissible⟩
  | _ => cases h

/-- The state a recovery leaves. -/
theorem step_recovered {config : EngineConfig} {e e' : Engine} {op : Op} {answer : Answer}
    {durable : DurableState} (h : e.step config op = some (e', answer))
    (hop : op.recovers config.limits = some durable) :
    ∃ now epoch authority, durable.epoch.next = some epoch ∧
      durable.authorityGeneration.next = some authority ∧
      e' = { e with state := State.recoveredState config now durable epoch authority } := by
  obtain ⟨now, origin, rfl, hadmissible⟩ := Op.recovers_some hop
  cases h
  rcases applyDurable_cases e.state config now durable origin with
    ⟨hrefused, -⟩ | ⟨-, epoch, authority, hepoch, hauthority, hs⟩
  · rw [hrefused] at hadmissible
    cases hadmissible
  · refine ⟨now, epoch, authority, hepoch, hauthority, ?_⟩
    rw [← hs]
    rfl

theorem restoreRevocation_standing (s : State) (revocation : RevocationRecord) :
    (s.restoreRevocation revocation).standing = s.standing := by
  unfold State.restoreRevocation
  split <;> rfl

/-- Recovery takes the next epoch and authority generation, and forgets every registration and every
fence. -/
theorem recoveredState_standing (config : EngineConfig) (now : Ticks) (d : DurableState)
    (epoch : CoordinatorEpoch) (authority : AdaptiveAuthorityGeneration) :
    (State.recoveredState config now d epoch authority).standing =
      { epoch := epoch, authorityGeneration := authority, registrations := {}, liveBoots := {}
        fencedBoots := {}, fences := [] } := by
  unfold State.recoveredState
  dsimp only
  rw [foldl_keeps State.standing fun s policy => s.reindexPolicy_standing config.limits policy]
  change State.standing (d.history.foldl (State.restoreHistory config.limits) _) = _
  rw [foldl_keeps (f := State.restoreHistory config.limits) State.standing fun _ _ => rfl,
    foldl_keeps (f := State.restoreRevocation) State.standing restoreRevocation_standing,
    foldl_keeps (f := State.restoreTiming now) State.standing fun _ _ => rfl,
    foldl_keeps (f := State.restoreStable) State.standing fun _ _ => rfl,
    foldl_keeps (f := State.restorePreference) State.standing fun _ _ => rfl,
    foldl_keeps (f := State.restorePolicy config.conservativeRecovery) State.standing fun _ _ => rfl]
  rfl

/-! ## The records -/

/-- The transition an operation requests. -/
def Op.transition : Op → Option PolicyLifecycleRequest
  | .transitionPolicy request => some request
  | .revalidate policy context => some (State.revalidateRequest policy context)
  | _ => none

/-- Phase two of an operation: its clock reading and its request. -/
inductive Commits (limits : Limits) (e : Engine) : Op → Ticks → CommitDecisionRequest → Prop
  | commit {now : Ticks} {request : CommitDecisionRequest} :
      Commits limits e (.commitEvaluation now request) now request
  | evaluate {begun now : Ticks} {request : EvaluateRequest} {e₁ : Engine} {ticket : EvaluationTicket}
      (begins : beginEvaluation limits e begun request = some (e₁, ticket)) :
      Commits limits e (.evaluate begun now request) now { ticket, context := request.context }

/-- The record an accepted operation writes over the record of one policy. -/
inductive Rewrites (limits : Limits) (e : Engine) :
    Op → AdaptivePolicyId → PolicyRecord → PolicyRecord → Prop
  | updated {now : Ticks} {request : UpdatePolicyRequest} {record : PolicyRecord} {fingerprint : Text}
      {generation : AdaptivePolicyGeneration}
      (checks : e.state.updateChecks limits request = .ok (record, fingerprint, generation)) :
      Rewrites limits e (.updatePolicy now request) request.policy record
        (e.state.updatedRecord now request generation record)
  | held {op : Op} {request : PolicyLifecycleRequest} {record : PolicyRecord} {next : PolicyLifecycle}
      (requests : op.transition = some request)
      (checks : e.state.transitionChecks request = .ok (record, next))
      (event : request.event = .revalidate) (unusable : record.candidates.any (·.usable) = false) :
      Rewrites limits e op request.policy record
        { record with policy := { record.policy with lifecycle := .revalidationRequired } }
  | moved {op : Op} {request : PolicyLifecycleRequest} {record : PolicyRecord} {next : PolicyLifecycle}
      (requests : op.transition = some request)
      (checks : e.state.transitionChecks request = .ok (record, next))
      (usable : request.event = .revalidate → record.candidates.any (·.usable) = true) :
      Rewrites limits e op request.policy record
        { record with policy := { record.policy with lifecycle := next, epoch := e.state.epoch } }
  | revoked {request : RevokePolicyRequest} {record : PolicyRecord} {revocation : RevocationRecord}
      (checks : e.state.revokeChecks limits request = .ok record) :
      Rewrites limits e (.revokePolicy request) request.policy record { record with
        revocation := some revocation
        policy := { record.policy with lifecycle := .revoked, epoch := e.state.epoch } }
  | suppressed {op : Op} {now : Ticks} {request : CommitDecisionRequest} {record : PolicyRecord}
      {decision : AdaptationDecision} (commits : Commits limits e op now request)
      (checks : e.state.commitChecks request = .ok record)
      (ineligible : request.ticket.lifecycle ≠ .eligible) :
      Rewrites limits e op request.ticket.dependencies.policy record
        (record.remember limits (historyEntry decision now))
  | committed {op : Op} {now : Ticks} {request : CommitDecisionRequest} {record : PolicyRecord}
      {target : CandidateRecord} {adaptation : AdaptationGeneration}
      {transitionGeneration : TransitionGeneration} {transition : TransitionPlanId}
      {id : AdaptationDecisionId} {preference : RoutingPreference}
      (commits : Commits limits e op now request)
      (checks : e.state.commitChecks request = .ok record)
      (eligible : request.ticket.lifecycle = .eligible)
      (other : alreadyCurrent record request.ticket = false)
      (verified : e.state.verifyCommit limits now record request.ticket =
        .ok (target, adaptation, transitionGeneration))
      (installs : preference = e.state.committedPreference now record request.ticket request.context
        target adaptation transitionGeneration transition id) :
      Rewrites limits e op request.ticket.dependencies.policy record
        (State.committedRecord limits now record preference
          (e.state.committedDecision now record request.ticket preference))
  | restored {now : Ticks} {request : RollbackRequest} {record : PolicyRecord}
      {target : CandidateRecord} {adaptation : AdaptationGeneration}
      {transitionGeneration : TransitionGeneration} {transition : TransitionPlanId}
      {id : AdaptationDecisionId} {decision : AdaptationDecision}
      (checks : e.state.rollbackChecks request = .ok record)
      (verified : State.verifyRollback record = .ok (target, adaptation, transitionGeneration))
      (decides : decision = e.state.rollbackDecision now record request id target adaptation
        transitionGeneration) :
      Rewrites limits e (.rollback now request) request.policy record
        (State.rolledBackRecord limits now record target decision transition)

/-- What one operation makes of the policy records. -/
inductive PolicyChange (config : EngineConfig) (e : Engine) (op : Op) :
    Std.ExtTreeMap AdaptivePolicyId PolicyRecord → Prop
  | kept : PolicyChange config e op e.state.policies
  | rewritten {policy : AdaptivePolicyId} {record record' : PolicyRecord}
      (found : e.state.policies[policy]? = some record)
      (rewrites : Rewrites config.limits e op policy record record') :
      PolicyChange config e op (e.state.policies.insert policy record')
  | created {now : Ticks} {request : CreatePolicyRequest} {fingerprint : Text}
      {id : AdaptivePolicyId} {ids : IdFactory} (creates : op = .createPolicy now request)
      (checks : e.state.createChecks config.limits request = .ok fingerprint)
      (mints : e.ids.mint .policy = some (id, ids)) :
      PolicyChange config e op
        (e.state.policies.insertIfNew id (e.state.newRecord now id request))
  | advanced {reason : Text} (advances : op = .advanceEpoch reason) :
      PolicyChange config e op (e.state.policies.map fun _ record => State.requireRevalidation record)
  | notified {request : UpstreamNotifyRequest} {fingerprint : Text}
      (notifies : op = .applyUpstream request)
      (checks : e.state.upstreamChecks config.limits request = .ok fingerprint) :
      PolicyChange config e op (State.applyNotifications config.limits request.context e.state
        request.notifications).1.policies
  | recovered {now : Ticks} {durable : DurableState} {origin : Text} {epoch : CoordinatorEpoch}
      {authority : AdaptiveAuthorityGeneration} (decodes : op = .decodeStore now (.ok durable) origin)
      (admissible : durable.admissible config.limits = true)
      (next : durable.epoch.next = some epoch) :
      PolicyChange config e op (State.recoveredState config now durable epoch authority).policies

section
variable {config : EngineConfig} {e e' : Engine} {op : Op} {answer : Answer}

theorem registerPublisher_policies (s : State) (limits : Limits) (publisher : PublisherId)
    (workerBoot : WorkerBootId) (scope : AuthorityScope) (session : SessionId) :
    (s.registerPublisher limits publisher workerBoot scope session).1.policies = s.policies := by
  unfold State.registerPublisher
  split
  · rfl
  · dsimp only
    split
    · rfl
    · split <;> rfl

theorem fencePublisher_policies (s : State) (publisher : PublisherId) (workerBoot : WorkerBootId)
    (cause : Text) : (s.fencePublisher publisher workerBoot cause).1.policies = s.policies := by
  unfold State.fencePublisher
  split
  · rfl
  · split <;> rfl

theorem advanceEpoch_policies (s : State) (reason : Text) :
    (s.advanceEpoch reason).1.policies = s.policies ∨
      (s.advanceEpoch reason).1.policies =
        s.policies.map fun _ record => State.requireRevalidation record := by
  unfold State.advanceEpoch
  split
  · exact .inl rfl
  · dsimp only
    split
    · exact .inl rfl
    · exact .inr rfl

theorem applyUpstream_policies (s : State) (limits : Limits) (request : UpstreamNotifyRequest) :
    (s.applyUpstream limits request).1.policies = s.policies ∨
      ∃ fingerprint, s.upstreamChecks limits request = .ok fingerprint ∧
        (s.applyUpstream limits request).1.policies =
          (State.applyNotifications limits request.context s request.notifications).1.policies := by
  unfold State.applyUpstream
  split
  · exact .inl rfl
  · rename_i fingerprint hchecks
    refine .inr ⟨fingerprint, hchecks, ?_⟩
    split
    · rename_i reached refusal happlied
      rw [happlied]
    · rename_i reached happlied
      rw [happlied]
      simp

theorem commit_policies {now : Ticks} {request : CommitDecisionRequest} {s' : State}
    {outcome : Outcome} (hop : Commits config.limits e op now request)
    (h : CommitEffect config.limits e.state now request s' outcome) :
    PolicyChange config e op s'.policies := by
  cases h with
  | refused => exact .kept
  | suppressed checks ineligible =>
    obtain ⟨_, haccepted⟩ := State.commitChecks_ok checks
    simpa using PolicyChange.rewritten haccepted.found (.suppressed hop checks ineligible)
  | unchanged => simpa using PolicyChange.kept
  | unverified => exact .kept
  | committed checks eligible other verified installs =>
    obtain ⟨_, haccepted⟩ := State.commitChecks_ok checks
    simpa using PolicyChange.rewritten haccepted.found
      (.committed hop checks eligible other verified installs)

theorem rollback_policies {now : Ticks} {request : RollbackRequest} {s' : State} {outcome : Outcome}
    (h : RollbackEffect config.limits e.state now request s' outcome) :
    PolicyChange config e (.rollback now request) s'.policies := by
  cases h with
  | refused => exact .kept
  | declined => exact .kept
  | recorded => simpa using PolicyChange.kept
  | restored checks verified decides =>
    obtain ⟨_, haccepted⟩ := State.rollbackChecks_ok checks
    simpa using PolicyChange.rewritten haccepted.found (.restored checks verified decides)

theorem transition_policies {request : PolicyLifecycleRequest}
    (hop : op.transition = some request) :
    PolicyChange config e op (e.state.transitionPolicy request).1.policies := by
  rcases transitionPolicy_state e.state request with h | ⟨record, next, hchecks, h⟩
  · rw [h]
    exact .kept
  · obtain ⟨_, haccepted⟩ := State.transitionChecks_ok hchecks
    rcases h with ⟨hevent, hunusable, h⟩ | ⟨husable, h⟩
    · rw [h]
      exact .rewritten haccepted.found (.held hop hchecks hevent hunusable)
    · rw [h]
      exact .rewritten haccepted.found (.moved hop hchecks husable)

/-- Every operation changes the policy records in one of the ways of `PolicyChange`. -/
theorem step_policies (h : e.step config op = some (e', answer)) :
    PolicyChange config e op e'.state.policies := by
  cases op with
  | registerPublisher publisher workerBoot scope session =>
    cases h
    exact (registerPublisher_policies e.state ..).symm ▸ PolicyChange.kept
  | fencePublisher publisher workerBoot cause =>
    cases h
    exact (fencePublisher_policies e.state ..).symm ▸ PolicyChange.kept
  | advanceEpoch reason =>
    cases h
    rcases advanceEpoch_policies e.state reason with h | h
    · exact h.symm ▸ PolicyChange.kept
    · exact h.symm ▸ PolicyChange.advanced rfl
  | createPolicy now request =>
    obtain ⟨⟨e₁, result⟩, hcreate, he⟩ := Option.map_eq_some_iff.1 h
    cases he
    rcases createPolicy_state hcreate with
      hs | ⟨fingerprint, hchecks, ⟨_, _, hs⟩ | ⟨policy, ids, hmint, hs⟩⟩
    · exact hs.symm ▸ PolicyChange.kept
    · change PolicyChange config e _ e₁.state.policies
      rw [hs, State.recordAttempt_policies]
      exact .kept
    · change PolicyChange config e _ e₁.state.policies
      rw [hs, State.recordAttempt_policies, State.addPolicy, State.reindexPolicy_policies]
      exact .created rfl hchecks hmint
  | updatePolicy now request =>
    cases h
    rcases updatePolicy_state config.limits now e.state request with
      h | ⟨record, fingerprint, generation, hchecks, h⟩
    · exact h.symm ▸ PolicyChange.kept
    · obtain ⟨_, haccepted⟩ := State.updateChecks_ok hchecks
      exact h.symm ▸ PolicyChange.rewritten haccepted.found (.updated hchecks)
  | transitionPolicy request =>
    cases h
    exact transition_policies rfl
  | revokePolicy request =>
    cases h
    rcases revokePolicy_state config.limits e.state request with
      h | ⟨record, revocation, hchecks, -, h⟩
    · exact h.symm ▸ PolicyChange.kept
    · obtain ⟨_, haccepted⟩ := State.revokeChecks_ok hchecks
      exact h.symm ▸ PolicyChange.rewritten haccepted.found (.revoked hchecks)
  | applyUpstream request =>
    cases h
    rcases applyUpstream_policies e.state config.limits request with h | ⟨fingerprint, hchecks, h⟩
    · exact h.symm ▸ PolicyChange.kept
    · exact h.symm ▸ PolicyChange.notified rfl hchecks
  | publishEvidence clock request =>
    cases h
    exact (State.publishEvidence_policies e.state ..).symm ▸ PolicyChange.kept
  | beginEvaluation now request =>
    obtain ⟨⟨e₁, ticket⟩, hbegin, he⟩ := Option.map_eq_some_iff.1 h
    cases he
    change PolicyChange config e _ e₁.state.policies
    rw [(beginEvaluation_cases hbegin).1]
    exact .kept
  | commitEvaluation now request =>
    obtain ⟨⟨e₁, result⟩, hcommit, he⟩ := Option.map_eq_some_iff.1 h
    cases he
    exact commit_policies .commit (commitEvaluation_cases hcommit)
  | evaluate begun committed request =>
    obtain ⟨⟨e₁, result⟩, hevaluate, he⟩ := Option.map_eq_some_iff.1 h
    cases he
    obtain ⟨e₂, ticket, hbegin, ⟨hs, -⟩ | ⟨-, hs⟩⟩ := evaluate_cases hevaluate
    · exact hs.symm ▸ PolicyChange.kept
    · exact commit_policies (.evaluate hbegin) hs
  | rollback now request =>
    obtain ⟨⟨e₁, result⟩, hrollback, he⟩ := Option.map_eq_some_iff.1 h
    cases he
    exact rollback_policies (rollback_cases hrollback)
  | revalidate policy context =>
    cases h
    exact transition_policies rfl
  | snapshot now policy =>
    obtain ⟨⟨e₁, view⟩, hsnapshot, he⟩ := Option.map_eq_some_iff.1 h
    cases he
    change PolicyChange config e _ e₁.state.policies
    rcases snapshot_cases hsnapshot with hs | ⟨retained, hs⟩
    · rw [hs]
      exact .kept
    · rw [hs]
      exact .kept
  | decodeStore now decoded origin =>
    cases h
    change PolicyChange config e _ (e.state.decodeStore config now decoded origin).1.policies
    cases decoded with
    | error refusal => exact .kept
    | ok durable =>
      change PolicyChange config e _ (e.state.applyDurable config now durable origin).1.policies
      rcases applyDurable_cases e.state config now durable origin with
        ⟨-, h⟩ | ⟨hadmissible, epoch, authority, hepoch, -, h⟩
      · rw [h]
        exact .kept
      · rw [h]
        exact .recovered rfl hadmissible hepoch

end

end AdaptiveRouting
