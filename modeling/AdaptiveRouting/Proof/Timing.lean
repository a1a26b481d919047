import AdaptiveRouting.Proof.Records

/-!
# Adaptations of one policy

In a step that neither updates the policy, nor advances the epoch, nor recovers a store, the policy's
semantics, preference and timing change together or not at all: a commit installs a preference and
arms the timing, a rollback restores one and arms it in its own way (`step_adaptation`).
-/

namespace AdaptiveRouting

open Engine

/-- The clock reading an operation commits an adaptation at. -/
def Op.adaptsAt : Op → Option Ticks
  | .commitEvaluation now _ => some now
  | .evaluate _ committed _ => some committed
  | .rollback now _ => some now
  | _ => none

/-- An operation that neither updates the policy, nor advances the epoch, nor recovers a store. -/
structure Undisturbed (limits : Limits) (policy : AdaptivePolicyId) (op : Op) : Prop where
  updates : ∀ now request, op = .updatePolicy now request → request.policy ≠ policy
  advances : ∀ reason, op ≠ .advanceEpoch reason
  recovers : op.recovers limits = none

/-- An operation of none of these three kinds, at a glance. -/
def Op.quiet (policy : AdaptivePolicyId) : Op → Bool
  | .updatePolicy _ request => request.policy != policy
  | .advanceEpoch _ => false
  | .decodeStore _ _ _ => false
  | _ => true

theorem Undisturbed.of_quiet {limits : Limits} {policy : AdaptivePolicyId} {op : Op}
    (h : op.quiet policy = true) : Undisturbed limits policy op where
  updates := by
    rintro now request rfl
    simpa [Op.quiet] using h
  advances := by
    rintro reason rfl
    cases h
  recovers := by
    cases op with
    | decodeStore => cases h
    | _ => rfl

section
variable {config : EngineConfig} {e e' : Engine} {op : Op} {answer : Answer}
  {policy : AdaptivePolicyId} {record record' : PolicyRecord}

theorem Commits.unique {limits : Limits} {now now' : Ticks} {request request' : CommitDecisionRequest}
    (h : Commits limits e op now request) (h' : Commits limits e op now' request') :
    now = now' ∧ request = request' := by
  cases h with
  | commit =>
    cases h'
    exact ⟨rfl, rfl⟩
  | evaluate begins =>
    cases h' with
    | evaluate begins' =>
      rw [begins] at begins'
      cases begins'
      exact ⟨rfl, rfl⟩

theorem Commits.adaptsAt {limits : Limits} {now : Ticks} {request : CommitDecisionRequest}
    (h : Commits limits e op now request) : op.adaptsAt = some now := by
  cases h <;> rfl

theorem Commits.undisturbed {limits limits' : Limits} {now : Ticks} {request : CommitDecisionRequest}
    (h : Commits limits e op now request) : Undisturbed limits' policy op := by
  cases h <;> exact .of_quiet rfl

/-- An evaluation that returns reached its phase two, or could have. -/
theorem step_evaluates {begun now : Ticks} {request : EvaluateRequest}
    (h : e.step config (.evaluate begun now request) = some (e', answer)) :
    ∃ commit, Commits config.limits e (.evaluate begun now request) now commit := by
  obtain ⟨⟨e₁, result⟩, hevaluate, -⟩ := Option.map_eq_some_iff.1 h
  obtain ⟨_, ticket, hbegin, -⟩ := evaluate_cases hevaluate
  exact ⟨_, .evaluate hbegin⟩

/-- What an operation does to the semantics, the preference and the timing of a policy. -/
inductive Adaptation (limits : Limits) (e : Engine) (op : Op) (policy : AdaptivePolicyId)
    (record : PolicyRecord) : PolicyRecord → Prop
  | kept {record' : PolicyRecord} (semantics : record'.policy.semantics = record.policy.semantics)
      (preference : record'.preference = record.preference) (timing : record'.timing = record.timing) :
      Adaptation limits e op policy record record'
  | committed {now : Ticks} {request : CommitDecisionRequest} {target : CandidateRecord}
      {adaptation : AdaptationGeneration} {transitionGeneration : TransitionGeneration}
      {transition : TransitionPlanId} {id : AdaptationDecisionId} {preference : RoutingPreference}
      {decision : AdaptationDecision} (commits : Commits limits e op now request)
      (subject : request.ticket.dependencies.policy = policy)
      (other : alreadyCurrent record request.ticket = false)
      (verified : e.state.verifyCommit limits now record request.ticket =
        .ok (target, adaptation, transitionGeneration))
      (installs : preference = e.state.committedPreference now record request.ticket request.context
        target adaptation transitionGeneration transition id) :
      Adaptation limits e op policy record
        (State.committedRecord limits now record preference decision)
  | restored {now : Ticks} {request : RollbackRequest} {target : CandidateRecord}
      {adaptation : AdaptationGeneration} {transitionGeneration : TransitionGeneration}
      {transition : TransitionPlanId} {decision : AdaptationDecision}
      (restores : op = .rollback now request)
      (verified : State.verifyRollback record = .ok (target, adaptation, transitionGeneration))
      (decides : decision.adaptationGeneration = adaptation) :
      Adaptation limits e op policy record
        (State.rolledBackRecord limits now record target decision transition)

/-- An adaptation takes the next generation; anything else leaves preference and timing alone. -/
theorem Adaptation.generation {limits : Limits} (h : Adaptation limits e op policy record record') :
    record'.policy.semantics = record.policy.semantics ∧
      (record'.preference = record.preference ∧ record'.timing = record.timing ∨
        record'.preference.adaptationGeneration ≠ record.preference.adaptationGeneration ∧
          op.adaptsAt.isSome = true) := by
  have hmoves {adaptation : AdaptationGeneration}
      (hnext : record.preference.adaptationGeneration.next = some adaptation) :
      adaptation ≠ record.preference.adaptationGeneration := fun heq => by
    have hlt := Generation.next_toNat hnext
    rw [heq] at hlt
    omega
  cases h with
  | kept semantics preference timing => exact ⟨semantics, .inl ⟨preference, timing⟩⟩
  | committed commits _ _ verified installs =>
    refine ⟨rfl, .inr ⟨?_, by rw [commits.adaptsAt]; rfl⟩⟩
    subst installs
    exact hmoves (State.verifyCommit_ok verified).2.1
  | restored restores verified decides =>
    subst restores decides
    exact ⟨rfl, .inr ⟨hmoves (State.verifyRollback_ok verified).2.2.1, rfl⟩⟩

theorem RecordChange.adaptation (h : RecordChange config e op policy record record')
    (hop : Undisturbed config.limits policy op) :
    Adaptation config.limits e op policy record record' := by
  cases h with
  | kept => exact .kept rfl rfl rfl
  | rewritten rewrites =>
    cases rewrites with
    | updated => exact absurd rfl (hop.updates _ _ rfl)
    | committed commits _ _ other verified installs => exact .committed commits rfl other verified installs
    | restored _ verified decides => exact .restored rfl verified (congrArg _ decides)
    | _ => exact .kept rfl rfl rfl
  | advanced advances => exact absurd advances (hop.advances _)
  | notified _ _ _ frame =>
    exact .kept (congrArg AdaptivePolicy.semantics (PolicyRecord.policy_of_frame frame))
      (PolicyRecord.preference_of_frame frame) (PolicyRecord.timing_of_frame frame)

theorem step_adaptation (h : e.step config op = some (e', answer))
    (hop : Undisturbed config.limits policy op) (hrecord : e.state.policies[policy]? = some record) :
    ∃ record', e'.state.policies[policy]? = some record' ∧
      Adaptation config.limits e op policy record record' := by
  obtain ⟨record', hrecord', hchange⟩ := step_record h hop.recovers hrecord
  exact ⟨record', hrecord', hchange.adaptation hop⟩

/-- A policy that was not there was created as its request says. -/
theorem step_arrival (h : e.step config op = some (e', answer))
    (hrecovers : op.recovers config.limits = none) (hbefore : e.state.policies[policy]? = none)
    (hafter : e'.state.policies[policy]? = some record) : ∃ now request fingerprint,
      op = .createPolicy now request ∧
      e.state.createChecks config.limits request = .ok fingerprint ∧
      record = e.state.newRecord now policy request := by
  have hchange := step_policies h
  generalize e'.state.policies = policies at hchange hafter
  cases hchange with
  | kept =>
    rw [hbefore] at hafter
    cases hafter
  | @rewritten subject before after found rewrites =>
    by_cases hsubject : subject = policy
    · subst hsubject
      rw [hbefore] at found
      cases found
    · rw [get_insert_ne hsubject, hbefore] at hafter
      cases hafter
  | created creates checks =>
    rw [Std.ExtTreeMap.getElem?_insertIfNew] at hafter
    split at hafter
    · rename_i hfresh
      cases Std.LawfulEqCmp.eq_of_compare hfresh.1
      exact ⟨_, _, _, creates, checks, (Option.some.inj hafter).symm⟩
    · rw [hbefore] at hafter
      cases hafter
  | advanced =>
    rw [Std.ExtTreeMap.getElem?_map, hbefore] at hafter
    cases hafter
  | @notified request =>
    have hframe := State.applyNotifications_frame config.limits request.context e.state
      request.notifications policy
    rw [hbefore, hafter] at hframe
    cases hframe
  | recovered decodes admissible =>
    subst decodes
    simp [Op.recovers, admissible] at hrecovers

end

end AdaptiveRouting
