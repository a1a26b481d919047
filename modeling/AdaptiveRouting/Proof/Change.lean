import AdaptiveRouting.Proof.Effect
import AdaptiveRouting.Proof.Notify

/-!
# Changes of the state

The state a step leaves, in terms of the writes the entry points are made of (`step_state`). What no
write of a kind touches, a step of that kind keeps: frame facts about a step are read off
`StateChange` case by case.
-/

namespace AdaptiveRouting

open Guard Engine

/-- The operations that may record a decision. -/
def Op.decides : Op → Bool
  | .commitEvaluation .. | .evaluate .. | .rollback .. => true
  | _ => false

theorem Commits.decides {limits : Limits} {e : Engine} {op : Op} {now : Ticks}
    {request : CommitDecisionRequest} (h : Commits limits e op now request) : op.decides = true := by
  cases h <;> rfl

/-- The state one operation leaves. -/
inductive StateChange (config : EngineConfig) (e : Engine) (op : Op) : State → Prop
  | kept : StateChange config e op e.state
  | attempted {attempt : MutationAttemptId} {fingerprint : Text} {outcome : Outcome} {detail : Text} :
      StateChange config e op
        (e.state.recordAttempt config.limits attempt fingerprint outcome detail)
  | created {now : Ticks} {request : CreatePolicyRequest} {fingerprint : Text}
      {id : AdaptivePolicyId} {ids : IdFactory} (creates : op = .createPolicy now request)
      (checks : e.state.createChecks config.limits request = .ok fingerprint)
      (mints : e.ids.mint .policy = some (id, ids)) :
      StateChange config e op
        ((e.state.addPolicy config.limits (e.state.newRecord now id request)).recordAttempt
          config.limits request.context.attempt fingerprint .policyCreated "policy created")
  | updated {now : Ticks} {request : UpdatePolicyRequest} {record : PolicyRecord} {fingerprint : Text}
      {generation : AdaptivePolicyGeneration} (updates : op = .updatePolicy now request)
      (checks : e.state.updateChecks config.limits request = .ok (record, fingerprint, generation)) :
      StateChange config e op
        ((State.reindexPolicy { e.state.unindexPolicy request.policy with
            policies := e.state.policies.insert request.policy
              (e.state.updatedRecord now request generation record) }
          config.limits request.policy).recordAttempt
          config.limits request.context.attempt fingerprint .policyUpdated "policy updated")
  | rewritten {policy : AdaptivePolicyId} {record record' : PolicyRecord}
      (found : e.state.policies[policy]? = some record)
      (rewrites : Rewrites config.limits e op policy record record') :
      StateChange config e op (e.state.putRecord policy record')
  | revoked {request : RevokePolicyRequest} {record : PolicyRecord} {revocation : RevocationRecord}
      (revokes : op = .revokePolicy request)
      (checks : e.state.revokeChecks config.limits request = .ok record) :
      StateChange config e op { e.state.putRecord request.policy { record with
          revocation := some revocation
          policy := { record.policy with lifecycle := .revoked, epoch := e.state.epoch } } with
        revocations := e.state.revocations.insertIfNew request.policy revocation }
  | decided {policy : AdaptivePolicyId} {record record' : PolicyRecord}
      {decision : AdaptationDecision} {attempt : MutationAttemptId} {fingerprint : Text}
      {outcome : Outcome} {detail : Text} (found : e.state.policies[policy]? = some record)
      (rewrites : Rewrites config.limits e op policy record record') (decides : op.decides = true) :
      StateChange config e op (((e.state.putRecord policy record').journal config.limits
        decision).recordAttempt config.limits attempt fingerprint outcome detail)
  | registered {publisher : PublisherId} {boot : WorkerBootId} {scope : AuthorityScope}
      {session : SessionId} (registers : op = .registerPublisher publisher boot scope session) :
      StateChange config e op
        (e.state.registerPublisher config.limits publisher boot scope session).1
  | fenced {publisher : PublisherId} {boot : WorkerBootId} {cause : Text}
      (fences : op = .fencePublisher publisher boot cause) :
      StateChange config e op (e.state.fencePublisher publisher boot cause).1
  | advanced {reason : Text} (advances : op = .advanceEpoch reason) :
      StateChange config e op (e.state.advanceEpoch reason).1
  | notified {request : UpstreamNotifyRequest} (notifies : op = .applyUpstream request) :
      StateChange config e op (e.state.applyUpstream config.limits request).1
  | published {clock : Nat → Ticks} {request : PublishEvidenceRequest}
      (publishes : op = .publishEvidence clock request) :
      StateChange config e op (e.state.publishEvidence config.limits clock request).1
  | retained {now : Ticks} {policy : AdaptivePolicyId} {record : PolicyRecord} {id : SnapshotId}
      {ids : IdFactory} {evidence : EvidenceSnapshotId} (views : op = .snapshot now policy)
      (found : e.state.policies[policy]? = some record)
      (mints : e.ids.mint .snapshot = some (id, ids)) :
      StateChange config e op
        (e.state.retainSnapshot config.limits (e.state.viewRecord now id evidence record))
  | recovered {now : Ticks} {durable : DurableState} {origin : Text} {epoch : CoordinatorEpoch}
      {authority : AdaptiveAuthorityGeneration} (decodes : op = .decodeStore now (.ok durable) origin)
      (admissible : durable.admissible config.limits = true)
      (next : durable.epoch.next = some epoch)
      (nextAuthority : durable.authorityGeneration.next = some authority) :
      StateChange config e op (State.recoveredState config now durable epoch authority)

section
variable {config : EngineConfig} {e e' : Engine} {op : Op} {answer : Answer}

theorem CommitEffect.change {now : Ticks} {request : CommitDecisionRequest} {s' : State}
    {outcome : Outcome} (hop : Commits config.limits e op now request)
    (h : CommitEffect config.limits e.state now request s' outcome) : StateChange config e op s' := by
  cases h with
  | refused => exact .kept
  | suppressed checks ineligible =>
    obtain ⟨_, haccepted⟩ := State.commitChecks_ok checks
    exact .decided haccepted.found (.suppressed hop checks ineligible) hop.decides
  | unchanged => exact .attempted
  | unverified => exact .kept
  | committed checks eligible other verified installs =>
    obtain ⟨_, haccepted⟩ := State.commitChecks_ok checks
    exact .decided haccepted.found (.committed hop checks eligible other verified installs) hop.decides

theorem RollbackEffect.change {now : Ticks} {request : RollbackRequest} {s' : State}
    {outcome : Outcome} (h : RollbackEffect config.limits e.state now request s' outcome) :
    StateChange config e (.rollback now request) s' := by
  cases h with
  | refused => exact .kept
  | declined => exact .kept
  | recorded => exact .attempted
  | restored checks verified decides =>
    obtain ⟨_, haccepted⟩ := State.rollbackChecks_ok checks
    exact .decided haccepted.found (.restored checks verified decides) rfl

theorem transition_change {request : PolicyLifecycleRequest} (hop : op.transition = some request) :
    StateChange config e op (e.state.transitionPolicy request).1 := by
  rcases transitionPolicy_state e.state request with h | ⟨record, next, hchecks, h⟩
  · rw [h]
    exact .kept
  · obtain ⟨_, haccepted⟩ := State.transitionChecks_ok hchecks
    rcases h with ⟨hevent, hunusable, h⟩ | ⟨husable, h⟩
    · rw [h]
      exact .rewritten haccepted.found (.held hop hchecks hevent hunusable)
    · rw [h]
      exact .rewritten haccepted.found (.moved hop hchecks husable)

theorem updatePolicy_change {now : Ticks} {request : UpdatePolicyRequest} :
    StateChange config e (.updatePolicy now request)
      (e.state.updatePolicy config.limits now request).1 := by
  unfold State.updatePolicy
  cases hchecks : e.state.updateChecks config.limits request with
  | error answer => exact .kept
  | ok accepted =>
    obtain ⟨record, fingerprint, generation⟩ := accepted
    have hchange := @StateChange.updated config e (.updatePolicy now request) _ _ _ _ _ rfl hchecks
    simpa using hchange

/-- What a step leaves is one of the changes. -/
theorem step_state (h : e.step config op = some (e', answer)) : StateChange config e op e'.state := by
  cases op with
  | registerPublisher publisher workerBoot scope session =>
    cases h
    exact .registered rfl
  | fencePublisher publisher workerBoot cause =>
    cases h
    exact .fenced rfl
  | advanceEpoch reason =>
    cases h
    exact .advanced rfl
  | createPolicy now request =>
    obtain ⟨⟨e₁, result⟩, hcreate, he⟩ := Option.map_eq_some_iff.1 h
    cases he
    change StateChange config e _ e₁.state
    rcases createPolicy_state hcreate with
      hs | ⟨fingerprint, hchecks, ⟨_, _, hs⟩ | ⟨policy, ids, hmint, hs⟩⟩
    · rw [hs]
      exact .kept
    · rw [hs]
      exact .attempted
    · rw [hs]
      exact .created rfl hchecks hmint
  | updatePolicy now request =>
    cases h
    exact updatePolicy_change
  | transitionPolicy request =>
    cases h
    exact transition_change rfl
  | revokePolicy request =>
    cases h
    change StateChange config e _ (e.state.revokePolicy config.limits request).1
    unfold State.revokePolicy
    cases hchecks : e.state.revokeChecks config.limits request with
    | error answer => exact .kept
    | ok record => exact .revoked rfl hchecks
  | applyUpstream request =>
    cases h
    exact .notified rfl
  | publishEvidence clock request =>
    cases h
    exact .published rfl
  | beginEvaluation now request =>
    obtain ⟨⟨e₁, ticket⟩, hbegin, he⟩ := Option.map_eq_some_iff.1 h
    cases he
    change StateChange config e _ e₁.state
    rw [(beginEvaluation_cases hbegin).1]
    exact .kept
  | commitEvaluation now request =>
    obtain ⟨⟨e₁, result⟩, hcommit, he⟩ := Option.map_eq_some_iff.1 h
    cases he
    exact (commitEvaluation_cases hcommit).change .commit
  | evaluate begun committed request =>
    obtain ⟨⟨e₁, result⟩, hevaluate, he⟩ := Option.map_eq_some_iff.1 h
    cases he
    change StateChange config e _ e₁.state
    obtain ⟨e₂, ticket, hbegin, ⟨hs, -⟩ | ⟨-, hs⟩⟩ := evaluate_cases hevaluate
    · rw [hs]
      exact .kept
    · exact hs.change (.evaluate hbegin)
  | rollback now request =>
    obtain ⟨⟨e₁, result⟩, hrollback, he⟩ := Option.map_eq_some_iff.1 h
    cases he
    exact (rollback_cases hrollback).change
  | revalidate policy context =>
    cases h
    exact transition_change rfl
  | snapshot now policy =>
    obtain ⟨⟨e₁, view⟩, hsnapshot, he⟩ := Option.map_eq_some_iff.1 h
    cases he
    change StateChange config e _ e₁.state
    unfold AdaptiveRouting.snapshot at hsnapshot
    split at hsnapshot
    · cases hsnapshot
      exact .kept
    · rename_i record hrecord
      obtain ⟨⟨id, ids₁⟩, hmint, h⟩ := Option.bind_eq_some_iff.1 hsnapshot
      obtain ⟨⟨evidence, ids₂⟩, -, h⟩ := Option.bind_eq_some_iff.1 h
      cases h
      exact .retained rfl hrecord hmint
  | decodeStore now decoded origin =>
    cases h
    change StateChange config e _ (e.state.decodeStore config now decoded origin).1
    cases decoded with
    | error refusal => exact .kept
    | ok durable =>
      change StateChange config e _ (e.state.applyDurable config now durable origin).1
      rcases applyDurable_cases e.state config now durable origin with
        ⟨-, h⟩ | ⟨hadmissible, epoch, authority, hepoch, hauthority, h⟩
      · rw [h]
        exact .kept
      · rw [h]
        exact .recovered rfl hadmissible hepoch hauthority

end

/-! ## What the policies' side does not touch -/

/-- A reading of the state that leaves out the policy records with their tables and indexes, and the
attempts. -/
def Aloof {γ : Type} (g : State → γ) : Prop :=
  ∀ (s : State) policies policyNames revocations upstreamWatermark policiesByPath policiesByRoute
    policiesBySet policiesBySource attempts attemptOrder,
    g { s with
      policies := policies, policyNames := policyNames, revocations := revocations
      upstreamWatermark := upstreamWatermark, policiesByPath := policiesByPath
      policiesByRoute := policiesByRoute, policiesBySet := policiesBySet
      policiesBySource := policiesBySource, attempts := attempts, attemptOrder := attemptOrder } = g s

namespace Aloof

variable {γ : Type} {g : State → γ} {limits : Limits}

theorem recordAttempt (hg : Aloof g) (s : State) (limits : Limits) (attempt : MutationAttemptId)
    (fingerprint : Text) (outcome : Outcome) (detail : Text) :
    g (s.recordAttempt limits attempt fingerprint outcome detail) = g s := by
  obtain ⟨_, _, h⟩ := s.recordAttempt_eq limits attempt fingerprint outcome detail
  rw [h]
  exact hg s ..

theorem reindexPolicy (hg : Aloof g) (s : State) (limits : Limits) (policy : AdaptivePolicyId) :
    g (s.reindexPolicy limits policy) = g s := by
  unfold State.reindexPolicy
  split
  · rfl
  · exact hg s ..

theorem unindexPolicy (hg : Aloof g) (s : State) (policy : AdaptivePolicyId) :
    g (s.unindexPolicy policy) = g s := by
  unfold State.unindexPolicy
  split
  · rfl
  · exact hg s ..

theorem putRecord (hg : Aloof g) (s : State) (policy : AdaptivePolicyId) (record : PolicyRecord) :
    g (s.putRecord policy record) = g s :=
  hg s ..

theorem addPolicy (hg : Aloof g) (s : State) (limits : Limits) (record : PolicyRecord) :
    g (s.addPolicy limits record) = g s :=
  (hg.reindexPolicy _ limits _).trans (hg s ..)

theorem applies (hg : Aloof g) {s s' : State} {record : PolicyRecord} {n : UpstreamNotification}
    (h : State.Applies limits s record n s') : g s' = g s := by
  cases h with
  | declared => exact (hg.reindexPolicy _ limits _).trans (hg.putRecord s ..)
  | edited => exact hg.putRecord s ..
  | invalidated =>
    obtain ⟨_, _, h⟩ := State.applyInvalidation_eq
      (s.editBinding n.policy record n.binding.path n.edit) n.binding.path
    rw [h]
    exact (hg (s.editBinding n.policy record n.binding.path n.edit) ..).trans (hg.putRecord s ..)

theorem applyNotifications (hg : Aloof g) (limits : Limits) (context : MutationContext) (s : State)
    (notifications : List UpstreamNotification) :
    g (State.applyNotifications limits context s notifications).1 = g s :=
  State.applyNotifications_rel (R := fun s s' => g s' = g s) (fun _ => rfl)
    (fun h₁ h₂ => h₂.trans h₁)
    (fun _ _ _ h => by
      obtain ⟨_, _, _, happlies⟩ := State.applyNotification_ok h
      exact hg.applies happlies) notifications s

theorem applyUpstream (hg : Aloof g) (s : State) (limits : Limits) (request : UpstreamNotifyRequest) :
    g (s.applyUpstream limits request).1 = g s := by
  have hbatch := hg.applyNotifications limits request.context s request.notifications
  unfold State.applyUpstream
  split
  · rfl
  · split
    · rename_i reached refusal happlied
      rwa [happlied] at hbatch
    · rename_i reached happlied
      rw [happlied] at hbatch
      exact (hg.recordAttempt _ limits _ _ _ _).trans hbatch

/-- A reading that leaves out the journal as well reads off a recovery what its start has. -/
theorem recovered (hg : Aloof g) (hjournal : ∀ (s : State) journal,
    g { s with decisionJournal := journal } = g s) (config : EngineConfig) (now : Ticks)
    (d : DurableState) (epoch : CoordinatorEpoch) (authority : AdaptiveAuthorityGeneration) :
    g (State.recoveredState config now d epoch authority) =
      g { epoch, authorityGeneration := authority, evidenceGeneration := d.evidenceGeneration
          evidenceWatermark := d.evidenceWatermark, upstreamWatermark := d.upstreamWatermark } := by
  unfold State.recoveredState
  dsimp only
  rw [foldl_keeps g fun s policy => hg.reindexPolicy s config.limits policy, hjournal,
    foldl_keeps (f := State.restoreHistory config.limits) g fun s entry =>
      (hjournal (s.editRecord entry.1 _) _).trans (hg s ..),
    foldl_keeps (f := State.restoreRevocation) g fun s revocation => ?_,
    foldl_keeps (f := State.restoreTiming now) g fun s _ => hg s ..,
    foldl_keeps (f := State.restoreStable) g fun s _ => hg s ..,
    foldl_keeps (f := State.restorePreference) g fun s _ => hg s ..,
    foldl_keeps (f := State.restorePolicy config.conservativeRecovery) g fun s _ => hg s ..]
  unfold State.restoreRevocation
  split
  · exact hg s ..
  · rfl

end Aloof

end AdaptiveRouting
