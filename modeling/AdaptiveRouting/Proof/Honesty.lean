import AdaptiveRouting.Proof.Fencing
import AdaptiveRouting.Proof.Replay
import AdaptiveRouting.Proof.Revocations

/-!
# Successes

An operation that reports a success applied what it was asked for (`step_applies`), but for the
replays of the attempt table. The table remembers the call that recorded an attempt (`Remembered`),
so in a run of disciplined calls a success is honest (`success_is_honest`): the effect is that of the
call itself, or of an earlier call under the same attempt that reported a success.
-/

namespace AdaptiveRouting

open Guard Engine

/-! ## Effects -/

/-- The policy prefers the target of an eligible ticket. -/
def Prefers (s : State) (ticket : EvaluationTicket) : Prop :=
  ticket.lifecycle = .eligible ∧ ∃ record, s.policies[ticket.dependencies.policy]? = some record ∧
    record.preference.established = true ∧ record.preference.preferredPath = ticket.targetPreference

/-- The lifecycle event of the request moved the policy. -/
def Moved (s s' : State) (request : PolicyLifecycleRequest) : Prop :=
  ∃ record record', s.policies[request.policy]? = some record ∧
    s'.policies[request.policy]? = some record' ∧
    applyPolicyEvent record.policy.lifecycle request.event = some record'.policy.lifecycle

/-- The effect an operation asks for, between the engine it found and the state it left. The clock
readings are not part of what is asked for. -/
def Applied (config : EngineConfig) (e : Engine) (s' : State) : Op → Prop
  | .registerPublisher publisher workerBoot scope session => ∃ registration,
      s'.registrations[publisher]? = some registration ∧ registration.workerBoot = workerBoot ∧
      registration.scope = scope ∧ registration.session = session ∧ registration.epoch = s'.epoch
  | .fencePublisher publisher workerBoot _ =>
      workerBoot ∈ s'.fencedBoots ∧ s'.registrations[publisher]? = none
  | .advanceEpoch _ => e.state.epoch.next = some s'.epoch
  | .createPolicy _ request => ∃ id record, s'.policyNames[request.name]? = some id ∧
      s'.policies[id]? = some record ∧ record.policy.name = request.name ∧
      record.policy.scope = request.scope ∧ record.policy.semantics = request.semantics
  | .updatePolicy _ request => ∃ record, s'.policies[request.policy]? = some record ∧
      record.policy.scope = request.update.scope ∧
      record.policy.semantics = request.update.semantics
  | .transitionPolicy request => Moved e.state s' request
  | .revalidate policy context => Moved e.state s' (State.revalidateRequest policy context)
  | .revokePolicy request => ∃ record revocation, s'.policies[request.policy]? = some record ∧
      record.policy.lifecycle = .revoked ∧ s'.revocations[request.policy]? = some revocation ∧
      revocation.reason = request.reason
  | .applyUpstream request => ∃ s₁,
      State.applyNotifications config.limits request.context e.state request.notifications =
        (s₁, none) ∧
      s' = { s₁ with attempts := s'.attempts, attemptOrder := s'.attemptOrder }
  | .publishEvidence _ request => ∃ clock, s'.evidence =
      ((acceptances clock request.publications).foldl (State.applyPublication config.limits)
        e.state).evidence
  | .commitEvaluation _ request => Prefers s' request.ticket
  | .evaluate _ _ request => ∃ begun e₁ ticket,
      beginEvaluation config.limits e begun request = some (e₁, ticket) ∧ Prefers s' ticket
  | .rollback _ request => ∃ record record', e.state.policies[request.policy]? = some record ∧
      s'.policies[request.policy]? = some record' ∧
      record'.preference.preferredPath = record.stable.path
  | .decodeStore _ decoded _ => ∃ now durable epoch authority, decoded = .ok durable ∧
      durable.epoch.next = some epoch ∧ durable.authorityGeneration.next = some authority ∧
      s' = State.recoveredState config now durable epoch authority
  | .beginEvaluation .. | .snapshot .. => False

theorem applied_resubmit {config : EngineConfig} {e : Engine} {s' : State} {op : Op}
    (begun now : Ticks) (clock : Nat → Ticks) :
    Applied config e s' (op.resubmit begun now clock) ↔ Applied config e s' op := by
  cases op <;> exact Iff.rfl

/-! ## Successes of the entry points -/

theorem Replayed.rejected {s : State} {attempt : MutationAttemptId} {fingerprint : Text}
    {answer : OperationResult} (h : Replayed s attempt fingerprint answer)
    (hfresh : s.attempts[attempt]? = none) : answer.outcome.isRejection = true := by
  rcases h with hrejects | ⟨-, -, record, hfound, -⟩
  · exact hrejects
  · rw [hfresh] at hfound
    cases hfound

theorem Outcome.not_rejection {outcome : Outcome} (h : outcome.isSuccess = true) :
    ¬ outcome.isRejection = true := by
  simp [Outcome.isRejection, h]

theorem CommitEffect.applies {limits : Limits} {s s' : State} {now : Ticks}
    {request : CommitDecisionRequest} {outcome : Outcome}
    (h : CommitEffect limits s now request s' outcome) (hsucceeds : outcome.isSuccess = true)
    (hfresh : s.attempts[request.context.attempt]? = none)
    (hticket : request.ticket.lifecycle ≠ .eligible → request.ticket.outcome.isRejection = true) :
    Prefers s' request.ticket := by
  have hrejected := Outcome.not_rejection hsucceeds
  have hlifecycle (hrejects : request.ticket.lifecycle = .rejected) :
      outcome.isRejection = true := by
    rw [(h.rejected hrejects).2]
    exact hticket (by simp [hrejects])
  cases h with
  | @refused refusal checks =>
    by_cases hrejects : request.ticket.lifecycle = .rejected
    · exact absurd (hlifecycle hrejects) hrejected
    · have hreplayed := s.commitChecks_replayed request hrejects refusal checks
      exact absurd (hreplayed.rejected hfresh) hrejected
  | suppressed checks ineligible => exact absurd (hticket ineligible) hrejected
  | unchanged => cases hsucceeds
  | unverified checks eligible other verified =>
    exact absurd (s.verifyCommit_refuses _ _ _ _ _ verified) hrejected
  | committed checks eligible other verified installs =>
    obtain ⟨htarget, -⟩ := State.verifyCommit_ok verified
    refine ⟨eligible, _, State.decided_get .., ?_⟩
    subst installs
    exact ⟨rfl, PolicyRecord.findCandidate_path htarget⟩

theorem RollbackEffect.applies {limits : Limits} {s s' : State} {now : Ticks}
    {request : RollbackRequest} {outcome : Outcome}
    (h : RollbackEffect limits s now request s' outcome) (hsucceeds : outcome.isSuccess = true)
    (hfresh : s.attempts[request.context.attempt]? = none) :
    ∃ record record', s.policies[request.policy]? = some record ∧
      s'.policies[request.policy]? = some record' ∧
      record'.preference.preferredPath = record.stable.path := by
  have hrejected := Outcome.not_rejection hsucceeds
  cases h with
  | @refused refusal checks =>
    have hreplayed := s.rollbackChecks_replayed request refusal checks
    exact absurd (hreplayed.rejected hfresh) hrejected
  | declined checks verified => exact absurd (State.verifyRollback_refuses _ _ verified) hrejected
  | recorded checks verified => exact absurd (State.verifyRollback_refuses _ _ verified) hrejected
  | restored checks =>
    obtain ⟨_, haccepted⟩ := State.rollbackChecks_ok checks
    exact ⟨_, _, haccepted.found, State.decided_get .., rfl⟩

theorem transitionPolicy_applies {s : State} {request : PolicyLifecycleRequest}
    (hsucceeds : (s.transitionPolicy request).2.outcome.isSuccess = true) :
    Moved s (s.transitionPolicy request).1 request := by
  unfold State.transitionPolicy at hsucceeds ⊢
  cases hchecks : s.transitionChecks request with
  | error refusal =>
    simp only [hchecks] at hsucceeds
    exact absurd (s.transitionChecks_rejecting request refusal hchecks)
      (Outcome.not_rejection hsucceeds)
  | ok accepted =>
    obtain ⟨record, next⟩ := accepted
    obtain ⟨_, haccepted⟩ := State.transitionChecks_ok hchecks
    simp only [hchecks] at hsucceeds ⊢
    split
    · rename_i hheld
      rw [if_pos hheld] at hsucceeds
      simp [Outcome.isSuccess] at hsucceeds
    · exact ⟨record, _, haccepted.found, Std.ExtTreeMap.getElem?_insert_self, haccepted.next⟩

section
variable {config : EngineConfig} {e e' : Engine} {op : Op} {answer : Answer}

theorem createPolicy_applies {now : Ticks} {request : CreatePolicyRequest} {result : OperationResult}
    (h : createPolicy config.limits e now request = some (e', result))
    (hsucceeds : result.outcome.isSuccess = true)
    (hfresh : e.state.attempts[request.context.attempt]? = none)
    (hminted : ∀ (id : AdaptivePolicyId) (ids : IdFactory), e.ids.mint .policy = some (id, ids) →
      e.state.policies[id]? = none) :
    Applied config e e'.state (.createPolicy now request) := by
  unfold createPolicy at h
  dsimp only at h
  split at h
  · rename_i refusal hchecks
    cases h
    have hreplayed := e.state.createChecks_replayed config.limits request result hchecks
    exact absurd (hreplayed.rejected hfresh) (Outcome.not_rejection hsucceeds)
  · split at h
    · cases h
      simp [Outcome.isSuccess] at hsucceeds
    · rename_i hname
      split at h
      · cases h
        simp [Outcome.isSuccess] at hsucceeds
      · obtain ⟨⟨id, ids⟩, hmint, h⟩ := Option.bind_eq_some_iff.1 h
        cases h
        have hunused := hminted id ids hmint
        have hunnamed : e.state.policyNames[request.name]? = none := by
          rw [Std.ExtTreeMap.contains_eq_isSome_getElem?] at hname
          exact Option.not_isSome_iff_eq_none.1 hname
        refine ⟨id, e.state.newRecord now id request, ?_, ?_, rfl, rfl, rfl⟩
        · rw [State.recordAttempt_policyNames, State.addPolicy, State.reindexPolicy_policyNames]
          exact insertIfNew_get hunnamed
        · rw [State.recordAttempt_policies, State.addPolicy, State.reindexPolicy_policies]
          exact insertIfNew_get hunused

theorem updatePolicy_applies {now : Ticks} {request : UpdatePolicyRequest}
    (hsucceeds : (e.state.updatePolicy config.limits now request).2.outcome.isSuccess = true)
    (hfresh : e.state.attempts[request.context.attempt]? = none) :
    Applied config e (e.state.updatePolicy config.limits now request).1
      (.updatePolicy now request) := by
  cases hchecks : e.state.updateChecks config.limits request with
  | error refusal =>
    simp only [State.updatePolicy, hchecks] at hsucceeds
    have hreplayed := e.state.updateChecks_replayed config.limits request refusal hchecks
    exact absurd (hreplayed.rejected hfresh) (Outcome.not_rejection hsucceeds)
  | ok accepted =>
    obtain ⟨record, fingerprint, generation⟩ := accepted
    have hfound : (e.state.updatePolicy config.limits now request).1.policies[request.policy]? =
        some (e.state.updatedRecord now request generation record) := by
      simp [State.updatePolicy, hchecks]
    refine ⟨_, hfound, ?_⟩
    unfold State.updatedRecord
    dsimp only
    split <;> exact ⟨rfl, rfl⟩

theorem applyUpstream_applies {request : UpstreamNotifyRequest}
    (hsucceeds : (e.state.applyUpstream config.limits request).2.outcome.isSuccess = true)
    (hfresh : e.state.attempts[request.context.attempt]? = none) :
    Applied config e (e.state.applyUpstream config.limits request).1 (.applyUpstream request) := by
  unfold State.applyUpstream at hsucceeds ⊢
  cases hchecks : e.state.upstreamChecks config.limits request with
  | error refusal =>
    simp only [hchecks] at hsucceeds
    have hreplayed := e.state.upstreamChecks_replayed config.limits request refusal hchecks
    exact absurd (hreplayed.rejected hfresh) (Outcome.not_rejection hsucceeds)
  | ok fingerprint =>
    simp only [hchecks] at hsucceeds ⊢
    cases hbatch : State.applyNotifications config.limits request.context e.state
        request.notifications with
    | mk s₁ refusal =>
      cases refusal with
      | some refusal =>
        simp only [hbatch] at hsucceeds
        exact absurd (State.applyNotifications_rejects hbatch) (Outcome.not_rejection hsucceeds)
      | none =>
        obtain ⟨attempts, order, hrecorded⟩ := s₁.recordAttempt_eq config.limits
          request.context.attempt fingerprint .policyUpdated "upstream bindings applied"
        refine ⟨s₁, hbatch, ?_⟩
        simp only
        rw [hrecorded]

theorem publishEvidence_applies {clock : Nat → Ticks} {request : PublishEvidenceRequest}
    (hsucceeds : (e.state.publishEvidence config.limits clock request).2.outcome.isSuccess = true)
    (hfresh : e.state.attempts[request.context.attempt]? = none) :
    Applied config e (e.state.publishEvidence config.limits clock request).1
      (.publishEvidence clock request) := by
  refine ⟨clock, ?_⟩
  unfold State.publishEvidence at hsucceeds ⊢
  cases hchecks : e.state.publishChecks config.limits request with
  | error refusal =>
    simp only [hchecks] at hsucceeds
    have hreplayed := e.state.publishChecks_replayed config.limits request refusal hchecks
    exact absurd (hreplayed.rejected hfresh) (Outcome.not_rejection hsucceeds)
  | ok fingerprint =>
    simp only [hchecks] at hsucceeds ⊢
    split
    · rfl
    · rw [State.recordAttempt_evidence]
      rfl

theorem revokePolicy_applies {request : RevokePolicyRequest}
    (hsucceeds : (e.state.revokePolicy config.limits request).2.outcome.isSuccess = true)
    (hrevoked : Revoked e.state) :
    Applied config e (e.state.revokePolicy config.limits request).1 (.revokePolicy request) := by
  cases hchecks : e.state.revokeChecks config.limits request with
  | error refusal =>
    have hkept : (e.state.revokePolicy config.limits request).1 = e.state := by
      simp [State.revokePolicy, hchecks]
    simp only [State.revokePolicy, hchecks] at hsucceeds
    rcases e.state.revokeChecks_replayed config.limits request refusal hchecks with
      hrejects | ⟨-, existing, hexisting, hreason⟩
    · exact absurd hrejects (Outcome.not_rejection hsucceeds)
    · obtain ⟨record, hfound, hlifecycle⟩ := hrevoked request.policy existing hexisting
      rw [hkept]
      exact ⟨record, existing, hfound, hlifecycle, hexisting, hreason⟩
  | ok record =>
    obtain ⟨record', revocation, hfound, -, hlifecycle, hrevocation, hreason⟩ :=
      State.revokePolicy_revokes hchecks
    exact ⟨record', revocation, hfound, hlifecycle, hrevocation, hreason⟩

theorem registerPublisher_applies {publisher : PublisherId} {workerBoot : WorkerBootId}
    {scope : AuthorityScope} {session : SessionId}
    (hsucceeds : (e.state.registerPublisher config.limits publisher workerBoot scope
      session).2.outcome.isSuccess = true) :
    Applied config e (e.state.registerPublisher config.limits publisher workerBoot scope session).1
      (.registerPublisher publisher workerBoot scope session) := by
  unfold State.registerPublisher at hsucceeds ⊢
  cases hchecks : e.state.registerChecks config.limits publisher workerBoot scope session with
  | error refusal =>
    simp only [hchecks] at hsucceeds
    exact absurd (e.state.registerChecks_rejecting _ _ _ _ _ refusal hchecks)
      (Outcome.not_rejection hsucceeds)
  | ok accepted =>
    simp only
    split
    · exact ⟨_, Std.ExtTreeMap.getElem?_insert_self, rfl, rfl, rfl, rfl⟩
    · rename_i existing _
      split
      · rename_i hboot
        exact ⟨_, Std.ExtTreeMap.getElem?_insert_self, hboot, rfl, rfl, rfl⟩
      · exact ⟨_, Std.ExtTreeMap.getElem?_insert_self, rfl, rfl, rfl, rfl⟩

theorem fencePublisher_applies {publisher : PublisherId} {workerBoot : WorkerBootId} {cause : Text}
    (hsucceeds : (e.state.fencePublisher publisher workerBoot cause).2.outcome.isSuccess = true) :
    Applied config e (e.state.fencePublisher publisher workerBoot cause).1
      (.fencePublisher publisher workerBoot cause) := by
  unfold State.fencePublisher at hsucceeds ⊢
  split
  · rename_i hnone
    simp [hnone, Outcome.isSuccess] at hsucceeds
  · rename_i existing hfound
    simp only [hfound] at hsucceeds
    split
    · rename_i hboot
      rw [if_pos hboot] at hsucceeds
      simp [Outcome.isSuccess] at hsucceeds
    · exact ⟨mem_insert_set.2 (.inl rfl), by simp⟩

theorem advanceEpoch_applies {reason : Text}
    (hsucceeds : (e.state.advanceEpoch reason).2.outcome.isSuccess = true) :
    Applied config e (e.state.advanceEpoch reason).1 (.advanceEpoch reason) := by
  unfold State.advanceEpoch at hsucceeds
  cases hnext : e.state.epoch.next with
  | none => simp [hnext, Outcome.isSuccess] at hsucceeds
  | some next =>
    cases hauthority : e.state.authorityGeneration.next with
    | none => simp [hnext, hauthority, Outcome.isSuccess] at hsucceeds
    | some authority =>
      have hentered : (e.state.advanceEpoch reason).1 =
          State.enterEpoch { e.state with epoch := next, authorityGeneration := authority } := by
        simp [State.advanceEpoch, hnext, hauthority]
      show e.state.epoch.next = some _
      rw [hentered, State.enterEpoch_epoch]
      exact hnext

theorem decodeStore_applies {now : Ticks} {decoded : Except Text DurableState} {origin : Text}
    (hsucceeds : (e.state.decodeStore config now decoded origin).2.outcome.isSuccess = true) :
    Applied config e (e.state.decodeStore config now decoded origin).1
      (.decodeStore now decoded origin) := by
  cases decoded with
  | error refusal => simp [State.decodeStore, Outcome.isSuccess] at hsucceeds
  | ok durable =>
    change Outcome.isSuccess (e.state.applyDurable config now durable origin).2.outcome = true
      at hsucceeds
    unfold State.applyDurable at hsucceeds
    split at hsucceeds
    · simp [Outcome.isSuccess] at hsucceeds
    · rename_i hversion
      split at hsucceeds
      · simp [Outcome.isSuccess] at hsucceeds
      · rename_i hlimits
        split at hsucceeds
        · rename_i epoch authority hepoch hauthority
          refine ⟨now, durable, epoch, authority, rfl, hepoch, hauthority, ?_⟩
          simp [State.decodeStore, State.applyDurable, hversion, hlimits, hepoch, hauthority]
        · simp [Outcome.isSuccess] at hsucceeds

/-- What a step needs for its success to be its own: the minted identity of a creation is free, and
a ticket that is handed in without being eligible says that it was refused. -/
structure Sound (e : Engine) (op : Op) : Prop where
  minted : ∀ now request, op = .createPolicy now request → ∀ (id : AdaptivePolicyId) (ids : IdFactory),
    e.ids.mint .policy = some (id, ids) → e.state.policies[id]? = none
  ticket : ∀ now request, op = .commitEvaluation now request →
    request.ticket.lifecycle ≠ .eligible → request.ticket.outcome.isRejection = true

/-- An operation whose attempt the table does not know, and that succeeds, applied what it asks
for. -/
theorem step_applies (h : e.step config op = some (e', answer)) (hsucceeds : answer.succeeds = true)
    (hrevoked : Revoked e.state) (hsound : Sound e op)
    (hfresh : ∀ context, op.context = some context → op.retries = true →
      e.state.attempts[context.attempt]? = none) : Applied config e e'.state op := by
  cases op with
  | registerPublisher publisher workerBoot scope session =>
    cases h
    exact registerPublisher_applies hsucceeds
  | fencePublisher publisher workerBoot cause =>
    cases h
    exact fencePublisher_applies hsucceeds
  | advanceEpoch reason =>
    cases h
    exact advanceEpoch_applies hsucceeds
  | createPolicy now request =>
    obtain ⟨⟨e₁, result⟩, hcreate, he⟩ := Option.map_eq_some_iff.1 h
    cases he
    exact createPolicy_applies hcreate hsucceeds (hfresh _ rfl rfl) (hsound.minted now request rfl)
  | updatePolicy now request =>
    cases h
    exact updatePolicy_applies hsucceeds (hfresh _ rfl rfl)
  | transitionPolicy request =>
    cases h
    exact transitionPolicy_applies hsucceeds
  | revokePolicy request =>
    cases h
    exact revokePolicy_applies hsucceeds hrevoked
  | applyUpstream request =>
    cases h
    exact applyUpstream_applies hsucceeds (hfresh _ rfl rfl)
  | publishEvidence clock request =>
    cases h
    exact publishEvidence_applies hsucceeds (hfresh _ rfl rfl)
  | beginEvaluation now request =>
    obtain ⟨⟨e₁, ticket⟩, -, he⟩ := Option.map_eq_some_iff.1 h
    cases he
    cases hsucceeds
  | commitEvaluation now request =>
    obtain ⟨⟨e₁, result⟩, hcommit, he⟩ := Option.map_eq_some_iff.1 h
    cases he
    exact (commitEvaluation_cases hcommit).applies hsucceeds (hfresh _ rfl rfl)
      (hsound.ticket now request rfl)
  | evaluate begun now request =>
    obtain ⟨⟨e₁, result⟩, hevaluate, he⟩ := Option.map_eq_some_iff.1 h
    cases he
    obtain ⟨e₂, ticket, hbegin, ⟨-, hticket⟩ | ⟨-, heffect⟩⟩ := evaluate_cases hevaluate
    · have hrejects := beginEvaluation_outcome hbegin
      rw [← hticket] at hrejects
      exact absurd hrejects (Outcome.not_rejection hsucceeds)
    · have hprefers := heffect.applies hsucceeds (hfresh _ rfl rfl)
        fun _ => beginEvaluation_outcome hbegin
      exact ⟨begun, e₂, ticket, hbegin, hprefers⟩
  | rollback now request =>
    obtain ⟨⟨e₁, result⟩, hrollback, he⟩ := Option.map_eq_some_iff.1 h
    cases he
    exact (rollback_cases hrollback).applies hsucceeds (hfresh _ rfl rfl)
  | revalidate policy context =>
    cases h
    exact transitionPolicy_applies hsucceeds
  | snapshot now policy =>
    obtain ⟨⟨e₁, view⟩, -, he⟩ := Option.map_eq_some_iff.1 h
    cases he
    cases hsucceeds
  | decodeStore now decoded origin =>
    cases h
    exact decodeStore_applies hsucceeds

end

/-! ## The calls behind the table -/

/-- The call recorded an attempt of its own, which was not in the table. -/
structure Records (call : Runs.Call Engine Op Answer) (attempt : MutationAttemptId)
    (record : AttemptRecord) : Prop where
  carries : ∃ context, call.label.context = some context ∧ context.attempt = attempt
  fresh : call.pre.state.attempts[attempt]? = none
  recorded : call.post.state.attempts[attempt]? = some record
  answers : call.reply.outcome = some record.outcome

/-- Every attempt of the table was recorded by one of the calls. -/
def Remembered (calls : List (Runs.Call Engine Op Answer)) (s : State) : Prop :=
  ∀ (attempt : MutationAttemptId) (record : AttemptRecord), s.attempts[attempt]? = some record →
    ∃ call ∈ calls, Records call attempt record

section
variable {config : EngineConfig} {e e' : Engine} {op : Op} {answer : Answer}
  {calls : List (Runs.Call Engine Op Answer)}

theorem Remembered.step (hs : Remembered calls e.state) (h : e.step config op = some (e', answer)) :
    Remembered (calls ++ [⟨e, op, answer, e'⟩]) e'.state := by
  have hearlier {attempt : MutationAttemptId} {record : AttemptRecord}
      (hrecord : e.state.attempts[attempt]? = some record) :
      ∃ call ∈ calls ++ [⟨e, op, answer, e'⟩], Records call attempt record := by
    obtain ⟨call, hmem, hrecords⟩ := hs attempt record hrecord
    exact ⟨call, List.mem_append_left _ hmem, hrecords⟩
  intro attempt record hrecord
  cases step_ledger h with
  | kept same => exact hearlier (by rwa [← State.attempts_of_ledger same])
  | cleared _ empty =>
    have hattempts : e'.state.attempts = {} := congrArg Prod.fst empty
    simp [hattempts] at hrecord
  | @recorded context fingerprint outcome detail carries prints valid fresh answers table =>
    have hattempts : e'.state.attempts = (e.state.recordAttempt config.limits context.attempt
        fingerprint outcome detail).attempts := congrArg Prod.fst table
    by_cases hown : context.attempt = attempt
    · subst hown
      have hretains : Retains context.attempt
          (e.state.recordAttempt config.limits context.attempt fingerprint outcome detail) := by
        rw [Retains, ← hattempts, hrecord]
        rfl
      have hkept := recordAttempt_kept valid fresh hretains
      rw [← hattempts, hrecord] at hkept
      cases hkept
      exact ⟨_, List.mem_append_right _ (List.mem_singleton.2 rfl), ⟨context, carries, rfl⟩, fresh,
        hrecord, answers⟩
    · rw [hattempts] at hrecord
      rcases recordAttempt_other valid fresh hown fingerprint outcome detail with hnone | hkept
      · rw [hnone] at hrecord
        cases hrecord
      · exact hearlier (hkept.symm.trans hrecord)

theorem Remembered.trace {ok : List (Runs.Call Engine Op Answer) → Engine → Op → Prop} {nonce : Text}
    (h : Runs.Trace (Engine.step config) ok (Engine.start config nonce) calls e) :
    Remembered calls e.state :=
  h.inv (I := fun calls e => Remembered calls e.state)
    (fun attempt record hrecord => by simp [Engine.start] at hrecord)
    fun _ _ _ _ _ hs hstep => hs.step hstep

end

/-! ## Honest successes -/

/-- The calls that make every success honest: they are sound, a recovered store revokes the policies
its revocations name, and one that finds its attempt in the table under the fingerprint of its
request finds the record of a success, written for the same request. -/
structure Disciplined (config : EngineConfig) (calls : List (Runs.Call Engine Op Answer)) (e : Engine)
    (op : Op) : Prop extends Sound e op where
  stored : ∀ durable, op.recovers config.limits = some durable → durable.revokes
  retried : ∀ context record, op.context = some context → op.retries = true →
    e.state.attempts[context.attempt]? = some record → Prints config.limits e op record.fingerprint →
      record.outcome.isSuccess = true ∧ ∀ call ∈ calls, Records call context.attempt record →
        ∃ begun now clock, op = call.label.resubmit begun now clock

/-- What the call asks for was applied by the call, or by an earlier one under the same attempt that
reported a success. -/
def Honest (config : EngineConfig) (calls : List (Runs.Call Engine Op Answer))
    (call : Runs.Call Engine Op Answer) : Prop :=
  Applied config call.pre call.post.state call.label ∨
    ∃ earlier ∈ calls, earlier.reply.succeeds = true ∧
      (∃ context context', call.label.context = some context ∧
        earlier.label.context = some context' ∧ context'.attempt = context.attempt) ∧
      Applied config earlier.pre earlier.post.state call.label

section
variable {config : EngineConfig} {e e' : Engine} {op : Op} {answer : Answer} {nonce : Text}
  {calls : List (Runs.Call Engine Op Answer)}

theorem Disciplined.revoked
    (h : Runs.Trace (Engine.step config) (Disciplined config) (Engine.start config nonce) calls e) :
    Revoked e.state :=
  Revoked.run (h.under fun _ _ _ hop => hop.stored)

/-- A call that recorded a success applied what it asks for. -/
theorem recorded_applies
    (h : Runs.Trace (Engine.step config) (Disciplined config) (Engine.start config nonce) calls e)
    {call : Runs.Call Engine Op Answer} (hmem : call ∈ calls) {attempt : MutationAttemptId}
    {record : AttemptRecord} (hrecords : Records call attempt record)
    (hsuccess : record.outcome.isSuccess = true) :
    call.reply.succeeds = true ∧ Applied config call.pre call.post.state call.label := by
  obtain ⟨before, hbefore, hok, hstep⟩ := h.called hmem
  have hsucceeds : call.reply.succeeds = true := by
    rw [Answer.succeeds, hrecords.answers]
    exact hsuccess
  refine ⟨hsucceeds, step_applies hstep hsucceeds (Disciplined.revoked hbefore) hok.toSound ?_⟩
  intro context hcontext _
  obtain ⟨context', hcarries, hattempt⟩ := hrecords.carries
  rw [hcontext] at hcarries
  cases hcarries
  rw [hattempt]
  exact hrecords.fresh

/-- In every run of disciplined calls, an operation that reports a success applied what it asks for,
or an earlier call under the same attempt did and reported a success. -/
theorem success_is_honest
    (h : Runs.Trace (Engine.step config) (Disciplined config) (Engine.start config nonce) calls e)
    (hop : Disciplined config calls e op) (hstep : e.step config op = some (e', answer))
    (hsucceeds : answer.succeeds = true) : Honest config calls ⟨e, op, answer, e'⟩ := by
  have hrevoked := Disciplined.revoked h
  by_cases hfound : ∃ context record, op.context = some context ∧ op.retries = true ∧
      e.state.attempts[context.attempt]? = some record
  · obtain ⟨context, record, hcontext, hretries, hrecord⟩ := hfound
    cases step_ledger hstep with
    | recorded carries prints valid fresh =>
      rw [hcontext] at carries
      cases carries
      rw [hrecord] at fresh
      cases fresh
    | cleared governs =>
      rw [Op.governs_of_context hcontext] at governs
      cases governs
    | kept same answers =>
      cases answers with
      | refused rejects =>
        rw [hsucceeds] at rejects
        cases rejects
      | unretried retries =>
        rw [hretries] at retries
        cases retries
      | @handedIn outcome rejected answers =>
        cases op with
        | commitEvaluation now request =>
          by_cases hticket : request.ticket.lifecycle = .rejected
          · have hrejects := hop.ticket now request rfl (by simp [hticket])
            simp only [Op.handedIn, if_pos hticket, Option.some.injEq] at rejected
            rw [rejected] at hrejects
            simp only [Answer.succeeds, answers, Option.any_some] at hsucceeds
            exact absurd hrejects (Outcome.not_rejection hsucceeds)
          · simp [Op.handedIn, hticket] at rejected
        | _ => cases rejected
      | @replayed context' record' carries prints valid found =>
        rw [hcontext] at carries
        cases carries
        rw [hrecord] at found
        cases found
        obtain ⟨hsuccess, hsame⟩ := hop.retried context record hcontext hretries hrecord prints
        obtain ⟨earlier, hmem, hrecords⟩ := Remembered.trace h context.attempt record hrecord
        obtain ⟨begun, now, clock, hlabel⟩ := hsame earlier hmem hrecords
        obtain ⟨hearlier, happlied⟩ := recorded_applies h hmem hrecords hsuccess
        obtain ⟨context', hcontext', hattempt⟩ := hrecords.carries
        refine .inr ⟨earlier, hmem, hearlier, ⟨context, context', hcontext, hcontext', hattempt⟩, ?_⟩
        show Applied config _ _ op
        rw [hlabel]
        exact (applied_resubmit begun now clock).2 happlied
  · refine .inl (step_applies hstep hsucceeds hrevoked hop.toSound fun context hcontext hretries => ?_)
    cases hrecord : e.state.attempts[context.attempt]? with
    | none => rfl
    | some record => exact absurd ⟨context, record, hcontext, hretries, hrecord⟩ hfound

end

/-! ## Successes of a deployment -/

namespace Scenario

/-- A creation of other semantics under the name that is taken. -/
def again : CreatePolicyRequest :=
  { create 1 with
    semantics := { semantics with improvements := [{ switchImprovementBps := 2000 }] }
    context := context 1 "again" }

def refused : List Op := created ++ [.createPolicy 1 again]

/-- The first calls of the deployment, with their answers. -/
theorem created_calls (ok : List (Runs.Call Engine Op Answer) → Engine → Op → Prop)
    (hregister : ok [] engine register)
    (hcreate : ∀ a₁, ok [⟨engine, register, a₁, after [register]⟩] (after [register])
      (.createPolicy 0 (create 1))) :
    ∃ a₁ a₂, Runs.Trace (Engine.step config) ok engine
      [⟨engine, register, a₁, after [register]⟩,
        ⟨after [register], .createPolicy 0 (create 1), a₂, after created⟩] (after created) := by
  obtain ⟨a₁, h₁⟩ := step_after [] register (by decide +kernel)
  obtain ⟨a₂, h₂⟩ := step_after [register] (.createPolicy 0 (create 1)) (by decide +kernel)
  exact ⟨a₁, a₂, .call (.call .start hregister h₁) (hcreate a₁) h₂⟩

end Scenario

open Scenario in
theorem replayed_creation_is_honest : ∃ calls e' answer,
    (after created).step config (.createPolicy 5 (create 1)) = some (e', answer) ∧
      answer.succeeds = true ∧
      Honest config calls ⟨after created, .createPolicy 5 (create 1), answer, e'⟩ := by
  have hsound {e : Engine} {now : Ticks} {request : CreatePolicyRequest}
      (hminted : (e.ids.mint .policy).all (fun (entry : AdaptivePolicyId × IdFactory) =>
        !e.state.policies.contains entry.1) = true) : Sound e (.createPolicy now request) :=
    { minted := fun _ _ _ id ids hmint => by
        rw [hmint, Option.all_some, Bool.not_eq_true', Std.ExtTreeMap.contains_eq_isSome_getElem?]
          at hminted
        exact Option.not_isSome_iff_eq_none.1 (Bool.eq_false_iff.1 hminted)
      ticket := fun _ _ h => by cases h }
  obtain ⟨a₁, a₂, htrace⟩ := created_calls (Disciplined config)
    { minted := fun _ _ h => by cases h
      ticket := fun _ _ h => by cases h
      stored := fun _ h => by cases h
      retried := fun _ _ h => by cases h }
    fun _ =>
      { hsound (by decide +kernel) with
        stored := fun _ h => by cases h
        retried := fun context record hcontext _ hrecord => by
          cases hcontext
          have hnone : (after [register]).state.attempts[(create 1).context.attempt]? = none := by
            decide +kernel
          rw [hnone] at hrecord
          cases hrecord }
  obtain ⟨result, hstep, houtcome⟩ := step_result
    (by decide +kernel : returns (created ++ [.createPolicy 5 (create 1)]) = true)
    (by decide +kernel : answers created (.createPolicy 5 (create 1))
      (fun answer => answer.outcome == some .idempotent) = true)
  have hsucceeds : (Answer.result result).succeeds = true := by
    simp [Answer.succeeds, Answer.outcome, houtcome, Outcome.isSuccess]
  refine ⟨_, _, _, hstep, hsucceeds, success_is_honest htrace
    { hsound (by decide +kernel) with
      stored := fun _ h => by cases h
      retried := fun context record hcontext _ hrecord _ => ?_ } hstep hsucceeds⟩
  cases hcontext
  have hkept : ((after created).state.attempts[(create 1).context.attempt]?).all
      (fun record => record.outcome.isSuccess) = true := by decide +kernel
  refine ⟨by simpa [hrecord] using hkept, fun call hmem hrecords => ⟨0, 5, fun _ => 5, ?_⟩⟩
  rcases List.mem_pair.1 hmem with rfl | rfl
  · obtain ⟨_, hcarries, -⟩ := hrecords.carries
    cases hcarries
  · rfl

open Scenario in
/-- A creation refused because its name is taken reports a success when it is submitted again. -/
theorem refused_creation_reports_success : ∃ calls e' result,
    Runs.Trace (Engine.step config) (fun _ _ _ => True) engine calls (after refused) ∧
      (after refused).step config (.createPolicy 2 again) = some (e', .result result) ∧
      result.outcome = .idempotent ∧
      ¬ Honest config calls ⟨after refused, .createPolicy 2 again, .result result, e'⟩ := by
  obtain ⟨a₁, a₂, htrace⟩ := created_calls (fun _ _ _ => True) trivial fun _ => trivial
  obtain ⟨r₃, h₃, houtcome₃⟩ := step_result
    (by decide +kernel : returns (created ++ [.createPolicy 1 again]) = true)
    (by decide +kernel : answers created (.createPolicy 1 again)
      (fun answer => answer.outcome == some .alreadyExists) = true)
  obtain ⟨result, hstep, houtcome⟩ := step_result
    (by decide +kernel : returns (refused ++ [.createPolicy 2 again]) = true)
    (by decide +kernel : answers refused (.createPolicy 2 again)
      (fun answer => answer.outcome == some .idempotent) = true)
  refine ⟨_, _, result, .call htrace trivial h₃, hstep, houtcome, ?_⟩
  rintro (happlied | ⟨earlier, hmem, hsucceeds, ⟨context, context', hcontext, hcontext', hattempt⟩, -⟩)
  · obtain ⟨id, record, hid, hrecord, -, -, hsemantics⟩ := happlied
    have hother : ((after (refused ++ [.createPolicy 2 again])).state.policyNames[again.name]?.bind
        fun (id : AdaptivePolicyId) =>
          (after (refused ++ [.createPolicy 2 again])).state.policies[id]?).all
        (fun record => record.policy.semantics != again.semantics) = true := by decide +kernel
    simp [hid, hrecord, hsemantics] at hother
  · cases hcontext
    simp only [List.cons_append, List.nil_append, List.mem_cons, List.not_mem_nil, or_false] at hmem
    rcases hmem with rfl | rfl | rfl
    · cases hcontext'
    · cases hcontext'
      exact absurd hattempt (by decide +kernel)
    · simp [Answer.succeeds, Answer.outcome, houtcome₃, Outcome.isSuccess] at hsucceeds

end AdaptiveRouting
