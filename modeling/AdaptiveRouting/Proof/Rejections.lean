import AdaptiveRouting.Proof.Registration
import AdaptiveRouting.Proof.Scenario

/-!
# Rejections

An operation on one target that is rejected leaves the state as it was, up to the attempt table
(`rejections_leave_no_trace`): every exit with a rejection stands ahead of the first write, but for a
`REVALIDATE` without a usable candidate, which writes back the lifecycle it found. An evaluation that
is recorded as suppressed writes the history of its policy and the journal besides. Only the epoch
advance writes ahead of its second overflow check (`epoch_advance_is_atomic_iff`).
-/

namespace AdaptiveRouting

open Guard Engine

/-! ## Traces -/

/-- The second state differs from the first in the attempt table at most. -/
def State.AttemptsOnly (s s' : State) : Prop :=
  ∃ attempts order, s' = { s with attempts := attempts, attemptOrder := order }

namespace State.AttemptsOnly

theorem refl (s : State) : s.AttemptsOnly s := ⟨s.attempts, s.attemptOrder, rfl⟩

theorem of_eq {s s' : State} (h : s' = s) : s.AttemptsOnly s' := h ▸ refl s

theorem recordAttempt (s : State) (limits : Limits) (attempt : MutationAttemptId)
    (fingerprint : Text) (outcome : Outcome) (detail : Text) :
    s.AttemptsOnly (s.recordAttempt limits attempt fingerprint outcome detail) :=
  s.recordAttempt_eq limits attempt fingerprint outcome detail

end State.AttemptsOnly

/-- The policy's history, the journal and the attempt table are all that changed. -/
def State.HistoryOnly (s s' : State) (policy : AdaptivePolicyId) : Prop :=
  ∃ record history journal attempts order, s.policies[policy]? = some record ∧
    s' = { s with
      policies := s.policies.insert policy { record with history := history }
      decisionJournal := journal
      attempts := attempts
      attemptOrder := order }

/-- An operation on one policy or one publisher. Phase two is one when its ticket is eligible. -/
inductive SingleTarget (limits : Limits) (e : Engine) : Op → Prop
  | register (publisher : PublisherId) (boot : WorkerBootId) (scope : AuthorityScope)
      (session : SessionId) : SingleTarget limits e (.registerPublisher publisher boot scope session)
  | fence (publisher : PublisherId) (boot : WorkerBootId) (cause : Text) :
      SingleTarget limits e (.fencePublisher publisher boot cause)
  | create (now : Ticks) (request : CreatePolicyRequest) :
      SingleTarget limits e (.createPolicy now request)
  | update (now : Ticks) (request : UpdatePolicyRequest) :
      SingleTarget limits e (.updatePolicy now request)
  | transition {op : Op} {request : PolicyLifecycleRequest} (requests : op.transition = some request) :
      SingleTarget limits e op
  | revoke (request : RevokePolicyRequest) : SingleTarget limits e (.revokePolicy request)
  | rollback (now : Ticks) (request : RollbackRequest) : SingleTarget limits e (.rollback now request)
  | commit {op : Op} {now : Ticks} {request : CommitDecisionRequest}
      (commits : Commits limits e op now request) (eligible : request.ticket.lifecycle = .eligible) :
      SingleTarget limits e op

/-! ## The entry points -/

section
variable {limits : Limits} {s s' : State} {now : Ticks}

/-- A `REVALIDATE` is defined in one lifecycle only, the one its refusal writes. -/
theorem applyPolicyEvent_revalidate {lifecycle next : PolicyLifecycle}
    (h : applyPolicyEvent lifecycle .revalidate = some next) :
    lifecycle = .revalidationRequired := by
  cases lifecycle <;> simp_all [applyPolicyEvent]

/-- The refusal of a `REVALIDATE` writes back the record it found. -/
theorem revalidate_keeps {request : PolicyLifecycleRequest} {record : PolicyRecord}
    {next : PolicyLifecycle} (h : s.transitionChecks request = .ok (record, next))
    (hevent : request.event = .revalidate) :
    s.putRecord request.policy
      { record with policy := { record.policy with lifecycle := .revalidationRequired } } = s := by
  obtain ⟨_, haccepted⟩ := State.transitionChecks_ok h
  have hnext := haccepted.next
  rw [hevent] at hnext
  rw [← applyPolicyEvent_revalidate hnext]
  show ({ s with policies := s.policies.insert request.policy record } : State) = s
  rw [insert_get haccepted.found]

theorem transitionPolicy_rejected {request : PolicyLifecycleRequest}
    (hrejected : (s.transitionPolicy request).2.outcome.isRejection = true) :
    (s.transitionPolicy request).1 = s := by
  unfold State.transitionPolicy at hrejected ⊢
  cases hchecks : s.transitionChecks request with
  | error answer => rfl
  | ok accepted =>
    obtain ⟨record, next⟩ := accepted
    simp only [hchecks] at hrejected ⊢
    split
    · rename_i hheld
      have hevent : request.event = .revalidate := by simp_all
      exact revalidate_keeps hchecks hevent
    · rename_i hmoved
      rw [if_neg hmoved] at hrejected
      simp [Outcome.isRejection, Outcome.isSuccess] at hrejected

theorem revokePolicy_rejected {request : RevokePolicyRequest}
    (hrejected : (s.revokePolicy limits request).2.outcome.isRejection = true) :
    (s.revokePolicy limits request).1 = s := by
  unfold State.revokePolicy at hrejected ⊢
  cases hchecks : s.revokeChecks limits request with
  | error answer => rfl
  | ok record => simp [hchecks, Outcome.isRejection, Outcome.isSuccess] at hrejected

theorem updatePolicy_rejected {request : UpdatePolicyRequest}
    (hrejected : (s.updatePolicy limits now request).2.outcome.isRejection = true) :
    (s.updatePolicy limits now request).1 = s := by
  unfold State.updatePolicy at hrejected ⊢
  cases hchecks : s.updateChecks limits request with
  | error answer => rfl
  | ok accepted => simp [hchecks, Outcome.isRejection, Outcome.isSuccess] at hrejected

theorem registerPublisher_rejected {publisher : PublisherId} {boot : WorkerBootId}
    {scope : AuthorityScope} {session : SessionId}
    (hrejected : (s.registerPublisher limits publisher boot scope session).2.outcome.isRejection =
      true) : (s.registerPublisher limits publisher boot scope session).1 = s := by
  unfold State.registerPublisher at hrejected ⊢
  cases hchecks : s.registerChecks limits publisher boot scope session with
  | error answer => rfl
  | ok u =>
    simp only [hchecks] at hrejected
    split at hrejected
    · simp [Outcome.isRejection, Outcome.isSuccess] at hrejected
    · split at hrejected <;> simp [Outcome.isRejection, Outcome.isSuccess] at hrejected

theorem fencePublisher_rejected {publisher : PublisherId} {boot : WorkerBootId} {cause : Text}
    (hrejected : (s.fencePublisher publisher boot cause).2.outcome.isRejection = true) :
    (s.fencePublisher publisher boot cause).1 = s := by
  unfold State.fencePublisher at hrejected ⊢
  cases hfound : s.registrations[publisher]? with
  | none => rfl
  | some existing =>
    simp only [hfound] at hrejected ⊢
    split
    · rfl
    · rename_i hboot
      rw [if_neg hboot] at hrejected
      simp [Outcome.isRejection, Outcome.isSuccess] at hrejected

theorem RollbackEffect.rejected {request : RollbackRequest} {outcome : Outcome}
    (h : RollbackEffect limits s now request s' outcome) (hrejected : outcome.isRejection = true) :
    s.AttemptsOnly s' := by
  cases h with
  | refused => exact .refl s
  | declined => exact .refl s
  | recorded => exact .recordAttempt s ..
  | restored => cases hrejected

theorem CommitEffect.traceless {request : CommitDecisionRequest} {outcome : Outcome}
    (h : CommitEffect limits s now request s' outcome)
    (heligible : request.ticket.lifecycle = .eligible) (hrejected : outcome.isRejection = true) :
    s.AttemptsOnly s' := by
  cases h with
  | refused => exact .refl s
  | suppressed checks ineligible => exact absurd heligible ineligible
  | unchanged => exact .recordAttempt s ..
  | unverified => exact .refl s
  | committed => cases hrejected

/-- Phase two on a ticket that is not eligible refuses it, or records the suppression. -/
theorem CommitEffect.suppresses {request : CommitDecisionRequest} {outcome : Outcome}
    (h : CommitEffect limits s now request s' outcome)
    (hineligible : request.ticket.lifecycle ≠ .eligible) :
    s' = s ∨ s.HistoryOnly s' request.ticket.dependencies.policy := by
  cases h with
  | refused => exact .inl rfl
  | @suppressed record id decision checks ineligible decides =>
    obtain ⟨_, haccepted⟩ := State.commitChecks_ok checks
    obtain ⟨attempts, order, hrecorded⟩ := State.recordAttempt_eq
      ((s.putRecord request.ticket.dependencies.policy
        (record.remember limits (historyEntry decision now))).journal limits decision)
      limits request.context.attempt (fingerprintCommit request.ticket) request.ticket.outcome
      decision.digest
    exact .inr ⟨record, (record.remember limits (historyEntry decision now)).history,
      (s.journal limits decision).decisionJournal, attempts, order, haccepted.found, hrecorded⟩
  | unchanged checks eligible => exact absurd eligible hineligible
  | unverified checks eligible => exact absurd eligible hineligible
  | committed checks eligible => exact absurd eligible hineligible

end

section
variable {config : EngineConfig} {e e' : Engine} {op : Op} {answer : Answer} {now : Ticks}

theorem createPolicy_rejected {request : CreatePolicyRequest} {result : OperationResult}
    (h : createPolicy config.limits e now request = some (e', result))
    (hrejected : result.outcome.isRejection = true) : e.state.AttemptsOnly e'.state := by
  unfold createPolicy at h
  dsimp only at h
  split at h
  · cases h
    exact .refl _
  · split at h
    · cases h
      exact .recordAttempt _ ..
    · split at h
      · cases h
        exact .recordAttempt _ ..
      · obtain ⟨⟨id, ids⟩, hmint, h⟩ := Option.bind_eq_some_iff.1 h
        cases h
        cases hrejected.symm.trans (congrArg Outcome.isRejection (State.makeResult_outcome ..))

/-- Phase two of an operation, unless it was not reached. -/
theorem step_commits {request : CommitDecisionRequest} (hop : Commits config.limits e op now request)
    (h : e.step config op = some (e', answer)) :
    e'.state = e.state ∨ ∃ outcome, answer.outcome = some outcome ∧
      CommitEffect config.limits e.state now request e'.state outcome := by
  cases hop with
  | commit =>
    obtain ⟨⟨e₁, result⟩, hcommit, he⟩ := Option.map_eq_some_iff.1 h
    cases he
    exact .inr ⟨_, rfl, commitEvaluation_cases hcommit⟩
  | evaluate begins =>
    obtain ⟨⟨e₁, result⟩, hevaluate, he⟩ := Option.map_eq_some_iff.1 h
    cases he
    obtain ⟨e₂, ticket, hbegin, ⟨hs, -⟩ | ⟨-, hs⟩⟩ := evaluate_cases hevaluate
    · exact .inl hs
    · rw [hbegin] at begins
      cases begins
      exact .inr ⟨_, rfl, hs⟩

/-- Phase one, from the step that takes it. -/
theorem step_begun {request : EvaluateRequest} {ticket : EvaluationTicket}
    (h : e.step config (.beginEvaluation now request) = some (e', .ticket ticket)) :
    ∃ e₁, beginEvaluation config.limits e now request = some (e₁, ticket) := by
  obtain ⟨⟨e₁, ticket'⟩, hbegin, he⟩ := Option.map_eq_some_iff.1 h
  cases he
  exact ⟨e₁, hbegin⟩

theorem step_transition {request : PolicyLifecycleRequest} (hop : op.transition = some request)
    (h : e.step config op = some (e', answer)) :
    e'.state = (e.state.transitionPolicy request).1 ∧
      answer = .result (e.state.transitionPolicy request).2 := by
  cases op with
  | transitionPolicy | revalidate =>
    cases hop
    cases h
    exact ⟨rfl, rfl⟩
  | _ => cases hop

end

/-- A rejected operation on one target changes nothing but the attempt table, and an evaluation that
does not adapt changes nothing, or the history of its policy, the journal and the attempt table. -/
theorem rejections_leave_no_trace {config : EngineConfig} {e e' : Engine} {op : Op} {answer : Answer}
    (h : e.step config op = some (e', answer)) :
    (SingleTarget config.limits e op →
      (∃ outcome, answer.outcome = some outcome ∧ outcome.isRejection = true) →
      e.state.AttemptsOnly e'.state) ∧
    (∀ (now : Ticks) (request : CommitDecisionRequest), Commits config.limits e op now request →
      request.ticket.lifecycle ≠ .eligible →
      e'.state = e.state ∨ e.state.HistoryOnly e'.state request.ticket.dependencies.policy) := by
  refine ⟨fun hop hanswer => ?_, fun now request hcommits hineligible => ?_⟩
  · obtain ⟨outcome, hanswer, hrejected⟩ := hanswer
    cases hop with
    | register publisher boot scope session =>
      cases h
      cases hanswer
      exact .of_eq (registerPublisher_rejected hrejected)
    | fence publisher boot cause =>
      cases h
      cases hanswer
      exact .of_eq (fencePublisher_rejected hrejected)
    | create now request =>
      obtain ⟨⟨e₁, result⟩, hcreate, he⟩ := Option.map_eq_some_iff.1 h
      cases he
      cases hanswer
      exact createPolicy_rejected hcreate hrejected
    | update now request =>
      cases h
      cases hanswer
      exact .of_eq (updatePolicy_rejected hrejected)
    | transition requests =>
      obtain ⟨hstate, hreply⟩ := step_transition requests h
      subst hreply
      cases hanswer
      exact .of_eq (hstate.trans (transitionPolicy_rejected hrejected))
    | revoke request =>
      cases h
      cases hanswer
      exact .of_eq (revokePolicy_rejected hrejected)
    | rollback now request =>
      obtain ⟨⟨e₁, result⟩, hrollback, he⟩ := Option.map_eq_some_iff.1 h
      cases he
      cases hanswer
      exact (rollback_cases hrollback).rejected hrejected
    | commit commits eligible =>
      rcases step_commits commits h with hstate | ⟨outcome', hreply, heffect⟩
      · exact .of_eq hstate
      · rw [hreply] at hanswer
        cases hanswer
        exact heffect.traceless eligible hrejected
  · rcases step_commits hcommits h with hstate | ⟨outcome, -, heffect⟩
    · exact .inl hstate
    · exact heffect.suppresses hineligible

open Scenario in
/-- A second policy of the same name is refused, and an evaluation of a policy that prefers its only
path is suppressed. -/
theorem duplicate_creation_leaves_no_trace :
    let again : Op := .createPolicy 1 { create 1 with context := context 1 "again" }
    let idle : Op := .evaluate 3 3 (evaluation "idle")
    (after created).state.AttemptsOnly (after (created ++ [again])).state ∧
      ((after (Scenario.settled ++ [idle])).state = (after Scenario.settled).state ∨
        (after Scenario.settled).state.HistoryOnly (after (Scenario.settled ++ [idle])).state
          policy) := by
  intro again idle
  constructor
  · obtain ⟨result, hstep, hrefused⟩ := @step_result created again .alreadyExists
      (by decide +kernel) (by decide +kernel)
    exact (rejections_leave_no_trace hstep).1 (.create 1 _) ⟨_, rfl, by rw [hrefused]; rfl⟩
  · obtain ⟨answer, hstep⟩ := step_after Scenario.settled idle (by decide +kernel)
    obtain ⟨e, hbegins⟩ := step_begun (@step_ticket Scenario.settled
      (.beginEvaluation 3 (evaluation "idle")) (by decide +kernel) (by decide +kernel))
    exact (rejections_leave_no_trace hstep).2 3 _ (.evaluate hbegins) (by decide +kernel)

/-! ## Epoch advance -/

/-- Every live boot is the boot of a registration. -/
def State.Manned (s : State) : Prop :=
  ∀ (boot : WorkerBootId) (publisher : PublisherId), s.liveBoots[boot]? = some publisher →
    ∃ registration, s.registrations[publisher]? = some registration ∧ registration.workerBoot = boot

namespace State.Manned

variable {s s' : State}

theorem congr (h : s.Manned) (hstanding : s'.standing = s.standing) : s'.Manned := by
  intro boot publisher hlive
  rw [show s'.liveBoots = s.liveBoots from congrArg Standing.liveBoots hstanding] at hlive
  rw [registrations_of_standing hstanding]
  exact h boot publisher hlive

theorem of_empty (hboots : s.liveBoots = {}) : s.Manned := by
  intro boot publisher hlive
  simp [hboots] at hlive

/-- A publisher takes a boot, and gives up the one it held. -/
theorem take (h : s.Manned) {publisher : PublisherId} (registration : PublisherRegistration)
    (hregistrations : s'.registrations = s.registrations.insert publisher registration)
    (hlive : ∀ (boot : WorkerBootId) (holder : PublisherId), s'.liveBoots[boot]? = some holder →
      boot = registration.workerBoot ∧ holder = publisher ∨
        s.liveBoots[boot]? = some holder ∧ ∀ held, s.registrations[publisher]? = some held →
          held.workerBoot = boot → registration.workerBoot = boot) : s'.Manned := by
  intro boot holder hboot
  rw [hregistrations]
  by_cases hholder : publisher = holder
  · subst hholder
    refine ⟨registration, Std.ExtTreeMap.getElem?_insert_self, ?_⟩
    rcases hlive boot publisher hboot with ⟨heq, -⟩ | ⟨hkept, hheld⟩
    · exact heq.symm
    · obtain ⟨held, hfound, hboot⟩ := h boot publisher hkept
      exact hheld held hfound hboot
  · rw [get_insert_ne hholder]
    rcases hlive boot holder hboot with ⟨-, heq⟩ | ⟨hkept, -⟩
    · exact absurd heq.symm hholder
    · exact h boot holder hkept

theorem registerPublisher (h : s.Manned) (limits : Limits) (publisher : PublisherId)
    (boot : WorkerBootId) (scope : AuthorityScope) (session : SessionId) :
    (s.registerPublisher limits publisher boot scope session).1.Manned := by
  unfold State.registerPublisher
  cases s.registerChecks limits publisher boot scope session with
  | error answer => exact h
  | ok u =>
    have hinsert (table : Std.ExtTreeMap WorkerBootId PublisherId) (boot' : WorkerBootId)
        (holder : PublisherId) (hget : (table.insert boot publisher)[boot']? = some holder) :
        boot' = boot ∧ holder = publisher ∨ boot ≠ boot' ∧ table[boot']? = some holder := by
      by_cases hboot : boot = boot'
      · subst hboot
        rw [Std.ExtTreeMap.getElem?_insert_self] at hget
        cases hget
        exact .inl ⟨rfl, rfl⟩
      · rw [get_insert_ne hboot] at hget
        exact .inr ⟨hboot, hget⟩
    dsimp only
    cases hexisting : s.registrations[publisher]? with
    | none =>
      refine h.take ⟨publisher, boot, scope, _, _, session⟩ rfl fun boot' holder hget => ?_
      rcases hinsert s.liveBoots boot' holder hget with hnew | ⟨-, hkept⟩
      · exact .inl hnew
      · exact .inr ⟨hkept, fun held hheld => by rw [hexisting] at hheld; cases hheld⟩
    | some existing =>
      dsimp only
      split
      · refine h.take { existing with
          scope, session, epoch := s.epoch, authorityGeneration := s.authorityGeneration } rfl
          fun boot' holder hget => .inr ⟨hget, fun held hheld => ?_⟩
        rw [hexisting] at hheld
        cases hheld
        exact id
      · refine h.take ⟨publisher, boot, scope, _, _, session⟩ rfl fun boot' holder hget => ?_
        rcases hinsert (s.liveBoots.erase existing.workerBoot) boot' holder hget with
          hnew | ⟨-, hkept⟩
        · exact .inl hnew
        · rw [Std.ExtTreeMap.getElem?_erase] at hkept
          split at hkept
          · cases hkept
          · rename_i hother
            refine .inr ⟨hkept, fun held hheld hboot => absurd ?_ hother⟩
            rw [hexisting] at hheld
            cases hheld
            rw [hboot]
            exact Std.ReflCmp.compare_self

theorem fencePublisher (h : s.Manned) (publisher : PublisherId) (boot : WorkerBootId)
    (cause : Text) : (s.fencePublisher publisher boot cause).1.Manned := by
  unfold State.fencePublisher
  cases hexisting : s.registrations[publisher]? with
  | none => exact h
  | some existing =>
    dsimp only
    split
    · exact h
    · rename_i hboot
      intro boot' holder hget
      change (s.liveBoots.erase boot)[boot']? = some holder at hget
      show ∃ registration, (s.registrations.erase publisher)[holder]? = some registration ∧ _
      rw [Std.ExtTreeMap.getElem?_erase] at hget ⊢
      split at hget
      · cases hget
      · rename_i hother
        obtain ⟨registration, hregistered, hheld⟩ := h boot' holder hget
        refine ⟨registration, ?_, hheld⟩
        rw [if_neg, hregistered]
        intro hsame
        rw [← Std.LawfulEqCmp.eq_of_compare hsame, hexisting] at hregistered
        cases hregistered
        apply hother
        rw [← hheld, Decidable.not_not.1 hboot]
        exact Std.ReflCmp.compare_self

end State.Manned

section
variable {config : EngineConfig} {e e' : Engine} {op : Op} {answer : Answer}

theorem State.Manned.step (hs : e.state.Manned) (h : e.step config op = some (e', answer)) :
    e'.state.Manned := by
  by_cases hgoverns : op.governs = true
  · cases op with
    | registerPublisher publisher boot scope session =>
      cases h
      exact hs.registerPublisher config.limits publisher boot scope session
    | fencePublisher publisher boot cause =>
      cases h
      exact hs.fencePublisher publisher boot cause
    | advanceEpoch reason =>
      cases h
      show (e.state.advanceEpoch reason).1.Manned
      unfold State.advanceEpoch
      split
      · exact hs
      · dsimp only
        split
        · exact hs
        · exact .of_empty rfl
    | decodeStore now decoded origin =>
      cases h
      cases decoded with
      | error refusal => exact hs
      | ok durable =>
        change (e.state.applyDurable config now durable origin).1.Manned
        rcases applyDurable_cases e.state config now durable origin with
          ⟨-, hsame⟩ | ⟨-, epoch, authority, -, -, hrecovered⟩
        · rw [hsame]
          exact hs
        · rw [hrecovered]
          exact .of_empty (congrArg State.Standing.liveBoots
            (recoveredState_standing config now durable epoch authority))
    | _ => cases hgoverns
  · exact hs.congr (step_standing h (by simpa using hgoverns))

theorem State.Manned.reachable (h : Engine.Reachable config e) : e.state.Manned := by
  obtain ⟨nonce, hrun⟩ := h
  exact hrun.inv (I := fun e => e.state.Manned) (fun _ _ _ _ _ hs hstep => hs.step hstep)
    (.of_empty rfl)

end

/-- The whole of an epoch advance. -/
structure State.Entered (s s' : State) : Prop where
  epoch : s.epoch.next = some s'.epoch
  authority : s.authorityGeneration.next = some s'.authorityGeneration
  fenced : ∀ boot, s.Registered boot → boot ∈ s'.fencedBoots
  registrations : s'.registrations = {}
  liveBoots : s'.liveBoots = {}
  attempts : s'.attempts = {}
  attemptOrder : s'.attemptOrder = []
  revalidates : ∀ (policy : AdaptivePolicyId) (record : PolicyRecord),
    s.policies[policy]? = some record → record.policy.lifecycle.terminal = false →
    ∃ record', s'.policies[policy]? = some record' ∧
      record'.policy.lifecycle = .revalidationRequired

/-- An epoch advance went through as a whole, or was refused as exhausted and changed nothing. -/
def State.Atomic (s : State) (after : State × OperationResult) : Prop :=
  after.2.outcome.isSuccess = true ∧ s.Entered after.1 ∨
    after.2.outcome = .generationOverflow ∧ after.1 = s

theorem State.enterEpoch_entered {s : State} {epoch : CoordinatorEpoch}
    {authority : AdaptiveAuthorityGeneration} (hepoch : s.epoch.next = some epoch)
    (hauthority : s.authorityGeneration.next = some authority) :
    s.Entered (State.enterEpoch { s with epoch := epoch, authorityGeneration := authority }) where
  epoch := by rw [enterEpoch_epoch, hepoch]
  authority := by
    rw [hauthority]
    exact congrArg some (foldl_keeps (f := fenceLive) State.authorityGeneration (fun _ _ => rfl)
      s.registrations.toList { s with epoch := epoch, authorityGeneration := authority }).symm
  fenced := fun boot hregistered => (fenceAll_fencedBoots
    { s with epoch := epoch, authorityGeneration := authority } boot).2 (.inr hregistered)
  registrations := rfl
  liveBoots := rfl
  attempts := rfl
  attemptOrder := rfl
  revalidates := fun policy record hfound hlive => by
    refine ⟨requireRevalidation record, ?_, by simp [requireRevalidation, hlive]⟩
    show (s.policies.map _)[policy]? = _
    rw [Std.ExtTreeMap.getElem?_map, hfound]
    rfl

/-- An epoch advance is atomic exactly when the epoch is exhausted or the authority generation is
not. The boots it fences are all that are live in a reachable state. -/
theorem epoch_advance_is_atomic_iff (config : EngineConfig) (e : Engine) (reason : Text) :
    (e.state.Atomic (e.state.advanceEpoch reason) ↔
      e.state.epoch.next = none ∨ e.state.authorityGeneration.next.isSome = true) ∧
    (Engine.Reachable config e →
      ∀ boot : WorkerBootId, boot ∈ e.state.liveBoots → e.state.Registered boot) := by
  refine ⟨?_, fun hreachable boot hlive => ?_⟩
  · generalize e.state = s
    unfold State.advanceEpoch
    cases hepoch : s.epoch.next with
    | none => exact iff_of_true (.inr ⟨State.makeResult_outcome .., rfl⟩) (.inl rfl)
    | some epoch =>
      dsimp only
      cases hauthority : s.authorityGeneration.next with
      | none =>
        refine iff_of_false ?_ (by simp)
        intro hatomic
        rcases hatomic with ⟨hsuccess, -⟩ | ⟨-, hsame⟩
        · rw [State.makeResult_outcome] at hsuccess
          cases hsuccess
        · -- the epoch was already written
          have hkept : epoch = s.epoch := congrArg State.epoch hsame
          have hgrows := Generation.next_toNat hepoch
          rw [hkept] at hgrows
          omega
      | some authority =>
        refine iff_of_true (.inl ⟨?_, State.enterEpoch_entered hepoch hauthority⟩) (.inr rfl)
        rw [State.makeResult_outcome]
        rfl
  · rw [Std.ExtTreeMap.mem_iff_isSome_getElem?] at hlive
    obtain ⟨publisher, hpublisher⟩ := Option.isSome_iff_exists.1 hlive
    obtain ⟨registration, hregistered, hboot⟩ :=
      State.Manned.reachable hreachable boot publisher hpublisher
    exact ⟨publisher, registration, hregistered, hboot⟩

open Scenario in
/-- A store with the last authority generation but one is recovered, and the next epoch advance is
refused with the epoch already written. -/
theorem refused_advance_writes_epoch :
    let stored : DurableState :=
      { epoch := ⟨1⟩, authorityGeneration := ⟨18446744073709551614⟩, evidenceGeneration := ⟨1⟩ }
    let restored : State := (after [.decodeStore 0 (.ok stored) []]).state
    Engine.Reachable config (after [.decodeStore 0 (.ok stored) []]) ∧
      (restored.advanceEpoch []).2.outcome = .generationOverflow ∧
      restored.epoch = ⟨2⟩ ∧ (restored.advanceEpoch []).1.epoch = ⟨3⟩ ∧
      ¬ restored.Atomic (restored.advanceEpoch []) := by
  intro stored restored
  have hbefore : restored.epoch = ⟨2⟩ := by decide +kernel
  have hafter : (restored.advanceEpoch []).1.epoch = ⟨3⟩ := by decide +kernel
  have hrefused : (restored.advanceEpoch []).2.outcome = .generationOverflow := by decide +kernel
  refine ⟨reachable_after (by decide +kernel), hrefused, hbefore, hafter, ?_⟩
  intro hatomic
  rcases hatomic with ⟨hsuccess, -⟩ | ⟨-, hsame⟩
  · rw [hrefused] at hsuccess
    cases hsuccess
  · rw [hsame, hbefore] at hafter
    exact absurd hafter (by decide)

end AdaptiveRouting
