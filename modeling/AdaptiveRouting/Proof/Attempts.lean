import AdaptiveRouting.Lib.Retention
import AdaptiveRouting.Proof.Standing
import AdaptiveRouting.Proof.Ticket

/-!
# The attempt table

What one operation does to the table of attempts (`step_ledger`): it keeps it, clears it, or records
its own attempt, which was not in the table, under the fingerprint of its request and with the outcome
it answers. A check of an entry point answers a rejection, or the replay of the retained attempt of
its request (`Replayed`). So a retained attempt keeps its record (`retained_run`), and an operation
that records nothing succeeds only as such a replay (`Unrecorded`).
-/

namespace AdaptiveRouting

open Guard Engine

/-! ## The table in the state -/

namespace State

/-- The attempts and the order they are forgotten in. -/
def ledger (s : State) : Std.ExtTreeMap MutationAttemptId AttemptRecord × List MutationAttemptId :=
  (s.attempts, s.attemptOrder)

theorem attempts_of_ledger {s s' : State} (h : s'.ledger = s.ledger) : s'.attempts = s.attempts :=
  congrArg Prod.fst h

@[simp] theorem reindexPolicy_ledger (s : State) (limits : Limits) (policy : AdaptivePolicyId) :
    (s.reindexPolicy limits policy).ledger = s.ledger := by
  unfold reindexPolicy
  split <;> rfl

@[simp] theorem unindexPolicy_ledger (s : State) (policy : AdaptivePolicyId) :
    (s.unindexPolicy policy).ledger = s.ledger := by
  unfold unindexPolicy
  split <;> rfl

@[simp] theorem applyInvalidation_ledger (s : State) (path : PathId) :
    (s.applyInvalidation path).ledger = s.ledger := by
  obtain ⟨_, _, h⟩ := s.applyInvalidation_eq path
  rw [h]
  rfl

theorem Applies.ledger {limits : Limits} {s s' : State} {record : PolicyRecord}
    {n : UpstreamNotification} (h : Applies limits s record n s') : s'.ledger = s.ledger := by
  cases h with
  | declared => rw [reindexPolicy_ledger]; rfl
  | edited => rfl
  | invalidated => rw [applyInvalidation_ledger]; rfl

theorem applyNotifications_ledger (limits : Limits) (context : MutationContext) (s : State)
    (notifications : List UpstreamNotification) :
    (applyNotifications limits context s notifications).1.ledger = s.ledger :=
  applyNotifications_rel (R := fun s s' => s'.ledger = s.ledger) (fun _ => rfl)
    (fun h₁ h₂ => h₂.trans h₁)
    (fun _ _ _ h => by
      obtain ⟨_, _, _, happlies⟩ := applyNotification_ok h
      exact happlies.ledger) notifications s

/-- Recording an attempt reads the table only. -/
theorem recordAttempt_ledger {s s' : State} (h : s'.ledger = s.ledger) (limits : Limits)
    (attempt : MutationAttemptId) (fingerprint : Text) (outcome : Outcome) (detail : Text) :
    (s'.recordAttempt limits attempt fingerprint outcome detail).ledger =
      (s.recordAttempt limits attempt fingerprint outcome detail).ledger := by
  have hattempts : s'.attempts = s.attempts := congrArg Prod.fst h
  have horder : s'.attemptOrder = s.attemptOrder := congrArg Prod.snd h
  unfold recordAttempt
  split
  · exact h
  · simp only [hattempts, horder]
    split
    · rfl
    · rfl

/-- A fresh attempt goes to the end of the table, and the oldest ones give way. -/
theorem recordAttempt_fresh {s : State} {attempt : MutationAttemptId} (hvalid : attempt.valid = true)
    (hfresh : s.attempts[attempt]? = none) (limits : Limits) (fingerprint : Text)
    (outcome : Outcome) (detail : Text) :
    (s.recordAttempt limits attempt fingerprint outcome detail).ledger =
      let surplus := (s.attemptOrder ++ [attempt]).length - limits.maxAttempts.toNat
      (Retention.eraseAll ((s.attemptOrder ++ [attempt]).take surplus)
          (s.attempts.insert attempt { attempt, fingerprint, outcome, detail }),
        (s.attemptOrder ++ [attempt]).drop surplus) := by
  have habsent : s.attempts.contains attempt = false := by
    rw [Std.ExtTreeMap.contains_eq_isSome_getElem?, hfresh]
    rfl
  unfold recordAttempt
  simp only [hvalid, Bool.not_true, Bool.false_eq_true, if_false, habsent]
  rfl

end State

/-! ## What an operation does to the table -/

/-- The fingerprint an operation replays and records its attempt under. -/
inductive Prints (limits : Limits) (e : Engine) : Op → Text → Prop
  | create {now : Ticks} {request : CreatePolicyRequest} :
      Prints limits e (.createPolicy now request)
        (fingerprintPolicy request.scope request.semantics)
  | update {now : Ticks} {request : UpdatePolicyRequest} :
      Prints limits e (.updatePolicy now request)
        (fingerprintPolicy request.update.scope request.update.semantics)
  | upstream {request : UpstreamNotifyRequest} :
      Prints limits e (.applyUpstream request) (fingerprintUpstream request.notifications)
  | publish {clock : Nat → Ticks} {request : PublishEvidenceRequest} :
      Prints limits e (.publishEvidence clock request) (fingerprintEvidence request.publications)
  | commit {op : Op} {now : Ticks} {request : CommitDecisionRequest}
      (commits : Commits limits e op now request) :
      Prints limits e op (fingerprintCommit request.ticket)
  | rollback {now : Ticks} {request : RollbackRequest} :
      Prints limits e (.rollback now request) (fingerprintRollback request)

/-- The fingerprint of a request; that of an evaluation is its ticket's. -/
def Op.fingerprint : Op → Option Text
  | .createPolicy _ request => some (fingerprintPolicy request.scope request.semantics)
  | .updatePolicy _ request =>
    some (fingerprintPolicy request.update.scope request.update.semantics)
  | .applyUpstream request => some (fingerprintUpstream request.notifications)
  | .publishEvidence _ request => some (fingerprintEvidence request.publications)
  | .commitEvaluation _ request => some (fingerprintCommit request.ticket)
  | .rollback _ request => some (fingerprintRollback request)
  | _ => none

theorem Prints.own {limits : Limits} {e : Engine} {op : Op} {fingerprint own : Text}
    (h : Prints limits e op fingerprint) (hown : op.fingerprint = some own) : fingerprint = own := by
  cases h with
  | create | update | upstream | publish | rollback => simpa [Op.fingerprint] using hown
  | commit commits => cases commits <;> simp_all [Op.fingerprint]

/-- The operations that look for their attempt in the table, ahead of any effect. -/
def Op.retries : Op → Bool
  | .createPolicy .. | .updatePolicy .. | .applyUpstream .. | .publishEvidence ..
  | .commitEvaluation .. | .evaluate .. | .rollback .. => true
  | _ => false

theorem Op.retries_of_fingerprint {op : Op} (h : op.fingerprint.isSome = true) : op.retries = true := by
  cases op <;> first | rfl | cases h

theorem Op.governs_of_context {op : Op} {context : MutationContext}
    (h : op.context = some context) : op.governs = false := by
  cases op <;> first | rfl | cases h

/-- The operation returned a result that reports a success. -/
def Answer.succeeds (answer : Answer) : Bool := answer.outcome.any (·.isSuccess)

/-- The outcome a ticket that says it was rejected is handed in with. -/
def Op.handedIn : Op → Option Outcome
  | .commitEvaluation _ request =>
    if request.ticket.lifecycle = .rejected then some request.ticket.outcome else none
  | _ => none

/-- What an operation answers when it records nothing: a rejection, the replay of a retained attempt
of its request, or the outcome a rejected ticket was handed in with. -/
inductive Unrecorded (limits : Limits) (e : Engine) (op : Op) (answer : Answer) (s' : State) : Prop
  | refused (rejects : answer.succeeds = false)
  | replayed {context : MutationContext} {record : AttemptRecord}
      (carries : op.context = some context) (prints : Prints limits e op record.fingerprint)
      (valid : context.attempt.valid = true)
      (found : e.state.attempts[context.attempt]? = some record)
      (idempotent : answer.outcome = some .idempotent) (same : s' = e.state)
  | handedIn {outcome : Outcome} (rejected : op.handedIn = some outcome)
      (answers : answer.outcome = some outcome) (same : s' = e.state)
  | unretried (retries : op.retries = false)

/-- What one operation makes of the attempt table. -/
inductive LedgerChange (config : EngineConfig) (e : Engine) (op : Op) (answer : Answer) (s' : State) :
    Prop
  | kept (same : s'.ledger = e.state.ledger) (answers : Unrecorded config.limits e op answer s')
  | recorded {context : MutationContext} {fingerprint : Text} {outcome : Outcome} {detail : Text}
      (carries : op.context = some context) (prints : Prints config.limits e op fingerprint)
      (valid : context.attempt.valid = true) (fresh : e.state.attempts[context.attempt]? = none)
      (answers : answer.outcome = some outcome)
      (table : s'.ledger =
        (e.state.recordAttempt config.limits context.attempt fingerprint outcome detail).ledger)
  | cleared (governs : op.governs = true) (empty : s'.ledger = ({}, []))

namespace State

/-- An attempt the table does not know, and whose identity is valid. -/
theorem replayCheck_none {s : State} {attempt : MutationAttemptId} {fingerprint : Text}
    (h : s.replayCheck attempt fingerprint = none) :
    attempt.valid = true ∧ s.attempts[attempt]? = none := by
  unfold replayCheck at h
  split at h
  · cases h
  · rename_i hvalid
    refine ⟨by simpa using hvalid, ?_⟩
    split at h
    · assumption
    · split at h <;> cases h

/-- A retained attempt of the same fingerprint is a replay. -/
theorem refuseReplay_retained {s : State} {attempt : MutationAttemptId} {record : AttemptRecord}
    (hvalid : attempt.valid = true) (hrecord : s.attempts[attempt]? = some record) :
    ∃ answer, s.refuseReplay attempt record.fingerprint = .error answer ∧
      answer.outcome = .idempotent := by
  unfold refuseReplay replayCheck
  simp only [hvalid, Bool.not_true, Bool.false_eq_true, if_false, hrecord, if_true]
  exact ⟨_, rfl, makeResult_outcome ..⟩

/-! ## Requests that were recorded -/

section
variable {s : State} {limits : Limits}

theorem createChecks_fresh {request : CreatePolicyRequest} {fingerprint : Text}
    (h : s.createChecks limits request = .ok fingerprint) :
    fingerprint = fingerprintPolicy request.scope request.semantics ∧
      s.replayCheck request.context.attempt fingerprint = none := by
  unfold createChecks at h
  obtain ⟨-, h⟩ := seq_ok h
  obtain ⟨-, -, h⟩ := bind_ok h
  obtain ⟨_, -, h⟩ := bind_ok h
  obtain ⟨-, h⟩ := seq_ok h
  obtain ⟨-, h⟩ := seq_ok h
  obtain ⟨-, h⟩ := seq_ok h
  obtain ⟨-, h⟩ := seq_ok h
  obtain ⟨⟨⟩, hreplay, h⟩ := bind_ok h
  cases h
  exact ⟨rfl, refuseReplay_ok hreplay⟩

theorem updateChecks_fresh {request : UpdatePolicyRequest} {record : PolicyRecord} {fingerprint : Text}
    {generation : AdaptivePolicyGeneration}
    (h : s.updateChecks limits request = .ok (record, fingerprint, generation)) :
    fingerprint = fingerprintPolicy request.update.scope request.update.semantics ∧
      s.replayCheck request.context.attempt fingerprint = none := by
  unfold updateChecks at h
  obtain ⟨-, h⟩ := seq_ok h
  obtain ⟨-, h⟩ := seq_ok h
  obtain ⟨-, -, h⟩ := bind_ok h
  obtain ⟨_, -, h⟩ := bind_ok h
  obtain ⟨_, -, h⟩ := bind_ok h
  obtain ⟨-, h⟩ := seq_ok h
  obtain ⟨-, h⟩ := seq_ok h
  obtain ⟨-, h⟩ := seq_ok h
  obtain ⟨-, h⟩ := seq_ok h
  obtain ⟨⟨⟩, hreplay, h⟩ := bind_ok h
  obtain ⟨_, -, h⟩ := bind_ok h
  cases h
  exact ⟨rfl, refuseReplay_ok hreplay⟩

theorem upstreamChecks_fresh {request : UpstreamNotifyRequest} {fingerprint : Text}
    (h : s.upstreamChecks limits request = .ok fingerprint) :
    fingerprint = fingerprintUpstream request.notifications ∧
      s.replayCheck request.context.attempt fingerprint = none := by
  unfold upstreamChecks at h
  obtain ⟨-, h⟩ := seq_ok h
  obtain ⟨-, h⟩ := seq_ok h
  obtain ⟨⟨⟩, hreplay, h⟩ := bind_ok h
  cases h
  exact ⟨rfl, refuseReplay_ok hreplay⟩

theorem publishChecks_fresh {request : PublishEvidenceRequest} {fingerprint : Text}
    (h : s.publishChecks limits request = .ok fingerprint) :
    fingerprint = fingerprintEvidence request.publications ∧
      s.replayCheck request.context.attempt fingerprint = none := by
  unfold publishChecks at h
  obtain ⟨-, h⟩ := seq_ok h
  obtain ⟨-, h⟩ := seq_ok h
  obtain ⟨_, -, h⟩ := bind_ok h
  obtain ⟨⟨⟩, hreplay, h⟩ := bind_ok h
  obtain ⟨_, -, h⟩ := bind_ok h
  cases h
  exact ⟨rfl, refuseReplay_ok hreplay⟩

theorem commitChecks_fresh {request : CommitDecisionRequest} {record : PolicyRecord}
    (h : s.commitChecks request = .ok record) :
    s.replayCheck request.context.attempt (fingerprintCommit request.ticket) = none := by
  unfold commitChecks at h
  obtain ⟨-, h⟩ := seq_ok h
  obtain ⟨-, h⟩ := seq_ok h
  obtain ⟨_, -, h⟩ := bind_ok h
  obtain ⟨_, -, h⟩ := bind_ok h
  obtain ⟨-, h⟩ := seq_ok h
  obtain ⟨-, h⟩ := seq_ok h
  obtain ⟨-, h⟩ := seq_ok h
  obtain ⟨-, h⟩ := seq_ok h
  obtain ⟨-, h⟩ := seq_ok h
  obtain ⟨-, h⟩ := seq_ok h
  obtain ⟨-, -, h⟩ := bind_ok h
  obtain ⟨⟨⟩, hreplay, -⟩ := bind_ok h
  exact refuseReplay_ok hreplay

theorem rollbackChecks_fresh {request : RollbackRequest} {record : PolicyRecord}
    (h : s.rollbackChecks request = .ok record) :
    s.replayCheck request.context.attempt (fingerprintRollback request) = none := by
  unfold rollbackChecks at h
  obtain ⟨-, h⟩ := seq_ok h
  obtain ⟨_, -, h⟩ := bind_ok h
  obtain ⟨_, -, h⟩ := bind_ok h
  obtain ⟨-, h⟩ := seq_ok h
  obtain ⟨⟨⟩, hreplay, -⟩ := bind_ok h
  exact refuseReplay_ok hreplay

end

end State

/-! ## Answers of the checks -/

/-- A rejection, or the replay of a retained attempt of this fingerprint. -/
def Replayed (s : State) (attempt : MutationAttemptId) (fingerprint : Text)
    (answer : OperationResult) : Prop :=
  answer.outcome.isRejection = true ∨
    answer.outcome = .idempotent ∧ attempt.valid = true ∧
      ∃ record, s.attempts[attempt]? = some record ∧ record.fingerprint = fingerprint

/-- Neither carries out the request. -/
theorem Replayed.outcome_ne {s : State} {attempt : MutationAttemptId} {fingerprint : Text}
    {answer : OperationResult} (h : Replayed s attempt fingerprint answer) {outcome : Outcome}
    (haccepts : outcome.isRejection = false) (hnew : outcome ≠ .idempotent) :
    answer.outcome ≠ outcome := by
  intro heq
  rcases h with hrejected | ⟨hreplay, -⟩
  · rw [heq, haccepts] at hrejected
    cases hrejected
  · exact hnew (heq.symm.trans hreplay)

namespace State

section
variable (s : State) (limits : Limits)

theorem refuseReplay_replayed (attempt : MutationAttemptId) (fingerprint : Text) :
    Refuses (Replayed s attempt fingerprint) (s.refuseReplay attempt fingerprint) := by
  refine .absent fun answer h => ?_
  unfold replayCheck at h
  split at h
  · cases h
    exact .inl (makeResult_isRejection rfl)
  · rename_i hvalid
    split at h
    · cases h
    · rename_i record hrecord
      split at h
      · rename_i hsame
        cases h
        exact .inr ⟨makeResult_outcome .., by simpa using hvalid, record, hrecord, hsame⟩
      · cases h
        exact .inl (makeResult_isRejection rfl)

theorem createChecks_replayed (request : CreatePolicyRequest) :
    Refuses (Replayed s request.context.attempt
      (fingerprintPolicy request.scope request.semantics)) (s.createChecks limits request) := by
  unfold createChecks
  refine .bind (.guard (.inl (makeResult_isRejection rfl))) fun _ => ?_
  refine .bind (.mono (s.checkSemantics_rejecting request.semantics default) fun _ => .inl)
    fun _ => ?_
  refine .bind (.mono (s.requireCaller_rejecting _ _ _ _) fun _ => .inl) fun _ => ?_
  refine .bind (.guard (.inl (makeResult_isRejection rfl))) fun _ => ?_
  refine .bind (.guard (.inl (makeResult_isRejection rfl))) fun _ => ?_
  refine .bind (.guard (.inl (makeResult_isRejection rfl))) fun _ => ?_
  refine .bind (.guard (.inl (makeResult_isRejection rfl))) fun _ => ?_
  exact .bind (s.refuseReplay_replayed _ _) fun _ => .ok _

theorem updateChecks_replayed (request : UpdatePolicyRequest) :
    Refuses (Replayed s request.context.attempt
      (fingerprintPolicy request.update.scope request.update.semantics))
      (s.updateChecks limits request) := by
  unfold updateChecks
  refine .bind (.guard (.inl (makeResult_isRejection rfl))) fun _ => ?_
  refine .bind (.guard (.inl (makeResult_isRejection rfl))) fun _ => ?_
  refine .bind (.mono (s.checkSemantics_rejecting request.update.semantics request.policy)
    fun _ => .inl) fun _ => ?_
  refine .bind (.found (.inl (makeResult_isRejection rfl))) fun record => ?_
  refine .bind (.mono (s.requireCaller_rejecting _ _ _ _) fun _ => .inl) fun _ => ?_
  refine .bind (.guard (.inl (makeResult_isRejection rfl))) fun _ => ?_
  refine .bind (.guard (.inl (makeResult_isRejection (lifecycleOutcome_isRejection _)))) fun _ => ?_
  refine .bind (.guard (.inl (makeResult_isRejection rfl))) fun _ => ?_
  refine .bind (.guard (.inl (makeResult_isRejection rfl))) fun _ => ?_
  refine .bind (s.refuseReplay_replayed _ _) fun _ => ?_
  exact .bind (.found (.inl (makeResult_isRejection rfl))) fun _ => .ok _

theorem upstreamChecks_replayed (request : UpstreamNotifyRequest) :
    Refuses (Replayed s request.context.attempt (fingerprintUpstream request.notifications))
      (s.upstreamChecks limits request) := by
  unfold upstreamChecks
  refine .bind (.guard (.inl (makeResult_isRejection rfl))) fun _ => ?_
  refine .bind (.guard (.inl (makeResult_isRejection rfl))) fun _ => ?_
  exact .bind (s.refuseReplay_replayed _ _) fun _ => .ok _

theorem publishChecks_replayed (request : PublishEvidenceRequest) :
    Refuses (Replayed s request.context.attempt (fingerprintEvidence request.publications))
      (s.publishChecks limits request) := by
  unfold publishChecks
  refine .bind (.guard (.inl (makeResult_isRejection rfl))) fun _ => ?_
  refine .bind (.guard (.inl (makeResult_isRejection rfl))) fun _ => ?_
  refine .bind (.mono (s.requireCaller_rejecting _ _ _ _) fun _ => .inl) fun registration => ?_
  refine .bind (s.refuseReplay_replayed _ _) fun _ => ?_
  refine .bind (Refuses.mono ?_ fun _ => .inl) fun _ => .ok _
  exact .foldlM (s.validatePublication_rejecting limits registration.scope) _ _

/-- Phase two refuses a rejected ticket with the outcome the ticket carries. -/
theorem commitChecks_replayed (request : CommitDecisionRequest)
    (hticket : request.ticket.lifecycle ≠ .rejected) :
    Refuses (Replayed s request.context.attempt (fingerprintCommit request.ticket))
      (s.commitChecks request) := by
  unfold commitChecks
  refine .bind (fun answer hrefused => ?_) fun _ => ?_
  · obtain ⟨hrejected, -⟩ := refuseIf_error hrefused
    exact absurd (by simpa using hrejected) hticket
  refine .bind (.guard (.inl (makeResult_isRejection rfl))) fun _ => ?_
  refine .bind (.mono (s.requireCaller_rejecting _ _ _ _) fun _ => .inl) fun _ => ?_
  refine .bind (.found (.inl (makeResult_isRejection rfl))) fun record => ?_
  refine .bind (.guard (.inl (makeResult_isRejection rfl))) fun _ => ?_
  refine .bind (.guard (.inl (makeResult_isRejection rfl))) fun _ => ?_
  refine .bind (.guard (.inl (makeResult_isRejection (lifecycleOutcome_isRejection _)))) fun _ => ?_
  refine .bind (.guard (.inl (makeResult_isRejection rfl))) fun _ => ?_
  refine .bind (.guard (.inl (makeResult_isRejection rfl))) fun _ => ?_
  refine .bind (.guard (.inl (makeResult_isRejection rfl))) fun _ => ?_
  refine .bind (.absent fun answer hdrift => .inl ?_) fun _ => ?_
  · obtain ⟨drift, hsome, rfl⟩ := Option.map_eq_some_iff.1 hdrift
    split at hsome
    · exact makeResult_isRejection (dependencyDrift_isRejection hsome)
    · cases hsome
  · exact .bind (s.refuseReplay_replayed _ _) fun _ => .ok _

theorem rollbackChecks_replayed (request : RollbackRequest) :
    Refuses (Replayed s request.context.attempt (fingerprintRollback request))
      (s.rollbackChecks request) := by
  unfold rollbackChecks
  refine .bind (.guard (.inl (makeResult_isRejection rfl))) fun _ => ?_
  refine .bind (.found (.inl (makeResult_isRejection rfl))) fun record => ?_
  refine .bind (.mono (s.requireCaller_rejecting _ _ _ _) fun _ => .inl) fun _ => ?_
  refine .bind (.guard (.inl (makeResult_isRejection (lifecycleOutcome_isRejection _)))) fun _ => ?_
  exact .bind (s.refuseReplay_replayed _ _) fun _ => .ok _

end

end State

/-! ## One operation -/

section
variable {config : EngineConfig} {e e' : Engine} {op : Op} {answer : Answer}

theorem Answer.rejects {result : OperationResult} (h : result.outcome.isRejection = true) :
    (Answer.result result).succeeds = false := by
  simpa [Answer.succeeds, Answer.outcome, Outcome.isRejection] using h

/-- An operation refused by its checks. -/
theorem LedgerChange.refuses {context : MutationContext} {fingerprint : Text}
    {result : OperationResult} (carries : op.context = some context)
    (prints : Prints config.limits e op fingerprint)
    (h : Replayed e.state context.attempt fingerprint result) :
    LedgerChange config e op (.result result) e.state := by
  rcases h with hrejects | ⟨hidempotent, hvalid, record, hfound, rfl⟩
  · exact .kept rfl (.refused (Answer.rejects hrejects))
  · exact .kept rfl (.replayed carries prints hvalid hfound (congrArg some hidempotent) rfl)

/-- An operation that recorded its attempt over a state with the table of the engine's. -/
theorem LedgerChange.records {context : MutationContext} {fingerprint detail : Text} {outcome : Outcome}
    {s s' : State} (carries : op.context = some context)
    (prints : Prints config.limits e op fingerprint)
    (fresh : e.state.replayCheck context.attempt fingerprint = none)
    (answers : answer.outcome = some outcome)
    (hs' : s' = s.recordAttempt config.limits context.attempt fingerprint outcome detail)
    (hs : s.ledger = e.state.ledger) : LedgerChange config e op answer s' := by
  obtain ⟨hvalid, hfresh⟩ := State.replayCheck_none fresh
  have htable := State.recordAttempt_ledger hs config.limits context.attempt fingerprint outcome detail
  rw [← hs'] at htable
  exact .recorded carries prints hvalid hfresh answers htable

theorem createPolicy_ledger {now : Ticks} {request : CreatePolicyRequest} {result : OperationResult}
    (h : createPolicy config.limits e now request = some (e', result)) :
    LedgerChange config e (.createPolicy now request) (.result result) e'.state := by
  unfold createPolicy at h
  dsimp only at h
  split at h
  · rename_i refusal hchecks
    cases h
    exact .refuses rfl .create (e.state.createChecks_replayed _ _ _ hchecks)
  · rename_i fingerprint hchecks
    obtain ⟨rfl, hreplay⟩ := State.createChecks_fresh hchecks
    split at h
    · cases h
      exact .records rfl .create hreplay (congrArg some (State.makeResult_outcome ..)) rfl rfl
    · split at h
      · cases h
        exact .records rfl .create hreplay (congrArg some (State.makeResult_outcome ..)) rfl rfl
      · obtain ⟨⟨id, ids⟩, -, h⟩ := Option.bind_eq_some_iff.1 h
        cases h
        refine .records rfl .create hreplay (congrArg some (State.makeResult_outcome ..)) rfl ?_
        rw [State.addPolicy, State.reindexPolicy_ledger]
        rfl

theorem updatePolicy_ledger (config : EngineConfig) (e : Engine) (now : Ticks)
    (request : UpdatePolicyRequest) :
    LedgerChange config e (.updatePolicy now request)
      (.result (e.state.updatePolicy config.limits now request).2)
      (e.state.updatePolicy config.limits now request).1 := by
  unfold State.updatePolicy
  split
  · rename_i refusal hchecks
    exact .refuses rfl .update (e.state.updateChecks_replayed _ _ _ hchecks)
  · rename_i record fingerprint generation hchecks
    obtain ⟨rfl, hreplay⟩ := State.updateChecks_fresh hchecks
    refine .records rfl .update hreplay (congrArg some (State.makeResult_outcome ..)) rfl ?_
    rw [State.reindexPolicy_ledger]
    exact State.unindexPolicy_ledger e.state request.policy

theorem transitionPolicy_ledger (s : State) (request : PolicyLifecycleRequest) :
    (s.transitionPolicy request).1.ledger = s.ledger := by
  unfold State.transitionPolicy
  split
  · rfl
  · dsimp only
    split <;> rfl

theorem applyUpstream_ledger (config : EngineConfig) (e : Engine) (request : UpstreamNotifyRequest) :
    LedgerChange config e (.applyUpstream request)
      (.result (e.state.applyUpstream config.limits request).2)
      (e.state.applyUpstream config.limits request).1 := by
  have hbatch := State.applyNotifications_ledger config.limits request.context e.state
    request.notifications
  unfold State.applyUpstream
  split
  · rename_i refusal hchecks
    exact .refuses rfl .upstream (e.state.upstreamChecks_replayed _ _ _ hchecks)
  · rename_i fingerprint hchecks
    obtain ⟨rfl, hreplay⟩ := State.upstreamChecks_fresh hchecks
    split
    · rename_i reached refusal happlied
      rw [happlied] at hbatch
      exact .kept hbatch (.refused (Answer.rejects (State.applyNotifications_rejects happlied)))
    · rename_i reached happlied
      rw [happlied] at hbatch
      exact .records rfl .upstream hreplay (congrArg some (State.makeResult_outcome ..)) rfl hbatch

theorem publishEvidence_ledger (config : EngineConfig) (e : Engine) (clock : Nat → Ticks)
    (request : PublishEvidenceRequest) :
    LedgerChange config e (.publishEvidence clock request)
      (.result (e.state.publishEvidence config.limits clock request).2)
      (e.state.publishEvidence config.limits clock request).1 := by
  have hfold := foldl_keeps State.ledger (f := State.applyPublication config.limits)
    (fun _ _ => rfl) (acceptances clock request.publications) e.state
  unfold State.publishEvidence
  split
  · rename_i refusal hchecks
    exact .refuses rfl .publish (e.state.publishChecks_replayed _ _ _ hchecks)
  · rename_i fingerprint hchecks
    obtain ⟨rfl, hreplay⟩ := State.publishChecks_fresh hchecks
    dsimp only
    split
    · exact .kept hfold (.refused (Answer.rejects (makeResult_isRejection rfl)))
    · exact .records rfl .publish hreplay (congrArg some (State.makeResult_outcome ..)) rfl hfold

theorem CommitEffect.ledger {now : Ticks} {request : CommitDecisionRequest} {s' : State}
    {result : OperationResult} {context : MutationContext}
    (hop : Commits config.limits e op now request) (carries : op.context = some context)
    (hcontext : request.context = context)
    (handedIn : request.ticket.lifecycle = .rejected →
      Unrecorded config.limits e op (.result result) e.state)
    (h : CommitEffect config.limits e.state now request s' result.outcome) :
    LedgerChange config e op (.result result) s' := by
  subst hcontext
  generalize houtcome : result.outcome = outcome at h
  have answers : (Answer.result result).outcome = some outcome := congrArg some houtcome
  cases h with
  | @refused refusal checks =>
    by_cases hticket : request.ticket.lifecycle = .rejected
    · exact .kept rfl (handedIn hticket)
    · have hreplayed := e.state.commitChecks_replayed request hticket refusal checks
      unfold Replayed at hreplayed
      rw [← houtcome] at hreplayed
      exact .refuses carries (.commit hop) hreplayed
  | suppressed checks =>
    exact .records carries (.commit hop) (State.commitChecks_fresh checks) answers rfl rfl
  | unchanged checks =>
    exact .records carries (.commit hop) (State.commitChecks_fresh checks) answers rfl rfl
  | unverified checks eligible other verified =>
    refine .kept rfl (.refused (Answer.rejects ?_))
    rw [houtcome]
    exact e.state.verifyCommit_refuses _ _ _ _ _ verified
  | committed checks =>
    exact .records carries (.commit hop) (State.commitChecks_fresh checks) answers rfl rfl

/-- Phase two refuses a rejected ticket with the ticket's outcome. -/
theorem State.commitChecks_rejected (s : State) {request : CommitDecisionRequest}
    (hticket : request.ticket.lifecycle = .rejected) :
    s.commitChecks request =
      .error (s.makeResult request.ticket.outcome request.ticket.detail default) := by
  unfold State.commitChecks
  refine bind_of_error ?_
  simp [refuseIf, hticket]

theorem CommitEffect.rejected {limits : Limits} {s s' : State} {now : Ticks}
    {request : CommitDecisionRequest} {outcome : Outcome}
    (h : CommitEffect limits s now request s' outcome)
    (hticket : request.ticket.lifecycle = .rejected) :
    s' = s ∧ outcome = request.ticket.outcome := by
  have hchecks := s.commitChecks_rejected hticket
  cases h with
  | refused checks =>
    rw [hchecks] at checks
    cases checks
    exact ⟨rfl, State.makeResult_outcome ..⟩
  | suppressed checks | unchanged checks | unverified checks | committed checks =>
    rw [hchecks] at checks
    cases checks

theorem RollbackEffect.ledger {now : Ticks} {request : RollbackRequest} {s' : State}
    {result : OperationResult}
    (h : RollbackEffect config.limits e.state now request s' result.outcome) :
    LedgerChange config e (.rollback now request) (.result result) s' := by
  generalize houtcome : result.outcome = outcome at h
  have answers : (Answer.result result).outcome = some outcome := congrArg some houtcome
  cases h with
  | @refused refusal checks =>
    have hreplayed := e.state.rollbackChecks_replayed request refusal checks
    unfold Replayed at hreplayed
    rw [← houtcome] at hreplayed
    exact .refuses rfl .rollback hreplayed
  | @declined record refusal checks verified unrecorded =>
    refine .kept rfl (.refused (Answer.rejects ?_))
    rw [houtcome]
    exact State.verifyRollback_refuses record refusal verified
  | recorded checks =>
    exact .records rfl .rollback (State.rollbackChecks_fresh checks) answers rfl rfl
  | restored checks =>
    exact .records rfl .rollback (State.rollbackChecks_fresh checks) answers rfl rfl

theorem registerPublisher_ledger (s : State) (limits : Limits) (publisher : PublisherId)
    (workerBoot : WorkerBootId) (scope : AuthorityScope) (session : SessionId) :
    (s.registerPublisher limits publisher workerBoot scope session).1.ledger = s.ledger := by
  unfold State.registerPublisher
  split
  · rfl
  · dsimp only
    split
    · rfl
    · split <;> rfl

theorem fencePublisher_ledger (s : State) (publisher : PublisherId) (workerBoot : WorkerBootId)
    (cause : Text) : (s.fencePublisher publisher workerBoot cause).1.ledger = s.ledger := by
  unfold State.fencePublisher
  split
  · rfl
  · split <;> rfl

theorem advanceEpoch_ledger (s : State) (reason : Text) :
    (s.advanceEpoch reason).1.ledger = s.ledger ∨ (s.advanceEpoch reason).1.ledger = ({}, []) := by
  unfold State.advanceEpoch
  split
  · exact .inl rfl
  · dsimp only
    split
    · exact .inl rfl
    · exact .inr rfl

theorem restoreRevocation_ledger (s : State) (revocation : RevocationRecord) :
    (s.restoreRevocation revocation).ledger = s.ledger := by
  unfold State.restoreRevocation
  split <;> rfl

theorem recoveredState_ledger (config : EngineConfig) (now : Ticks) (durable : DurableState)
    (epoch : CoordinatorEpoch) (authority : AdaptiveAuthorityGeneration) :
    (State.recoveredState config now durable epoch authority).ledger = ({}, []) := by
  unfold State.recoveredState
  dsimp only
  rw [foldl_keeps (f := fun (s : State) policy => s.reindexPolicy config.limits policy) State.ledger
    fun s policy => s.reindexPolicy_ledger config.limits policy]
  show State.ledger (List.foldl _ _ _) = _
  rw [foldl_keeps (f := State.restoreHistory config.limits) State.ledger fun _ _ => rfl,
    foldl_keeps (f := State.restoreRevocation) State.ledger restoreRevocation_ledger,
    foldl_keeps (f := State.restoreTiming now) State.ledger fun _ _ => rfl,
    foldl_keeps (f := State.restoreStable) State.ledger fun _ _ => rfl,
    foldl_keeps (f := State.restorePreference) State.ledger fun _ _ => rfl,
    foldl_keeps (f := State.restorePolicy config.conservativeRecovery) State.ledger fun _ _ => rfl]
  rfl

/-- What one operation does to the attempt table. -/
theorem step_ledger (h : e.step config op = some (e', answer)) :
    LedgerChange config e op answer e'.state := by
  cases op with
  | registerPublisher publisher workerBoot scope session =>
    cases h
    exact .kept (registerPublisher_ledger ..) (.unretried rfl)
  | fencePublisher publisher workerBoot cause =>
    cases h
    exact .kept (fencePublisher_ledger ..) (.unretried rfl)
  | advanceEpoch reason =>
    cases h
    rcases advanceEpoch_ledger e.state reason with h | h
    · exact .kept h (.unretried rfl)
    · exact .cleared rfl h
  | createPolicy now request =>
    obtain ⟨⟨e₁, result⟩, hcreate, he⟩ := Option.map_eq_some_iff.1 h
    cases he
    exact createPolicy_ledger hcreate
  | updatePolicy now request =>
    cases h
    exact updatePolicy_ledger ..
  | transitionPolicy request =>
    cases h
    exact .kept (transitionPolicy_ledger ..) (.unretried rfl)
  | revokePolicy request =>
    cases h
    refine .kept ?_ (.unretried rfl)
    show (e.state.revokePolicy config.limits request).1.ledger = _
    unfold State.revokePolicy
    split <;> rfl
  | applyUpstream request =>
    cases h
    exact applyUpstream_ledger ..
  | publishEvidence clock request =>
    cases h
    exact publishEvidence_ledger ..
  | beginEvaluation now request =>
    obtain ⟨⟨e₁, ticket⟩, hbegin, he⟩ := Option.map_eq_some_iff.1 h
    cases he
    exact .kept (congrArg State.ledger (beginEvaluation_cases hbegin).1) (.unretried rfl)
  | commitEvaluation now request =>
    obtain ⟨⟨e₁, result⟩, hcommit, he⟩ := Option.map_eq_some_iff.1 h
    cases he
    have heffect := commitEvaluation_cases hcommit
    refine heffect.ledger .commit rfl rfl fun hticket => ?_
    exact .handedIn (if_pos hticket) (congrArg some (heffect.rejected hticket).2) rfl
  | evaluate begun committed request =>
    obtain ⟨⟨e₁, result⟩, hevaluate, he⟩ := Option.map_eq_some_iff.1 h
    cases he
    obtain ⟨e₂, ticket, hbegin, ⟨hs, hticket⟩ | ⟨-, heffect⟩⟩ := evaluate_cases hevaluate
    · refine .kept (congrArg State.ledger hs) (.refused (Answer.rejects ?_))
      exact hticket ▸ beginEvaluation_outcome hbegin
    · refine heffect.ledger (.evaluate hbegin) rfl rfl fun hrejected => ?_
      refine .refused (Answer.rejects ?_)
      exact (heffect.rejected hrejected).2 ▸ beginEvaluation_outcome hbegin
  | rollback now request =>
    obtain ⟨⟨e₁, result⟩, hrollback, he⟩ := Option.map_eq_some_iff.1 h
    cases he
    exact (rollback_cases hrollback).ledger
  | revalidate policy context =>
    cases h
    exact .kept (transitionPolicy_ledger ..) (.unretried rfl)
  | snapshot now policy =>
    obtain ⟨⟨e₁, view⟩, hsnapshot, he⟩ := Option.map_eq_some_iff.1 h
    cases he
    change LedgerChange config e _ _ e₁.state
    rcases snapshot_cases hsnapshot with hs | ⟨retained, hs⟩
    · exact .kept (congrArg State.ledger hs) (.unretried rfl)
    · exact .kept ((congrArg State.ledger hs).trans rfl) (.unretried rfl)
  | decodeStore now decoded origin =>
    cases h
    change LedgerChange config e _ _ (e.state.decodeStore config now decoded origin).1
    cases decoded with
    | error refusal => exact .kept rfl (.unretried rfl)
    | ok durable =>
      rcases applyDurable_cases e.state config now durable origin with
        ⟨-, hs⟩ | ⟨-, epoch, authority, -, -, hs⟩
      · exact .kept (congrArg State.ledger hs) (.unretried rfl)
      · exact .cleared rfl ((congrArg State.ledger hs).trans (recoveredState_ledger ..))

/-! ## Runs -/

/-- The order of the table lists its attempts, each once. -/
def Tabled (s : State) : Prop := Retention.Consistent s.attempts s.attemptOrder

theorem Tabled.of_ledger {s s' : State} (h : s'.ledger = s.ledger) (ht : Tabled s) : Tabled s' := by
  have hattempts : s'.attempts = s.attempts := congrArg Prod.fst h
  have horder : s'.attemptOrder = s.attemptOrder := congrArg Prod.snd h
  unfold Tabled
  rwa [hattempts, horder]

theorem Tabled.record {s : State} (ht : Tabled s) {attempt : MutationAttemptId}
    (hvalid : attempt.valid = true) (hfresh : s.attempts[attempt]? = none) (limits : Limits)
    (fingerprint : Text) (outcome : Outcome) (detail : Text) :
    Tabled (s.recordAttempt limits attempt fingerprint outcome detail) := by
  have hledger := State.recordAttempt_fresh hvalid hfresh limits fingerprint outcome detail
  have hattempts := congrArg Prod.fst hledger
  have horder := congrArg Prod.snd hledger
  unfold Tabled
  rw [show (s.recordAttempt limits attempt fingerprint outcome detail).attempts = _ from hattempts,
    show (s.recordAttempt limits attempt fingerprint outcome detail).attemptOrder = _ from horder]
  exact (Retention.Consistent.insert ht hfresh _).prune _

theorem Tabled.step (ht : Tabled e.state) (h : e.step config op = some (e', answer)) :
    Tabled e'.state := by
  cases step_ledger h with
  | kept same answers => exact ht.of_ledger same
  | recorded carries prints valid fresh answers table =>
    exact (ht.record valid fresh ..).of_ledger table
  | cleared governs empty =>
    exact Tabled.of_ledger (s := {}) empty Retention.Consistent.empty

theorem Tabled.reachable (h : Reachable config e) : Tabled e.state := by
  obtain ⟨nonce, hrun⟩ := h
  refine hrun.inv (I := fun e => Tabled e.state) (fun _ _ _ _ _ ht hstep => ht.step hstep) ?_
  exact Tabled.of_ledger (s := {}) rfl Retention.Consistent.empty

/-- The state retains an attempt. -/
def Retains (attempt : MutationAttemptId) (s : State) : Prop :=
  (s.attempts[attempt]?).isSome = true

instance (attempt : MutationAttemptId) (s : State) : Decidable (Retains attempt s) :=
  inferInstanceAs (Decidable (_ = true))

/-- A fresh attempt is retained under its record, unless the table keeps none. -/
theorem recordAttempt_retains {s : State} (ht : Tabled s) {limits : Limits}
    (hbound : limits.maxAttempts ≠ 0) {attempt : MutationAttemptId} (hvalid : attempt.valid = true)
    (hfresh : s.attempts[attempt]? = none) (fingerprint : Text) (outcome : Outcome) (detail : Text) :
    (s.recordAttempt limits attempt fingerprint outcome detail).attempts[attempt]? =
      some { attempt, fingerprint, outcome, detail } := by
  have hledger := State.recordAttempt_fresh hvalid hfresh limits fingerprint outcome detail
  have hattempts := congrArg Prod.fst hledger
  rw [show (s.recordAttempt limits attempt fingerprint outcome detail).attempts = _ from hattempts]
  have hpos : 0 < limits.maxAttempts.toNat :=
    Nat.pos_of_ne_zero fun h => hbound (UInt64.toNat_inj.1 h)
  have hnew : attempt ∉ s.attemptOrder := by
    intro hmem
    rw [ht.mem_iff, hfresh] at hmem
    cases hmem
  rw [Retention.eraseAll_get_of_notMem, Std.ExtTreeMap.getElem?_insert_self]
  intro hmem
  have hle : (s.attemptOrder ++ [attempt]).length - limits.maxAttempts.toNat ≤
      s.attemptOrder.length := by
    rw [List.length_append, List.length_singleton]
    omega
  rw [List.take_append_of_le_length hle] at hmem
  exact hnew (List.mem_of_mem_take hmem)

/-- If the table retains an attempt that was just recorded, it is under this record. -/
theorem recordAttempt_kept {s : State} {limits : Limits} {attempt : MutationAttemptId}
    (hvalid : attempt.valid = true) (hfresh : s.attempts[attempt]? = none) {fingerprint : Text}
    {outcome : Outcome} {detail : Text}
    (h : Retains attempt (s.recordAttempt limits attempt fingerprint outcome detail)) :
    (s.recordAttempt limits attempt fingerprint outcome detail).attempts[attempt]? =
      some { attempt, fingerprint, outcome, detail } := by
  have hledger := State.recordAttempt_fresh hvalid hfresh limits fingerprint outcome detail
  have hattempts := congrArg Prod.fst hledger
  unfold Retains at h
  rw [show (s.recordAttempt limits attempt fingerprint outcome detail).attempts = _ from hattempts]
    at h ⊢
  rcases Retention.eraseAll_get_or ((s.attemptOrder ++ [attempt]).take
      ((s.attemptOrder ++ [attempt]).length - limits.maxAttempts.toNat))
      (s.attempts.insert attempt { attempt, fingerprint, outcome, detail }) attempt with hnone | hkept
  · rw [hnone] at h
    cases h
  · rw [hkept, Std.ExtTreeMap.getElem?_insert_self]

/-- Recording an attempt leaves another attempt its record, or forgets it. -/
theorem recordAttempt_other {s : State} {limits : Limits} {attempt other : MutationAttemptId}
    (hvalid : attempt.valid = true) (hfresh : s.attempts[attempt]? = none) (hother : attempt ≠ other)
    (fingerprint : Text) (outcome : Outcome) (detail : Text) :
    (s.recordAttempt limits attempt fingerprint outcome detail).attempts[other]? = none ∨
      (s.recordAttempt limits attempt fingerprint outcome detail).attempts[other]? =
        s.attempts[other]? := by
  have hledger := State.recordAttempt_fresh hvalid hfresh limits fingerprint outcome detail
  have hattempts := congrArg Prod.fst hledger
  rw [show (s.recordAttempt limits attempt fingerprint outcome detail).attempts = _ from hattempts]
  rcases Retention.eraseAll_get_or ((s.attemptOrder ++ [attempt]).take
      ((s.attemptOrder ++ [attempt]).length - limits.maxAttempts.toNat))
      (s.attempts.insert attempt { attempt, fingerprint, outcome, detail }) other with hnone | hkept
  · exact .inl hnone
  · exact .inr (hkept.trans (get_insert_ne hother))

/-- A retained attempt keeps its record: while it is in the table, nobody records it again. -/
theorem retained_step {attempt : MutationAttemptId} {record : AttemptRecord}
    (hrecord : e.state.attempts[attempt]? = some record)
    (h : e.step config op = some (e', answer)) (hretained : Retains attempt e'.state) :
    e'.state.attempts[attempt]? = some record := by
  cases step_ledger h with
  | kept same answers => rwa [State.attempts_of_ledger same]
  | @recorded context fingerprint outcome detail carries prints valid fresh answers table =>
    have hother : context.attempt ≠ attempt := by
      rintro rfl
      rw [hrecord] at fresh
      cases fresh
    have hattempts : e'.state.attempts = (e.state.recordAttempt config.limits context.attempt
        fingerprint outcome detail).attempts := congrArg Prod.fst table
    unfold Retains at hretained
    rw [hattempts] at hretained ⊢
    rcases recordAttempt_other valid fresh hother fingerprint outcome detail with hnone | hkept
    · rw [hnone] at hretained
      cases hretained
    · rw [hkept]
      exact hrecord
  | cleared governs empty =>
    have hattempts : e'.state.attempts = {} := congrArg Prod.fst empty
    rw [Retains, hattempts] at hretained
    simp at hretained

/-- Runs in which an attempt stays in the table. -/
def Retaining (attempt : MutationAttemptId) (e : Engine) (_ : Op) : Prop := Retains attempt e.state

theorem retained_run {attempt : MutationAttemptId} {record : AttemptRecord}
    (hrecord : e.state.attempts[attempt]? = some record)
    (h : RunUnder config (Retaining attempt) e e') (hretained : Retains attempt e'.state) :
    e'.state.attempts[attempt]? = some record := by
  induction h with
  | refl => exact hrecord
  | tail _ hok hstep ih => exact retained_step (ih hok) hstep hretained

end

end AdaptiveRouting
