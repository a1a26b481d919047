import AdaptiveRouting.Coordinator
import AdaptiveRouting.Lib.Pointwise
import AdaptiveRouting.Proof.Counters
import AdaptiveRouting.Proof.Directory
import AdaptiveRouting.Proof.Rejections
import AdaptiveRouting.Proof.Storage

/-!
# Acknowledged frames

A coordinator saves what an operation did when its outcome is a success. Four kinds of operations
write a durable fact and answer with a rejection (`Slips`); every other rejection leaves the facts
alone (`step_facts`). So a coordinator none of whose frames slips has every fact in its store when it
answers (`acknowledged_is_durable`).
-/

namespace AdaptiveRouting

open Guard Engine

/-! ## Facts -/

/-- What a store says apart from the timing, which runs on with the clock. -/
def DurableState.facts (d : DurableState) : DurableState := { d.stored with timings := [] }

def State.facts (s : State) : DurableState := (s.buildDurable 0).facts

theorem DurableState.facts_stored (d : DurableState) : d.stored.facts = d.facts := by
  unfold DurableState.facts
  rw [d.stored_stored]

theorem State.facts_buildDurable (s : State) (now : Ticks) : (s.buildDurable now).facts = s.facts :=
  rfl

/-- The counters and tables among the facts. -/
def State.header (s : State) : CoordinatorEpoch × AdaptiveAuthorityGeneration × EvidenceGeneration ×
    Watermark × Watermark × Std.ExtTreeMap AdaptivePolicyId RevocationRecord :=
  (s.epoch, s.authorityGeneration, s.evidenceGeneration, s.evidenceWatermark, s.upstreamWatermark,
    s.revocations)

theorem State.facts_congr {s s' : State} (hheader : s'.header = s.header)
    (hrecords : ∀ policy : AdaptivePolicyId,
      s'.policies[policy]?.map (·.frame) = s.policies[policy]?.map (·.frame)) :
    s'.facts = s.facts := by
  have hlist := Pointwise.map_toList_congr hrecords
  have hpolicies : s'.policies.values.map (·.policy) = s.policies.values.map (·.policy) := by
    simpa [Pointwise.values_eq, Function.comp_def, PolicyRecord.frame] using
      congrArg (List.map fun entry => entry.2.policy) hlist
  have hpreferences : s'.policies.toList.map (fun entry => (entry.1, entry.2.preference)) =
      s.policies.toList.map fun entry => (entry.1, entry.2.preference) := by
    simpa [Function.comp_def, PolicyRecord.frame] using
      congrArg (List.map fun entry => (entry.1, entry.2.preference)) hlist
  have hstable : s'.policies.toList.map (fun entry => (entry.1, entry.2.stable)) =
      s.policies.toList.map fun entry => (entry.1, entry.2.stable) := by
    simpa [Function.comp_def, PolicyRecord.frame] using
      congrArg (List.map fun entry => (entry.1, entry.2.stable)) hlist
  have hhistory : (s'.policies.toList.flatMap fun entry =>
      entry.2.history.map fun record => (entry.1, record)) =
      s.policies.toList.flatMap fun entry => entry.2.history.map fun record => (entry.1, record) := by
    simpa [List.flatMap_map, PolicyRecord.frame] using congrArg (List.flatMap fun entry =>
      entry.2.history.map fun record => (entry.1, record)) hlist
  simp only [State.header, Prod.mk.injEq] at hheader
  obtain ⟨hepoch, hauthority, hevidence, hmark, hupstream, hrevocations⟩ := hheader
  simp only [State.facts, DurableState.facts, DurableState.stored, State.buildDurable, hepoch,
    hauthority, hevidence, hmark, hupstream, hrevocations, hpolicies, hpreferences, hstable, hhistory]

theorem State.AttemptsOnly.facts {s s' : State} (h : s.AttemptsOnly s') : s'.facts = s.facts := by
  obtain ⟨_, _, rfl⟩ := h
  rfl

/-! ## Slips -/

/-- An operation that writes a fact and answers with a rejection. -/
inductive Slips (config : EngineConfig) (e : Engine) : Op → Prop
  | suppressed {op : Op} {now : Ticks} {request : CommitDecisionRequest} {record : PolicyRecord}
      (commits : Commits config.limits e op now request)
      (checks : e.state.commitChecks request = .ok record)
      (ineligible : request.ticket.lifecycle ≠ .eligible)
      (rejects : request.ticket.outcome.isRejection = true) : Slips config e op
  | published {clock : Nat → Ticks} {request : PublishEvidenceRequest} {fingerprint : Text}
      (checks : e.state.publishChecks config.limits request = .ok fingerprint)
      (last : e.state.evidenceGeneration.next = none)
      (moved : ((acceptances clock request.publications).foldl (State.applyPublication config.limits)
        e.state).evidenceWatermark ≠ e.state.evidenceWatermark) :
      Slips config e (.publishEvidence clock request)
  | notified {request : UpstreamNotifyRequest} {fingerprint : Text} {reached : State}
      {before after : List UpstreamNotification} {n : UpstreamNotification} {refusal : OperationResult}
      (checks : e.state.upstreamChecks config.limits request = .ok fingerprint)
      (batch : request.notifications = before ++ n :: after)
      (accepted : State.applyNotifications config.limits request.context e.state before =
        (reached, none))
      (refused : reached.applyNotification config.limits request.context n = .error refusal)
      (moved : reached.upstreamWatermark ≠ e.state.upstreamWatermark) :
      Slips config e (.applyUpstream request)
  | advanced {reason : Text} {epoch : CoordinatorEpoch} (next : e.state.epoch.next = some epoch)
      (last : e.state.authorityGeneration.next = none) : Slips config e (.advanceEpoch reason)

theorem unsaved_rejected {result : OperationResult} (h : Coordinator.durable result = false) :
    result.outcome.isRejection = true := by
  simp only [Coordinator.durable, Bool.or_eq_false_iff, OperationResult.accepted] at h
  simp [Outcome.isRejection, h.1]

/-! ## The batch operations -/

section
variable {config : EngineConfig} {e e' : Engine} {op : Op} {answer : Answer}

/-- A refused publication writes samples at most, unless it slips. -/
theorem publishEvidence_facts {clock : Nat → Ticks} {request : PublishEvidenceRequest}
    (hslips : ¬ Slips config e (.publishEvidence clock request))
    (hunsaved : Coordinator.durable (e.state.publishEvidence config.limits clock request).2 = false) :
    (e.state.publishEvidence config.limits clock request).1.facts = e.state.facts := by
  unfold State.publishEvidence at hunsaved ⊢
  cases hchecks : e.state.publishChecks config.limits request with
  | error answer => rfl
  | ok fingerprint =>
    simp only [hchecks] at hunsaved
    dsimp only
    have hgeneration := foldl_keeps (f := State.applyPublication config.limits)
      State.evidenceGeneration (fun _ _ => rfl) (acceptances clock request.publications) e.state
    split at hunsaved
    · rename_i hlast
      rw [hgeneration] at hlast
      have hmark : ((acceptances clock request.publications).foldl (State.applyPublication config.limits)
          e.state).evidenceWatermark = e.state.evidenceWatermark :=
        Decidable.not_not.1 fun hmoved => hslips (.published hchecks hlast hmoved)
      have hpolicies := foldl_keeps (f := State.applyPublication config.limits)
        State.policies (fun _ _ => rfl) (acceptances clock request.publications) e.state
      have hstanding := foldl_keeps (f := State.applyPublication config.limits)
        State.standing (fun _ _ => rfl) (acceptances clock request.publications) e.state
      have hdirectory := foldl_keeps (f := State.applyPublication config.limits)
        State.directory (fun _ _ => rfl) (acceptances clock request.publications) e.state
      have hupstream := foldl_keeps (f := State.applyPublication config.limits)
        State.upstreamWatermark (fun _ _ => rfl) (acceptances clock request.publications) e.state
      refine State.facts_congr ?_ fun policy => by rw [hpolicies]
      simp only [State.header, hgeneration, hmark, hupstream, State.epoch_of_standing hstanding,
        State.authorityGeneration_of_standing hstanding, State.revocations_of_directory hdirectory]
    · simp [Coordinator.durable] at hunsaved

/-- A refused batch of notifications writes bindings at most, unless it slips. -/
theorem applyUpstream_facts {request : UpstreamNotifyRequest}
    (hslips : ¬ Slips config e (.applyUpstream request))
    (hunsaved : Coordinator.durable (e.state.applyUpstream config.limits request).2 = false) :
    (e.state.applyUpstream config.limits request).1.facts = e.state.facts := by
  have hdirectory := e.state.applyUpstream_directory config.limits request
  have hstanding := e.state.applyUpstream_standing config.limits request
  have hnotified := (e.state.applyUpstream_notified config.limits request).evidence
  unfold State.applyUpstream at hunsaved hdirectory hstanding hnotified ⊢
  cases hchecks : e.state.upstreamChecks config.limits request with
  | error answer => rfl
  | ok fingerprint =>
    simp only [hchecks] at hunsaved hdirectory hstanding hnotified
    dsimp only
    cases happlied : State.applyNotifications config.limits request.context e.state
      request.notifications with
    | mk reached refusal =>
      simp only [happlied] at hunsaved hdirectory hstanding hnotified
      cases refusal with
      | none => simp [Coordinator.durable] at hunsaved
      | some refusal =>
        replace hdirectory : reached.directory = e.state.directory := hdirectory
        replace hstanding : reached.standing = e.state.standing := hstanding
        obtain ⟨before, n, after, hbatch, haccepted, hrefused⟩ :=
          State.applyNotifications_refused happlied
        have hupstream := Decidable.not_not.1 fun hmoved =>
          hslips (.notified hchecks hbatch haccepted hrefused hmoved)
        refine State.facts_congr ?_ fun policy => ?_
        · have hevidence : reached.evidenceGeneration = e.state.evidenceGeneration :=
            congrArg Gauges.evidenceGeneration hnotified
          have hmark : reached.evidenceWatermark = e.state.evidenceWatermark :=
            congrArg Gauges.evidenceWatermark hnotified
          simp only [State.header, hevidence, hmark, hupstream, State.epoch_of_standing hstanding,
            State.authorityGeneration_of_standing hstanding,
            State.revocations_of_directory hdirectory]
        · have hframe := State.applyNotifications_frame config.limits request.context e.state
            request.notifications policy
          rwa [happlied] at hframe

/-! ## Steps -/

theorem CommitEffect.facts {now : Ticks} {request : CommitDecisionRequest} {outcome : Outcome}
    (hcommits : Commits config.limits e op now request) (hslips : ¬ Slips config e op)
    (h : CommitEffect config.limits e.state now request e'.state outcome)
    (hrejected : outcome.isRejection = true) : e'.state.facts = e.state.facts := by
  by_cases heligible : request.ticket.lifecycle = .eligible
  · exact (h.traceless heligible hrejected).facts
  · generalize e'.state = s' at h
    cases h with
    | refused => rfl
    | suppressed checks ineligible =>
      exact absurd (.suppressed hcommits checks ineligible hrejected) hslips
    | unchanged checks eligible => exact absurd eligible heligible
    | unverified checks eligible => exact absurd eligible heligible
    | committed checks eligible => exact absurd eligible heligible

theorem decodeStore_rejected {s : State} {now : Ticks} {decoded : Except Text DurableState}
    {origin : Text}
    (hrejected : (s.decodeStore config now decoded origin).2.outcome.isRejection = true) :
    (s.decodeStore config now decoded origin).1 = s := by
  unfold State.decodeStore State.applyDurable at hrejected ⊢
  cases decoded with
  | error refusal => rfl
  | ok durable =>
    dsimp only at hrejected ⊢
    split
    · rfl
    · rename_i hversion
      rw [if_neg hversion] at hrejected
      split
      · rfl
      · rename_i hlimits
        rw [if_neg hlimits] at hrejected
        split
        · rename_i hepoch hauthority
          simp [hepoch, hauthority, Outcome.isRejection, Outcome.isSuccess] at hrejected
        · rfl

/-- An operation whose result is not saved leaves the facts alone, unless it slips. -/
theorem step_facts (h : e.step config op = some (e', answer)) (hslips : ¬ Slips config e op)
    (hunsaved : ∀ result, answer = .result result → Coordinator.durable result = false) :
    e'.state.facts = e.state.facts := by
  have hrejected : ∀ outcome, answer.outcome = some outcome → outcome.isRejection = true := by
    intro outcome houtcome
    cases answer with
    | result result =>
      cases houtcome
      exact unsaved_rejected (hunsaved result rfl)
    | _ => cases houtcome
  have hcommit : ∀ now request, Commits config.limits e op now request →
      e'.state.facts = e.state.facts := by
    intro now request hcommits
    rcases step_commits hcommits h with hstate | ⟨outcome, hanswer, heffect⟩
    · rw [hstate]
    · exact heffect.facts hcommits hslips (hrejected outcome hanswer)
  cases op with
  | registerPublisher publisher workerBoot scope session =>
    cases h
    exact congrArg State.facts (registerPublisher_rejected (hrejected _ rfl))
  | fencePublisher publisher workerBoot cause =>
    cases h
    exact congrArg State.facts (fencePublisher_rejected (hrejected _ rfl))
  | advanceEpoch reason =>
    cases h
    have hrefused := hrejected _ rfl
    show (e.state.advanceEpoch reason).1.facts = _
    unfold State.advanceEpoch at hrefused ⊢
    cases hepoch : e.state.epoch.next with
    | none => rfl
    | some epoch =>
      cases hauthority : e.state.authorityGeneration.next with
      | none => exact absurd (.advanced hepoch hauthority) hslips
      | some authority =>
        simp [hepoch, hauthority, Outcome.isRejection, Outcome.isSuccess] at hrefused
  | createPolicy now request =>
    obtain ⟨⟨e₁, result⟩, hcreate, he⟩ := Option.map_eq_some_iff.1 h
    cases he
    exact (createPolicy_rejected hcreate (hrejected _ rfl)).facts
  | updatePolicy now request =>
    cases h
    exact congrArg State.facts (updatePolicy_rejected (hrejected _ rfl))
  | transitionPolicy request =>
    cases h
    exact congrArg State.facts (transitionPolicy_rejected (hrejected _ rfl))
  | revokePolicy request =>
    cases h
    exact congrArg State.facts (revokePolicy_rejected (hrejected _ rfl))
  | applyUpstream request =>
    cases h
    exact applyUpstream_facts hslips (hunsaved _ rfl)
  | publishEvidence clock request =>
    cases h
    exact publishEvidence_facts hslips (hunsaved _ rfl)
  | beginEvaluation now request =>
    obtain ⟨⟨e₁, ticket⟩, hbegin, he⟩ := Option.map_eq_some_iff.1 h
    cases he
    exact congrArg State.facts (beginEvaluation_cases hbegin).1
  | commitEvaluation now request => exact hcommit now request .commit
  | evaluate begun committed request =>
    obtain ⟨⟨e₁, result⟩, hevaluate, he⟩ := Option.map_eq_some_iff.1 h
    obtain ⟨e₂, ticket, hbegin, -⟩ := evaluate_cases hevaluate
    exact hcommit committed _ (.evaluate hbegin)
  | rollback now request =>
    obtain ⟨⟨e₁, result⟩, hrollback, he⟩ := Option.map_eq_some_iff.1 h
    cases he
    exact ((rollback_cases hrollback).rejected (hrejected _ rfl)).facts
  | revalidate policy context =>
    cases h
    exact congrArg State.facts (transitionPolicy_rejected (hrejected _ rfl))
  | snapshot now policy =>
    obtain ⟨⟨e₁, view⟩, hview, he⟩ := Option.map_eq_some_iff.1 h
    cases he
    rcases snapshot_cases hview with hstate | ⟨retained, hstate⟩
    · exact congrArg State.facts hstate
    · exact (congrArg State.facts hstate).trans rfl
  | decodeStore now decoded origin =>
    cases h
    exact congrArg State.facts (decodeStore_rejected (hrejected _ rfl))

end

/-! ## Frames -/

/-- The operation a frame asks of the engine. -/
def Frame.operation (session : Session) (reading : Reading) (attempt : UInt64) : Frame → Option Op
  | .registerPublisher message => message.map fun message =>
    .registerPublisher message.publisher message.workerBoot message.scope session.id
  | .fenceNotice message => message.map fun message =>
    .fencePublisher message.publisher message.workerBoot message.cause
  | .createPolicy message => message.map fun message =>
    .createPolicy reading.now
      { name := message.name, scope := message.scope, semantics := message.semantics
        context := makeContext session reading attempt }
  | .updatePolicy message => message.map fun message =>
    .updatePolicy reading.now
      { policy := message.policy
        update := { scope := message.scope, semantics := message.semantics }
        context := makeContext session reading attempt }
  | .policyLifecycle message => message.map fun message =>
    .transitionPolicy
      { policy := message.policy, event := message.event, detail := message.detail
        context := makeContext session reading attempt }
  | .revokePolicy message => message.map fun message =>
    .revokePolicy
      { policy := message.policy, reason := message.reason, detail := message.detail
        context := makeContext session reading attempt }
  | .upstreamNotify notifications => notifications.map fun notifications =>
    .applyUpstream { notifications, context := makeContext session reading attempt }
  | .publishEvidence publications => publications.map fun publications =>
    .publishEvidence reading.accepted { publications, context := makeContext session reading attempt }
  | .evaluate message => message.map fun message =>
    let request : EvaluateRequest :=
      { policy := message.policy, context := makeContext session reading attempt
        deferCommit := message.deferCommit }
    if message.deferCommit then .beginEvaluation reading.begun request
    else .evaluate reading.begun reading.now request
  | .commitDecision ticket => ticket.map fun ticket =>
    .commitEvaluation reading.now { ticket, context := makeContext session reading attempt }
  | .revalidate policy => policy.map fun policy =>
    .revalidate policy (makeContext session reading attempt)
  | .rollback message => message.map fun message =>
    .rollback reading.now
      { policy := message.policy, reason := message.reason
        context := makeContext session reading attempt }
  | .snapshotRequest policy => policy.map (.snapshot reading.now)
  | .advanceEpoch reason => reason.map .advanceEpoch
  | _ => none

/-- No frame recovers a store. -/
theorem Frame.operation_recovers {limits : Limits} {session : Session} {reading : Reading}
    {attempt : UInt64} {frame : Frame} {op : Op}
    (h : frame.operation session reading attempt = some op) : op.recovers limits = none := by
  cases frame with
  | evaluate message =>
    obtain ⟨message, -, hop⟩ := Option.map_eq_some_iff.1 h
    subst hop
    dsimp only
    split <;> rfl
  | hello | helloAck | queryState | snapshotResponse | explainRequest | diffRequest | result | error
  | bye => cases h
  | _ =>
    obtain ⟨message, -, hop⟩ := Option.map_eq_some_iff.1 h
    subst hop
    rfl

/-- What a served frame did: nothing, or the operation it asks for. -/
inductive Performs (config : EngineConfig) (e : Engine) (asked : Option Op) (served : Served) : Prop
  | idle (same : served.engine = e) (silent : ∀ answer, served.reply ≠ .answer answer)
      (errors : ∀ outcome detail, served.reply = .error outcome detail → outcome.isTimely = true)
  | operated {op : Op} {answer : Answer} (asks : asked = some op)
      (steps : e.step config op = some (served.engine, answer))
      (replies : served.reply = .answer answer) (proceeds : served.disposition = .proceed)

section
variable {config : EngineConfig} {e : Engine} {session : Session} {frame : Frame}
  {reading : Reading} {served : Served}

theorem errors_timely {outcome : Outcome} {detail : Text} (h : outcome.isTimely = true) :
    ∀ outcome' detail', Reply.error outcome detail = .error outcome' detail' →
      outcome'.isTimely = true := by
  intro outcome' detail' hreply
  cases hreply
  exact h

theorem serveOperation_performs {α : Type} {message : Option α} {op : α → Op}
    (h : serveOperation config e session frame message op = some served) :
    Performs config e (message.map op) served := by
  unfold serveOperation at h
  cases message with
  | none =>
    cases h
    exact .idle rfl (by simp [rejectPayload]) (errors_timely rfl)
  | some message =>
    obtain ⟨⟨e', answer⟩, hstep, hserved⟩ := Option.map_eq_some_iff.1 h
    subst hserved
    exact .operated rfl hstep rfl rfl

theorem handleSnapshotRequest_performs {policy : Option AdaptivePolicyId}
    (h : handleSnapshotRequest config e session frame reading policy = some served) :
    Performs config e (policy.map (.snapshot reading.now)) served := by
  unfold handleSnapshotRequest at h
  split at h
  · cases h
    exact .idle rfl (by simp [rejectPayload]) (errors_timely rfl)
  · split at h
    · cases h
      exact .idle rfl (by simp) (errors_timely rfl)
    · split at h
      · cases h
        exact .idle rfl (by simp [unknownPolicy]) (errors_timely rfl)
      · obtain ⟨⟨e', answer⟩, hstep, hserved⟩ := Option.map_eq_some_iff.1 h
        subst hserved
        exact .operated rfl hstep rfl rfl

theorem dispatch_performs (h : dispatch config e session frame reading = some served) :
    Performs config e (frame.operation { session with dispatched := session.dispatched + 1 } reading
      (session.dispatched + 1)) served := by
  unfold dispatch at h
  dsimp only at h
  split at h
  · cases h
    exact .idle rfl (by simp) (errors_timely rfl)
  · cases frame with
    | hello wireVersion =>
      cases h
      unfold handleHello
      split
      · exact .idle rfl (by simp [rejectPayload]) (errors_timely rfl)
      · split
        · exact .idle rfl (by simp) (errors_timely rfl)
        · exact .idle rfl (by simp) (by simp)
    | registerPublisher message =>
      cases h
      unfold handleRegisterPublisher
      split
      · exact .idle rfl (by simp [rejectPayload]) (errors_timely rfl)
      · split
        · exact .idle rfl (by simp) (errors_timely rfl)
        · exact .operated rfl rfl rfl rfl
    | snapshotRequest policy => exact handleSnapshotRequest_performs h
    | queryState policy =>
      cases h
      unfold handleQueryState
      split
      · exact .idle rfl (by simp [rejectPayload]) (errors_timely rfl)
      · split
        · exact .idle rfl (by simp [unknownPolicy]) (errors_timely rfl)
        · exact .idle rfl (by simp) (by simp)
    | explainRequest policy =>
      cases h
      unfold handleExplainRequest
      split
      · exact .idle rfl (by simp [rejectPayload]) (errors_timely rfl)
      · exact .idle rfl (by simp) (by simp)
    | diffRequest message =>
      cases h
      unfold handleDiffRequest
      dsimp only
      split
      · exact .idle rfl (by simp [rejectPayload]) (errors_timely rfl)
      · split
        · exact .idle rfl (by simp) (errors_timely rfl)
        · split
          · exact .idle rfl (by simp) (errors_timely rfl)
          · exact .idle rfl (by simp) (by simp)
    | helloAck | snapshotResponse | result | error =>
      cases h
      exact .idle rfl (by simp) (errors_timely rfl)
    | bye =>
      cases h
      exact .idle rfl (by simp) (by simp)
    | _ => exact serveOperation_performs h

end

/-! ## The store -/

namespace Coordinator

/-- The store decodes to the facts of the engine. A store that was never written holds those of a new
engine. -/
def Durable (config : EngineConfig) (c : Coordinator) : Prop :=
  c.store.elim (c.engine.state.facts = (Engine.start config []).state.facts) fun bytes =>
    ∃ d, decodeDurableState bytes = .ok d ∧ d.facts = c.engine.state.facts

theorem Durable.of_facts {config : EngineConfig} {c c' : Coordinator} (h : c.Durable config)
    (hstore : c'.store = c.store) (hfacts : c'.engine.state.facts = c.engine.state.facts) :
    c'.Durable config := by
  unfold Durable at h ⊢
  rw [hstore, hfacts]
  exact h

/-- Fencing changes no fact. -/
theorem fencePublisher_facts (s : State) (publisher : PublisherId) (boot : WorkerBootId)
    (cause : Text) : (s.fencePublisher publisher boot cause).1.facts = s.facts := by
  unfold State.fencePublisher
  split
  · rfl
  · split <;> rfl

/-! ## Runs -/

def Event.saving : Event → Saving
  | .accept _ => { now := 0 }
  | .frame _ _ _ saving => saving
  | .lost _ saving => saving

/-- The operation an event asks of the engine. -/
def operation (c : Coordinator) : Event → Option Op
  | .frame index frame reading _ => c.sessions[index]?.bind fun session =>
    frame.operation { session with dispatched := session.dispatched + 1 } reading
      (session.dispatched + 1)
  | _ => none

/-- The event's save is written, with a store that can be loaded, and its operation does not slip. -/
structure Covered (config : EngineConfig) (c : Coordinator) (event : Event) : Prop where
  saved : event.saving.refusal = none
  faithful : ∀ op, c.operation event = some op → ¬ Slips config c.engine op
  loadable : ∀ c' reply, c.step config event = some (c', reply) →
    c'.store = some (c'.engine.state.encodeStore event.saving.now) →
    (c'.engine.state.buildDurable event.saving.now).Storable

section
variable {config : EngineConfig} {c c' : Coordinator} {session : Session} {saving : Saving}

/-- A save that is written leaves the facts in the store, if the store can be loaded. -/
theorem save_durable (hsaved : saving.refusal = none) (h : c' = c.save saving)
    (hloadable : c'.store = some (c'.engine.state.encodeStore saving.now) →
      (c'.engine.state.buildDurable saving.now).Storable) : c'.Durable config := by
  unfold save at h
  rw [hsaved] at h
  subst h
  exact ⟨_, decode_encode.2 (hloadable rfl),
    (DurableState.facts_stored _).trans (c.engine.state.facts_buildDurable saving.now)⟩

/-- The end of a session changes no fact; it may save. -/
theorem endSession_cases (c : Coordinator) (session : Session) (saving : Saving) :
    ∃ c₁ : Coordinator, c₁.store = c.store ∧ c₁.engine.state.facts = c.engine.state.facts ∧
      (c.endSession session saving = c₁ ∨ c.endSession session saving = c₁.save saving) := by
  unfold endSession
  split
  · refine ⟨{ c with engine := { c.engine with state := (c.engine.state.fencePublisher
      session.publisher session.workerBoot "SESSION_LOST").1 } }, rfl, fencePublisher_facts .., ?_⟩
    dsimp only
    split
    · exact .inr rfl
    · exact .inl rfl
  · exact ⟨c, rfl, rfl, .inl rfl⟩

theorem endSession_durable (hsaved : saving.refusal = none) (hdurable : c.Durable config)
    (hloadable : (c.endSession session saving).store =
        some ((c.endSession session saving).engine.state.encodeStore saving.now) →
      ((c.endSession session saving).engine.state.buildDurable saving.now).Storable) :
    (c.endSession session saving).Durable config := by
  obtain ⟨c₁, hstore, hfacts, hended | hended⟩ := c.endSession_cases session saving
  · rw [hended]
    exact hdurable.of_facts hstore hfacts
  · exact save_durable hsaved hended hloadable

/-- What one event does: it keeps the facts in the store, and a saved frame puts them there. -/
theorem step_durable {event : Event} {reply : Reply} (h : c.step config event = some (c', reply))
    (hcovered : Covered config c event)
    (hdurable : c.Durable config ∨
      ∃ result, reply = .answer (.result result) ∧ durable result = true) :
    c'.Durable config := by
  have hloadable := hcovered.loadable c' reply h
  have hsaved := hcovered.saved
  have hslips := hcovered.faithful
  cases event with
  | accept session =>
    cases h
    rcases hdurable with hdurable | ⟨_, hreply, -⟩
    · exact hdurable
    · cases hreply
  | lost index saving =>
    obtain ⟨session, -, hended⟩ := Option.map_eq_some_iff.1 h
    cases hended
    rcases hdurable with hdurable | ⟨_, hreply, -⟩
    · exact endSession_durable hsaved (hdurable.of_facts rfl rfl) hloadable
    · cases hreply
  | frame index frame reading saving =>
    obtain ⟨session, hsession, hreceived⟩ := Option.bind_eq_some_iff.1 h
    obtain ⟨served, hdispatch, hc⟩ := Option.map_eq_some_iff.1 hreceived
    simp only [operation, hsession, Option.bind_some] at hslips
    cases dispatch_performs hdispatch with
    | idle same silent =>
      have hresponds : ∀ c₁ : Coordinator, c₁.respond saving served.reply = (c₁, served.reply) := by
        intro c₁
        unfold respond
        split
        · rename_i hanswer
          exact absurd hanswer (silent _)
        · rfl
      simp only [hresponds] at hc
      cases hc
      rcases hdurable with hdurable | ⟨result, hreply, -⟩
      · split
        · exact hdurable.of_facts rfl (by rw [same])
        · exact hdurable.of_facts rfl (by rw [same])
        · rename_i hfailed
          rw [hfailed] at hloadable
          refine endSession_durable hsaved (hdurable.of_facts rfl ?_) hloadable
          show served.engine.state.facts = _
          rw [same]
      · exact absurd hreply (silent _)
    | @operated op answer asks steps replies proceeds =>
      simp only [replies, proceeds] at hc
      have hkept : (∀ result, answer = .result result → durable result = false) →
          served.engine.state.facts = c.engine.state.facts :=
        step_facts steps (hslips op asks)
      cases answer with
      | result result =>
        by_cases hresult : durable result = true
        · simp only [respond, respondOperation, hresult, if_true] at hc
          exact save_durable hsaved (congrArg Prod.fst hc).symm hloadable
        · have hunsaved : durable result = false := Bool.eq_false_iff.2 hresult
          simp only [respond, respondOperation, hunsaved] at hc
          cases hc
          rcases hdurable with hdurable | ⟨other, hreply, hother⟩
          · refine hdurable.of_facts rfl (hkept fun other hsame => ?_)
            cases hsame
            exact hunsaved
          · cases hreply
            exact absurd hother hresult
      | ticket | view =>
        cases hc
        rcases hdurable with hdurable | ⟨_, hreply, -⟩
        · exact hdurable.of_facts rfl (hkept fun _ hsame => by cases hsame)
        · cases hreply

/-- A recovery that is accepted takes the next epoch. -/
theorem applyDurable_epoch {s : State} {now : Ticks} {d : DurableState} {origin : Text}
    (haccepted : (s.applyDurable config now d origin).2.accepted = true) :
    d.epoch.next = some (s.applyDurable config now d origin).1.epoch := by
  unfold State.applyDurable at haccepted ⊢
  split
  · rename_i hversion
    simp [hversion, OperationResult.accepted, Outcome.isSuccess] at haccepted
  · rename_i hversion
    split
    · rename_i hlimits
      simp [hversion, hlimits, OperationResult.accepted, Outcome.isSuccess] at haccepted
    · rename_i hlimits
      rw [if_neg hversion, if_neg hlimits] at haccepted
      split
      · rename_i epoch authority hepoch hauthority
        have hentered : (State.recoveredState config now d epoch authority).epoch = epoch :=
          congrArg State.Standing.epoch (recoveredState_standing config now d epoch authority)
        rw [hepoch]
        exact congrArg some hentered.symm
      · rename_i hexhausted
        split at haccepted
        · rename_i hepoch hauthority
          exact absurd hauthority (hexhausted _ _ hepoch)
        · simp [OperationResult.accepted, Outcome.isSuccess] at haccepted

/-- A coordinator that loaded its store is in a later epoch than the store. -/
theorem start_behind {nonce origin bytes : Text} {now : Ticks}
    (h : start config nonce origin now (some bytes) = some c) : ¬ c.Durable config := by
  unfold start at h
  dsimp only at h
  split at h
  · rename_i haccepted
    cases h
    intro hdurable
    obtain ⟨d, hdecodes, hfacts⟩ := hdurable
    rw [hdecodes] at haccepted hfacts
    have hepoch : d.epoch = ((Engine.start config nonce).state.applyDurable config now d origin).1.epoch :=
      congrArg DurableState.epoch hfacts
    have hgrows := Generation.next_toNat (applyDurable_epoch haccepted)
    rw [← hepoch] at hgrows
    omega
  · cases h

end

/-- The store holds the facts of the engine at every answer of a coordinator that started with no
store, and from its first save on of one that loaded its store, when no frame slips. -/
theorem acknowledged_is_durable {config : EngineConfig} {c c' : Coordinator}
    (hrun : Runs.Run (step config) (Covered config) c c') :
    (∀ nonce origin now, start config nonce origin now none = some c → c'.Durable config) ∧
    (c.Durable config → c'.Durable config) ∧
    (∀ nonce origin now bytes, start config nonce origin now (some bytes) = some c →
      ¬ c.Durable config) ∧
    ∀ event c₁ result, Covered config c event → durable result = true →
      c.step config event = some (c₁, .answer (.result result)) → c₁.Durable config := by
  have hkeeps : c.Durable config → c'.Durable config := fun hdurable =>
    hrun.inv (fun _ _ _ _ hcovered hdurable h => step_durable h hcovered (.inl hdurable)) hdurable
  refine ⟨fun nonce origin now hstart => hkeeps ?_, hkeeps,
    fun nonce origin now bytes hstart => start_behind hstart,
    fun event c₁ result hcovered hresult h => ?_⟩
  · cases hstart
    rfl
  · exact step_durable h hcovered (.inr ⟨result, rfl, hresult⟩)

end Coordinator

namespace Scenario

/-! ## A conversation -/

def fresh : Coordinator := { engine }

def say (frame : Frame) : Coordinator.Event :=
  .frame 0 frame { epoch := ⟨1⟩, begun := 2, now := 2 } { now := 2 }

def settling : List Coordinator.Event :=
  [.accept session,
    say (.registerPublisher (some { publisher, workerBoot := boot, scope })),
    say (.createPolicy (some { name := (create 1).name, scope := (create 1).scope, semantics })),
    say (.policyLifecycle (some { policy })),
    say (.upstreamNotify (some [declare left])),
    say (.publishEvidence (some [{ source := name "source", sourceGeneration := ⟨1⟩, path := left
                                   value := latency 100, observationSequence := 1 }])),
    say (.evaluate (some { policy }))]

def served (events : List Coordinator.Event) : Coordinator :=
  (Runs.runAll (Coordinator.step config) fresh events).getD fresh

/-- A publisher registers in the session. -/
def enrolment : Coordinator.Event :=
  say (.registerPublisher (some { publisher, workerBoot := boot, scope }))

/-- The policy is evaluated once more, and keeps its preference. -/
def idleEvaluation : Coordinator.Event := say (.evaluate (some { policy }))

/-- The session creates a policy. -/
def creation : Coordinator.Event :=
  say (.createPolicy (some { name := (create 1).name, scope := (create 1).scope, semantics }))

end Scenario

open Scenario in
/-- A new coordinator registers a publisher that creates a policy, and its store holds the facts. -/
theorem creation_is_durable : (served [.accept session, enrolment, creation]).Durable config ∧
    ((served [.accept session, enrolment, creation]).store.any fun bytes =>
      (decodeDurableState bytes).toOption.any fun d => d.policies.length == 1) = true := by
  have haccepted : Coordinator.Covered config fresh (.accept session) :=
    { saved := rfl
      faithful := fun _ hop => by cases hop
      loadable := fun c' reply h hstore => by
        cases h
        cases hstore }
  have henrolled : Coordinator.Covered config (served [.accept session]) enrolment :=
    { saved := rfl
      faithful := fun op hop hslips => by
        cases hop
        cases hslips with
        | suppressed commits => cases commits
      loadable := fun c' reply h _ => by
        cases h
        exact decode_encode.1 (by decide +kernel) }
  have hcreated : Coordinator.Covered config (served [.accept session, enrolment]) creation :=
    { saved := rfl
      faithful := fun op hop hslips => by
        cases hop
        cases hslips with
        | suppressed commits => cases commits
      loadable := fun c' reply h _ => by
        cases h
        exact decode_encode.1 (by decide +kernel) }
  refine ⟨(Coordinator.acknowledged_is_durable
    (.tail (.tail (.single haccepted rfl) henrolled rfl) hcreated rfl)).1 "n" [] 0 rfl, ?_⟩
  decide +kernel

open Scenario in
/-- The history the second evaluation writes is only in memory when it is answered: the store holds one
record, the engine two. -/
theorem suppressed_evaluation_is_unsaved :
    Runs.Run (Coordinator.step config) (fun _ event => event.saving.refusal = none) fresh
      (served (settling ++ [idleEvaluation])) ∧
      ¬ (served (settling ++ [idleEvaluation])).Durable config := by
  constructor
  · have hreturns : (Runs.runAll (Coordinator.step config) fresh
        (settling ++ [idleEvaluation])).isSome = true := by decide +kernel
    obtain ⟨c, hc⟩ := Option.isSome_iff_exists.1 hreturns
    unfold served
    rw [hc]
    exact Runs.runAll_under (fun event => event.saving.refusal = none) hc (by decide +kernel)
  · intro hdurable
    have hcounts : (served (settling ++ [idleEvaluation])).store.elim true (fun bytes =>
        (decodeDurableState bytes).toOption.any fun d => d.history.length ==
          (served (settling ++ [idleEvaluation])).engine.state.facts.history.length) = false := by
      decide +kernel
    unfold Coordinator.Durable at hdurable
    cases hstore : (served (settling ++ [idleEvaluation])).store with
    | none => simp [hstore] at hcounts
    | some bytes =>
      rw [hstore] at hdurable hcounts
      obtain ⟨d, hdecodes, hfacts⟩ := hdurable
      have hlength : d.history.length = d.facts.history.length := by
        simp [DurableState.facts, DurableState.stored]
      simp [hdecodes, hlength, hfacts, Except.toOption] at hcounts

end AdaptiveRouting
