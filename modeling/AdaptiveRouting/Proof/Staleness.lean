import AdaptiveRouting.Proof.Acknowledge
import AdaptiveRouting.Proof.Batch
import AdaptiveRouting.Proof.Replay
import AdaptiveRouting.Proof.Retained
import AdaptiveRouting.Proof.Session
import AdaptiveRouting.Wire.Serve

/-!
# Stale epochs

The epoch an entry point compares is that of the caller's context, which the coordinator reads off the
engine. So a frame is answered STALE_EPOCH for what its payload says and never for what its header
says (`stale_epoch_frame_iff`): the ticket of a commit names the epoch it was issued in, or says that
it was refused so, and a notification names the epoch of its provenance (`StalePayload`).
-/

namespace AdaptiveRouting

open Guard Engine

/-! ## Checks of a current caller -/

/-- No refusal reports a stale epoch. -/
abbrev Timely {α : Type} (x : Except OperationResult α) : Prop :=
  Refuses (fun answer => answer.outcome ≠ .staleEpoch) x

/-- Not refused, or refused for a stale epoch. -/
abbrev Late {α : Type} (x : Except OperationResult α) : Prop :=
  Passes (fun answer => answer.outcome ≠ .staleEpoch) x

namespace State

theorem makeResult_timely {s : State} {outcome : Outcome} {detail : Text} {policy : AdaptivePolicyId}
    (h : outcome.isTimely = true) : (s.makeResult outcome detail policy).outcome ≠ .staleEpoch := by
  rw [makeResult_outcome]
  exact isTimely_ne h

section
variable {s : State} {limits : Limits} {context : MutationContext}

theorem guard_timely {c : Bool} {outcome : Outcome} {detail : Text} {policy : AdaptivePolicyId}
    (h : outcome.isTimely = true) : Timely (refuseIf c (s.makeResult outcome detail policy)) :=
  .guard (makeResult_timely h)

theorem found_timely {α : Type} {x : Option α} {outcome : Outcome} {detail : Text}
    {policy : AdaptivePolicyId} (h : outcome.isTimely = true) :
    Timely (orRefuse x (s.makeResult outcome detail policy)) :=
  .found (makeResult_timely h)

theorem checkCaller_timely (h : context.epoch = s.epoch) (route : Option RouteId)
    (set : Option MultipathSetId) :
    Refuses (fun refusal => refusal.1 ≠ .staleEpoch) (s.checkCaller context route set) := by
  unfold checkCaller
  refine .bind (.guard (by simp)) fun _ => .bind (.guard_of fun hstale => ?_) fun _ => ?_
  · rw [h] at hstale
    simp at hstale
  refine .bind (.guard (by simp)) fun _ => .bind (.found (by simp)) fun registration => ?_
  refine .bind (.guard (by simp)) fun _ => .bind (.guard (by simp)) fun _ => ?_
  refine .bind (.guard (by simp)) fun _ => .bind (.guard (by simp)) fun _ => ?_
  exact .bind (.guard (by simp)) fun _ => .ok _

theorem requireCaller_timely (h : context.epoch = s.epoch) (route : Option RouteId)
    (set : Option MultipathSetId) (policy : AdaptivePolicyId) :
    Timely (s.requireCaller context route set policy) := by
  refine .mapError (checkCaller_timely h route set) fun refusal hrefusal => ?_
  rw [makeResult_outcome]
  exact hrefusal

theorem refuseReplay_timely (attempt : MutationAttemptId) (fingerprint : Text) :
    Timely (s.refuseReplay attempt fingerprint) := by
  refine .absent fun answer h => ?_
  unfold replayCheck at h
  split at h
  · cases h
    simp
  · split at h
    · cases h
    · split at h <;>
      · cases h
        simp

theorem checkSemantics_timely (semantics : PolicySemantics) (policy : AdaptivePolicyId) :
    Timely (semantics.check.mapError fun reason =>
      s.makeResult (semanticsOutcome reason) reason policy) :=
  .mapError (P := fun _ => True) (fun _ _ => trivial) fun reason _ =>
    makeResult_timely (semanticsOutcome_isTimely reason)

theorem createChecks_timely {request : CreatePolicyRequest} (h : request.context.epoch = s.epoch) :
    Timely (s.createChecks limits request) := by
  unfold createChecks
  refine .bind (guard_timely rfl) fun _ => .bind (checkSemantics_timely _ _) fun _ => ?_
  refine .bind (requireCaller_timely h _ _ _) fun registration => ?_
  refine .bind (guard_timely rfl) fun _ => .bind (guard_timely rfl) fun _ => ?_
  refine .bind (guard_timely rfl) fun _ => .bind (guard_timely rfl) fun _ => ?_
  exact .bind (refuseReplay_timely _ _) fun _ => .ok _

theorem updateChecks_timely {request : UpdatePolicyRequest} (h : request.context.epoch = s.epoch) :
    Timely (s.updateChecks limits request) := by
  unfold updateChecks
  refine .bind (guard_timely rfl) fun _ => .bind (guard_timely rfl) fun _ => ?_
  refine .bind (checkSemantics_timely _ _) fun _ => .bind (found_timely rfl) fun record => ?_
  refine .bind (requireCaller_timely h _ _ _) fun registration => .bind (guard_timely rfl) fun _ => ?_
  refine .bind (guard_timely (lifecycleOutcome_isTimely _)) fun _ => ?_
  refine .bind (guard_timely rfl) fun _ => .bind (guard_timely rfl) fun _ => ?_
  refine .bind (refuseReplay_timely _ _) fun _ => ?_
  exact .bind (found_timely rfl) fun _ => .ok _

theorem transitionChecks_timely {request : PolicyLifecycleRequest}
    (h : request.context.epoch = s.epoch) : Timely (s.transitionChecks request) := by
  unfold transitionChecks
  refine .bind (guard_timely rfl) fun _ => .bind (found_timely rfl) fun record => ?_
  refine .bind (requireCaller_timely h _ _ _) fun registration => ?_
  refine .bind (guard_timely (lifecycleOutcome_isTimely _)) fun _ => ?_
  exact .bind (found_timely rfl) fun _ => .ok _

theorem revokeChecks_timely {request : RevokePolicyRequest} (h : request.context.epoch = s.epoch) :
    Timely (s.revokeChecks limits request) := by
  unfold revokeChecks
  refine .bind (guard_timely rfl) fun _ => .bind (found_timely rfl) fun record => ?_
  refine .bind (requireCaller_timely h _ _ _) fun registration => .bind (.absent ?_) fun _ => ?_
  · intro answer hanswer
    obtain ⟨existing, -, hexisting⟩ := Option.map_eq_some_iff.1 hanswer
    subst hexisting
    split <;> simp
  refine .bind (guard_timely (lifecycleOutcome_isTimely _)) fun _ => ?_
  exact .bind (guard_timely rfl) fun _ => .ok _

theorem validatePublication_timely (scope : AuthorityScope) (batch : BatchState)
    (publication : EvidencePublication) :
    Timely (s.validatePublication limits scope batch publication) := by
  unfold validatePublication
  refine .bind (guard_timely rfl) fun _ => .bind (guard_timely rfl) fun _ => ?_
  refine .bind (guard_timely rfl) fun _ => .bind (guard_timely rfl) fun _ => ?_
  refine .bind (guard_timely rfl) fun _ => .bind (guard_timely rfl) fun _ => ?_
  exact .bind (guard_timely rfl) fun _ => .ok _

theorem publishChecks_timely {request : PublishEvidenceRequest}
    (h : request.context.epoch = s.epoch) : Timely (s.publishChecks limits request) := by
  unfold publishChecks
  refine .bind (guard_timely rfl) fun _ => .bind (guard_timely rfl) fun _ => ?_
  refine .bind (requireCaller_timely h _ _ _) fun registration => ?_
  refine .bind (refuseReplay_timely _ _) fun _ => .bind (.foldlM ?_ _ _) fun _ => .ok _
  exact validatePublication_timely registration.scope

theorem rollbackChecks_timely {request : RollbackRequest} (h : request.context.epoch = s.epoch) :
    Timely (s.rollbackChecks request) := by
  unfold rollbackChecks
  refine .bind (guard_timely rfl) fun _ => .bind (found_timely rfl) fun record => ?_
  refine .bind (requireCaller_timely h _ _ _) fun registration => ?_
  refine .bind (guard_timely (lifecycleOutcome_isTimely _)) fun _ => ?_
  exact .bind (refuseReplay_timely _ _) fun _ => .ok _

theorem verifyRollback_timely (record : PolicyRecord) :
    Refuses (fun refusal => refusal.outcome ≠ .staleEpoch) (verifyRollback record) := by
  unfold verifyRollback
  refine .bind (.guard (by simp)) fun _ => .bind (.found (by simp)) fun target => ?_
  refine .bind (.guard (by simp)) fun _ => .bind (.guard (by simp)) fun _ => ?_
  refine .bind (.guard (by simp)) fun _ => .bind (.guard (by simp)) fun _ => ?_
  refine .bind (.guard (by simp)) fun _ => .bind (.found (by simp)) fun _ => ?_
  exact .bind (.found (by simp)) fun _ => .ok _

theorem verifyCommit_timely (now : Ticks) (record : PolicyRecord) (ticket : EvaluationTicket) :
    Refuses (fun refusal => refusal.1 ≠ .staleEpoch) (s.verifyCommit limits now record ticket) := by
  unfold verifyCommit
  refine .bind (.guard (by simp)) fun _ => .bind (.guard (by simp)) fun _ => ?_
  refine .bind (.guard (by simp)) fun _ => .bind (.found (by simp)) fun target => ?_
  refine .bind (.guard (by simp)) fun _ => .bind (.guard (by simp)) fun _ => ?_
  refine .bind (.guard (by simp)) fun _ => .bind (.found (by simp)) fun _ => ?_
  exact .bind (.found (by simp)) fun _ => .ok _

theorem registerChecks_timely (publisher : PublisherId) (workerBoot : WorkerBootId)
    (scope : AuthorityScope) (session : SessionId) :
    Timely (s.registerChecks limits publisher workerBoot scope session) := by
  unfold registerChecks
  refine .bind (guard_timely rfl) fun _ => .bind (guard_timely rfl) fun _ => ?_
  exact .bind (guard_timely rfl) fun _ => guard_timely rfl

theorem upstreamChecks_timely (request : UpstreamNotifyRequest) :
    Timely (s.upstreamChecks limits request) := by
  unfold upstreamChecks
  refine .bind (guard_timely rfl) fun _ => .bind (guard_timely rfl) fun _ => ?_
  exact .bind (refuseReplay_timely _ _) fun _ => .ok _

theorem applyEvent_timely (record : PolicyRecord) (n : UpstreamNotification) :
    Timely (s.applyEvent limits record n) := by
  unfold applyEvent
  dsimp only
  split
  · split
    · refine .bind (guard_timely rfl) fun _ => .bind (guard_timely rfl) fun _ => ?_
      exact .bind (guard_timely rfl) fun _ => .ok _
    · exact .bind (guard_timely rfl) fun _ => .ok _
  · refine .bind (found_timely rfl) fun _ => .bind (guard_timely rfl) fun _ => ?_
    exact .bind (guard_timely rfl) fun _ => .ok _
  · exact .ok _
  · exact .bind (found_timely rfl) fun _ => .ok _
  · exact .ok _
  · exact .bind (found_timely rfl) fun _ => .ok _
  · exact .ok _
  · exact .bind (found_timely rfl) fun _ => .ok _
  all_goals exact .ok _

end

end State

/-! ## Provenance -/

/-- A notification that is refused for the epoch its provenance names. -/
structure StaleProvenance (s : State) (context : MutationContext) (n : UpstreamNotification)
    (record : PolicyRecord) : Prop where
  named : n.policy.valid = true
  found : s.policies[n.policy]? = some record
  event : validUpstreamEvent n.event.code = true
  formed : n.binding.wellFormed = true
  live : record.policy.lifecycle.terminal = false
  publisher : (n.provenance.publisher.valid && n.provenance.publisher != context.publisher) = false
  worker : (n.provenance.workerBoot.valid && n.provenance.workerBoot != context.workerBoot) = false
  epoch : (n.provenance.epoch.valid && n.provenance.epoch != s.epoch) = true

section
variable {s : State} {limits : Limits} {context : MutationContext} {n : UpstreamNotification}

theorem StaleProvenance.refused {record : PolicyRecord} (h : StaleProvenance s context n record) :
    s.applyNotification limits context n =
      .error (s.makeResult .staleEpoch "upstream provenance carries a stale epoch" n.policy) := by
  refine bind_of_error ?_
  unfold State.notificationChecks
  rw [seq_of (by rw [h.named]; rfl), bind_of (orRefuse_of h.found), seq_of (by rw [h.event]; rfl),
    seq_of (by rw [h.formed]; rfl), seq_of h.live, seq_of h.publisher, seq_of h.worker]
  refine bind_of_error ?_
  rw [h.epoch]
  rfl

theorem notificationChecks_timely (hcontext : context.epoch = s.epoch)
    (hepoch : (n.provenance.epoch.valid && n.provenance.epoch != s.epoch) = false) :
    Timely (s.notificationChecks context n) := by
  unfold State.notificationChecks
  refine .bind (State.guard_timely rfl) fun _ => .bind (State.found_timely rfl) fun record => ?_
  refine .bind (State.guard_timely rfl) fun _ => .bind (State.guard_timely rfl) fun _ => ?_
  refine .bind (State.guard_timely (lifecycleOutcome_isTimely _)) fun _ => ?_
  refine .bind (State.guard_timely rfl) fun _ => .bind (State.guard_timely rfl) fun _ => ?_
  refine .bind (.guard_of fun hstale => ?_) fun _ => ?_
  · rw [hepoch] at hstale
    cases hstale
  refine .bind (State.requireCaller_timely hcontext _ _ _) fun registration => ?_
  refine .bind (State.guard_timely rfl) fun _ => .bind (State.guard_timely rfl) fun _ => ?_
  exact .bind (State.guard_timely rfl) fun _ => .bind (State.guard_timely rfl) fun _ => .ok _

/-- A notification of a current caller is refused as stale only for its provenance. -/
theorem applyNotification_stale {answer : OperationResult} (hcontext : context.epoch = s.epoch)
    (h : s.applyNotification limits context n = .error answer)
    (hstale : answer.outcome = .staleEpoch) : ∃ record, StaleProvenance s context n record := by
  rcases bind_error h with h | ⟨record, -, h⟩
  · have hlate : Late (s.notificationChecks context n) := .of_error h (by simpa using hstale)
    unfold State.notificationChecks at hlate
    obtain ⟨hnamed, hlate⟩ := hlate.seq (State.makeResult_timely rfl)
    obtain ⟨record, hfound, hlate⟩ := hlate.bind (State.found_timely rfl)
    obtain ⟨hevent, hlate⟩ := hlate.seq (State.makeResult_timely rfl)
    obtain ⟨hformed, hlate⟩ := hlate.seq (State.makeResult_timely rfl)
    obtain ⟨hlive, hlate⟩ := hlate.seq (State.makeResult_timely (lifecycleOutcome_isTimely _))
    obtain ⟨hpublisher, hlate⟩ := hlate.seq (State.makeResult_timely rfl)
    obtain ⟨hworker, hlate⟩ := hlate.seq (State.makeResult_timely rfl)
    refine ⟨record, by simpa using hnamed, orRefuse_ok hfound, by simpa using hevent,
      by simpa using hformed, hlive, hpublisher, hworker, ?_⟩
    by_contra hepoch
    have htimely := notificationChecks_timely hcontext (Bool.eq_false_iff.2 hepoch)
    exact htimely answer h hstale
  · exact absurd hstale (State.applyEvent_timely record n answer h)

end

/-! ## Tickets -/

section
variable {s : State} {request : CommitDecisionRequest}

theorem commitChecks_timely (hticket : request.ticket.lifecycle ≠ .rejected)
    (hcontext : request.context.epoch = s.epoch)
    (hepoch : s.epoch = request.ticket.dependencies.epoch) : Timely (s.commitChecks request) := by
  unfold State.commitChecks
  refine .bind (.guard_of fun hrejected => ?_) fun _ => .bind (State.guard_timely rfl) fun _ => ?_
  · simp [hticket] at hrejected
  refine .bind (State.requireCaller_timely hcontext _ _ _) fun registration => ?_
  refine .bind (State.found_timely rfl) fun record => .bind (.guard_of fun hstale => ?_) fun _ => ?_
  · simp [hepoch] at hstale
  refine .bind (State.guard_timely rfl) fun _ => ?_
  refine .bind (State.guard_timely (lifecycleOutcome_isTimely _)) fun _ => ?_
  refine .bind (State.guard_timely rfl) fun _ => .bind (State.guard_timely rfl) fun _ => ?_
  refine .bind (State.guard_timely rfl) fun _ => .bind (.absent fun answer hdrift => ?_) fun _ => ?_
  · obtain ⟨drift, hsome, hanswer⟩ := Option.map_eq_some_iff.1 hdrift
    subst hanswer
    split at hsome
    · exact State.makeResult_timely (dependencyDrift_isTimely hsome)
    · cases hsome
  exact .bind (State.refuseReplay_timely _ _) fun _ => .ok _

/-- A ticket that was issued in another epoch. -/
structure StaleTicket (s : State) (request : CommitDecisionRequest)
    (registration : PublisherRegistration) (record : PolicyRecord) : Prop where
  unrejected : request.ticket.lifecycle ≠ .rejected
  named : request.ticket.dependencies.policy.valid = true
  caller : Authorized s request.context none none registration
  found : s.policies[request.ticket.dependencies.policy]? = some record
  stale : s.epoch ≠ request.ticket.dependencies.epoch

theorem StaleTicket.refused {registration : PublisherRegistration} {record : PolicyRecord}
    (h : StaleTicket s request registration record) : s.commitChecks request =
      .error (s.makeResult .staleEpoch "epoch advanced after the evaluation started"
        request.ticket.dependencies.policy) := by
  unfold State.commitChecks
  rw [seq_of (by simpa using h.unrejected), seq_of (by rw [h.named]; rfl),
    bind_of (State.requireCaller_authorized h.caller _), bind_of (orRefuse_of h.found)]
  refine bind_of_error ?_
  simp [refuseIf, h.stale]

/-- The ticket of a current caller is refused as stale for its epoch, unless it says so itself. -/
theorem commitChecks_stale {answer : OperationResult} (hcontext : request.context.epoch = s.epoch)
    (hticket : request.ticket.lifecycle ≠ .rejected) (h : s.commitChecks request = .error answer)
    (hstale : answer.outcome = .staleEpoch) :
    ∃ registration record, StaleTicket s request registration record := by
  have hlate : Late (s.commitChecks request) := .of_error h (by simpa using hstale)
  have hepoch : s.epoch ≠ request.ticket.dependencies.epoch := fun hepoch =>
    commitChecks_timely hticket hcontext hepoch answer h hstale
  unfold State.commitChecks at hlate
  obtain ⟨_, -, hlate⟩ := hlate.bind (.guard_of fun hrejected => by simp [hticket] at hrejected)
  obtain ⟨hnamed, hlate⟩ := hlate.seq (State.makeResult_timely rfl)
  obtain ⟨registration, hcaller, hlate⟩ := hlate.bind (State.requireCaller_timely hcontext _ _ _)
  obtain ⟨record, hfound, -⟩ := hlate.bind (State.found_timely rfl)
  exact ⟨registration, record, hticket, by simpa using hnamed, State.requireCaller_ok hcaller,
    orRefuse_ok hfound, hepoch⟩

end

theorem beginChecks_timely {limits : Limits} {e : Engine} {request : EvaluateRequest}
    (h : request.context.epoch = e.state.epoch) :
    Refuses (fun ticket => ticket.outcome ≠ .staleEpoch) (beginChecks limits e request) := by
  unfold beginChecks
  have hrejected {outcome : Outcome} (h : outcome.isTimely = true) (detail : Text) :
      (rejectedTicket outcome detail).outcome ≠ .staleEpoch := isTimely_ne h
  refine .bind (.guard (hrejected rfl _)) fun _ => .bind (.guard (hrejected rfl _)) fun _ => ?_
  refine .bind (.found (hrejected rfl _)) fun record => ?_
  refine .bind (.mapError (State.checkCaller_timely h _ _) fun _ hrefusal => hrefusal) fun _ => ?_
  refine .bind (.guard (hrejected (lifecycleOutcome_isTimely _) _)) fun _ => ?_
  exact .bind (.guard (hrejected rfl _)) fun _ => .bind (.guard (hrejected rfl _)) fun _ => .ok _

/-- Phase one never says that its own epoch is stale. -/
theorem beginEvaluation_timely {limits : Limits} {e e' : Engine} {now : Ticks}
    {request : EvaluateRequest} {ticket : EvaluationTicket}
    (hcontext : request.context.epoch = e.state.epoch)
    (h : beginEvaluation limits e now request = some (e', ticket)) :
    ticket.outcome ≠ .staleEpoch := by
  rcases beginEvaluation_cases h with ⟨-, hrefused | ⟨_, _, _, _, -, rfl⟩⟩
  · exact beginChecks_timely hcontext _ hrefused
  · exact isTimely_ne (EvaluationInputs.evaluate_outcome _ _)

/-! ## Operations -/

/-- The operations whose request names an epoch besides that of its context. -/
def Op.dated : Op → Bool
  | .applyUpstream _ | .commitEvaluation .. => true
  | _ => false

section
variable {config : EngineConfig} {e e' : Engine} {op : Op} {answer : Answer}

/-- Phase two on a ticket phase one has just issued. -/
theorem CommitEffect.begun_timely {limits : Limits} {s' : State} {begun now : Ticks}
    {request : EvaluateRequest} {ticket : EvaluationTicket} {outcome : Outcome} {e₁ : Engine}
    (hcontext : request.context.epoch = e.state.epoch)
    (hbegin : beginEvaluation limits e begun request = some (e₁, ticket))
    (h : CommitEffect limits e.state now { ticket, context := request.context } s' outcome) :
    outcome ≠ .staleEpoch := by
  have hticket := beginEvaluation_timely hcontext hbegin
  cases h with
  | @refused answer checks =>
    by_cases hrejected : ticket.lifecycle = .rejected
    · rw [State.commitChecks_rejected e.state hrejected] at checks
      cases checks
      rw [State.makeResult_outcome]
      exact hticket
    · obtain ⟨-, hrefused | ⟨record, _, _, _, _, hissues⟩⟩ := beginEvaluation_issues hbegin
      · exact absurd hrefused.lifecycle hrejected
      · have hepoch : e.state.epoch = ticket.dependencies.epoch := by
          rw [hissues.dependencies]
          rfl
        exact commitChecks_timely hrejected hcontext hepoch answer checks
  | suppressed => exact hticket
  | unchanged => simp
  | unverified _ _ _ verified => exact State.verifyCommit_timely now _ _ _ verified
  | committed => simp

/-- No other operation of a current caller is answered as stale. -/
theorem step_timely (h : e.step config op = some (e', answer)) (hop : op.dated = false)
    (hcontext : ∀ context, op.context = some context → context.epoch = e.state.epoch) :
    (Reply.answer answer).outcome ≠ some .staleEpoch := by
  have hanswer {result : OperationResult} (hresult : result.outcome ≠ .staleEpoch) :
      (Reply.answer (.result result)).outcome ≠ some .staleEpoch := fun hstale =>
    hresult (Option.some.inj hstale)
  cases op with
  | registerPublisher publisher workerBoot scope session =>
    cases h
    apply hanswer
    unfold State.registerPublisher
    split
    · rename_i refusal hchecks
      exact State.registerChecks_timely publisher workerBoot scope session refusal hchecks
    · dsimp only
      split
      · simp
      · split <;> simp
  | fencePublisher publisher workerBoot cause =>
    cases h
    apply hanswer
    unfold State.fencePublisher
    split
    · simp
    · split <;> simp
  | advanceEpoch reason =>
    cases h
    apply hanswer
    unfold State.advanceEpoch
    split
    · simp
    · dsimp only
      split <;> simp
  | createPolicy now request =>
    obtain ⟨⟨e₁, result⟩, hcreate, he⟩ := Option.map_eq_some_iff.1 h
    cases he
    apply hanswer
    unfold createPolicy at hcreate
    dsimp only at hcreate
    split at hcreate
    · rename_i refusal hchecks
      cases hcreate
      exact State.createChecks_timely (hcontext _ rfl) _ hchecks
    · split at hcreate
      · cases hcreate
        simp
      · split at hcreate
        · cases hcreate
          simp
        · obtain ⟨_, -, hcreate⟩ := Option.bind_eq_some_iff.1 hcreate
          cases hcreate
          intro hstale
          cases (State.makeResult_outcome ..).symm.trans hstale
  | updatePolicy now request =>
    cases h
    apply hanswer
    unfold State.updatePolicy
    split
    · rename_i refusal hchecks
      exact State.updateChecks_timely (hcontext _ rfl) refusal hchecks
    · simp
  | transitionPolicy request =>
    cases h
    apply hanswer
    unfold State.transitionPolicy
    split
    · rename_i refusal hchecks
      exact State.transitionChecks_timely (hcontext _ rfl) refusal hchecks
    · split <;> simp
  | revalidate policy context =>
    cases h
    apply hanswer
    unfold State.revalidate State.transitionPolicy
    split
    · rename_i refusal hchecks
      exact State.transitionChecks_timely (hcontext _ rfl) refusal hchecks
    · split <;> simp
  | revokePolicy request =>
    cases h
    apply hanswer
    unfold State.revokePolicy
    split
    · rename_i refusal hchecks
      exact State.revokeChecks_timely (hcontext _ rfl) refusal hchecks
    · simp
  | publishEvidence clock request =>
    cases h
    apply hanswer
    unfold State.publishEvidence
    split
    · rename_i refusal hchecks
      exact State.publishChecks_timely (hcontext _ rfl) refusal hchecks
    · dsimp only
      split <;> simp
  | beginEvaluation now request =>
    obtain ⟨⟨e₁, ticket⟩, hbegin, he⟩ := Option.map_eq_some_iff.1 h
    cases he
    exact fun hstale => beginEvaluation_timely (hcontext _ rfl) hbegin (Option.some.inj hstale)
  | evaluate begun now request =>
    obtain ⟨⟨e₁, result⟩, hevaluate, he⟩ := Option.map_eq_some_iff.1 h
    cases he
    apply hanswer
    obtain ⟨e₂, ticket, hbegin, ⟨-, hticket⟩ | ⟨-, heffect⟩⟩ := evaluate_cases hevaluate
    · rw [hticket]
      exact beginEvaluation_timely (hcontext _ rfl) hbegin
    · exact heffect.begun_timely (hcontext _ rfl) hbegin
  | rollback now request =>
    obtain ⟨⟨e₁, result⟩, hrollback, he⟩ := Option.map_eq_some_iff.1 h
    cases he
    apply hanswer
    have heffect := rollback_cases hrollback
    generalize e₁.state = s', result.outcome = outcome at heffect
    cases heffect with
    | refused checks => exact State.rollbackChecks_timely (hcontext _ rfl) _ checks
    | declined _ verified => exact State.verifyRollback_timely _ _ verified
    | recorded _ verified => exact State.verifyRollback_timely _ _ verified
    | restored => simp
  | snapshot now policy =>
    obtain ⟨⟨e₁, view⟩, -, he⟩ := Option.map_eq_some_iff.1 h
    cases he
    simp [Reply.outcome]
  | decodeStore now decoded origin =>
    cases h
    apply hanswer
    unfold State.decodeStore State.applyDurable
    split
    · simp
    · split
      · simp
      · split
        · simp
        · split <;> simp
  | applyUpstream | commitEvaluation => cases hop

end

/-! ## Frames -/

/-- What a commit leaves of a ticket that is not eligible, recorded under an identity. -/
def State.suppressed (s : State) (limits : Limits) (now : Ticks) (request : CommitDecisionRequest)
    (record : PolicyRecord) (id : AdaptationDecisionId) : State :=
  let decision := s.suppressedDecision record request id
  ((s.putRecord request.ticket.dependencies.policy
    (record.remember limits (historyEntry decision now))).journal limits decision).recordAttempt limits
    request.context.attempt (fingerprintCommit request.ticket) decision.outcome decision.digest

/-- A decision that a full history and a full journal of the same decisions do not show, with a table
that keeps no attempts. -/
structure Traceless (limits : Limits) (s : State) (now : Ticks) (record : PolicyRecord)
    (decision : AdaptationDecision) : Prop where
  history : keepLast limits.maxHistoryPerPolicy (record.history ++ [historyEntry decision now]) =
    record.history
  journal : keepLast limits.maxDecisionHistory (s.decisionJournal ++ [decision]) = s.decisionJournal
  attempts : limits.maxAttempts = 0

/-- A fresh attempt leaves the table alone when the table keeps none, and only then. -/
theorem recordAttempt_ledger_iff {s : State} {limits : Limits} (ht : Tabled s)
    (hbound : s.attemptOrder.length ≤ limits.maxAttempts.toNat) {attempt : MutationAttemptId}
    (hvalid : attempt.valid = true) (hfresh : s.attempts[attempt]? = none) (fingerprint : Text)
    (outcome : Outcome) (detail : Text) :
    (s.recordAttempt limits attempt fingerprint outcome detail).ledger = s.ledger ↔
      limits.maxAttempts = 0 := by
  constructor
  · intro hsame
    by_contra hkeeps
    have hretains := recordAttempt_retains ht hkeeps hvalid hfresh fingerprint outcome detail
    rw [State.attempts_of_ledger hsame, hfresh] at hretains
    cases hretains
  · intro hnone
    rw [hnone] at hbound
    have horder : s.attemptOrder = [] := List.length_eq_zero_iff.1 (Nat.le_zero.1 hbound)
    have hattempts : s.attempts = ∅ := by
      refine Std.ExtTreeMap.ext_getElem? fun {key} => ?_
      have hkey := ht.mem_iff key
      rw [horder] at hkey
      simpa using hkey
    rw [State.recordAttempt_fresh hvalid hfresh, hnone, horder, State.ledger, horder, hattempts]
    refine Prod.ext (Std.ExtTreeMap.ext_getElem? fun {key} => ?_) rfl
    simp [Retention.eraseAll]

/-- A recorded refusal to adapt leaves the state as it was when it is traceless, and only then. -/
theorem State.suppressed_eq_iff {s : State} {limits : Limits} (ht : Tabled s)
    (hbound : s.attemptOrder.length ≤ limits.maxAttempts.toNat) {request : CommitDecisionRequest}
    {record : PolicyRecord} (checks : s.commitChecks request = .ok record) (now : Ticks)
    (id : AdaptationDecisionId) :
    s.suppressed limits now request record id = s ↔
      Traceless limits s now record (s.suppressedDecision record request id) := by
  obtain ⟨_, haccepted⟩ := State.commitChecks_ok checks
  obtain ⟨hvalid, hfresh⟩ := replayCheck_none (commitChecks_fresh checks)
  have hrecords (decision : AdaptationDecision) :
      s.policies.insert request.ticket.dependencies.policy
          (record.remember limits (historyEntry decision now)) = s.policies ↔
        keepLast limits.maxHistoryPerPolicy (record.history ++ [historyEntry decision now]) =
          record.history := by
    rw [insert_eq_iff haccepted.found]
    unfold PolicyRecord.remember
    cases record
    simp
  unfold suppressed
  dsimp only
  generalize s.suppressedDecision record request id = decision
  have htable := recordAttempt_ledger_iff (s := (s.putRecord request.ticket.dependencies.policy
    (record.remember limits (historyEntry decision now))).journal limits decision) (ht.of_ledger rfl)
    hbound hvalid hfresh (fingerprintCommit request.ticket) decision.outcome decision.digest
  obtain ⟨attempts, order, heq⟩ := recordAttempt_eq ((s.putRecord request.ticket.dependencies.policy
    (record.remember limits (historyEntry decision now))).journal limits decision) limits
    request.context.attempt (fingerprintCommit request.ticket) decision.outcome decision.digest
  rw [heq] at htable ⊢
  constructor
  · intro hsame
    have hkept := congrArg ledger hsame
    exact ⟨(hrecords decision).1 (congrArg (·.policies) hsame), congrArg (·.decisionJournal) hsame,
      htable.1 hkept⟩
  · intro htraceless
    cases htable.2 htraceless.attempts
    unfold putRecord journal
    rw [(hrecords decision).2 htraceless.history, htraceless.journal]

/-- The payload of a registered session's frame that is answered as stale by itself: a ticket that
says so, whether it was rejected or its record leaves no trace within the bounds, a ticket of another
epoch, or a notification whose provenance names another one, after some that change nothing. -/
inductive StalePayload (limits : Limits) (e : Engine) (now : Ticks) (context : MutationContext) :
    Frame → Prop
  | handedIn {ticket : EvaluationTicket} (rejected : ticket.lifecycle = .rejected)
      (echoes : ticket.outcome = .staleEpoch) :
      StalePayload limits e now context (.commitDecision (some ticket))
  | recorded {ticket : EvaluationTicket} {record : PolicyRecord} {id : AdaptationDecisionId}
      {ids : IdFactory} (checks : e.state.commitChecks { ticket, context } = .ok record)
      (ineligible : ticket.lifecycle ≠ .eligible) (echoes : ticket.outcome = .staleEpoch)
      (identity : decisionIdentity ticket e.ids = some (id, ids))
      (traceless : Traceless limits e.state now record
        (e.state.suppressedDecision record { ticket, context } id)) :
      StalePayload limits e now context (.commitDecision (some ticket))
  | issued {ticket : EvaluationTicket} {registration : PublisherRegistration} {record : PolicyRecord}
      (stale : StaleTicket e.state { ticket, context } registration record) :
      StalePayload limits e now context (.commitDecision (some ticket))
  | sourced {before after : List UpstreamNotification} {n : UpstreamNotification}
      {record : PolicyRecord} {fingerprint : Text}
      (checks : e.state.upstreamChecks limits { notifications := before ++ n :: after, context } =
        .ok fingerprint)
      (accepted : State.applyNotifications limits context e.state before = (e.state, none))
      (stale : StaleProvenance e.state context n record) :
      StalePayload limits e now context (.upstreamNotify (some (before ++ n :: after)))

section
variable {config : EngineConfig} {e e' : Engine} {answer : Answer} {now : Ticks}

theorem applyUpstream_stale_iff {request : UpstreamNotifyRequest}
    (hcontext : request.context.epoch = e.state.epoch)
    (h : e.step config (.applyUpstream request) = some (e', answer)) :
    (e'.state = e.state ∧ (Reply.answer answer).outcome = some .staleEpoch) ↔
      StalePayload config.limits e now request.context
        (.upstreamNotify (some request.notifications)) := by
  cases h
  obtain ⟨notifications, context⟩ := request
  dsimp only [Reply.outcome] at hcontext ⊢
  constructor
  · rintro ⟨hsame, hstale⟩
    unfold State.applyUpstream at hsame hstale
    split at hstale
    · rename_i refusal hchecks
      exact absurd (Option.some.inj hstale) (State.upstreamChecks_timely _ refusal hchecks)
    · rename_i fingerprint hchecks
      rw [hchecks] at hsame
      dsimp only at hsame hstale
      split at hstale
      · rename_i s' refusal happlied
        rw [happlied] at hsame
        obtain ⟨before, n, after, hsplit, haccepted, hrefused⟩ :=
          State.applyNotifications_refused happlied
        subst hsplit hsame
        obtain ⟨record, hrecord⟩ :=
          applyNotification_stale hcontext hrefused (Option.some.inj hstale)
        exact .sourced hchecks haccepted hrecord
      · cases (State.makeResult_outcome ..).symm.trans (Option.some.inj hstale)
  · intro hpayload
    cases hpayload with
    | @sourced before after n record fingerprint checks accepted stale =>
      have happlied : State.applyNotifications config.limits context e.state
          (before ++ n :: after) = (e.state, some _) :=
        State.applyNotifications_append accepted stale.refused
      unfold State.applyUpstream
      rw [checks]
      dsimp only
      rw [happlied]
      exact ⟨rfl, congrArg some (State.makeResult_outcome ..)⟩

/-- What phase two answers to a ticket whose record it writes. -/
theorem commitTicket_suppressed {limits : Limits} {request : CommitDecisionRequest}
    {record : PolicyRecord} {result : OperationResult}
    (checks : e.state.commitChecks request = .ok record)
    (ineligible : request.ticket.lifecycle ≠ .eligible)
    (h : commitTicket limits e now request = some (e', result)) :
    ∃ id ids, decisionIdentity request.ticket e.ids = some (id, ids) ∧
      e'.state = e.state.suppressed limits now request record id ∧
      result.outcome = request.ticket.outcome := by
  unfold commitTicket at h
  dsimp only at h
  rw [checks] at h
  dsimp only at h
  rw [if_pos ineligible] at h
  obtain ⟨⟨id, ids⟩, hidentity, h⟩ := Option.bind_eq_some_iff.1 h
  cases h
  exact ⟨id, ids, hidentity, rfl, State.makeResult_outcome ..⟩

theorem commitEvaluation_stale_iff {request : CommitDecisionRequest}
    (hreachable : Reachable config e) (hcontext : request.context.epoch = e.state.epoch)
    (h : e.step config (.commitEvaluation now request) = some (e', answer)) :
    (e'.state = e.state ∧ (Reply.answer answer).outcome = some .staleEpoch) ↔
      StalePayload config.limits e now request.context (.commitDecision (some request.ticket)) := by
  obtain ⟨⟨_, result⟩, hcommit, he⟩ := Option.map_eq_some_iff.1 h
  cases he
  obtain ⟨⟨e₁, _⟩, hticket, he⟩ := Option.map_eq_some_iff.1 hcommit
  cases he
  obtain ⟨ticket, context⟩ := request
  dsimp only [id, Prod.map, Reply.outcome] at hcontext ⊢
  rw [settled_state, Option.some.injEq]
  cases hchecks : e.state.commitChecks { ticket, context } with
  | error refusal =>
    have heffect : e₁ = e ∧ result = refusal := by
      simpa [commitTicket, hchecks, eq_comm] using hticket
    obtain ⟨rfl, rfl⟩ := heffect
    constructor
    · rintro ⟨-, hstale⟩
      by_cases hrejected : ticket.lifecycle = .rejected
      · rw [State.commitChecks_rejected _ hrejected] at hchecks
        cases hchecks
        exact .handedIn hrejected ((State.makeResult_outcome ..).symm.trans hstale)
      · obtain ⟨registration, record, hrecord⟩ :=
          commitChecks_stale hcontext hrejected hchecks hstale
        exact .issued hrecord
    · intro hpayload
      refine ⟨rfl, ?_⟩
      cases hpayload with
      | handedIn rejected echoes =>
        rw [State.commitChecks_rejected _ rejected] at hchecks
        cases hchecks
        exact (State.makeResult_outcome ..).trans echoes
      | recorded checks =>
        rw [hchecks] at checks
        cases checks
      | issued stale =>
        rw [stale.refused] at hchecks
        cases hchecks
        exact State.makeResult_outcome ..
  | ok record =>
    have hunrejected : ticket.lifecycle ≠ .rejected := by
      intro hrejected
      rw [State.commitChecks_rejected _ hrejected] at hchecks
      cases hchecks
    by_cases hineligible : ticket.lifecycle = .eligible
    · -- an eligible ticket that passed is committed, or its target is refused
      have heffect := commitTicket_cases hticket
      generalize e₁.state = s', result.outcome = outcome at heffect
      constructor
      · rintro ⟨-, hstale⟩
        cases heffect with
        | refused checks =>
          rw [hchecks] at checks
          cases checks
        | suppressed _ ineligible => exact absurd hineligible ineligible
        | unchanged => cases hstale
        | unverified _ _ _ verified =>
          exact absurd hstale (State.verifyCommit_timely now _ _ _ verified)
        | committed => cases hstale
      · intro hpayload
        cases hpayload with
        | handedIn rejected => exact absurd rejected hunrejected
        | recorded _ ineligible => exact absurd hineligible ineligible
        | issued stale =>
          rw [stale.refused] at hchecks
          cases hchecks
    · obtain ⟨id, ids, hidentity, hstate, houtcome⟩ :=
        commitTicket_suppressed hchecks hineligible hticket
      rw [hstate, houtcome, State.suppressed_eq_iff (Tabled.reachable hreachable)
        (attemptOrder_bounded hreachable) hchecks]
      constructor
      · rintro ⟨htraceless, hstale⟩
        exact .recorded hchecks hineligible hstale hidentity htraceless
      · intro hpayload
        cases hpayload with
        | handedIn rejected => exact absurd rejected hunrejected
        | recorded checks _ echoes identity traceless =>
          rw [hchecks] at checks
          cases checks
          cases hidentity.symm.trans identity
          exact ⟨traceless, echoes⟩
        | issued stale =>
          rw [stale.refused] at hchecks
          cases hchecks

end

/-! ## Dispatch -/

theorem Frame.operation_context {session : Session} {reading : Reading} {attempt : UInt64}
    {frame : Frame} {op : Op} {context : MutationContext}
    (h : frame.operation session reading attempt = some op) (hcontext : op.context = some context) :
    context = makeContext session reading attempt := by
  cases frame with
  | hello | helloAck | queryState | snapshotResponse | explainRequest | diffRequest | result | error
  | bye => cases h
  | registerPublisher message | fenceNotice message | snapshotRequest message
  | advanceEpoch message =>
    obtain ⟨_, -, hop⟩ := Option.map_eq_some_iff.1 h
    subst hop
    cases hcontext
  | evaluate message =>
    obtain ⟨message, -, hop⟩ := Option.map_eq_some_iff.1 h
    subst hop
    dsimp only at hcontext
    split at hcontext <;>
    · cases hcontext
      rfl
  | _ =>
    obtain ⟨_, -, hop⟩ := Option.map_eq_some_iff.1 h
    subst hop
    cases hcontext
    rfl

section
variable {config : EngineConfig} {e : Engine} {session : Session} {served : Served}

/-- A frame an unregistered session may not send. -/
theorem dispatch_unregistered {frame : Frame} {reading : Reading}
    (h : dispatch config e session frame reading = some served)
    (hregistered : session.registered = false) (hopen : frame.open = false) :
    served.reply.outcome = some .unauthorized := by
  unfold dispatch at h
  simp only [hregistered, hopen, Bool.not_false, Bool.and_self, if_true] at h
  cases h
  rfl

/-- A frame is answered as stale for its payload alone. -/
theorem dispatch_stale_iff {frame : Frame} {begun now : Ticks} {accepted : Nat → Ticks}
    (hreachable : Reachable config e)
    (h : dispatch config e session frame { epoch := e.state.epoch, begun, now, accepted } =
      some served) :
    (served.engine.state = e.state ∧ served.reply.outcome = some .staleEpoch) ↔
      session.registered = true ∧ StalePayload config.limits e now
        (makeContext session { epoch := e.state.epoch, begun, now, accepted }
          (session.dispatched + 1))
        frame := by
  by_cases hunregistered : session.registered = false ∧ frame.open = false
  · have houtcome := dispatch_unregistered h hunregistered.1 hunregistered.2
    rw [houtcome]
    simp [hunregistered.1]
  · cases dispatch_performs h with
    | idle same silent errors =>
      constructor
      · rintro ⟨-, hstale⟩
        cases hreply : served.reply with
        | answer answer => exact absurd hreply (silent answer)
        | error outcome detail =>
          rw [hreply] at hstale
          exact absurd (Option.some.inj hstale) (isTimely_ne (errors outcome detail hreply))
        | none | greeting | report =>
          rw [hreply] at hstale
          cases hstale
      · rintro ⟨hregistered, hpayload⟩
        -- a payload of this kind is handed to its entry point
        cases hpayload with
        | handedIn | recorded | issued =>
          simp only [dispatch, hregistered, Bool.not_true, Bool.false_and, Bool.false_eq_true,
            if_false, handleCommitDecision, serveOperation] at h
          obtain ⟨⟨_, answer⟩, -, hserved⟩ := Option.map_eq_some_iff.1 h
          subst hserved
          exact absurd rfl (silent answer)
        | sourced =>
          simp only [dispatch, hregistered, Bool.not_true, Bool.false_and, Bool.false_eq_true,
            if_false, handleUpstreamNotify, serveOperation] at h
          obtain ⟨⟨_, answer⟩, -, hserved⟩ := Option.map_eq_some_iff.1 h
          subst hserved
          exact absurd rfl (silent answer)
    | @operated op answer asks steps replies =>
      rw [replies]
      cases hdated : op.dated with
      | false =>
        have htimely := step_timely steps hdated fun context hcontext => by
          rw [Frame.operation_context asks hcontext]
          rfl
        constructor
        · rintro ⟨-, hstale⟩
          exact absurd hstale htimely
        · rintro ⟨-, hpayload⟩
          cases hpayload <;>
          · cases asks
            cases hdated
      | true =>
        have hregistered (hframe : frame.open = false) : session.registered = true := by
          cases hr : session.registered with
          | true => rfl
          | false => exact absurd ⟨hr, hframe⟩ hunregistered
        cases frame with
        | upstreamNotify notifications =>
          obtain ⟨notifications, rfl, hop⟩ := Option.map_eq_some_iff.1 asks
          subst hop
          rw [applyUpstream_stale_iff rfl steps]
          simp only [hregistered rfl, true_and]
          rfl
        | commitDecision ticket =>
          obtain ⟨ticket, rfl, hop⟩ := Option.map_eq_some_iff.1 asks
          subst hop
          rw [commitEvaluation_stale_iff hreachable rfl steps]
          simp only [hregistered rfl, true_and]
          rfl
        | evaluate message =>
          obtain ⟨message, -, hop⟩ := Option.map_eq_some_iff.1 asks
          subst hop
          dsimp only at hdated
          split at hdated <;> cases hdated
        | hello | helloAck | queryState | snapshotResponse | explainRequest | diffRequest | result
        | error | bye => cases asks
        | _ =>
          obtain ⟨_, -, hop⟩ := Option.map_eq_some_iff.1 asks
          subst hop
          cases hdated

/-- What the header of a frame says of its epoch makes no difference: a frame of another epoch is
answered as stale, and leaves the engine alone, exactly when its payload is stale. -/
theorem stale_epoch_frame_iff {frame : Wire.Frame} {begun now : Ticks} {accepted : Nat → Ticks}
    (hreachable : Reachable config e)
    (h : frame.serve config e session begun now accepted = some served) :
    (frame.header.epoch ≠ e.state.epoch →
        served.engine.state = e.state ∧ served.reply.outcome = some .staleEpoch) ↔
      (frame.header.epoch = e.state.epoch ∨ session.registered = true ∧
        StalePayload config.limits e now
          (makeContext session { epoch := e.state.epoch, begun, now, accepted }
            (session.dispatched + 1))
          frame.interpret) := by
  rw [dispatch_stale_iff hreachable h, ← or_iff_not_imp_left]

end

namespace Scenario

/-- The publisher registers, and the epoch advances. -/
def handedOver : List Op := [register, .advanceEpoch "handover"]

/-- A frame that carries the epoch before the handover. -/
def behind (messageId : Wire.MessageId) (payload : Text) : Wire.Frame where
  header := { messageId, payloadLength := payload.length.toUInt32, sequence := 1, epoch := ⟨1⟩ }
  payload

/-- A ticket that phase one refused for its epoch. -/
def refusedTicket : EvaluationTicket where
  dependencies :=
    { evaluation := name "evaluation", policy, policyGeneration := ⟨1⟩, evidenceGeneration := ⟨1⟩
      epoch := ⟨1⟩, authorityGeneration := ⟨1⟩ }
  lifecycle := .rejected
  outcome := .staleEpoch

end Scenario

open Scenario in
/-- A frame of the previous epoch is answered as stale when the ticket it hands in says so. -/
theorem stale_epoch_frame_ticket :
    let frame := behind .commitDecision (CommitDecisionMessage.encode { ticket := refusedTicket })
    ∃ served, frame.serve config (after handedOver) connected 0 0 (fun _ => 0) = some served ∧
      (frame.header.epoch ≠ (after handedOver).state.epoch ∧
        served.engine.state = (after handedOver).state ∧
        served.reply.outcome = some .staleEpoch) := by
  intro frame
  obtain ⟨served, hserved⟩ := Option.isSome_iff_exists.1
    (show (frame.serve config (after handedOver) connected 0 0 (fun _ => 0)).isSome = true by
      decide +kernel)
  have hdecoded : CommitDecisionMessage.decode (CommitDecisionMessage.encode
      { ticket := refusedTicket }) = some { ticket := refusedTicket } := by decide +kernel
  have hticket : frame.interpret = .commitDecision (some refusedTicket) := by
    simp only [frame, Wire.Frame.interpret, behind, hdecoded, Option.map_some]
  have hepoch : frame.header.epoch ≠ (after handedOver).state.epoch := by decide +kernel
  refine ⟨served, hserved, hepoch, ?_⟩
  refine (stale_epoch_frame_iff (reachable_after (by decide +kernel)) hserved).2 (.inr ⟨rfl, ?_⟩) hepoch
  rw [hticket]
  exact .handedIn rfl rfl

open Scenario in
/-- After the handover a frame of the previous epoch advances the epoch once more. -/
theorem previous_epoch_frame_advances :
    ¬ ∀ (config : EngineConfig) (e : Engine) (session : Session) (frame : Wire.Frame)
        (begun now : Ticks) (accepted : Nat → Ticks) (served : Served), Reachable config e →
        frame.header.messageId.mutates = true → frame.header.epoch ≠ e.state.epoch →
        frame.serve config e session begun now accepted = some served →
        served.engine.state = e.state ∧ served.reply.outcome = some .staleEpoch := by
  intro hclaim
  obtain ⟨served, hserved, hmoved⟩ := (Option.any_eq_true _ _).1
    (show ((behind .advanceEpoch (AdvanceEpochMessage.encode { reason := "handover" })).serve config
      (after handedOver) connected 0 0 (fun _ => 0)).any (fun served =>
        served.engine.state.epoch != (after handedOver).state.epoch) = true by decide +kernel)
  have hsame := hclaim config (after handedOver) connected _ 0 0 _ served
    (reachable_after (by decide +kernel)) rfl (by decide +kernel) hserved
  rw [hsame.1] at hmoved
  simp at hmoved

end AdaptiveRouting
