import AdaptiveRouting.Proof.Caller

/-!
# Refusals

Every check an entry point makes refuses with a rejection, but for the one that recognizes the replay
of an applied attempt. So a request whose answer is a success passed every check ahead of that one
(`createChecks_passed`, `updateChecks_passed`).
-/

namespace AdaptiveRouting

open Guard

/-- Every refusal is a rejection. -/
abbrev Rejecting {α : Type} (x : Except OperationResult α) : Prop :=
  Refuses (fun answer => answer.outcome.isRejection = true) x

/-- A rejection that does not report a stale epoch. -/
def Outcome.isTimely (outcome : Outcome) : Bool := outcome.isRejection && outcome != .staleEpoch

theorem isRejection_of_isTimely {outcome : Outcome} (h : outcome.isTimely = true) :
    outcome.isRejection = true := by
  unfold Outcome.isTimely at h
  rw [Bool.and_eq_true] at h
  exact h.1

theorem isTimely_ne {outcome : Outcome} (h : outcome.isTimely = true) :
    outcome ≠ .staleEpoch := by
  rintro rfl
  cases h

theorem SuppressionReason.outcome_isTimely (reason : SuppressionReason) :
    reason.outcome.isTimely = true := by
  cases reason <;> rfl

theorem rejection_ne_idempotent {outcome : Outcome} (h : outcome.isRejection = true) :
    outcome ≠ .idempotent := by
  rintro rfl
  cases h

theorem makeResult_isRejection {s : State} {outcome : Outcome} {detail : Text}
    {policy : AdaptivePolicyId} (h : outcome.isRejection = true) :
    (s.makeResult outcome detail policy).outcome.isRejection = true := by
  rwa [State.makeResult_outcome]

theorem lifecycleOutcome_isTimely (lifecycle : PolicyLifecycle) :
    (lifecycleOutcome lifecycle).isTimely = true := by
  cases lifecycle <;> rfl

theorem lifecycleOutcome_isRejection (lifecycle : PolicyLifecycle) :
    (lifecycleOutcome lifecycle).isRejection = true :=
  isRejection_of_isTimely (lifecycleOutcome_isTimely lifecycle)

theorem candidateDrift_isTimely {snapshot : DependencySnapshot} {index : Nat}
    {candidate : CandidateRecord} {outcome : Outcome}
    (h : candidateDrift snapshot index candidate = some outcome) : outcome.isTimely = true := by
  unfold candidateDrift at h
  dsimp only at h
  repeat' split at h
  all_goals cases h <;> rfl

theorem dependencyDrift_isTimely {candidates : List CandidateRecord}
    {snapshot : DependencySnapshot} {outcome : Outcome}
    (h : dependencyDrift candidates snapshot = some outcome) : outcome.isTimely = true := by
  unfold dependencyDrift at h
  split at h
  · cases h
    rfl
  · obtain ⟨⟨candidate, index⟩, -, hdrift⟩ := List.exists_of_findSome?_eq_some h
    exact candidateDrift_isTimely hdrift

theorem dependencyDrift_isRejection {candidates : List CandidateRecord}
    {snapshot : DependencySnapshot} {outcome : Outcome}
    (h : dependencyDrift candidates snapshot = some outcome) : outcome.isRejection = true :=
  isRejection_of_isTimely (dependencyDrift_isTimely h)

namespace State

theorem checkCaller_rejects (s : State) (context : MutationContext) (route : Option RouteId)
    (set : Option MultipathSetId) :
    Refuses (fun refusal => refusal.1.isRejection = true) (s.checkCaller context route set) := by
  unfold checkCaller
  refine .bind (.guard rfl) fun _ => .bind (.guard rfl) fun _ => .bind (.guard rfl) fun _ => ?_
  refine .bind (.found rfl) fun _ => .bind (.guard rfl) fun _ => .bind (.guard rfl) fun _ => ?_
  exact .bind (.guard rfl) fun _ => .bind (.guard rfl) fun _ => .bind (.guard rfl) fun _ => .ok _

theorem requireCaller_rejecting (s : State) (context : MutationContext) (route : Option RouteId)
    (set : Option MultipathSetId) (policy : AdaptivePolicyId) :
    Rejecting (s.requireCaller context route set policy) :=
  .mapError (s.checkCaller_rejects context route set) fun _ h => makeResult_isRejection h

theorem validatePublication_rejecting (s : State) (limits : Limits) (scope : AuthorityScope)
    (batch : BatchState) (p : EvidencePublication) :
    Rejecting (s.validatePublication limits scope batch p) := by
  unfold validatePublication
  refine .bind (.guard (makeResult_isRejection rfl)) fun _ => ?_
  refine .bind (.guard (makeResult_isRejection rfl)) fun _ => ?_
  refine .bind (.guard (makeResult_isRejection rfl)) fun _ => ?_
  refine .bind (.guard (makeResult_isRejection rfl)) fun _ => ?_
  refine .bind (.guard (makeResult_isRejection rfl)) fun _ => ?_
  refine .bind (.guard (makeResult_isRejection rfl)) fun _ => ?_
  exact .bind (.guard (makeResult_isRejection rfl)) fun _ => .ok _

theorem verifyCommit_refuses (s : State) (limits : Limits) (now : Ticks) (record : PolicyRecord)
    (ticket : EvaluationTicket) : Refuses (fun refusal => refusal.1.isRejection = true)
      (s.verifyCommit limits now record ticket) := by
  unfold verifyCommit
  refine .bind (.guard rfl) fun _ => .bind (.guard rfl) fun _ => .bind (.guard rfl) fun _ => ?_
  refine .bind (.found rfl) fun _ => .bind (.guard rfl) fun _ => .bind (.guard rfl) fun _ => ?_
  refine .bind (.guard rfl) fun _ => .bind (.found rfl) fun _ => ?_
  exact .bind (.found rfl) fun _ => .ok _

/-! ## Notifications -/

theorem notificationChecks_rejecting (s : State) (context : MutationContext)
    (n : UpstreamNotification) : Rejecting (s.notificationChecks context n) := by
  have hguard {c : Bool} {outcome : Outcome} {detail : Text} {policy : AdaptivePolicyId}
      (h : outcome.isRejection = true) : Rejecting (refuseIf c (s.makeResult outcome detail policy)) :=
    .guard (makeResult_isRejection h)
  unfold notificationChecks
  refine .bind (hguard rfl) fun _ => .bind (.found (makeResult_isRejection rfl)) fun record => ?_
  refine .bind (hguard rfl) fun _ => .bind (hguard rfl) fun _ => ?_
  refine .bind (hguard (lifecycleOutcome_isRejection _)) fun _ => ?_
  refine .bind (hguard rfl) fun _ => .bind (hguard rfl) fun _ => .bind (hguard rfl) fun _ => ?_
  refine .bind (s.requireCaller_rejecting _ _ _ _) fun _ => ?_
  exact .bind (hguard rfl) fun _ => .bind (hguard rfl) fun _ => .bind (hguard rfl) fun _ =>
    .bind (hguard rfl) fun _ => .ok _

theorem applyEvent_rejecting (s : State) (limits : Limits) (record : PolicyRecord)
    (n : UpstreamNotification) : Rejecting (s.applyEvent limits record n) := by
  have hguard {c : Bool} {outcome : Outcome} {detail : Text} {policy : AdaptivePolicyId}
      (h : outcome.isRejection = true) : Rejecting (refuseIf c (s.makeResult outcome detail policy)) :=
    .guard (makeResult_isRejection h)
  have hfound {x : Option CandidateRecord} {detail : Text} :
      Rejecting (orRefuse x (s.makeResult .notFound detail n.policy)) :=
    .found (makeResult_isRejection rfl)
  unfold applyEvent
  dsimp only
  split
  · split
    · exact .bind (hguard rfl) fun _ => .bind (hguard rfl) fun _ => .bind (hguard rfl) fun _ => .ok _
    · exact .bind (hguard rfl) fun _ => .ok _
  · exact .bind hfound fun _ => .bind (hguard rfl) fun _ => .bind (hguard rfl) fun _ => .ok _
  · exact .ok _
  · exact .bind hfound fun _ => .ok _
  · exact .ok _
  · exact .bind hfound fun _ => .ok _
  · exact .ok _
  · exact .bind hfound fun _ => .ok _
  all_goals exact .ok _

/-- A refused notification is a rejection. -/
theorem applyNotification_rejecting (s : State) (limits : Limits) (context : MutationContext)
    (n : UpstreamNotification) : Rejecting (s.applyNotification limits context n) :=
  .bind (s.notificationChecks_rejecting context n) fun record => s.applyEvent_rejecting limits record n

section
variable {limits : Limits} {context : MutationContext} {s s' : State}

/-- A refused batch, taken apart: what was accepted, and the notification that was refused. -/
theorem applyNotifications_refused {notifications : List UpstreamNotification}
    {answer : OperationResult}
    (h : applyNotifications limits context s notifications = (s', some answer)) :
    ∃ before n after, notifications = before ++ n :: after ∧
      applyNotifications limits context s before = (s', none) ∧
      s'.applyNotification limits context n = .error answer := by
  induction notifications generalizing s with
  | nil => cases h
  | cons n rest ih =>
    unfold applyNotifications at h
    cases happly : s.applyNotification limits context n with
    | error refused =>
      rw [happly] at h
      cases h
      exact ⟨[], n, rest, rfl, rfl, happly⟩
    | ok s₁ =>
      rw [happly] at h
      obtain ⟨before, m, after, rfl, haccepted, hrefused⟩ := ih h
      refine ⟨n :: before, m, after, rfl, ?_, hrefused⟩
      unfold applyNotifications
      rw [happly]
      exact haccepted

theorem applyNotifications_rejects {notifications : List UpstreamNotification}
    {answer : OperationResult}
    (h : applyNotifications limits context s notifications = (s', some answer)) :
    answer.outcome.isRejection = true := by
  obtain ⟨_, n, _, -, -, hrefused⟩ := applyNotifications_refused h
  exact applyNotification_rejecting _ _ _ n answer hrefused

end

theorem registerChecks_rejecting (s : State) (limits : Limits) (publisher : PublisherId)
    (workerBoot : WorkerBootId) (scope : AuthorityScope) (session : SessionId) :
    Rejecting (s.registerChecks limits publisher workerBoot scope session) := by
  unfold registerChecks
  refine .bind (.guard (makeResult_isRejection rfl)) fun _ => ?_
  refine .bind (.guard (makeResult_isRejection rfl)) fun _ => ?_
  refine .bind (.guard (makeResult_isRejection rfl)) fun _ => ?_
  exact .guard (makeResult_isRejection rfl)

theorem transitionChecks_rejecting (s : State) (request : PolicyLifecycleRequest) :
    Rejecting (s.transitionChecks request) := by
  unfold transitionChecks
  refine .bind (.guard (makeResult_isRejection rfl)) fun _ => ?_
  refine .bind (.found (makeResult_isRejection rfl)) fun record => ?_
  refine .bind (s.requireCaller_rejecting _ _ _ _) fun _ => ?_
  refine .bind (.guard (makeResult_isRejection (lifecycleOutcome_isRejection _))) fun _ => ?_
  exact .bind (.found (makeResult_isRejection rfl)) fun _ => .ok _

/-- A transition is never answered as a replay. -/
theorem transitionPolicy_outcome (s : State) (request : PolicyLifecycleRequest) :
    (s.transitionPolicy request).2.outcome ≠ .idempotent := by
  unfold transitionPolicy
  split
  · rename_i refusal hchecks
    exact rejection_ne_idempotent (s.transitionChecks_rejecting request refusal hchecks)
  · dsimp only
    split <;> simp

theorem verifyRollback_refuses (record : PolicyRecord) :
    Refuses (fun refusal => refusal.outcome.isRejection = true) (verifyRollback record) := by
  unfold verifyRollback
  refine .bind (.guard rfl) fun _ => .bind (.found rfl) fun _ => .bind (.guard rfl) fun _ => ?_
  refine .bind (.guard rfl) fun _ => .bind (.guard rfl) fun _ => .bind (.guard rfl) fun _ => ?_
  exact .bind (.guard rfl) fun _ => .bind (.found rfl) fun _ => .bind (.found rfl) fun _ => .ok _

/-! ## Requests that are not refused -/

/-- Not refused with a rejection. -/
abbrev Passing {α : Type} (x : Except OperationResult α) : Prop :=
  Passes (fun answer => answer.outcome.isRejection = true) x

/-! ## Requests that author a policy -/

theorem semanticsOutcome_isTimely (reason : Text) : (semanticsOutcome reason).isTimely = true := by
  unfold semanticsOutcome
  split <;> rfl

theorem semanticsOutcome_isRejection (reason : Text) :
    (semanticsOutcome reason).isRejection = true :=
  isRejection_of_isTimely (semanticsOutcome_isTimely reason)

theorem checkSemantics_rejecting (s : State) (semantics : PolicySemantics)
    (policy : AdaptivePolicyId) :
    Rejecting (semantics.check.mapError fun reason =>
      s.makeResult (semanticsOutcome reason) reason policy) :=
  .mapError (P := fun _ => True) (fun _ _ => trivial) fun reason _ =>
    makeResult_isRejection (semanticsOutcome_isRejection reason)

section
variable {s : State} {limits : Limits}

/-- A creation that was not rejected: its caller is authorized for its target, and covers its fabric
and namespace. -/
theorem createChecks_passed {request : CreatePolicyRequest}
    (h : Passing (s.createChecks limits request)) :
    ∃ registration, Authorized s request.context (some request.semantics.target.route)
        request.semantics.target.multipathSet registration ∧
      registration.scope.coversRoute request.scope.fabric request.scope.nameSpace
        request.semantics.target.route = true := by
  unfold createChecks at h
  obtain ⟨-, h⟩ := h.seq (makeResult_isRejection rfl)
  obtain ⟨-, -, h⟩ := h.bind (s.checkSemantics_rejecting request.semantics default)
  obtain ⟨registration, hcaller, h⟩ := h.bind (s.requireCaller_rejecting _ _ _ _)
  obtain ⟨hscope, -⟩ := h.seq (makeResult_isRejection rfl)
  exact ⟨registration, requireCaller_ok hcaller, by simpa using hscope⟩

theorem updateChecks_passed {request : UpdatePolicyRequest}
    (h : Passing (s.updateChecks limits request)) :
    ∃ registration, Authorized s request.context (some request.update.semantics.target.route)
        request.update.semantics.target.multipathSet registration ∧
      registration.scope.coversRoute request.update.scope.fabric request.update.scope.nameSpace
        request.update.semantics.target.route = true := by
  unfold updateChecks at h
  obtain ⟨-, h⟩ := h.seq (makeResult_isRejection rfl)
  obtain ⟨-, h⟩ := h.seq (makeResult_isRejection rfl)
  obtain ⟨-, -, h⟩ := h.bind (s.checkSemantics_rejecting request.update.semantics request.policy)
  obtain ⟨record, -, h⟩ := h.bind (.found (makeResult_isRejection rfl))
  obtain ⟨registration, hcaller, h⟩ := h.bind (s.requireCaller_rejecting _ _ _ _)
  obtain ⟨hscope, -⟩ := h.seq (makeResult_isRejection rfl)
  exact ⟨registration, requireCaller_ok hcaller, by simpa using hscope⟩

end

end State

end AdaptiveRouting
