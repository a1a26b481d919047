import AdaptiveRouting.Proof.Frame

/-!
# Caller authority

What the caller check establishes (`checkCaller_ok`): the context is `Live`, and the scope of its
registration covers the route and the set under the registration's own fabric and namespace
(`Authorized`). Then what the checks of each entry point establish when they let the request pass.
-/

namespace AdaptiveRouting

open Guard

/-- The context acts for a live registration of the current epoch. -/
structure Live (s : State) (context : MutationContext) (registration : PublisherRegistration) :
    Prop where
  identity : context.hasCallerIdentity = true
  epoch : context.epoch = s.epoch
  unfenced : context.workerBoot ∉ s.fencedBoots
  registered : s.registrations[context.publisher]? = some registration
  boot : registration.workerBoot = context.workerBoot
  session : registration.session = context.session
  wellFormed : registration.scope.wellFormed = true

/-- A live context whose registration covers a route and a set, when they are given. The scope is
asked about the fabric and the namespace it names itself. -/
structure Authorized (s : State) (context : MutationContext) (route : Option RouteId)
    (set : Option MultipathSetId) (registration : PublisherRegistration) : Prop
    extends Live s context registration where
  route : ∀ r, route = some r → registration.scope.coversRoute registration.scope.fabric
    registration.scope.nameSpace r = true
  set : ∀ m, set = some m → registration.scope.coversMultipathSet registration.scope.fabric
    registration.scope.nameSpace m = true

/-- Standing is all a live context depends on. -/
theorem Live.congr {s s' : State} {context : MutationContext} {registration : PublisherRegistration}
    (h : s'.standing = s.standing) (hl : Live s' context registration) :
    Live s context registration where
  identity := hl.identity
  epoch := hl.epoch.trans (State.epoch_of_standing h)
  unfenced := State.fencedBoots_of_standing h ▸ hl.unfenced
  registered := State.registrations_of_standing h ▸ hl.registered
  boot := hl.boot
  session := hl.session
  wellFormed := hl.wellFormed

namespace State

section
variable {s : State} {context : MutationContext} {route : Option RouteId}
  {set : Option MultipathSetId} {registration : PublisherRegistration}

theorem checkCaller_ok (h : s.checkCaller context route set = .ok registration) :
    Authorized s context route set registration := by
  unfold checkCaller at h
  obtain ⟨hidentity, h⟩ := seq_ok h
  obtain ⟨hepoch, h⟩ := seq_ok h
  obtain ⟨hfenced, h⟩ := seq_ok h
  obtain ⟨found, hfound, h⟩ := bind_ok h
  obtain ⟨hboot, h⟩ := seq_ok h
  obtain ⟨hsession, h⟩ := seq_ok h
  obtain ⟨hscope, h⟩ := seq_ok h
  obtain ⟨hroute, h⟩ := seq_ok h
  obtain ⟨hset, h⟩ := seq_ok h
  cases h
  have hepoch : s.epoch = context.epoch := by simpa using hepoch
  refine ⟨⟨by simpa using hidentity, hepoch.symm, ?_, orRefuse_ok hfound, ?_, ?_,
    by simpa using hscope⟩, ?_, ?_⟩
  · simp [Std.ExtTreeSet.mem_iff_contains, hfenced]
  · simpa using hboot
  · simpa using hsession
  · rintro r rfl
    simpa using hroute
  · rintro m rfl
    simpa using hset

theorem requireCaller_ok {policy : AdaptivePolicyId}
    (h : s.requireCaller context route set policy = .ok registration) :
    Authorized s context route set registration :=
  checkCaller_ok (mapError_ok h)

end

theorem refuseReplay_ok {s : State} {attempt : MutationAttemptId} {fingerprint : Text} {u : Unit}
    (h : s.refuseReplay attempt fingerprint = .ok u) : s.replayCheck attempt fingerprint = none :=
  refuseWith_ok h

/-! ## Accepted requests -/

section
variable {s : State} {limits : Limits}

/-- An accepted update. -/
structure UpdateAccepted (s : State) (request : UpdatePolicyRequest) (record : PolicyRecord)
    (generation : AdaptivePolicyGeneration) (registration : PublisherRegistration) : Prop where
  found : s.policies[request.policy]? = some record
  caller : Authorized s request.context (some request.update.semantics.target.route)
    request.update.semantics.target.multipathSet registration
  scope : registration.scope.coversRoute request.update.scope.fabric request.update.scope.nameSpace
    request.update.semantics.target.route = true
  live : record.policy.lifecycle.terminal = false
  next : record.policy.generation.next = some generation

theorem updateChecks_ok {request : UpdatePolicyRequest} {record : PolicyRecord} {fingerprint : Text}
    {generation : AdaptivePolicyGeneration}
    (h : s.updateChecks limits request = .ok (record, fingerprint, generation)) :
    ∃ registration, UpdateAccepted s request record generation registration := by
  unfold updateChecks at h
  obtain ⟨-, h⟩ := seq_ok h
  obtain ⟨-, h⟩ := seq_ok h
  obtain ⟨-, -, h⟩ := bind_ok h
  obtain ⟨found, hfound, h⟩ := bind_ok h
  obtain ⟨registration, hcaller, h⟩ := bind_ok h
  obtain ⟨hscope, h⟩ := seq_ok h
  obtain ⟨hlive, h⟩ := seq_ok h
  obtain ⟨-, h⟩ := seq_ok h
  obtain ⟨-, h⟩ := seq_ok h
  obtain ⟨-, -, h⟩ := bind_ok h
  obtain ⟨next, hnext, h⟩ := bind_ok h
  cases h
  exact ⟨registration, orRefuse_ok hfound, requireCaller_ok hcaller, by simpa using hscope, hlive,
    orRefuse_ok hnext⟩

/-- An accepted transition. -/
structure TransitionAccepted (s : State) (request : PolicyLifecycleRequest) (record : PolicyRecord)
    (next : PolicyLifecycle) (registration : PublisherRegistration) : Prop where
  found : s.policies[request.policy]? = some record
  caller : Authorized s request.context (some record.policy.semantics.target.route)
    record.policy.semantics.target.multipathSet registration
  next : applyPolicyEvent record.policy.lifecycle request.event = some next

theorem transitionChecks_ok {request : PolicyLifecycleRequest} {record : PolicyRecord}
    {next : PolicyLifecycle} (h : s.transitionChecks request = .ok (record, next)) :
    ∃ registration, TransitionAccepted s request record next registration := by
  unfold transitionChecks at h
  obtain ⟨-, h⟩ := seq_ok h
  obtain ⟨found, hfound, h⟩ := bind_ok h
  obtain ⟨registration, hcaller, h⟩ := bind_ok h
  obtain ⟨-, h⟩ := seq_ok h
  obtain ⟨next, hnext, h⟩ := bind_ok h
  cases h
  exact ⟨registration, orRefuse_ok hfound, requireCaller_ok hcaller, orRefuse_ok hnext⟩

/-- An accepted revocation. -/
structure RevokeAccepted (s : State) (request : RevokePolicyRequest) (record : PolicyRecord)
    (registration : PublisherRegistration) : Prop where
  found : s.policies[request.policy]? = some record
  caller : Authorized s request.context (some record.policy.semantics.target.route)
    record.policy.semantics.target.multipathSet registration
  live : record.policy.lifecycle.terminal = false

theorem revokeChecks_ok {request : RevokePolicyRequest} {record : PolicyRecord}
    (h : s.revokeChecks limits request = .ok record) :
    ∃ registration, RevokeAccepted s request record registration := by
  unfold revokeChecks at h
  obtain ⟨-, h⟩ := seq_ok h
  obtain ⟨found, hfound, h⟩ := bind_ok h
  obtain ⟨registration, hcaller, h⟩ := bind_ok h
  obtain ⟨-, -, h⟩ := bind_ok h
  obtain ⟨hlive, h⟩ := seq_ok h
  obtain ⟨-, h⟩ := seq_ok h
  cases h
  exact ⟨registration, orRefuse_ok hfound, requireCaller_ok hcaller, hlive⟩

/-- An accepted rollback request. -/
structure RollbackAccepted (s : State) (request : RollbackRequest) (record : PolicyRecord)
    (registration : PublisherRegistration) : Prop where
  found : s.policies[request.policy]? = some record
  caller : Authorized s request.context (some record.policy.semantics.target.route)
    record.policy.semantics.target.multipathSet registration
  active : record.policy.lifecycle = .active

theorem rollbackChecks_ok {request : RollbackRequest} {record : PolicyRecord}
    (h : s.rollbackChecks request = .ok record) :
    ∃ registration, RollbackAccepted s request record registration := by
  unfold rollbackChecks at h
  obtain ⟨-, h⟩ := seq_ok h
  obtain ⟨found, hfound, h⟩ := bind_ok h
  obtain ⟨registration, hcaller, h⟩ := bind_ok h
  obtain ⟨hactive, h⟩ := seq_ok h
  obtain ⟨-, -, h⟩ := bind_ok h
  cases h
  exact ⟨registration, orRefuse_ok hfound, requireCaller_ok hcaller, by simpa using hactive⟩

/-- A ticket that passed the comparisons of phase two. -/
structure CommitAccepted (s : State) (request : CommitDecisionRequest) (record : PolicyRecord)
    (registration : PublisherRegistration) : Prop where
  found : s.policies[request.ticket.dependencies.policy]? = some record
  caller : Authorized s request.context none none registration
  unrejected : request.ticket.lifecycle ≠ .rejected
  epoch : s.epoch = request.ticket.dependencies.epoch
  active : record.policy.lifecycle = .active
  generation : record.policy.generation = request.ticket.dependencies.policyGeneration
  drift : request.ticket.lifecycle = .eligible →
    dependencyDrift record.candidates request.ticket.dependencies = none

theorem commitChecks_ok {request : CommitDecisionRequest} {record : PolicyRecord}
    (h : s.commitChecks request = .ok record) :
    ∃ registration, CommitAccepted s request record registration := by
  unfold commitChecks at h
  obtain ⟨hrejected, h⟩ := seq_ok h
  obtain ⟨-, h⟩ := seq_ok h
  obtain ⟨registration, hcaller, h⟩ := bind_ok h
  obtain ⟨found, hfound, h⟩ := bind_ok h
  obtain ⟨hepoch, h⟩ := seq_ok h
  obtain ⟨-, h⟩ := seq_ok h
  obtain ⟨hactive, h⟩ := seq_ok h
  obtain ⟨hgeneration, h⟩ := seq_ok h
  obtain ⟨-, h⟩ := seq_ok h
  obtain ⟨-, h⟩ := seq_ok h
  obtain ⟨⟨⟩, hdrift, h⟩ := bind_ok h
  obtain ⟨-, -, h⟩ := bind_ok h
  cases h
  refine ⟨registration, orRefuse_ok hfound, requireCaller_ok hcaller, by simpa using hrejected,
    by simpa using hepoch, by simpa using hactive, by simpa using hgeneration, fun heligible => ?_⟩
  have hnone := refuseWith_ok hdrift
  rwa [if_pos heligible, Option.map_eq_none_iff] at hnone

/-- A verified commit: its target is a candidate, and its adaptation generation the next one. -/
theorem verifyCommit_ok {now : Ticks} {record : PolicyRecord} {ticket : EvaluationTicket}
    {target : CandidateRecord} {adaptation : AdaptationGeneration}
    {transition : TransitionGeneration}
    (h : s.verifyCommit limits now record ticket = .ok (target, adaptation, transition)) :
    record.findCandidate ticket.targetPreference = some target ∧
      record.preference.adaptationGeneration.next = some adaptation ∧
      record.preference.transitionGeneration.next = some transition := by
  unfold verifyCommit at h
  obtain ⟨-, h⟩ := seq_ok h
  obtain ⟨-, h⟩ := seq_ok h
  obtain ⟨-, h⟩ := seq_ok h
  obtain ⟨found, hfound, h⟩ := bind_ok h
  obtain ⟨-, h⟩ := seq_ok h
  obtain ⟨-, h⟩ := seq_ok h
  obtain ⟨-, h⟩ := seq_ok h
  obtain ⟨next, hnext, h⟩ := bind_ok h
  obtain ⟨_, htransition, h⟩ := bind_ok h
  cases h
  exact ⟨orRefuse_ok hfound, orRefuse_ok hnext, orRefuse_ok htransition⟩

/-- The timing gates let a verified ticket pass that claims no emergency. -/
theorem verifyCommit_ordinary {now : Ticks} {record : PolicyRecord} {ticket : EvaluationTicket}
    {verified : CandidateRecord × AdaptationGeneration × TransitionGeneration}
    (h : s.verifyCommit limits now record ticket = .ok verified)
    (hordinary : ticket.emergency = false) :
    (record.timing.holdDownActive && (record.preference.previousPath.valid &&
        record.preference.previousPath == ticket.targetPreference) &&
      commitHoldDown record.policy.semantics record.timing.dampeningPenalty != 0 &&
      now < record.timing.holdDownDeadline) = false ∧
    (record.timing.cooldownActive && now < record.timing.cooldownDeadline) = false ∧
    (record.policy.semantics.churn.enabled &&
      record.policy.semantics.churn.maxAdaptationsPerWindow.toNat ≤
        recentCommits record.policy.semantics.churn record.timing now) = false := by
  unfold verifyCommit at h
  obtain ⟨hholdDown, h⟩ := seq_ok h
  obtain ⟨hcooldown, h⟩ := seq_ok h
  obtain ⟨hchurn, h⟩ := seq_ok h
  rw [hordinary] at hholdDown hcooldown hchurn
  exact ⟨hholdDown, hcooldown, hchurn⟩

/-- A verified rollback leaves the preferred path for the anchor's, under the next generations. -/
theorem verifyRollback_ok {record : PolicyRecord} {target : CandidateRecord}
    {adaptation : AdaptationGeneration} {transition : TransitionGeneration}
    (h : verifyRollback record = .ok (target, adaptation, transition)) :
    record.stable.established = true ∧
      (record.preference.established && record.preference.preferredPath == record.stable.path) =
        false ∧
      record.preference.adaptationGeneration.next = some adaptation ∧
      record.preference.transitionGeneration.next = some transition := by
  unfold verifyRollback at h
  obtain ⟨hstable, h⟩ := seq_ok h
  obtain ⟨_, -, h⟩ := bind_ok h
  obtain ⟨-, h⟩ := seq_ok h
  obtain ⟨-, h⟩ := seq_ok h
  obtain ⟨-, h⟩ := seq_ok h
  obtain ⟨-, h⟩ := seq_ok h
  obtain ⟨hmoves, h⟩ := seq_ok h
  obtain ⟨next, hnext, h⟩ := bind_ok h
  obtain ⟨_, htransition, h⟩ := bind_ok h
  cases h
  exact ⟨by simpa using hstable, hmoves, orRefuse_ok hnext, orRefuse_ok htransition⟩

/-- A request phase one evaluates. -/
structure BeginAccepted (s : State) (request : EvaluateRequest) (record : PolicyRecord)
    (registration : PublisherRegistration) : Prop where
  found : s.policies[request.policy]? = some record
  caller : Authorized s request.context (some record.policy.semantics.target.route)
    record.policy.semantics.target.multipathSet registration
  active : record.policy.lifecycle = .active

theorem beginChecks_ok {e : Engine} {request : EvaluateRequest} {record : PolicyRecord}
    (h : beginChecks limits e request = .ok record) :
    ∃ registration, BeginAccepted e.state request record registration := by
  unfold beginChecks at h
  obtain ⟨-, h⟩ := seq_ok h
  obtain ⟨-, h⟩ := seq_ok h
  obtain ⟨found, hfound, h⟩ := bind_ok h
  obtain ⟨registration, hcaller, h⟩ := bind_ok h
  obtain ⟨hactive, h⟩ := seq_ok h
  obtain ⟨-, h⟩ := seq_ok h
  obtain ⟨-, h⟩ := seq_ok h
  cases h
  exact ⟨registration, orRefuse_ok hfound, checkCaller_ok (mapError_ok hcaller),
    by simpa using hactive⟩

/-- A notification whose event is applied. -/
structure NotificationAccepted (s : State) (context : MutationContext) (n : UpstreamNotification)
    (record : PolicyRecord) (registration : PublisherRegistration) : Prop where
  found : s.policies[n.policy]? = some record
  caller : Authorized s context (some record.policy.semantics.target.route)
    record.policy.semantics.target.multipathSet registration
  live : record.policy.lifecycle.terminal = false

theorem notificationChecks_ok {context : MutationContext} {n : UpstreamNotification}
    {record : PolicyRecord} (h : s.notificationChecks context n = .ok record) :
    ∃ registration, NotificationAccepted s context n record registration := by
  unfold notificationChecks at h
  obtain ⟨-, h⟩ := seq_ok h
  obtain ⟨found, hfound, h⟩ := bind_ok h
  obtain ⟨-, h⟩ := seq_ok h
  obtain ⟨-, h⟩ := seq_ok h
  obtain ⟨hlive, h⟩ := seq_ok h
  obtain ⟨-, h⟩ := seq_ok h
  obtain ⟨-, h⟩ := seq_ok h
  obtain ⟨-, h⟩ := seq_ok h
  obtain ⟨registration, hcaller, h⟩ := bind_ok h
  obtain ⟨-, h⟩ := seq_ok h
  obtain ⟨-, h⟩ := seq_ok h
  obtain ⟨-, h⟩ := seq_ok h
  obtain ⟨-, h⟩ := seq_ok h
  cases h
  exact ⟨registration, orRefuse_ok hfound, requireCaller_ok hcaller, hlive⟩

theorem notificationChecks_formed {context : MutationContext} {n : UpstreamNotification}
    {record : PolicyRecord} (h : s.notificationChecks context n = .ok record) :
    n.binding.wellFormed = true := by
  unfold notificationChecks at h
  obtain ⟨-, h⟩ := seq_ok h
  obtain ⟨_, -, h⟩ := bind_ok h
  obtain ⟨-, h⟩ := seq_ok h
  obtain ⟨hformed, -⟩ := seq_ok h
  simpa using hformed

theorem publishChecks_ok {request : PublishEvidenceRequest} {fingerprint : Text}
    (h : s.publishChecks limits request = .ok fingerprint) :
    ∃ registration, Authorized s request.context none none registration := by
  unfold publishChecks at h
  obtain ⟨-, h⟩ := seq_ok h
  obtain ⟨-, h⟩ := seq_ok h
  obtain ⟨registration, hcaller, -⟩ := bind_ok h
  exact ⟨registration, requireCaller_ok hcaller⟩

end

end State

end AdaptiveRouting
