import AdaptiveRouting.Proof.Batch
import AdaptiveRouting.Proof.Foretold

/-!
# Trespasses

What an operation of a caller whose registered scope does not cover a policy must be to change the
policy's guarded part (`Trespass`): an update that moves the policy into the caller's scope, the
commit of an eligible ticket, or any other operation on the policy by a caller whose lists name the
policy's target in another fabric or namespace (`Intrudes`). Every condition is on the request, the
caller's registration and the record; each entry point's checks are equivalent to its own
(`updateChecks_returns`, `verifyCommit_returns`, …).
-/

namespace AdaptiveRouting

open Guard Engine

/-! ## What lets a request pass -/

/-- The attempt was not made before. -/
def State.Untried (s : State) (attempt : MutationAttemptId) : Prop :=
  attempt.valid = true ∧ s.attempts[attempt]? = none

section
variable {s : State} {limits : Limits} {context : MutationContext} {route : Option RouteId}
  {set : Option MultipathSetId} {registration : PublisherRegistration}

namespace State

theorem refuseReplay_returns {attempt : MutationAttemptId} {fingerprint : Text} :
    Returns (s.refuseReplay attempt fingerprint) ↔ s.Untried attempt := by
  constructor
  · rintro ⟨⟨⟩, h⟩
    exact replayCheck_none (refuseReplay_ok h)
  · rintro ⟨hvalid, hfresh⟩
    refine ⟨(), ?_⟩
    unfold refuseReplay replayCheck
    simp [hvalid, hfresh, refuseWith]

/-- The caller check asks for no more than it establishes. -/
theorem checkCaller_of (h : Authorized s context route set registration) :
    s.checkCaller context route set = .ok registration := by
  have hroute : (route.any fun route => !registration.scope.coversRoute registration.scope.fabric
      registration.scope.nameSpace route) = false := by
    cases route with
    | none => rfl
    | some r => simpa using h.route r rfl
  have hset : (set.any fun set => !registration.scope.coversMultipathSet registration.scope.fabric
      registration.scope.nameSpace set) = false := by
    cases set with
    | none => rfl
    | some m => simpa using h.set m rfl
  have hunfenced : s.fencedBoots.contains context.workerBoot = false := by
    rw [Bool.eq_false_iff]
    exact fun hfenced => h.unfenced (Std.ExtTreeSet.mem_iff_contains.2 hfenced)
  unfold checkCaller
  rw [seq_of (by simp [h.identity]), seq_of (by simp [h.epoch]), seq_of hunfenced,
    bind_of (orRefuse_of h.registered), seq_of (by simp [h.boot]), seq_of (by simp [h.session]),
    seq_of (by simp [h.wellFormed]), seq_of hroute, seq_of hset]
  rfl

theorem requireCaller_of {policy : AdaptivePolicyId}
    (h : Authorized s context route set registration) :
    s.requireCaller context route set policy = .ok registration :=
  mapError_of (checkCaller_of h)

end State

/-- A live caller whose lists name the target of a record. -/
theorem authorized_iff {target : PolicyTarget} :
    Authorized s context (some target.route) target.multipathSet registration ↔
      Live s context registration ∧ registration.scope.namesTarget target = true := by
  refine ⟨fun h => ⟨h.toLive, h.namesTarget⟩, fun h => ⟨h.1, ?_, ?_⟩⟩
  · rintro _ ⟨⟩
    exact ((Bool.and_eq_true _ _).mp h.2).1
  · intro m hm
    have hall := ((Bool.and_eq_true _ _).mp h.2).2
    rw [hm] at hall
    exact hall

/-- A live caller that is asked about no route and no set. -/
theorem Live.authorized (h : Live s context registration) :
    Authorized s context none none registration :=
  ⟨h, nofun, nofun⟩

end

/-! ## Updates -/

/-- An update a live caller may make: a sound definition within the limits, whose target and scope
are the caller's, of the current generation of a policy that is not at its end. -/
structure Supplants (limits : Limits) (s : State) (registration : PublisherRegistration)
    (record : PolicyRecord) (request : UpdatePolicyRequest) : Prop where
  named : request.policy.valid = true
  formed : request.update.scope.wellFormed = true
  sound : request.update.semantics.check = .ok ()
  live : Live s request.context registration
  target : registration.scope.namesTarget request.update.semantics.target = true
  scope : registration.scope.coversRoute request.update.scope.fabric request.update.scope.nameSpace
    request.update.semantics.target.route = true
  ongoing : record.policy.lifecycle.terminal = false
  expected : request.context.expectedPolicyGeneration = some record.policy.generation
  bounded : exceedsStructure limits request.update.scope request.update.semantics = false
  untried : s.Untried request.context.attempt
  room : record.policy.generation.next.isSome = true

theorem State.updateChecks_returns {s : State} {limits : Limits} {request : UpdatePolicyRequest}
    {registration : PublisherRegistration} {record : PolicyRecord}
    (hregistered : s.registrations[request.context.publisher]? = some registration)
    (hrecord : s.policies[request.policy]? = some record) :
    Returns (s.updateChecks limits request) ↔ Supplants limits s registration record request := by
  constructor
  · rintro ⟨⟨_, _, _⟩, h⟩
    obtain ⟨r, haccepted⟩ := updateChecks_ok h
    cases hregistered.symm.trans haccepted.caller.registered
    cases hrecord.symm.trans haccepted.found
    have huntried := replayCheck_none (updateChecks_fresh h).2
    unfold updateChecks at h
    obtain ⟨hnamed, h⟩ := seq_ok h
    obtain ⟨hformed, h⟩ := seq_ok h
    obtain ⟨⟨⟩, hsound, h⟩ := bind_ok h
    obtain ⟨_, hfound, h⟩ := bind_ok h
    cases hrecord.symm.trans (orRefuse_ok hfound)
    obtain ⟨_, -, h⟩ := bind_ok h
    obtain ⟨-, h⟩ := seq_ok h
    obtain ⟨-, h⟩ := seq_ok h
    obtain ⟨hexpected, h⟩ := seq_ok h
    obtain ⟨hbounded, -⟩ := seq_ok h
    exact ⟨by simpa using hnamed, by simpa using hformed, mapError_ok hsound, haccepted.caller.toLive,
      haccepted.caller.namesTarget, haccepted.scope, haccepted.live, by simpa using hexpected, hbounded,
      huntried, by rw [haccepted.next]; rfl⟩
  · intro h
    obtain ⟨generation, hnext⟩ := Option.isSome_iff_exists.1 h.room
    obtain ⟨⟨⟩, hfresh⟩ := refuseReplay_returns.2 h.untried
    refine ⟨(record, fingerprintPolicy request.update.scope request.update.semantics, generation), ?_⟩
    unfold updateChecks
    dsimp only
    rw [seq_of (by simp [h.named]), seq_of (by simp [h.formed]), bind_of (mapError_of h.sound),
      bind_of (orRefuse_of hrecord), bind_of (requireCaller_of (authorized_iff.2 ⟨h.live, h.target⟩)),
      seq_of (by simp [h.scope]), seq_of h.ongoing, seq_of (by simp [h.expected]), seq_of h.bounded,
      bind_of hfresh, bind_of (orRefuse_of hnext)]
    rfl

/-! ## Transitions, revocations and rollbacks -/

/-- A live caller whose lists name the target of a policy in another fabric or namespace. -/
structure Intrudes (s : State) (context : MutationContext) (registration : PublisherRegistration)
    (record : PolicyRecord) : Prop where
  live : Live s context registration
  names : registration.scope.namesTarget record.policy.semantics.target = true
  abroad :
    registration.scope.coversNamespace record.policy.scope.fabric record.policy.scope.nameSpace = false

section
variable {s : State} {limits : Limits} {context : MutationContext}
  {registration : PublisherRegistration} {record : PolicyRecord}

theorem Intrudes.authorized (h : Intrudes s context registration record) :
    Authorized s context (some record.policy.semantics.target.route)
      record.policy.semantics.target.multipathSet registration :=
  authorized_iff.2 ⟨h.live, h.names⟩

/-- An authorized caller that does not cover the policy intrudes. -/
theorem Authorized.intrudes (h : Authorized s context (some record.policy.semantics.target.route)
      record.policy.semantics.target.multipathSet registration)
    (houtside : registration.scope.coversPolicy record.policy = false) :
    Intrudes s context registration record := by
  refine ⟨h.toLive, h.namesTarget, Bool.eq_false_iff.2 fun hspace => ?_⟩
  exact Bool.false_ne_true
    (houtside.symm.trans (AuthorityScope.coversPolicy_iff.2 ⟨h.namesTarget, hspace⟩))

/-- An event the policy's state defines, and that changes its lifecycle or its epoch: a revalidation
without a usable candidate makes the policy wait for one. -/
structure Turns (s : State) (record : PolicyRecord) (request : PolicyLifecycleRequest)
    (next : PolicyLifecycle) : Prop where
  named : request.policy.valid = true
  known : validPolicyEvent request.event.code = true
  ongoing : record.policy.lifecycle.terminal = false
  defined : applyPolicyEvent record.policy.lifecycle request.event = some next
  turns : if request.event = .revalidate ∧ record.candidates.any (·.usable) = false
    then record.policy.lifecycle ≠ .revalidationRequired
    else next ≠ record.policy.lifecycle ∨ s.epoch ≠ record.policy.epoch

theorem State.transitionChecks_of {request : PolicyLifecycleRequest} {next : PolicyLifecycle}
    (hrecord : s.policies[request.policy]? = some record)
    (hcaller : Authorized s request.context (some record.policy.semantics.target.route)
      record.policy.semantics.target.multipathSet registration)
    (h : Turns s record request next) : s.transitionChecks request = .ok (record, next) := by
  unfold transitionChecks
  rw [seq_of (by simp [h.named, h.known]), bind_of (orRefuse_of hrecord),
    bind_of (requireCaller_of hcaller), seq_of h.ongoing, bind_of (orRefuse_of h.defined)]
  rfl

theorem State.transitionChecks_formed {request : PolicyLifecycleRequest} {next : PolicyLifecycle}
    (h : s.transitionChecks request = .ok (record, next)) :
    request.policy.valid = true ∧ validPolicyEvent request.event.code = true ∧
      record.policy.lifecycle.terminal = false := by
  unfold transitionChecks at h
  obtain ⟨hnamed, h⟩ := seq_ok h
  obtain ⟨_, -, h⟩ := bind_ok h
  obtain ⟨_, -, h⟩ := bind_ok h
  obtain ⟨hongoing, h⟩ := seq_ok h
  obtain ⟨_, -, h⟩ := bind_ok h
  cases h
  simp only [Bool.or_eq_false_iff, Bool.not_eq_false'] at hnamed
  exact ⟨hnamed.1, hnamed.2, hongoing⟩

/-- A policy that can be revoked: it is not at its end, was not revoked before, and there is room for
the revocation. -/
structure Revocable (limits : Limits) (s : State) (record : PolicyRecord)
    (request : RevokePolicyRequest) : Prop where
  named : request.policy.valid = true
  known : validRevocationReason request.reason.code = true
  unrevoked : s.revocations[request.policy]? = none
  ongoing : record.policy.lifecycle.terminal = false
  room : reaches s.revocations.size limits.maxRevocations = false

theorem State.revokeChecks_of {request : RevokePolicyRequest}
    (hrecord : s.policies[request.policy]? = some record)
    (hcaller : Authorized s request.context (some record.policy.semantics.target.route)
      record.policy.semantics.target.multipathSet registration)
    (h : Revocable limits s record request) : s.revokeChecks limits request = .ok record := by
  unfold revokeChecks
  rw [seq_of (by simp [h.named, h.known]), bind_of (orRefuse_of hrecord),
    bind_of (requireCaller_of hcaller), h.unrevoked, Option.map_none, refuseWith,
    bind_of rfl, seq_of h.ongoing, seq_of h.room]
  rfl

theorem State.revokeChecks_revocable {request : RevokePolicyRequest}
    (h : s.revokeChecks limits request = .ok record) : Revocable limits s record request := by
  unfold revokeChecks at h
  obtain ⟨hnamed, h⟩ := seq_ok h
  obtain ⟨_, -, h⟩ := bind_ok h
  obtain ⟨_, -, h⟩ := bind_ok h
  obtain ⟨⟨⟩, hunrevoked, h⟩ := bind_ok h
  obtain ⟨hongoing, h⟩ := seq_ok h
  obtain ⟨hroom, h⟩ := seq_ok h
  cases h
  simp only [Bool.or_eq_false_iff, Bool.not_eq_false'] at hnamed
  exact ⟨hnamed.1, hnamed.2, Option.map_eq_none_iff.1 (refuseWith_ok hunrevoked), hongoing, hroom⟩

/-- A policy that can be rolled back: it is active, its anchor is another path than the preferred one
and still a legal, current and available member, and its generations are not exhausted. -/
structure Restorable (record : PolicyRecord) : Prop where
  active : record.policy.lifecycle = .active
  anchored : record.stable.established = true
  target : ∃ target, record.findCandidate record.stable.path = some target ∧
    target.binding.pathAuthority.legal = true ∧ target.binding.route.current = true ∧
    target.binding.available = true ∧ (record.policy.semantics.target.multipathSet.isSome = true →
      (target.binding.multipath.any fun m => m.current && m.contains record.stable.path) = true)
  other : (record.preference.established && record.preference.preferredPath == record.stable.path) =
    false
  adaptation : record.preference.adaptationGeneration.next.isSome = true
  transition : record.preference.transitionGeneration.next.isSome = true

theorem State.verifyRollback_returns (hactive : record.policy.lifecycle = .active) :
    Returns (verifyRollback record) ↔ Restorable record := by
  unfold verifyRollback
  constructor
  · rintro ⟨_, h⟩
    obtain ⟨hanchored, h⟩ := seq_ok h
    obtain ⟨target, htarget, h⟩ := bind_ok h
    obtain ⟨hlegal, h⟩ := seq_ok h
    obtain ⟨hcurrent, h⟩ := seq_ok h
    obtain ⟨havailable, h⟩ := seq_ok h
    obtain ⟨hmember, h⟩ := seq_ok h
    obtain ⟨hother, h⟩ := seq_ok h
    obtain ⟨_, hadaptation, h⟩ := bind_ok h
    obtain ⟨_, htransition, -⟩ := bind_ok h
    refine ⟨hactive, by simpa using hanchored, ⟨target, orRefuse_ok htarget, by simpa using hlegal,
      by simpa using hcurrent, by simpa using havailable, fun hset => ?_⟩, hother,
      by rw [orRefuse_ok hadaptation]; rfl, by rw [orRefuse_ok htransition]; rfl⟩
    rwa [hset, Bool.true_and, Bool.not_eq_false'] at hmember
  · rintro ⟨-, hanchored, ⟨target, htarget, hlegal, hcurrent, havailable, hmember⟩, hother,
      hadaptation, htransition⟩
    obtain ⟨adaptation, hadaptation⟩ := Option.isSome_iff_exists.1 hadaptation
    obtain ⟨transition, htransition⟩ := Option.isSome_iff_exists.1 htransition
    refine ⟨(target, adaptation, transition), ?_⟩
    have houtside : (record.policy.semantics.target.multipathSet.isSome &&
        !target.binding.multipath.any fun m => m.current && m.contains record.stable.path) = false := by
      cases hset : record.policy.semantics.target.multipathSet.isSome with
      | false => rfl
      | true => rw [hmember hset]; rfl
    rw [seq_of (by simp [hanchored]), bind_of (orRefuse_of htarget), seq_of (by simp [hlegal]),
      seq_of (by simp [hcurrent]), seq_of (by simp [havailable]), seq_of houtside, seq_of hother,
      bind_of (orRefuse_of hadaptation), bind_of (orRefuse_of htransition)]
    rfl

theorem State.rollbackChecks_of {request : RollbackRequest} (hnamed : request.policy.valid = true)
    (hrecord : s.policies[request.policy]? = some record)
    (hcaller : Authorized s request.context (some record.policy.semantics.target.route)
      record.policy.semantics.target.multipathSet registration)
    (hactive : record.policy.lifecycle = .active) (huntried : s.Untried request.context.attempt) :
    s.rollbackChecks request = .ok record := by
  obtain ⟨⟨⟩, hfresh⟩ := @refuseReplay_returns s request.context.attempt
    (fingerprintRollback request) |>.2 huntried
  unfold rollbackChecks
  rw [seq_of (by simp [hnamed]), bind_of (orRefuse_of hrecord), bind_of (requireCaller_of hcaller),
    seq_of (by simp [hactive]), bind_of hfresh]
  rfl

theorem State.rollbackChecks_named {request : RollbackRequest}
    (h : s.rollbackChecks request = .ok record) : request.policy.valid = true := by
  unfold rollbackChecks at h
  obtain ⟨hnamed, -⟩ := seq_ok h
  simpa using hnamed

end

/-! ## Commits -/

/-- A ticket that phase two installs at a reading: its target is another path than the preferred one,
still a candidate, legal and of the generation the ticket states; the timing gates are passed or the
ticket claims an emergency; and neither the transitions nor the generations are exhausted. -/
structure Installable (limits : Limits) (s : State) (now : Ticks) (record : PolicyRecord)
    (ticket : EvaluationTicket) : Prop where
  other : alreadyCurrent record ticket = false
  clears : Clears record ticket now
  target : ∃ target, record.findCandidate ticket.targetPreference = some target ∧
    target.binding.pathAuthority.legal = true ∧
    (ticket.targetPathAuthorityGeneration.valid = true →
      target.binding.pathAuthority.generation = ticket.targetPathAuthorityGeneration)
  pending : reaches (s.pendingTransitions now) limits.maxPendingTransitions = false
  adaptation : record.preference.adaptationGeneration.next.isSome = true
  transition : record.preference.transitionGeneration.next.isSome = true

/-- A ticket phase two takes for current: it states the generations, the watermark and the candidates
of the state. -/
structure Abreast (s : State) (record : PolicyRecord) (dependencies : DependencySnapshot) : Prop where
  epoch : dependencies.epoch = s.epoch
  authority : dependencies.authorityGeneration = s.authorityGeneration
  policyGeneration : dependencies.policyGeneration = record.policy.generation
  evidenceGeneration : dependencies.evidenceGeneration = s.evidenceGeneration
  evidenceWatermark : dependencies.evidenceWatermark = s.evidenceWatermark
  undrifted : dependencyDrift record.candidates dependencies = none

section
variable {s : State} {limits : Limits} {now : Ticks} {record : PolicyRecord}
  {ticket : EvaluationTicket} {registration : PublisherRegistration}

theorem State.verifyCommit_returns (hother : alreadyCurrent record ticket = false) :
    Returns (s.verifyCommit limits now record ticket) ↔ Installable limits s now record ticket := by
  constructor
  · rintro ⟨⟨target, adaptation, transition⟩, h⟩
    obtain ⟨-, hadaptation, htransition⟩ := verifyCommit_ok h
    unfold verifyCommit at h
    obtain ⟨hholdDown, h⟩ := seq_ok h
    obtain ⟨hcooldown, h⟩ := seq_ok h
    obtain ⟨hchurn, h⟩ := seq_ok h
    obtain ⟨_, htarget, h⟩ := bind_ok h
    obtain ⟨hlegal, h⟩ := seq_ok h
    obtain ⟨hgeneration, h⟩ := seq_ok h
    obtain ⟨hpending, -⟩ := seq_ok h
    refine ⟨hother, ⟨fun hordinary hactive hvalid hreverse hdeclared => ?_, fun hordinary hactive => ?_,
      fun hordinary henabled => ?_⟩, ⟨_, orRefuse_ok htarget, by simpa using hlegal, fun hvalid => ?_⟩,
      hpending, by rw [hadaptation]; rfl, by rw [htransition]; rfl⟩
    · rw [← hreverse] at hholdDown
      simpa [hordinary, hactive, hvalid, hdeclared] using hholdDown
    · simpa [hordinary, hactive] using hcooldown
    · simpa [hordinary, henabled] using hchurn
    · simpa [hvalid] using hgeneration
  · rintro ⟨-, hclears, ⟨target, htarget, hlegal, hgeneration⟩, hpending, hadaptation, htransition⟩
    have hcloses : s.closes limits now record.preference = .decisionCommitted := by
      unfold closes
      rw [hpending, hadaptation, htransition]
      rfl
    rcases verifyCommit_clears hclears htarget hlegal hgeneration with ⟨_, _, hok, -⟩ | ⟨_, -, hne⟩
    · exact ⟨_, hok⟩
    · exact absurd hcloses hne

/-- Phase two takes an abreast eligible ticket of a live caller. -/
theorem State.commitChecks_of {request : CommitDecisionRequest}
    (hnamed : request.ticket.dependencies.policy.valid = true)
    (hrecord : s.policies[request.ticket.dependencies.policy]? = some record)
    (hlive : Live s request.context registration) (hactive : record.policy.lifecycle = .active)
    (heligible : request.ticket.lifecycle = .eligible)
    (habreast : Abreast s record request.ticket.dependencies)
    (huntried : s.Untried request.context.attempt) : s.commitChecks request = .ok record := by
  obtain ⟨⟨⟩, hfresh⟩ := @refuseReplay_returns s request.context.attempt
    (fingerprintCommit request.ticket) |>.2 huntried
  unfold commitChecks
  dsimp only
  rw [seq_of (by simp [heligible]), seq_of (by simp [hnamed]), bind_of (requireCaller_of hlive.authorized),
    bind_of (orRefuse_of hrecord), seq_of (by simp [habreast.epoch]),
    seq_of (by simp [habreast.authority]), seq_of (by simp [hactive]),
    seq_of (by simp [habreast.policyGeneration]), seq_of (by simp [habreast.evidenceGeneration]),
    seq_of (by simp [habreast.evidenceWatermark]), if_pos heligible, habreast.undrifted, Option.map_none,
    refuseWith, bind_of rfl, bind_of hfresh]
  rfl

theorem State.commitChecks_abreast {request : CommitDecisionRequest}
    (h : s.commitChecks request = .ok record) (heligible : request.ticket.lifecycle = .eligible) :
    request.ticket.dependencies.policy.valid = true ∧ Abreast s record request.ticket.dependencies := by
  obtain ⟨_, haccepted⟩ := commitChecks_ok h
  unfold commitChecks at h
  obtain ⟨-, h⟩ := seq_ok h
  obtain ⟨hnamed, h⟩ := seq_ok h
  obtain ⟨_, -, h⟩ := bind_ok h
  obtain ⟨_, hfound, h⟩ := bind_ok h
  cases haccepted.found.symm.trans (orRefuse_ok hfound)
  obtain ⟨-, h⟩ := seq_ok h
  obtain ⟨hauthority, h⟩ := seq_ok h
  obtain ⟨-, h⟩ := seq_ok h
  obtain ⟨-, h⟩ := seq_ok h
  obtain ⟨hgeneration, h⟩ := seq_ok h
  obtain ⟨hwatermark, -⟩ := seq_ok h
  simp only [heligible, beq_self_eq_true, Bool.true_and, bne_eq_false_iff_eq] at hgeneration hwatermark
  simp only [bne_eq_false_iff_eq] at hauthority
  exact ⟨by simpa using hnamed, haccepted.epoch.symm, hauthority.symm, haccepted.generation.symm,
    hgeneration.symm, hwatermark.symm, haccepted.drift heligible⟩

/-- Phase two looks at three fields of a ticket. -/
theorem Installable.congr {ticket' : EvaluationTicket} (h : Installable limits s now record ticket)
    (htarget : ticket'.targetPreference = ticket.targetPreference)
    (hgeneration : ticket'.targetPathAuthorityGeneration = ticket.targetPathAuthorityGeneration)
    (hemergency : ticket'.emergency = ticket.emergency) : Installable limits s now record ticket' := by
  refine ⟨?_, ⟨?_, ?_, ?_⟩, ?_, h.pending, h.adaptation, h.transition⟩
  · unfold alreadyCurrent
    rw [htarget]
    exact h.other
  · rw [htarget, hemergency]
    exact h.clears.holdDown
  · rw [hemergency]
    exact h.clears.cooldown
  · rw [hemergency]
    exact h.clears.churn
  · rw [htarget, hgeneration]
    exact h.target

end

/-! ## Evaluations -/

namespace EvaluationInputs

/-- What an evaluation that adapts to a candidate proposes. -/
def proposal (inputs : EvaluationInputs) (best : CandidateEvaluation) : EvaluationTicket where
  targetPreference := best.path
  targetPathAuthorityGeneration := best.pathAuthorityGeneration
  emergency := inputs.emergencyReason.isSome

theorem evaluate_proposal {inputs : EvaluationInputs} {best : CandidateEvaluation}
    {dependencies : DependencySnapshot} (htop : inputs.topRanked = some best)
    (h : (inputs.evaluate dependencies).lifecycle = .eligible) :
    (inputs.evaluate dependencies).targetPreference = (inputs.proposal best).targetPreference ∧
      (inputs.evaluate dependencies).targetPathAuthorityGeneration =
        (inputs.proposal best).targetPathAuthorityGeneration ∧
      (inputs.evaluate dependencies).emergency = (inputs.proposal best).emergency := by
  have hcore {t t' : EvaluationTicket} (hsame : t'.core = t.core) :
      t'.targetPreference = t.targetPreference ∧
        t'.targetPathAuthorityGeneration = t.targetPathAuthorityGeneration ∧
        t'.emergency = t.emergency :=
    ⟨(congrArg EvaluationTicket.targetPreference hsame :),
      (congrArg EvaluationTicket.targetPathAuthorityGeneration hsame :),
      (congrArg EvaluationTicket.emergency hsame :)⟩
  have hexit := inputs.evaluate_exits dependencies
  generalize inputs.evaluate dependencies = ticket at hexit h ⊢
  cases hexit with
  | nothing | barred | merit => cases h
  | @incumbent other =>
    have hsuppressed := (inputs.incumbentTicket_consistent
      ((inputs.unjudgedTicket dependencies).towards other)).2
    cases h.symm.trans hsuppressed
  | refused _ _ _ gate =>
    cases h.symm.trans ((ordinaryGates_gates _ _ rfl).refuses _ gate).lifecycle
  | established top =>
    cases htop.symm.trans top
    exact ⟨rfl, rfl, rfl⟩
  | adapted challenged _ _ gates =>
    cases htop.symm.trans challenged.top
    have hpassed := hcore ((inputs.ordinaryGates_gates best rfl).returns _ gates)
    exact hpassed
  | overridden challenged =>
    cases htop.symm.trans challenged.top
    exact ⟨rfl, rfl, rfl⟩
  | @escaped other _ challenged =>
    cases htop.symm.trans challenged.top
    have hincumbent := hcore (inputs.incumbentTicket_suppresses
      (rfl : ((inputs.unjudgedTicket dependencies).towards best).core = _)).core
    exact hincumbent

end EvaluationInputs

/-- A policy whose evaluation, taken at one reading and committed at another, adapts it. -/
structure Adaptable (limits : Limits) (e : Engine) (begun now : Ticks) (record : PolicyRecord)
    (request : EvaluateRequest) : Prop where
  named : request.policy.valid = true
  room : e.outstanding < limits.maxSimultaneousEvaluations
  active : record.policy.lifecycle = .active
  policyGeneration :
    request.context.expectedPolicyGeneration.any (· != record.policy.generation) = false
  evidenceGeneration :
    request.context.expectedEvidenceGeneration.any (· != e.state.evidenceGeneration) = false
  undeferred : request.deferCommit = false
  untried : e.state.Untried request.context.attempt
  grants : ∃ best, (e.state.inputsAt begun record).topRanked = some best ∧
    (e.state.inputsAt begun record).Verdict best.path ∧
    Installable limits e.state now record ((e.state.inputsAt begun record).proposal best)

section
variable {config : EngineConfig} {e e₁ : Engine} {begun now : Ticks} {record : PolicyRecord}
  {request : EvaluateRequest} {ticket : EvaluationTicket} {registration : PublisherRegistration}

theorem beginChecks_of (hrecord : e.state.policies[request.policy]? = some record)
    (hcaller : Authorized e.state request.context (some record.policy.semantics.target.route)
      record.policy.semantics.target.multipathSet registration)
    (h : Adaptable config.limits e begun now record request) :
    beginChecks config.limits e request = .ok record := by
  unfold beginChecks
  dsimp only
  rw [seq_of (by simp [h.named]), seq_of (by simpa using h.room), bind_of (orRefuse_of hrecord),
    bind_of (mapError_of (State.checkCaller_of hcaller)), seq_of (by simp [h.active]),
    seq_of h.policyGeneration, seq_of h.evidenceGeneration]
  rfl

/-- What phase one issues says what an evaluation under other identities says. -/
theorem begin_reevaluates (hbegin : beginEvaluation config.limits e begun request = some (e₁, ticket))
    (hchecks : beginChecks config.limits e request = .ok record) :
    (∃ evaluation, ticket.dependencies = e.state.buildDependencies begun record evaluation) ∧
      ticket.lifecycle = (e.state.reevaluate begun record).lifecycle ∧
      ticket.targetPreference = (e.state.reevaluate begun record).targetPreference ∧
      ticket.targetPathAuthorityGeneration =
        (e.state.reevaluate begun record).targetPathAuthorityGeneration ∧
      ticket.emergency = (e.state.reevaluate begun record).emergency := by
  obtain ⟨-, hrefused | ⟨_, evaluation, evidence, decision, hok, rfl⟩⟩ := beginEvaluation_cases hbegin
  · cases hchecks.symm.trans hrefused
  cases hchecks.symm.trans hok
  have hface := evaluations_alike e.state begun record default evidence default evaluation
  have hissues := (e.state.copyInputs begun evidence record).evaluate_issues
    (e.state.buildDependencies begun record evaluation)
  exact ⟨⟨evaluation, hissues.dependencies⟩, (congrArg EvaluationTicket.lifecycle hface :),
    (congrArg EvaluationTicket.targetPreference hface :),
    (congrArg EvaluationTicket.targetPathAuthorityGeneration hface :),
    (congrArg EvaluationTicket.emergency hface :)⟩

theorem abreast_captured (s : State) (record : PolicyRecord) (evaluation : EvaluationId) :
    Abreast s record (s.buildDependencies begun record evaluation) :=
  ⟨rfl, rfl, rfl, rfl, rfl, dependencyDrift_captured s begun record evaluation⟩

/-- Phase one issues an eligible ticket that phase two installs exactly when the rule admits the best
candidate and its proposal can be installed. -/
theorem begin_grants (hbegin : beginEvaluation config.limits e begun request = some (e₁, ticket))
    (hchecks : beginChecks config.limits e request = .ok record) (ho : record.Ordered) :
    ((∃ evaluation, ticket.dependencies = e.state.buildDependencies begun record evaluation) ∧
      ticket.lifecycle = .eligible ∧ Installable config.limits e.state now record ticket) ↔
    ∃ best, (e.state.inputsAt begun record).topRanked = some best ∧
      (e.state.inputsAt begun record).Verdict best.path ∧
      Installable config.limits e.state now record ((e.state.inputsAt begun record).proposal best) := by
  obtain ⟨hdependencies, hlifecycle, htarget, hgeneration, hemergency⟩ :=
    begin_reevaluates hbegin hchecks
  have hdistinct : ((e.state.inputsAt begun record).candidates.map (·.binding.path)).Nodup :=
    Search.keys_nodup ho
  have hverdict := (EvaluationInputs.evaluate_eligible_iff hdistinct
    (e.state.buildDependencies begun record default)).1
  constructor
  · rintro ⟨-, heligible, hinstallable⟩
    obtain ⟨best, htop, hbest⟩ := hverdict.1 (hlifecycle.symm.trans heligible)
    obtain ⟨h₁, h₂, h₃⟩ := EvaluationInputs.evaluate_proposal htop (hlifecycle.symm.trans heligible)
    exact ⟨best, htop, hbest, hinstallable.congr (htarget.trans h₁).symm (hgeneration.trans h₂).symm
      (hemergency.trans h₃).symm⟩
  · rintro ⟨best, htop, hbest, hinstallable⟩
    have heligible := hverdict.2 ⟨best, htop, hbest⟩
    obtain ⟨h₁, h₂, h₃⟩ := EvaluationInputs.evaluate_proposal htop heligible
    exact ⟨hdependencies, hlifecycle.trans heligible,
      hinstallable.congr (htarget.trans h₁) (hgeneration.trans h₂) (hemergency.trans h₃)⟩

end

/-! ## Batches -/

namespace State

/-- The notifications of a batch that are applied: those ahead of the first refused one. -/
def appliedFront (limits : Limits) (context : MutationContext) (s : State) :
    List UpstreamNotification → List UpstreamNotification
  | [] => []
  | n :: rest =>
    match s.applyNotification limits context n with
    | .error _ => []
    | .ok s' => n :: appliedFront limits context s' rest

/-- Notifications that declare no new candidate of a policy, and write into the binding of each of
its candidates, in the end, what it holds. -/
structure KeepsBindings (s : State) (policy : AdaptivePolicyId)
    (notifications : List UpstreamNotification) : Prop where
  declared : ∀ n ∈ notifications, n.policy = policy → n.event = .declareCandidate →
    (s.candidateAt policy n.binding.path).isSome
  bindings : ∀ path c, s.candidateAt policy path = some c →
    rewritten notifications policy path c.binding = c.binding

section
variable {limits : Limits} {context : MutationContext} {s s' : State} {policy : AdaptivePolicyId}
  {r : PolicyRecord}

theorem applyNotifications_front (notifications : List UpstreamNotification) (s : State) :
    applyNotifications limits context s (s.appliedFront limits context notifications) =
      ((applyNotifications limits context s notifications).1, none) := by
  induction notifications generalizing s with
  | nil => rfl
  | cons n rest ih =>
    unfold appliedFront
    rw [applyNotifications.eq_def limits context s (n :: rest)]
    dsimp only
    cases happly : s.applyNotification limits context n with
    | error answer => rfl
    | ok s₁ =>
      rw [applyNotifications]
      rw [happly]
      exact ih s₁

/-- Every notification that is applied comes from a caller whose lists name its policy's target. -/
theorem appliedFront_authorized {notifications : List UpstreamNotification} {n : UpstreamNotification}
    (hn : n ∈ s.appliedFront limits context notifications) (hr : s.policies[n.policy]? = some r) :
    ∃ registration, Authorized s context (some r.policy.semantics.target.route)
      r.policy.semantics.target.multipathSet registration := by
  induction notifications generalizing s r with
  | nil => cases hn
  | cons m rest ih =>
    unfold appliedFront at hn
    cases happly : s.applyNotification limits context m with
    | error answer =>
      rw [happly] at hn
      cases hn
    | ok s₁ =>
      rw [happly] at hn
      obtain ⟨record, registration, haccepted, happlies⟩ := applyNotification_ok happly
      rcases List.mem_cons.1 hn with rfl | hn
      · cases hr.symm.trans haccepted.found
        exact ⟨registration, haccepted.caller⟩
      · have hframe := happlies.frame haccepted.found n.policy
        rw [hr, Option.map_some] at hframe
        obtain ⟨r₁, hr₁, hsame⟩ := Option.map_eq_some_iff.1 hframe
        obtain ⟨other, hauthorized⟩ := ih hn hr₁
        rw [PolicyRecord.policy_of_frame hsame, authorized_iff] at hauthorized
        exact ⟨other, authorized_iff.2 ⟨hauthorized.1.congr happlies.standing, hauthorized.2⟩⟩

/-- Which bindings notifications write does not depend on the state. -/
theorem amendAll_guarded (notifications : List UpstreamNotification) (s s' : State)
    (r : PolicyRecord) : (s'.amendAll policy notifications r).guarded =
      (s.amendAll policy notifications r).guarded := by
  have hbinding (index : Nat) (c c' : CandidateRecord) (hsame : c'.binding = c.binding) :
      (notifications.foldl (fun c n =>
        if r.candidateIdx n.binding.path = some index then s'.amend n policy c else c) c').binding =
      (notifications.foldl (fun c n =>
        if r.candidateIdx n.binding.path = some index then s.amend n policy c else c) c).binding := by
    induction notifications generalizing c c' with
    | nil => exact hsame
    | cons n rest ih =>
      refine ih _ _ ?_
      by_cases hindex : r.candidateIdx n.binding.path = some index
      · simp [hindex, amend, hsame]
      · simpa [hindex] using hsame
  have hframe : (s'.amendAll policy notifications r).frame = (s.amendAll policy notifications r).frame :=
    (amendAll_frame notifications r).trans (amendAll_frame notifications r).symm
  have hbindings : (s'.amendAll policy notifications r).candidates.map (·.binding) =
      (s.amendAll policy notifications r).candidates.map (·.binding) := by
    refine List.ext_getElem? fun index => ?_
    rw [List.getElem?_map, List.getElem?_map, amendAll_getElem?, amendAll_getElem?]
    cases r.candidates[index]? with
    | none => rfl
    | some c => exact congrArg some (hbinding index c c rfl)
  unfold PolicyRecord.guarded
  rw [PolicyRecord.policy_of_frame hframe, PolicyRecord.preference_of_frame hframe,
    PolicyRecord.stable_of_frame hframe, PolicyRecord.timing_of_frame hframe, hbindings]

/-- A batch that declares no new candidate of a policy amends its bindings in place. -/
theorem applyNotifications_guarded {notifications : List UpstreamNotification}
    (h : applyNotifications limits context s notifications = (s', none))
    (hdeclared : ∀ n ∈ notifications, n.policy = policy → n.event = .declareCandidate →
      (s.candidateAt policy n.binding.path).isSome) (hr : s.policies[policy]? = some r) :
    ∃ r', s'.policies[policy]? = some r' ∧
      r'.guarded = (s.amendAll policy notifications r).guarded := by
  induction notifications generalizing s r with
  | nil =>
    cases h
    exact ⟨r, hr, rfl⟩
  | cons n rest ih =>
    unfold applyNotifications at h
    cases happly : s.applyNotification limits context n with
    | error answer =>
      rw [happly] at h
      cases h
    | ok s₁ =>
      rw [happly] at h
      have hfirst := hdeclared n List.mem_cons_self
      obtain ⟨r', hr', hguarded⟩ := ih h (fun m hm hpolicy hevent => by
        rw [applyNotification_candidateAt happly hfirst]
        exact hdeclared m (List.mem_cons_of_mem n hm) hpolicy hevent)
        (applyNotification_record happly hr hfirst)
      exact ⟨r', hr', hguarded.trans (amendAll_guarded rest s s₁ _)⟩

theorem keepsBindings_nil : s.KeepsBindings policy [] :=
  ⟨by simp, fun _ _ _ => rfl⟩

/-- Only a notification for a policy changes its bindings. -/
theorem exists_of_amends {notifications : List UpstreamNotification}
    (h : ¬ s.KeepsBindings policy notifications) : ∃ n ∈ notifications, n.policy = policy := by
  by_contra hnone
  have hother : ∀ n ∈ notifications, n.policy ≠ policy := fun n hn hpolicy => hnone ⟨n, hn, hpolicy⟩
  have hkeeps (path : PathId) (binding : CandidateBinding) :
      rewritten notifications policy path binding = binding := by
    clear h hnone
    unfold rewritten
    induction notifications with
    | nil => rfl
    | cons n rest ih =>
      rw [List.foldl_cons, if_neg fun hnames => hother n List.mem_cons_self hnames.1]
      exact ih fun m hm => hother m (List.mem_cons_of_mem n hm)
  exact h ⟨fun n hn hpolicy => absurd hpolicy (hother n hn), fun path c _ => hkeeps path c.binding⟩

/-- A batch without a refusal keeps the guarded part of a policy exactly when it keeps its
bindings. -/
theorem applyNotifications_guards_iff {notifications : List UpstreamNotification}
    (h : applyNotifications limits context s notifications = (s', none))
    (hr : s.policies[policy]? = some r) :
    Guards policy r.guarded s' ↔ s.KeepsBindings policy notifications := by
  have hat {path : PathId} {c : CandidateRecord} : s.candidateAt policy path = some c ↔
      ∃ index, r.candidateIdx path = some index ∧ r.candidates[index]? = some c := by
    unfold candidateAt PolicyRecord.findCandidate
    rw [hr, Option.bind_some, Option.bind_eq_some_iff]
  constructor
  · intro hguards
    obtain ⟨r', hr', hpart⟩ := Option.map_eq_some_iff.1 hguards
    have hbindings : r'.candidates.map (·.binding) = r.candidates.map (·.binding) :=
      congrArg GuardedPart.bindings hpart
    have hcount : s'.candidateCount policy ≤ s.candidateCount policy := by
      have hlength := congrArg List.length hbindings
      rw [List.length_map, List.length_map] at hlength
      simp [candidateCount, hr, hr', hlength]
    have hdeclared := applyNotifications_declared h hcount
    refine ⟨hdeclared, fun path c hc => ?_⟩
    obtain ⟨index, hindex, hfound⟩ := hat.1 hc
    obtain ⟨r'', hr'', hguarded⟩ := applyNotifications_guarded h hdeclared hr
    cases hr'.symm.trans hr''
    have hsame : (s.amendAll policy notifications r).candidates.map (·.binding) =
        r.candidates.map (·.binding) :=
      congrArg GuardedPart.bindings (hguarded.symm.trans hpart)
    have hbinding := congrArg (·[index]?) hsame
    simp only [List.getElem?_map, amendAll_found hindex hfound, hfound, Option.map_some,
      Option.some.injEq] at hbinding
    rwa [amendAt_eq] at hbinding
  · intro hkeeps
    obtain ⟨r', hr', hguarded⟩ := applyNotifications_guarded h hkeeps.declared hr
    have hbindings : (s.amendAll policy notifications r).candidates.map (·.binding) =
        r.candidates.map (·.binding) := by
      refine List.ext_getElem? fun index => ?_
      rw [List.getElem?_map, List.getElem?_map]
      cases hc : r.candidates[index]? with
      | none => rw [amendAll_getElem?, hc, Option.map_none]
      | some c =>
        by_cases hindex : r.candidateIdx c.binding.path = some index
        · rw [amendAll_found hindex hc, Option.map_some, Option.map_some, amendAt_eq]
          exact congrArg some (hkeeps.bindings _ c (hat.2 ⟨index, hindex, hc⟩))
        · rw [amendAll_unfound hindex hc]
    have hframe := @amendAll_frame s policy notifications r
    unfold Guards
    rw [hr', Option.map_some, hguarded]
    unfold PolicyRecord.guarded
    rw [PolicyRecord.policy_of_frame hframe, PolicyRecord.preference_of_frame hframe,
      PolicyRecord.stable_of_frame hframe, PolicyRecord.timing_of_frame hframe, hbindings]

theorem upstreamChecks_returns {request : UpstreamNotifyRequest} :
    Returns (s.upstreamChecks limits request) ↔ request.notifications ≠ [] ∧
      exceeds request.notifications.length limits.maxBatchSize = false ∧
      s.Untried request.context.attempt := by
  unfold upstreamChecks
  rw [Returns.seq_iff, Returns.seq_iff, Returns.bind_iff]
  constructor
  · rintro ⟨hsome, hbounded, ⟨⟩, hfresh, -⟩
    exact ⟨by simpa using hsome, hbounded, refuseReplay_returns.1 ⟨_, hfresh⟩⟩
  · rintro ⟨hsome, hbounded, huntried⟩
    obtain ⟨⟨⟩, hfresh⟩ := refuseReplay_returns.2 huntried
    exact ⟨by simpa using hsome, hbounded, _, hfresh, .ok _⟩

theorem applyUpstream_applied {request : UpstreamNotifyRequest} {fingerprint : Text}
    (h : s.upstreamChecks limits request = .ok fingerprint) :
    (s.applyUpstream limits request).1.policies =
      (applyNotifications limits request.context s request.notifications).1.policies := by
  unfold applyUpstream
  rw [h]
  dsimp only
  split
  · rename_i reached refusal happlied
    rw [happlied]
  · rename_i reached happlied
    rw [happlied]
    exact recordAttempt_policies ..

end

end State

/-! ## Trespasses -/

/-- An operation that reaches the guarded part of a policy its caller does not cover. An update is
judged by the scope and the target it brings, and a commit by its ticket alone; every other operation
asks the caller's lists about the policy's target, in the caller's own fabric and namespace. -/
inductive Trespass (limits : Limits) (e : Engine) (registration : PublisherRegistration)
    (policy : AdaptivePolicyId) (record : PolicyRecord) : Op → Prop
  | supplanted {now : Ticks} {request : UpdatePolicyRequest} (own : request.policy = policy)
      (supplants : Supplants limits e.state registration record request) :
      Trespass limits e registration policy record (.updatePolicy now request)
  | turned {op : Op} {request : PolicyLifecycleRequest} {next : PolicyLifecycle}
      (requests : op.transition = some request) (own : request.policy = policy)
      (intrudes : Intrudes e.state request.context registration record)
      (turns : Turns e.state record request next) : Trespass limits e registration policy record op
  | revoked {request : RevokePolicyRequest} (own : request.policy = policy)
      (intrudes : Intrudes e.state request.context registration record)
      (revocable : Revocable limits e.state record request) :
      Trespass limits e registration policy record (.revokePolicy request)
  | amended {request : UpstreamNotifyRequest}
      (bounded : exceeds request.notifications.length limits.maxBatchSize = false)
      (untried : e.state.Untried request.context.attempt)
      (intrudes : Intrudes e.state request.context registration record)
      (amends : ¬ e.state.KeepsBindings policy
        (e.state.appliedFront limits request.context request.notifications)) :
      Trespass limits e registration policy record (.applyUpstream request)
  | committed {now : Ticks} {request : CommitDecisionRequest}
      (own : request.ticket.dependencies.policy = policy)
      (named : request.ticket.dependencies.policy.valid = true)
      (live : Live e.state request.context registration) (active : record.policy.lifecycle = .active)
      (eligible : request.ticket.lifecycle = .eligible)
      (abreast : Abreast e.state record request.ticket.dependencies)
      (untried : e.state.Untried request.context.attempt)
      (installs : Installable limits e.state now record request.ticket) :
      Trespass limits e registration policy record (.commitEvaluation now request)
  | adapted {begun now : Ticks} {request : EvaluateRequest} (own : request.policy = policy)
      (intrudes : Intrudes e.state request.context registration record)
      (adaptable : Adaptable limits e begun now record request) :
      Trespass limits e registration policy record (.evaluate begun now request)
  | restored {now : Ticks} {request : RollbackRequest} (own : request.policy = policy)
      (named : request.policy.valid = true)
      (intrudes : Intrudes e.state request.context registration record)
      (untried : e.state.Untried request.context.attempt) (restorable : Restorable record) :
      Trespass limits e registration policy record (.rollback now request)

section
variable {config : EngineConfig} {e e' : Engine} {op : Op} {answer : Answer}
  {policy : AdaptivePolicyId} {record record' : PolicyRecord} {registration : PublisherRegistration}
  {context : MutationContext}

theorem Generation.next_ne {d : GenerationDomain} {a b : Generation d} (h : a.next = some b) :
    b ≠ a := by
  rintro rfl
  have hnext := Generation.next_toNat h
  omega

/-- A record whose adaptation generation advanced. -/
theorem guarded_ne_of_adapted {adaptation : AdaptationGeneration}
    (hnext : record.preference.adaptationGeneration.next = some adaptation)
    (hadapted : record'.preference.adaptationGeneration = adaptation) :
    record'.guarded ≠ record.guarded := by
  intro hsame
  have hpreference : record'.preference = record.preference := congrArg GuardedPart.preference hsame
  rw [hpreference] at hadapted
  exact Generation.next_ne hnext hadapted.symm

/-- Phase two installs an installable ticket. -/
theorem CommitEffect.installs {limits : Limits} {s s' : State} {now : Ticks}
    {request : CommitDecisionRequest} {outcome : Outcome}
    (h : CommitEffect limits s now request s' outcome) (hchecks : s.commitChecks request = .ok record)
    (heligible : request.ticket.lifecycle = .eligible)
    (hinstallable : Installable limits s now record request.ticket) :
    ∃ record', s'.policies[request.ticket.dependencies.policy]? = some record' ∧
      record'.guarded ≠ record.guarded := by
  obtain ⟨⟨target, adaptation, transition⟩, hverified⟩ :=
    (State.verifyCommit_returns hinstallable.other).2 hinstallable
  cases h with
  | refused checks => cases hchecks.symm.trans checks
  | suppressed _ ineligible => exact absurd heligible ineligible
  | unchanged checks _ current =>
    cases hchecks.symm.trans checks
    cases hinstallable.other.symm.trans current
  | unverified checks _ _ verified =>
    cases hchecks.symm.trans checks
    cases hverified.symm.trans verified
  | committed checks _ _ verified installs =>
    cases hchecks.symm.trans checks
    rw [State.recordAttempt_policies, State.journal_policies, State.putRecord_policies,
      Std.ExtTreeMap.getElem?_insert_self]
    refine ⟨_, rfl, guarded_ne_of_adapted (State.verifyCommit_ok verified).2.1 ?_⟩
    subst installs
    rfl

/-- A rollback restores a restorable policy. -/
theorem RollbackEffect.restores {limits : Limits} {s s' : State} {now : Ticks}
    {request : RollbackRequest} {outcome : Outcome} (h : RollbackEffect limits s now request s' outcome)
    (hchecks : s.rollbackChecks request = .ok record) (hrestorable : Restorable record) :
    ∃ record', s'.policies[request.policy]? = some record' ∧ record'.guarded ≠ record.guarded := by
  obtain ⟨_, hverified⟩ := (State.verifyRollback_returns hrestorable.active).2 hrestorable
  cases h with
  | refused checks => cases hchecks.symm.trans checks
  | declined checks verified | recorded checks verified =>
    cases hchecks.symm.trans checks
    cases hverified.symm.trans verified
  | restored checks verified decides =>
    cases hchecks.symm.trans checks
    rw [State.recordAttempt_policies, State.journal_policies, State.putRecord_policies,
      Std.ExtTreeMap.getElem?_insert_self]
    refine ⟨_, rfl, guarded_ne_of_adapted (State.verifyRollback_ok verified).2.2.1 ?_⟩
    subst decides
    rfl

theorem Supplants.changes {limits : Limits} {s : State} {now : Ticks} {request : UpdatePolicyRequest}
    (h : Supplants limits s registration record request)
    (hrecord : s.policies[request.policy]? = some record) :
    ∃ record', (s.updatePolicy limits now request).1.policies[request.policy]? = some record' ∧
      record'.guarded ≠ record.guarded := by
  obtain ⟨⟨found, fingerprint, generation⟩, hchecks⟩ :=
    (State.updateChecks_returns h.live.registered hrecord).2 h
  obtain ⟨_, haccepted⟩ := State.updateChecks_ok hchecks
  cases hrecord.symm.trans haccepted.found
  refine ⟨_, updatePolicy_get hchecks, fun hsame => ?_⟩
  have hgeneration : (s.updatedRecord now request generation record).policy.generation =
    record.policy.generation := congrArg (fun part : GuardedPart => part.policy.generation) hsame
  refine Generation.next_ne haccepted.next (Eq.trans ?_ hgeneration)
  unfold State.updatedRecord
  dsimp only
  split <;> rfl

theorem Turns.changes {s : State} {request : PolicyLifecycleRequest} {next : PolicyLifecycle}
    (h : Turns s record request next) (hintrudes : Intrudes s request.context registration record)
    (hrecord : s.policies[request.policy]? = some record) :
    ∃ record', (s.transitionPolicy request).1.policies[request.policy]? = some record' ∧
      record'.guarded ≠ record.guarded := by
  have hchecks := State.transitionChecks_of hrecord hintrudes.authorized h
  have hturns := h.turns
  unfold State.transitionPolicy
  rw [hchecks]
  dsimp only
  by_cases hheld : request.event = .revalidate ∧ record.candidates.any (·.usable) = false
  · rw [if_pos hheld] at hturns
    rw [if_pos (by simp [hheld])]
    refine ⟨_, Std.ExtTreeMap.getElem?_insert_self, fun hsame => ?_⟩
    exact hturns (congrArg (fun part : GuardedPart => part.policy.lifecycle) hsame).symm
  · rw [if_neg hheld] at hturns
    rw [if_neg (by simpa using hheld)]
    refine ⟨_, Std.ExtTreeMap.getElem?_insert_self, fun hsame => ?_⟩
    rcases hturns with hturns | hturns
    · exact hturns (congrArg (fun part : GuardedPart => part.policy.lifecycle) hsame)
    · exact hturns (congrArg (fun part : GuardedPart => part.policy.epoch) hsame)

theorem Revocable.changes {limits : Limits} {s : State} {request : RevokePolicyRequest}
    (h : Revocable limits s record request)
    (hintrudes : Intrudes s request.context registration record)
    (hrecord : s.policies[request.policy]? = some record) :
    ∃ record', (s.revokePolicy limits request).1.policies[request.policy]? = some record' ∧
      record'.guarded ≠ record.guarded := by
  unfold State.revokePolicy
  rw [State.revokeChecks_of hrecord hintrudes.authorized h]
  refine ⟨_, Std.ExtTreeMap.getElem?_insert_self, fun hsame => ?_⟩
  have hlifecycle : PolicyLifecycle.revoked = record.policy.lifecycle :=
    congrArg (fun part : GuardedPart => part.policy.lifecycle) hsame
  have hongoing := h.ongoing
  rw [← hlifecycle] at hongoing
  cases hongoing

/-- A batch keeps the guarded part of a policy exactly when its front keeps the bindings. -/
theorem applyUpstream_guards_iff {limits : Limits} {s : State} {request : UpstreamNotifyRequest}
    {fingerprint : Text} (hchecks : s.upstreamChecks limits request = .ok fingerprint)
    (hrecord : s.policies[policy]? = some record) :
    Guards policy record.guarded (s.applyUpstream limits request).1 ↔ s.KeepsBindings policy
      (s.appliedFront limits request.context request.notifications) := by
  rw [← State.applyNotifications_guards_iff (State.applyNotifications_front _ _) hrecord]
  unfold Guards
  rw [State.applyUpstream_applied hchecks]

theorem Adaptable.changes {begun now : Ticks} {request : EvaluateRequest} {result : OperationResult}
    (h : Adaptable config.limits e begun now record request)
    (hintrudes : Intrudes e.state request.context registration record)
    (hrecord : e.state.policies[request.policy]? = some record) (hid : record.policy.id = request.policy)
    (ho : record.Ordered)
    (hevaluate : evaluate config.limits e begun now request = some (e', result)) :
    ∃ record', e'.state.policies[request.policy]? = some record' ∧
      record'.guarded ≠ record.guarded := by
  have hchecks := beginChecks_of hrecord hintrudes.authorized h
  obtain ⟨e₁, ticket, hbegin, hends⟩ := evaluate_phases hevaluate
  obtain ⟨⟨evaluation, hdependencies⟩, heligible, hinstallable⟩ :=
    (begin_grants hbegin hchecks ho).2 h.grants
  have hpolicy : ticket.dependencies.policy = request.policy := by
    rw [hdependencies]
    exact hid
  rcases hends with ⟨-, -, hdeferred | hrejected⟩ | ⟨-, heffect⟩
  · cases h.undeferred.symm.trans hdeferred
  · cases heligible.symm.trans hrejected
  · rw [← hpolicy] at hrecord ⊢
    exact heffect.installs (State.commitChecks_of (hpolicy ▸ h.named) hrecord hintrudes.live h.active
      heligible (hdependencies ▸ abreast_captured _ _ _) h.untried) heligible hinstallable

/-- A trespass changes the guarded part. -/
theorem Trespass.changes (h : Trespass config.limits e registration policy record op)
    (hrecord : e.state.policies[policy]? = some record) (hk : Keyed e.state) (ho : Ordered e.state)
    (hstep : e.step config op = some (e', answer)) :
    ¬ Guards policy record.guarded e'.state := by
  have hsuffices : (∃ record', e'.state.policies[policy]? = some record' ∧
      record'.guarded ≠ record.guarded) → ¬ Guards policy record.guarded e'.state := by
    rintro ⟨record', hrecord', hne⟩ hguards
    exact hne (hguards.found hrecord')
  cases h with
  | supplanted own supplants =>
    subst own
    obtain rfl : _ = e' := congrArg Prod.fst (Option.some.inj hstep)
    exact hsuffices (supplants.changes hrecord)
  | @turned _ request next requests own intrudes turns =>
    subst own
    have hstate : e'.state = (e.state.transitionPolicy request).1 := by
      cases op with
      | transitionPolicy r | revalidate subject r =>
        cases requests
        exact congrArg (·.1.state) (Option.some.inj hstep).symm
      | _ => cases requests
    rw [hstate] at hsuffices ⊢
    exact hsuffices (turns.changes intrudes hrecord)
  | revoked own intrudes revocable =>
    subst own
    obtain rfl : _ = e' := congrArg Prod.fst (Option.some.inj hstep)
    exact hsuffices (revocable.changes intrudes hrecord)
  | @amended request bounded untried intrudes amends =>
    have hsome : request.notifications ≠ [] := by
      intro hempty
      refine amends ?_
      rw [hempty]
      exact State.keepsBindings_nil
    obtain ⟨fingerprint, hchecks⟩ := State.upstreamChecks_returns.2 ⟨hsome, bounded, untried⟩
    obtain rfl : _ = e' := congrArg Prod.fst (Option.some.inj hstep)
    exact fun hguards => amends ((applyUpstream_guards_iff hchecks hrecord).1 hguards)
  | committed own named live active eligible abreast untried installs =>
    subst own
    obtain ⟨⟨e₁, result⟩, hcommit, he⟩ := Option.map_eq_some_iff.1 hstep
    obtain rfl : e₁ = e' := congrArg Prod.fst he
    exact hsuffices ((commitEvaluation_cases hcommit).installs
      (State.commitChecks_of named hrecord live active eligible abreast untried) eligible installs)
  | adapted own intrudes adaptable =>
    subst own
    obtain ⟨⟨e₁, result⟩, hevaluate, he⟩ := Option.map_eq_some_iff.1 hstep
    obtain rfl : e₁ = e' := congrArg Prod.fst he
    exact hsuffices (adaptable.changes intrudes hrecord (hk _ _ hrecord) (ho _ _ hrecord) hevaluate)
  | restored own named intrudes untried restorable =>
    subst own
    obtain ⟨⟨e₁, result⟩, hrollback, he⟩ := Option.map_eq_some_iff.1 hstep
    obtain rfl : e₁ = e' := congrArg Prod.fst he
    exact hsuffices ((rollback_cases hrollback).restores
      (State.rollbackChecks_of named hrecord intrudes.authorized restorable.active untried) restorable)

/-- What phase one let pass, of an evaluation that adapts a policy its caller does not cover. -/
theorem adaptable_of {begun now : Ticks} {request : EvaluateRequest} {e₁ : Engine}
    {ticket : EvaluationTicket}
    (hbegin : beginEvaluation config.limits e begun request = some (e₁, ticket))
    (hchecks : beginChecks config.limits e request = .ok record) (ho : record.Ordered)
    (hundeferred : request.deferCommit = false) (huntried : e.state.Untried request.context.attempt)
    (heligible : ticket.lifecycle = .eligible)
    (hinstallable : Installable config.limits e.state now record ticket) :
    Adaptable config.limits e begun now record request := by
  obtain ⟨_, haccepted⟩ := State.beginChecks_ok hchecks
  have hgrants := (begin_grants hbegin hchecks ho).1
    ⟨(begin_reevaluates hbegin hchecks).1, heligible, hinstallable⟩
  unfold beginChecks at hchecks
  obtain ⟨hnamed, hchecks⟩ := seq_ok hchecks
  obtain ⟨hroom, hchecks⟩ := seq_ok hchecks
  obtain ⟨_, hfound, hchecks⟩ := bind_ok hchecks
  cases haccepted.found.symm.trans (orRefuse_ok hfound)
  obtain ⟨_, -, hchecks⟩ := bind_ok hchecks
  obtain ⟨-, hchecks⟩ := seq_ok hchecks
  obtain ⟨hpolicy, hchecks⟩ := seq_ok hchecks
  obtain ⟨hevidence, -⟩ := seq_ok hchecks
  exact ⟨by simpa using hnamed, by simpa using hroom, haccepted.active, hpolicy, hevidence, hundeferred,
    huntried, hgrants⟩

/-- What phase two writes over the record of a policy its caller does not cover is a trespass. -/
theorem Commits.trespasses {now : Ticks} {request : CommitDecisionRequest}
    {verified : CandidateRecord × AdaptationGeneration × TransitionGeneration}
    (hcommits : Commits config.limits e op now request)
    (hundeferred : ∀ begun now request, op = .evaluate begun now request → request.deferCommit = false)
    (hcontext : op.context = some context)
    (hregistered : e.state.registrations[context.publisher]? = some registration)
    (houtside : registration.scope.coversPolicy record.policy = false)
    (hk : Keyed e.state) (ho : Ordered e.state)
    (hchecks : e.state.commitChecks request = .ok record)
    (heligible : request.ticket.lifecycle = .eligible)
    (hother : alreadyCurrent record request.ticket = false)
    (hverified : e.state.verifyCommit config.limits now record request.ticket = .ok verified) :
    Trespass config.limits e registration request.ticket.dependencies.policy record op := by
  obtain ⟨_, haccepted⟩ := State.commitChecks_ok hchecks
  obtain ⟨hnamed, habreast⟩ := State.commitChecks_abreast hchecks heligible
  have huntried : e.state.Untried request.context.attempt :=
    State.replayCheck_none (State.commitChecks_fresh hchecks)
  have hinstallable := (State.verifyCommit_returns hother).1 ⟨_, hverified⟩
  cases hcommits with
  | commit =>
    cases hcontext
    cases hregistered.symm.trans haccepted.caller.registered
    exact .committed rfl hnamed haccepted.caller.toLive haccepted.active heligible habreast huntried
      hinstallable
  | @evaluate begun _ evaluates e₁ ticket begins =>
    cases hcontext
    dsimp only at *
    obtain ⟨-, hrefused | ⟨before, _, _, _, hbegun, -⟩⟩ := beginEvaluation_cases begins
    · cases heligible.symm.trans (beginChecks_refuses _ _ _ _ hrefused).lifecycle
    · obtain ⟨_, hbefore⟩ := State.beginChecks_ok hbegun
      obtain ⟨_, _, -, hpolicy⟩ := issued_policy hk begins (by rw [heligible]; nofun)
      have hfound : e.state.policies[ticket.dependencies.policy]? = some record := haccepted.found
      rw [hpolicy] at hfound ⊢
      cases hfound.symm.trans hbefore.found
      cases hregistered.symm.trans hbefore.caller.registered
      exact .adapted rfl (hbefore.caller.intrudes houtside)
        (adaptable_of begins hbegun (ho _ _ hbefore.found) (hundeferred _ _ _ rfl) huntried heligible
          hinstallable)

/-- What an operation writes over the record of a policy its caller does not cover is a trespass, or
keeps the guarded part. -/
theorem Rewrites.trespasses (h : Rewrites config.limits e op policy record record')
    (hundeferred : ∀ begun now request, op = .evaluate begun now request → request.deferCommit = false)
    (hcontext : op.context = some context)
    (hregistered : e.state.registrations[context.publisher]? = some registration)
    (houtside : registration.scope.coversPolicy record.policy = false)
    (hk : Keyed e.state) (ho : Ordered e.state) (hne : record'.guarded ≠ record.guarded) :
    Trespass config.limits e registration policy record op := by
  cases h with
  | updated checks =>
    cases hcontext
    obtain ⟨_, haccepted⟩ := State.updateChecks_ok checks
    exact .supplanted rfl ((State.updateChecks_returns hregistered haccepted.found).1 ⟨_, checks⟩)
  | held requests checks event unusable =>
    obtain ⟨_, haccepted⟩ := State.transitionChecks_ok checks
    obtain ⟨hnamed, hknown, hongoing⟩ := State.transitionChecks_formed checks
    cases hcontext.symm.trans (Op.transition_context requests).1
    cases hregistered.symm.trans haccepted.caller.registered
    refine .turned requests rfl (haccepted.caller.intrudes houtside)
      ⟨hnamed, hknown, hongoing, haccepted.next, ?_⟩
    rw [if_pos ⟨event, unusable⟩]
    refine fun hsame => hne ?_
    unfold PolicyRecord.guarded
    rw [← hsame]
  | moved requests checks usable =>
    obtain ⟨_, haccepted⟩ := State.transitionChecks_ok checks
    obtain ⟨hnamed, hknown, hongoing⟩ := State.transitionChecks_formed checks
    cases hcontext.symm.trans (Op.transition_context requests).1
    cases hregistered.symm.trans haccepted.caller.registered
    refine .turned requests rfl (haccepted.caller.intrudes houtside)
      ⟨hnamed, hknown, hongoing, haccepted.next, ?_⟩
    rw [if_neg fun hheld => Bool.false_ne_true (hheld.2.symm.trans (usable hheld.1))]
    by_contra hsame
    simp only [not_or, ne_eq, not_not] at hsame
    refine hne ?_
    unfold PolicyRecord.guarded
    rw [hsame.1, hsame.2]
  | revoked checks =>
    cases hcontext
    obtain ⟨_, haccepted⟩ := State.revokeChecks_ok checks
    cases hregistered.symm.trans haccepted.caller.registered
    exact .revoked rfl (haccepted.caller.intrudes houtside) (State.revokeChecks_revocable checks)
  | suppressed => exact absurd rfl hne
  | committed commits checks eligible other verified =>
    exact commits.trespasses hundeferred hcontext hregistered houtside hk ho checks eligible other
      verified
  | restored checks verified =>
    cases hcontext
    obtain ⟨_, haccepted⟩ := State.rollbackChecks_ok checks
    cases hregistered.symm.trans haccepted.caller.registered
    exact .restored rfl (State.rollbackChecks_named checks) (haccepted.caller.intrudes houtside)
      (State.replayCheck_none (State.rollbackChecks_fresh checks))
      ((State.verifyRollback_returns haccepted.active).1 ⟨_, verified⟩)

/-- What a batch of a caller that does not cover a policy makes of its guarded part is a trespass. -/
theorem notified_trespasses {request : UpstreamNotifyRequest} {fingerprint : Text}
    (hregistered : e.state.registrations[request.context.publisher]? = some registration)
    (hrecord : e.state.policies[policy]? = some record)
    (houtside : registration.scope.coversPolicy record.policy = false)
    (hchecks : e.state.upstreamChecks config.limits request = .ok fingerprint)
    (hchanged : ¬ Guards policy record.guarded (e.state.applyUpstream config.limits request).1) :
    Trespass config.limits e registration policy record (.applyUpstream request) := by
  obtain ⟨-, hbounded, huntried⟩ := State.upstreamChecks_returns.1 ⟨_, hchecks⟩
  rw [applyUpstream_guards_iff hchecks hrecord] at hchanged
  refine .amended hbounded huntried ?_ hchanged
  obtain ⟨n, hn, rfl⟩ := State.exists_of_amends hchanged
  obtain ⟨_, hauthorized⟩ := State.appliedFront_authorized hn hrecord
  cases hregistered.symm.trans hauthorized.registered
  exact hauthorized.intrudes houtside

end

/-- Scope confinement: an operation of a caller whose registered scope does not cover a policy keeps
the policy's guarded part exactly when it is no trespass. -/
theorem scope_confinement_iff {config : EngineConfig} {e e' : Engine} {op : Op} {answer : Answer}
    {context : MutationContext} {registration : PublisherRegistration} {policy : AdaptivePolicyId}
    {record : PolicyRecord} (hreach : Reachable config e) (hcontext : op.context = some context)
    (hregistered : e.state.registrations[context.publisher]? = some registration)
    (hrecord : e.state.policies[policy]? = some record)
    (houtside : registration.scope.coversPolicy record.policy = false)
    (hstep : e.step config op = some (e', answer)) :
    (∃ record', e'.state.policies[policy]? = some record' ∧ record'.guarded = record.guarded) ↔
      ¬ Trespass config.limits e registration policy record op := by
  have hk := Keyed.reachable hreach
  have ho := Ordered.reachable hreach
  have hguards : (∃ record', e'.state.policies[policy]? = some record' ∧
      record'.guarded = record.guarded) ↔ Guards policy record.guarded e'.state :=
    Option.map_eq_some_iff.symm
  rw [hguards]
  constructor
  · exact fun hkept htrespass => htrespass.changes hrecord hk ho hstep hkept
  · intro hnone
    by_contra hchanged
    refine hnone ?_
    have hg : Guards policy record.guarded e.state := by
      rw [Guards, hrecord]
      rfl
    have hundeferred : ∀ begun now request, op = .evaluate begun now request →
        request.deferCommit = false := by
      rintro begun now request rfl
      by_contra hdeferred
      refine hchanged ?_
      obtain ⟨⟨e₁, result⟩, hevaluate, he⟩ := Option.map_eq_some_iff.1 hstep
      obtain rfl : e₁ = e' := congrArg Prod.fst he
      obtain ⟨_, _, -, ⟨hsame, -⟩ | ⟨hproceeds, -⟩⟩ := evaluate_phases hevaluate
      · rwa [hsame]
      · exact absurd hproceeds hdeferred
    have hchange := step_policies hstep
    have hinsert := @Guards.insert policy record.guarded e.state e'.state hg
    unfold Guards at hchanged hg hinsert
    generalize hpolicies : e'.state.policies = policies at hchange hchanged hinsert
    cases hchange with
    | kept => exact absurd hg hchanged
    | @rewritten subject before after found rewrites =>
      by_cases hsubject : subject = policy
      · subst hsubject
        cases hrecord.symm.trans found
        exact rewrites.trespasses hundeferred hcontext hregistered houtside hk ho fun hsame =>
          hchanged (hinsert rfl fun _ => hsame)
      · exact absurd (hinsert rfl fun hsame => absurd hsame hsubject) hchanged
    | created =>
      refine absurd ?_ hchanged
      rw [get_insertIfNew hrecord, ← hrecord]
      exact hg
    | advanced advances =>
      subst advances
      cases hcontext
    | notified notifies checks =>
      subst notifies
      cases hcontext
      refine notified_trespasses hregistered hrecord houtside checks ?_
      unfold Guards
      rwa [State.applyUpstream_applied checks]
    | recovered decodes =>
      subst decodes
      cases hcontext

namespace Scenario

/-- Another publisher, with the same namespace and its own session. -/
def outsider : PublisherId := name "outsider"

def registerOutsider (scope : AuthorityScope) : Op :=
  .registerPublisher outsider (name "outsider-boot") scope (name "outsider-session")

/-- The outsider activates the policy. -/
def intrude : Op := .transitionPolicy { policy, event := .activate, context :=
  { epoch := ⟨1⟩, publisher := outsider, workerBoot := name "outsider-boot"
    session := name "outsider-session", attempt := name "intrude" } }

/-- A policy, and an outsider with a scope. -/
def visited (scope : AuthorityScope) : List Op :=
  [register, .createPolicy 0 (create 1), registerOutsider scope]

/-- A scope of the policy's namespace that is restricted to another route. -/
def elsewhere : AuthorityScope := { scope with routes := [name "elsewhere"] }

/-- A scope of another fabric, without restriction. -/
def abroad : AuthorityScope := { scope with fabric := name "abroad" }

end Scenario

open Scenario in
/-- An outsider restricted to another route does not activate the policy. -/
theorem outsider_keeps_policy : ∃ record record',
    (after (visited elsewhere)).state.policies[policy]? = some record ∧
      (after (visited elsewhere ++ [intrude])).state.policies[policy]? = some record' ∧
      record'.guarded = record.guarded := by
  have hunnamed : ((after (visited elsewhere)).state.policies[policy]?).any (fun record =>
      ((after (visited elsewhere)).state.registrations[outsider]?).any fun registration =>
        !registration.scope.coversPolicy record.policy &&
          !registration.scope.namesTarget record.policy.semantics.target) = true := by decide +kernel
  obtain ⟨record, hrecord, hunnamed⟩ := (Option.any_eq_true _ _).1 hunnamed
  obtain ⟨registration, hregistered, hunnamed⟩ := (Option.any_eq_true _ _).1 hunnamed
  simp only [Bool.and_eq_true, Bool.not_eq_true'] at hunnamed
  obtain ⟨_, hstep⟩ := step_after (visited elsewhere) intrude (by decide +kernel)
  have hnone : ¬ Trespass config.limits (after (visited elsewhere)) registration policy record intrude := by
    intro htrespass
    cases htrespass with
    | turned requests own intrudes =>
      cases requests
      exact Bool.false_ne_true (hunnamed.2.symm.trans intrudes.names)
  obtain ⟨record', hrecord', hsame⟩ := (scope_confinement_iff (reachable_after (by decide +kernel)) rfl
    hregistered hrecord hunnamed.1 hstep).2 hnone
  exact ⟨record, record', hrecord, hrecord', hsame⟩

open Scenario in
/-- A publisher of another fabric activates the policy, although its scope does not cover it. -/
theorem outsider_activates_policy : ∃ registration record record',
    Engine.Reachable config (after (visited abroad)) ∧
      (after (visited abroad)).state.registrations[outsider]? = some registration ∧
      (after (visited abroad)).state.policies[policy]? = some record ∧
      registration.scope.coversPolicy record.policy = false ∧
      (∃ answer, (after (visited abroad)).step config intrude =
        some (after (visited abroad ++ [intrude]), answer)) ∧
      (after (visited abroad ++ [intrude])).state.policies[policy]? = some record' ∧
      record'.guarded ≠ record.guarded := by
  have huncovered : ((after (visited abroad)).state.policies[policy]?).any (fun record =>
      ((after (visited abroad)).state.registrations[outsider]?).any fun registration =>
        !registration.scope.coversPolicy record.policy) = true := by decide +kernel
  obtain ⟨record, hrecord, huncovered⟩ := (Option.any_eq_true _ _).1 huncovered
  obtain ⟨registration, hregistered, huncovered⟩ := (Option.any_eq_true _ _).1 huncovered
  have hdeclared : lifecycleAfter (visited abroad) = some .declared := by decide +kernel
  have hactive : lifecycleAfter (visited abroad ++ [intrude]) = some .active := by decide +kernel
  obtain ⟨record', hrecord', hactive⟩ := Option.map_eq_some_iff.1 hactive
  rw [lifecycleAfter, hrecord] at hdeclared
  have hdeclared : record.policy.lifecycle = .declared := Option.some.inj hdeclared
  refine ⟨registration, record, record', reachable_after (by decide +kernel), hregistered, hrecord,
    by simpa using huncovered, step_after _ _ (by decide +kernel), hrecord', fun hsame => ?_⟩
  have hlifecycle : record'.policy.lifecycle = record.policy.lifecycle :=
    congrArg (fun part : GuardedPart => part.policy.lifecycle) hsame
  rw [hactive, hdeclared] at hlifecycle
  cases hlifecycle

end AdaptiveRouting
