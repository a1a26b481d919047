import AdaptiveRouting.Proof.Attempts
import AdaptiveRouting.Proof.Scenario

/-!
# Replays

Submitted again, a request that succeeded is answered IDEMPOTENT exactly when what its entry point
compares ahead of the attempt table still agrees with it (`Repeats`). The attempt itself is still in
the table under the fingerprint of the request (`succeeds_prints`), and what the checks read of the
request alone passed the first time (`succeeds_passes`).
-/

namespace AdaptiveRouting

open Guard Engine

/-! ## Requests submitted again -/

/-- An authorized caller passes the caller check. -/
theorem State.requireCaller_authorized {s : State} {context : MutationContext}
    {route : Option RouteId} {set : Option MultipathSetId} {registration : PublisherRegistration}
    (h : Authorized s context route set registration) (policy : AdaptivePolicyId) :
    s.requireCaller context route set policy = .ok registration := by
  have hfenced : s.fencedBoots.contains context.workerBoot = false :=
    Bool.eq_false_iff.2 fun hc => h.unfenced (Std.ExtTreeSet.mem_iff_contains.2 hc)
  have hroute : (route.any fun route => !registration.scope.coversRoute registration.scope.fabric
      registration.scope.nameSpace route) = false := by
    cases route with
    | none => rfl
    | some route => simpa using h.route route rfl
  have hset : (set.any fun set => !registration.scope.coversMultipathSet registration.scope.fabric
      registration.scope.nameSpace set) = false := by
    cases set with
    | none => rfl
    | some set => simpa using h.set set rfl
  refine mapError_of ?_
  unfold checkCaller
  rw [seq_of (by rw [h.identity]; rfl), seq_of (by simp [h.epoch]), seq_of hfenced,
    bind_of (orRefuse_of h.registered), seq_of (by simp [h.boot]), seq_of (by simp [h.session]),
    seq_of (by rw [h.wellFormed]; rfl), seq_of hroute, seq_of hset]
  rfl

theorem Authorized.attempt_valid {s : State} {context : MutationContext} {route : Option RouteId}
    {set : Option MultipathSetId} {registration : PublisherRegistration}
    (h : Authorized s context route set registration) : context.attempt.valid = true := by
  have hidentity := h.identity
  simp only [MutationContext.hasCallerIdentity, Bool.and_eq_true] at hidentity
  exact hidentity.2

/-- The caller of an operation passes the checks the operation makes of it. -/
def HoldsAuthority (s : State) : Op → Prop
  | .createPolicy _ r => ∃ registration,
      Authorized s r.context (some r.semantics.target.route) r.semantics.target.multipathSet
        registration ∧
      registration.scope.coversRoute r.scope.fabric r.scope.nameSpace r.semantics.target.route = true
  | .updatePolicy _ r => ∃ registration,
      Authorized s r.context (some r.update.semantics.target.route)
        r.update.semantics.target.multipathSet registration ∧
      registration.scope.coversRoute r.update.scope.fabric r.update.scope.nameSpace
        r.update.semantics.target.route = true
  | .revokePolicy ⟨policy, _, _, context⟩ | .rollback _ ⟨policy, _, context⟩ =>
      ∃ record registration, s.policies[policy]? = some record ∧
        Authorized s context (some record.policy.semantics.target.route)
          record.policy.semantics.target.multipathSet registration
  | .publishEvidence _ ⟨_, context⟩ | .commitEvaluation _ ⟨_, context⟩ =>
      ∃ registration, Authorized s context none none registration
  | .evaluate _ _ r => ∃ registration, Authorized s r.context none none registration
  | _ => True

/-- What phase two compares a ticket with, ahead of the attempt table. -/
structure Compared (s : State) (ticket : EvaluationTicket) (record : PolicyRecord) : Prop where
  unrejected : ticket.lifecycle ≠ .rejected
  named : ticket.dependencies.policy.valid = true
  found : s.policies[ticket.dependencies.policy]? = some record
  epoch : s.epoch = ticket.dependencies.epoch
  authority : s.authorityGeneration = ticket.dependencies.authorityGeneration
  active : record.policy.lifecycle = .active
  generation : record.policy.generation = ticket.dependencies.policyGeneration
  evidence : ticket.lifecycle = .eligible →
    s.evidenceGeneration = ticket.dependencies.evidenceGeneration
  watermark : ticket.lifecycle = .eligible →
    s.evidenceWatermark = ticket.dependencies.evidenceWatermark
  candidates : ticket.lifecycle = .eligible →
    dependencyDrift record.candidates ticket.dependencies = none

namespace State

section
variable {s s' : State} {limits : Limits} {kept : AttemptRecord}

theorem createChecks_repeat {now : Ticks} {request : CreatePolicyRequest}
    {context : MutationContext} (hp : Passing (s.createChecks limits { request with context }))
    (hauthority : HoldsAuthority s' (.createPolicy now request))
    (hkept : s'.attempts[request.context.attempt]? = some kept)
    (hprint : kept.fingerprint = fingerprintPolicy request.scope request.semantics) :
    ∃ answer, s'.createChecks limits request = .error answer ∧ answer.outcome = .idempotent := by
  obtain ⟨registration, hcaller, hscope⟩ := hauthority
  obtain ⟨answer, hreplay, hidempotent⟩ := refuseReplay_retained hcaller.attempt_valid hkept
  refine ⟨answer, ?_, hidempotent⟩
  unfold createChecks at hp ⊢
  obtain ⟨hname, hp⟩ := hp.seq (makeResult_isRejection rfl)
  obtain ⟨⟨⟩, hsemantics, hp⟩ := hp.bind (s.checkSemantics_rejecting request.semantics default)
  obtain ⟨_, -, hp⟩ := hp.bind (s.requireCaller_rejecting _ _ _ _)
  obtain ⟨-, hp⟩ := hp.seq (makeResult_isRejection rfl)
  obtain ⟨hstructure, hp⟩ := hp.seq (makeResult_isRejection rfl)
  obtain ⟨hchurn, hp⟩ := hp.seq (makeResult_isRejection rfl)
  obtain ⟨hdampening, -⟩ := hp.seq (makeResult_isRejection rfl)
  rw [hprint] at hreplay
  rw [seq_of hname, bind_of (mapError_of (mapError_ok hsemantics)),
    bind_of (s'.requireCaller_authorized hcaller default), seq_of (by rw [hscope]; rfl),
    seq_of hstructure, seq_of hchurn, seq_of hdampening, bind_of_error hreplay]

/-- An update compares the policy's generation ahead of the attempt. -/
theorem updateChecks_repeat {now : Ticks} {request : UpdatePolicyRequest} {record : PolicyRecord}
    (hp : Passing (s.updateChecks limits request))
    (hauthority : HoldsAuthority s' (.updatePolicy now request))
    (hfound : s'.policies[request.policy]? = some record)
    (hlive : record.policy.lifecycle.terminal = false)
    (hexpected : request.context.expectedPolicyGeneration = some record.policy.generation)
    (hkept : s'.attempts[request.context.attempt]? = some kept)
    (hprint : kept.fingerprint =
      fingerprintPolicy request.update.scope request.update.semantics) :
    ∃ answer, s'.updateChecks limits request = .error answer ∧ answer.outcome = .idempotent := by
  obtain ⟨registration, hcaller, hscope⟩ := hauthority
  obtain ⟨answer, hreplay, hidempotent⟩ := refuseReplay_retained hcaller.attempt_valid hkept
  refine ⟨answer, ?_, hidempotent⟩
  unfold updateChecks at hp ⊢
  obtain ⟨hpolicy, hp⟩ := hp.seq (makeResult_isRejection rfl)
  obtain ⟨hformed, hp⟩ := hp.seq (makeResult_isRejection rfl)
  obtain ⟨⟨⟩, hsemantics, hp⟩ :=
    hp.bind (s.checkSemantics_rejecting request.update.semantics request.policy)
  obtain ⟨_, -, hp⟩ := hp.bind (.found (makeResult_isRejection rfl))
  obtain ⟨_, -, hp⟩ := hp.bind (s.requireCaller_rejecting _ _ _ _)
  obtain ⟨-, hp⟩ := hp.seq (makeResult_isRejection rfl)
  obtain ⟨-, hp⟩ := hp.seq (makeResult_isRejection (lifecycleOutcome_isRejection _))
  obtain ⟨-, hp⟩ := hp.seq (makeResult_isRejection rfl)
  obtain ⟨hstructure, -⟩ := hp.seq (makeResult_isRejection rfl)
  rw [hprint] at hreplay
  rw [seq_of hpolicy, seq_of hformed, bind_of (mapError_of (mapError_ok hsemantics)),
    bind_of (orRefuse_of hfound), bind_of (s'.requireCaller_authorized hcaller request.policy),
    seq_of (by rw [hscope]; rfl), seq_of hlive, seq_of (by rw [hexpected]; simp),
    seq_of hstructure, bind_of_error hreplay]

theorem upstreamChecks_repeat {request : UpstreamNotifyRequest} {context : MutationContext}
    (hp : Passing (s.upstreamChecks limits { request with context }))
    (hvalid : request.context.attempt.valid = true)
    (hkept : s'.attempts[request.context.attempt]? = some kept)
    (hprint : kept.fingerprint = fingerprintUpstream request.notifications) :
    ∃ answer, s'.upstreamChecks limits request = .error answer ∧ answer.outcome = .idempotent := by
  obtain ⟨answer, hreplay, hidempotent⟩ := refuseReplay_retained hvalid hkept
  refine ⟨answer, ?_, hidempotent⟩
  unfold upstreamChecks at hp ⊢
  obtain ⟨hempty, hp⟩ := hp.seq (makeResult_isRejection rfl)
  obtain ⟨hsize, -⟩ := hp.seq (makeResult_isRejection rfl)
  rw [hprint] at hreplay
  rw [seq_of hempty, seq_of hsize, bind_of_error hreplay]

theorem publishChecks_repeat {clock : Nat → Ticks} {request : PublishEvidenceRequest}
    {context : MutationContext} (hp : Passing (s.publishChecks limits { request with context }))
    (hauthority : HoldsAuthority s' (.publishEvidence clock request))
    (hkept : s'.attempts[request.context.attempt]? = some kept)
    (hprint : kept.fingerprint = fingerprintEvidence request.publications) :
    ∃ answer, s'.publishChecks limits request = .error answer ∧ answer.outcome = .idempotent := by
  obtain ⟨registration, hcaller⟩ := hauthority
  obtain ⟨answer, hreplay, hidempotent⟩ := refuseReplay_retained hcaller.attempt_valid hkept
  refine ⟨answer, ?_, hidempotent⟩
  unfold publishChecks at hp ⊢
  obtain ⟨hempty, hp⟩ := hp.seq (makeResult_isRejection rfl)
  obtain ⟨hsize, -⟩ := hp.seq (makeResult_isRejection rfl)
  rw [hprint] at hreplay
  rw [seq_of hempty, seq_of hsize, bind_of (s'.requireCaller_authorized hcaller default),
    bind_of_error hreplay]

theorem commitChecks_repeat {request : CommitDecisionRequest} {record : PolicyRecord}
    {registration : PublisherRegistration} (hcompared : Compared s' request.ticket record)
    (hcaller : Authorized s' request.context none none registration)
    (hkept : s'.attempts[request.context.attempt]? = some kept)
    (hprint : kept.fingerprint = fingerprintCommit request.ticket) :
    ∃ answer, s'.commitChecks request = .error answer ∧ answer.outcome = .idempotent := by
  obtain ⟨answer, hreplay, hidempotent⟩ := refuseReplay_retained hcaller.attempt_valid hkept
  refine ⟨answer, ?_, hidempotent⟩
  have hdrift : (if request.ticket.lifecycle = .eligible
      then dependencyDrift record.candidates request.ticket.dependencies else none) = none := by
    split
    · exact hcompared.candidates ‹_›
    · rfl
  unfold commitChecks
  rw [hprint] at hreplay
  rw [seq_of (by simpa using hcompared.unrejected), seq_of (by rw [hcompared.named]; rfl),
    bind_of (s'.requireCaller_authorized hcaller _), bind_of (orRefuse_of hcompared.found),
    seq_of (by simp [hcompared.epoch]), seq_of (by simp [hcompared.authority]),
    seq_of (by simp [hcompared.active]), seq_of (by simp [hcompared.generation]),
    seq_of (by simpa using hcompared.evidence), seq_of (by simpa using hcompared.watermark),
    hdrift]
  exact bind_of_error hreplay

theorem rollbackChecks_repeat {request : RollbackRequest} {record : PolicyRecord}
    {registration : PublisherRegistration} (hpolicy : request.policy.valid = true)
    (hfound : s'.policies[request.policy]? = some record)
    (hcaller : Authorized s' request.context (some record.policy.semantics.target.route)
      record.policy.semantics.target.multipathSet registration)
    (hactive : record.policy.lifecycle = .active)
    (hkept : s'.attempts[request.context.attempt]? = some kept)
    (hprint : kept.fingerprint = fingerprintRollback request) :
    ∃ answer, s'.rollbackChecks request = .error answer ∧ answer.outcome = .idempotent := by
  obtain ⟨answer, hreplay, hidempotent⟩ := refuseReplay_retained hcaller.attempt_valid hkept
  refine ⟨answer, ?_, hidempotent⟩
  unfold rollbackChecks
  rw [hprint] at hreplay
  rw [seq_of (by rw [hpolicy]; rfl), bind_of (orRefuse_of hfound),
    bind_of (s'.requireCaller_authorized hcaller _), seq_of (by simp [hactive]),
    bind_of_error hreplay]

/-- A revocation does not look at the attempt: the reason of the policy's revocation decides. -/
theorem revokeChecks_repeat {request : RevokePolicyRequest} {record : PolicyRecord}
    {registration : PublisherRegistration} {existing : RevocationRecord}
    (hpolicy : request.policy.valid = true) (hfound : s'.policies[request.policy]? = some record)
    (hcaller : Authorized s' request.context (some record.policy.semantics.target.route)
      record.policy.semantics.target.multipathSet registration)
    (hexisting : s'.revocations[request.policy]? = some existing)
    (hreason : existing.reason = request.reason) :
    ∃ answer, s'.revokeChecks limits request = .error answer ∧ answer.outcome = .idempotent := by
  have hcode : validRevocationReason request.reason.code = true := by
    cases request.reason <;> decide
  refine ⟨s'.makeResult .idempotent "policy is already revoked for the same reason" request.policy,
    ?_, makeResult_outcome ..⟩
  unfold revokeChecks
  rw [seq_of (by rw [hpolicy, hcode]; rfl), bind_of (orRefuse_of hfound),
    bind_of (s'.requireCaller_authorized hcaller _), hexisting]
  refine bind_of_error ?_
  simp [refuseWith, hreason]

end

/-! ## What the checks compared -/

section
variable {s : State} {limits : Limits}

theorem updateChecks_compared {request : UpdatePolicyRequest}
    (hp : Passing (s.updateChecks limits request)) :
    ∃ record, s.policies[request.policy]? = some record ∧
      record.policy.lifecycle.terminal = false ∧
      request.context.expectedPolicyGeneration = some record.policy.generation := by
  unfold updateChecks at hp
  obtain ⟨-, hp⟩ := hp.seq (makeResult_isRejection rfl)
  obtain ⟨-, hp⟩ := hp.seq (makeResult_isRejection rfl)
  obtain ⟨⟨⟩, -, hp⟩ := hp.bind (s.checkSemantics_rejecting request.update.semantics request.policy)
  obtain ⟨record, hfound, hp⟩ := hp.bind (.found (makeResult_isRejection rfl))
  obtain ⟨_, -, hp⟩ := hp.bind (s.requireCaller_rejecting _ _ _ _)
  obtain ⟨-, hp⟩ := hp.seq (makeResult_isRejection rfl)
  obtain ⟨hlive, hp⟩ := hp.seq (makeResult_isRejection (lifecycleOutcome_isRejection _))
  obtain ⟨hexpected, -⟩ := hp.seq (makeResult_isRejection rfl)
  exact ⟨record, orRefuse_ok hfound, hlive, by simpa using hexpected⟩

theorem commitChecks_compared {request : CommitDecisionRequest}
    (hticket : request.ticket.lifecycle ≠ .rejected) (hp : Passing (s.commitChecks request)) :
    ∃ record, Compared s request.ticket record := by
  unfold commitChecks at hp
  obtain ⟨⟨⟩, -, hp⟩ := hp.bind fun answer hrefused => by
    obtain ⟨hrejected, -⟩ := refuseIf_error hrefused
    exact absurd (by simpa using hrejected) hticket
  obtain ⟨hnamed, hp⟩ := hp.seq (makeResult_isRejection rfl)
  obtain ⟨_, -, hp⟩ := hp.bind (s.requireCaller_rejecting _ _ _ _)
  obtain ⟨record, hfound, hp⟩ := hp.bind (.found (makeResult_isRejection rfl))
  obtain ⟨hepoch, hp⟩ := hp.seq (makeResult_isRejection rfl)
  obtain ⟨hauthority, hp⟩ := hp.seq (makeResult_isRejection rfl)
  obtain ⟨hactive, hp⟩ := hp.seq (makeResult_isRejection (lifecycleOutcome_isRejection _))
  obtain ⟨hgeneration, hp⟩ := hp.seq (makeResult_isRejection rfl)
  obtain ⟨hevidence, hp⟩ := hp.seq (makeResult_isRejection rfl)
  obtain ⟨hwatermark, hp⟩ := hp.seq (makeResult_isRejection rfl)
  obtain ⟨⟨⟩, hdrift, -⟩ := hp.bind (.absent fun answer hdrift => by
    obtain ⟨drift, hsome, rfl⟩ := Option.map_eq_some_iff.1 hdrift
    split at hsome
    · exact makeResult_isRejection (dependencyDrift_isRejection hsome)
    · cases hsome)
  refine ⟨record, hticket, by simpa using hnamed, orRefuse_ok hfound, by simpa using hepoch,
    by simpa using hauthority, by simpa using hactive, by simpa using hgeneration,
    by simpa using hevidence, by simpa using hwatermark, fun heligible => ?_⟩
  have hnone := refuseWith_ok hdrift
  rwa [if_pos heligible, Option.map_eq_none_iff] at hnone

theorem rollbackChecks_compared {request : RollbackRequest}
    (hp : Passing (s.rollbackChecks request)) :
    request.policy.valid = true ∧ ∃ record registration,
      s.policies[request.policy]? = some record ∧
      Authorized s request.context (some record.policy.semantics.target.route)
        record.policy.semantics.target.multipathSet registration ∧
      record.policy.lifecycle = .active := by
  unfold rollbackChecks at hp
  obtain ⟨hpolicy, hp⟩ := hp.seq (makeResult_isRejection rfl)
  obtain ⟨record, hfound, hp⟩ := hp.bind (.found (makeResult_isRejection rfl))
  obtain ⟨registration, hcaller, hp⟩ := hp.bind (s.requireCaller_rejecting _ _ _ _)
  obtain ⟨hactive, -⟩ := hp.seq (makeResult_isRejection (lifecycleOutcome_isRejection _))
  exact ⟨by simpa using hpolicy, record, registration, orRefuse_ok hfound, requireCaller_ok hcaller,
    by simpa using hactive⟩

theorem revokeChecks_unrevoked {request : RevokePolicyRequest} {record : PolicyRecord}
    (h : s.revokeChecks limits request = .ok record) : s.revocations[request.policy]? = none := by
  unfold revokeChecks at h
  obtain ⟨-, h⟩ := seq_ok h
  obtain ⟨_, -, h⟩ := bind_ok h
  obtain ⟨_, -, h⟩ := bind_ok h
  obtain ⟨⟨⟩, hrevocations, -⟩ := bind_ok h
  exact Option.map_eq_none_iff.1 (refuseWith_ok hrevocations)

/-- What an accepted revocation leaves of the policy. -/
theorem revokePolicy_revokes {request : RevokePolicyRequest} {record : PolicyRecord}
    (h : s.revokeChecks limits request = .ok record) : ∃ record' revocation,
      (s.revokePolicy limits request).1.policies[request.policy]? = some record' ∧
      record'.policy.semantics = record.policy.semantics ∧ record'.policy.lifecycle = .revoked ∧
      (s.revokePolicy limits request).1.revocations[request.policy]? = some revocation ∧
      revocation.reason = request.reason := by
  have hunrevoked := revokeChecks_unrevoked h
  unfold revokePolicy
  simp only [h]
  refine ⟨_, ⟨request.policy, record.policy.generation, s.authorityGeneration, s.epoch,
    request.context.publisher, request.reason, request.detail⟩,
    Std.ExtTreeMap.getElem?_insert_self, rfl, rfl, insertIfNew_get hunrevoked, rfl⟩

theorem revokeChecks_policy {request : RevokePolicyRequest}
    (hp : Passing (s.revokeChecks limits request)) : request.policy.valid = true := by
  unfold revokeChecks at hp
  obtain ⟨hformed, -⟩ := hp.seq (makeResult_isRejection rfl)
  simp only [Bool.or_eq_false_iff, Bool.not_eq_false'] at hformed
  exact hformed.1

/-- A revocation is refused with a rejection, or repeats the policy's own revocation. -/
theorem revokeChecks_replayed (s : State) (limits : Limits) (request : RevokePolicyRequest) :
    Refuses (fun answer => answer.outcome.isRejection = true ∨ answer.outcome = .idempotent ∧
      ∃ existing, s.revocations[request.policy]? = some existing ∧ existing.reason = request.reason)
      (s.revokeChecks limits request) := by
  unfold revokeChecks
  refine .bind (.guard (.inl (makeResult_isRejection rfl))) fun _ => ?_
  refine .bind (.found (.inl (makeResult_isRejection rfl))) fun record => ?_
  refine .bind (.mono (s.requireCaller_rejecting _ _ _ _) fun _ => .inl) fun _ => ?_
  refine .bind (.absent fun answer h => ?_) fun _ => ?_
  · obtain ⟨existing, hexisting, rfl⟩ := Option.map_eq_some_iff.1 h
    split
    · rename_i hreason
      exact .inr ⟨makeResult_outcome .., existing, hexisting, hreason⟩
    · exact .inl (makeResult_isRejection rfl)
  refine .bind (.guard (.inl (makeResult_isRejection (lifecycleOutcome_isRejection _)))) fun _ => ?_
  exact .bind (.guard (.inl (makeResult_isRejection rfl))) fun _ => .ok _

end

end State

/-! ## Replayed operations -/

/-- The same request at other clock readings. -/
def Op.resubmit (begun now : Ticks) (clock : Nat → Ticks) : Op → Op
  | .createPolicy _ request => .createPolicy now request
  | .updatePolicy _ request => .updatePolicy now request
  | .publishEvidence _ request => .publishEvidence clock request
  | .beginEvaluation _ request => .beginEvaluation now request
  | .commitEvaluation _ request => .commitEvaluation now request
  | .evaluate _ _ request => .evaluate begun now request
  | .rollback _ request => .rollback now request
  | .snapshot _ policy => .snapshot now policy
  | .decodeStore _ decoded origin => .decodeStore now decoded origin
  | op => op

/-- The checks of an entry point refuse the request with this answer. -/
def RefusedBy (limits : Limits) (s : State) (answer : OperationResult) : Op → Prop
  | .createPolicy _ request => s.createChecks limits request = .error answer
  | .updatePolicy _ request => s.updateChecks limits request = .error answer
  | .transitionPolicy request => s.transitionChecks request = .error answer
  | .revokePolicy request => s.revokeChecks limits request = .error answer
  | .applyUpstream request => s.upstreamChecks limits request = .error answer
  | .publishEvidence _ request => s.publishChecks limits request = .error answer
  | .commitEvaluation _ request => s.commitChecks request = .error answer
  | .rollback _ request => s.rollbackChecks request = .error answer
  | .revalidate policy context =>
    s.transitionChecks (State.revalidateRequest policy context) = .error answer
  | _ => False

/-- The operation returns IDEMPOTENT and leaves the state alone. -/
def Replays (config : EngineConfig) (e : Engine) (op : Op) : Prop :=
  ∃ e' result, e.step config op = some (e', .result result) ∧ result.outcome = .idempotent ∧
    e'.state = e.state

/-- What an entry point compares ahead of the attempt table, or in place of it, agrees with the
request. A transition is never compared with the table. -/
def Repeats (limits : Limits) (e : Engine) : Op → Prop
  | .createPolicy .. | .applyUpstream .. | .publishEvidence .. => True
  | .updatePolicy _ request => ∃ record, e.state.policies[request.policy]? = some record ∧
      record.policy.lifecycle.terminal = false ∧
      request.context.expectedPolicyGeneration = some record.policy.generation
  | .revokePolicy request => ∃ existing, e.state.revocations[request.policy]? = some existing ∧
      existing.reason = request.reason
  | .commitEvaluation _ request =>
    if request.ticket.lifecycle = .rejected then request.ticket.outcome = .idempotent
    else ∃ record, Compared e.state request.ticket record
  | .evaluate begun _ request => request.deferCommit = false ∧ ∃ e' ticket record kept,
      beginEvaluation limits e begun request = some (e', ticket) ∧ Compared e.state ticket record ∧
      e.state.attempts[request.context.attempt]? = some kept ∧
      kept.fingerprint = fingerprintCommit ticket
  | .rollback _ request => ∃ record, e.state.policies[request.policy]? = some record ∧
      record.policy.lifecycle = .active
  | _ => False

theorem settled_state (e : Engine) : e.settled.state = e.state := by
  unfold Engine.settled
  split <;> rfl

section
variable {config : EngineConfig} {e e' : Engine} {op : Op} {answer : Answer} {result : OperationResult}

/-- A request refused by its checks leaves the state alone. -/
theorem step_refused (h : RefusedBy config.limits e.state result op) :
    ∃ e', e.step config op = some (e', .result result) ∧ e'.state = e.state := by
  cases op with
  | commitEvaluation now request =>
    refine ⟨e.settled, ?_, settled_state e⟩
    have hchecks : e.state.commitChecks request = .error result := h
    simp [Engine.step, commitEvaluation, commitTicket, hchecks]
  | createPolicy now request =>
    have hchecks : e.state.createChecks config.limits request = .error result := h
    exact ⟨e, by simp [Engine.step, createPolicy, hchecks], rfl⟩
  | updatePolicy now request =>
    have hchecks : e.state.updateChecks config.limits request = .error result := h
    exact ⟨e, by simp [Engine.step, Engine.onState, State.updatePolicy, hchecks], rfl⟩
  | transitionPolicy request =>
    have hchecks : e.state.transitionChecks request = .error result := h
    exact ⟨e, by simp [Engine.step, Engine.onState, State.transitionPolicy, hchecks], rfl⟩
  | revokePolicy request =>
    have hchecks : e.state.revokeChecks config.limits request = .error result := h
    exact ⟨e, by simp [Engine.step, Engine.onState, State.revokePolicy, hchecks], rfl⟩
  | applyUpstream request =>
    have hchecks : e.state.upstreamChecks config.limits request = .error result := h
    exact ⟨e, by simp [Engine.step, Engine.onState, State.applyUpstream, hchecks], rfl⟩
  | publishEvidence clock request =>
    have hchecks : e.state.publishChecks config.limits request = .error result := h
    exact ⟨e, by simp [Engine.step, Engine.onState, State.publishEvidence, hchecks], rfl⟩
  | rollback now request =>
    have hchecks : e.state.rollbackChecks request = .error result := h
    exact ⟨e, by simp [Engine.step, rollback, hchecks], rfl⟩
  | revalidate policy context =>
    have hchecks : e.state.transitionChecks (State.revalidateRequest policy context) =
      .error result := h
    refine ⟨e, ?_, rfl⟩
    simp [Engine.step, Engine.onState, State.revalidate, State.transitionPolicy, hchecks]
  | _ => exact h.elim

theorem Replays.of_refused
    (h : ∃ result, RefusedBy config.limits e.state result op ∧ result.outcome = .idempotent) :
    Replays config e op := by
  obtain ⟨result, hrefused, hidempotent⟩ := h
  obtain ⟨e', hstep, hstate⟩ := step_refused hrefused
  exact ⟨e', result, hstep, hidempotent, hstate⟩

/-- The checks of a request that succeeded did not reject it. -/
theorem succeeds_passes (hstep : e.step config op = some (e', answer))
    (hsucceeds : answer.succeeds = true) (h : RefusedBy config.limits e.state result op) :
    ¬ result.outcome.isRejection = true := by
  obtain ⟨_, hrefused, -⟩ := step_refused h
  rw [hstep] at hrefused
  cases hrefused
  intro hrejection
  rw [Answer.rejects hrejection] at hsucceeds
  cases hsucceeds

/-- A request that succeeded leaves its attempt, if the table keeps it, under its fingerprint. -/
theorem succeeds_prints {context : MutationContext} {fingerprint : Text}
    (hstep : e.step config op = some (e', answer)) (hsucceeds : answer.succeeds = true)
    (hcarries : op.context = some context) (hown : op.fingerprint = some fingerprint)
    (hticket : op.handedIn = none)
    (hretained : Retains context.attempt e'.state) :
    context.attempt.valid = true ∧ ∃ kept, e'.state.attempts[context.attempt]? = some kept ∧
      kept.fingerprint = fingerprint := by
  cases step_ledger hstep with
  | kept same answers =>
    cases answers with
    | refused rejects =>
      rw [rejects] at hsucceeds
      cases hsucceeds
    | replayed carries prints valid found idempotent same =>
      cases hcarries.symm.trans carries
      exact ⟨valid, _, same ▸ found, prints.own hown⟩
    | handedIn rejected answers same =>
      rw [hticket] at rejected
      cases rejected
    | unretried retries =>
      rw [Op.retries_of_fingerprint (by rw [hown]; rfl)] at retries
      cases retries
  | recorded carries prints valid fresh answers table =>
    cases hcarries.symm.trans carries
    have hattempts := State.attempts_of_ledger table
    unfold Retains at hretained
    rw [hattempts] at hretained ⊢
    exact ⟨valid, _, recordAttempt_kept valid fresh hretained, prints.own hown⟩
  | cleared governs empty =>
    rw [Op.governs_of_context hcarries] at governs
    cases governs

/-- The table of positive size keeps the attempt of a request that just succeeded. -/
theorem succeeds_retains {context : MutationContext} (htabled : Tabled e.state)
    (hbound : config.limits.maxAttempts ≠ 0) (hstep : e.step config op = some (e', answer))
    (hsucceeds : answer.succeeds = true) (hcarries : op.context = some context)
    (hown : op.fingerprint.isSome = true)
    (hticket : op.handedIn = none) :
    Retains context.attempt e'.state := by
  cases step_ledger hstep with
  | kept same answers =>
    cases answers with
    | refused rejects =>
      rw [rejects] at hsucceeds
      cases hsucceeds
    | replayed carries prints valid found idempotent same =>
      cases hcarries.symm.trans carries
      simp [Retains, same, found]
    | handedIn rejected answers same =>
      rw [hticket] at rejected
      cases rejected
    | unretried retries =>
      rw [Op.retries_of_fingerprint hown] at retries
      cases retries
  | recorded carries prints valid fresh answers table =>
    cases hcarries.symm.trans carries
    have hkept := recordAttempt_retains htabled hbound valid fresh
    simp [Retains, State.attempts_of_ledger table, hkept]
  | cleared governs empty =>
    rw [Op.governs_of_context hcarries] at governs
    cases governs

/-! ## When a request replays -/

theorem Answer.succeeds_of_idempotent (h : result.outcome = .idempotent) :
    (Answer.result result).succeeds = true := by
  simp [Answer.succeeds, Answer.outcome, h, Outcome.isSuccess]

/-- An evaluation is answered as a replay by the checks of phase two. -/
theorem evaluate_replays {begun now : Ticks} {request : EvaluateRequest} {result : OperationResult}
    (h : evaluate config.limits e begun now request = some (e', result))
    (hidempotent : result.outcome = .idempotent) :
    ∃ e₁ ticket refusal, beginEvaluation config.limits e begun request = some (e₁, ticket) ∧
      request.deferCommit = false ∧ ticket.lifecycle ≠ .rejected ∧
      e.state.commitChecks { ticket, context := request.context } = .error refusal ∧
      refusal.outcome = .idempotent := by
  obtain ⟨e₁, ticket, hbegin, ⟨-, hticket⟩ | ⟨hcommits, heffect⟩⟩ := evaluate_cases h
  · exact absurd (hticket ▸ hidempotent) (rejection_ne_idempotent (beginEvaluation_outcome hbegin))
  · have hrejects := rejection_ne_idempotent (beginEvaluation_outcome hbegin)
    have hlifecycle : ticket.lifecycle ≠ .rejected := fun hrejected =>
      hrejects ((heffect.rejected hrejected).2.symm.trans hidempotent)
    generalize e'.state = s', result.outcome = outcome at heffect hidempotent
    cases heffect with
    | @refused refusal checks =>
      exact ⟨e₁, ticket, refusal, hbegin, hcommits, hlifecycle, checks, hidempotent⟩
    | suppressed => exact absurd hidempotent hrejects
    | unchanged => cases hidempotent
    | unverified checks eligible other verified =>
      exact absurd hidempotent
        (rejection_ne_idempotent (e.state.verifyCommit_refuses _ _ _ _ _ verified))
    | committed => cases hidempotent

/-- A request answered as a replay agrees with what its entry point compares. -/
theorem Replays.repeats (h : Replays config e op) (hcarries : op.context.isSome = true) :
    Repeats config.limits e op := by
  obtain ⟨e', result, hstep, hidempotent, -⟩ := h
  have hsucceeds := Answer.succeeds_of_idempotent hidempotent
  have hpasses {r : OperationResult} (hr : RefusedBy config.limits e.state r op) :
      ¬ r.outcome.isRejection = true := succeeds_passes hstep hsucceeds hr
  cases op with
  | registerPublisher | fencePublisher | advanceEpoch | snapshot | decodeStore => cases hcarries
  | createPolicy | applyUpstream | publishEvidence => trivial
  | updatePolicy now request => exact State.updateChecks_compared fun r hr => hpasses hr
  | transitionPolicy request =>
    cases hstep
    exact absurd hidempotent (e.state.transitionPolicy_outcome request)
  | revalidate policy context =>
    cases hstep
    exact absurd hidempotent (e.state.transitionPolicy_outcome _)
  | revokePolicy request =>
    cases hchecks : e.state.revokeChecks config.limits request with
    | error r =>
      obtain hrejects | ⟨-, hexisting⟩ := e.state.revokeChecks_replayed config.limits request r hchecks
      · exact absurd hrejects (hpasses hchecks)
      · exact hexisting
    | ok record =>
      cases hstep
      simp [State.revokePolicy, hchecks] at hidempotent
  | beginEvaluation now request =>
    obtain ⟨_, -, he⟩ := Option.map_eq_some_iff.1 hstep
    cases he
  | commitEvaluation now request =>
    show if _ then _ else _
    split
    · rename_i hticket
      obtain ⟨_, hcommit, he⟩ := Option.map_eq_some_iff.1 hstep
      cases he
      exact ((commitEvaluation_cases hcommit).rejected hticket).2.symm.trans hidempotent
    · rename_i hticket
      exact State.commitChecks_compared hticket fun r hr => hpasses hr
  | rollback now request =>
    obtain ⟨-, record, _, hfound, -, hactive⟩ :=
      State.rollbackChecks_compared (fun r hr => hpasses hr : State.Passing (e.state.rollbackChecks request))
    exact ⟨record, hfound, hactive⟩
  | evaluate begun now request =>
    obtain ⟨⟨e₁, result⟩, hevaluate, he⟩ := Option.map_eq_some_iff.1 hstep
    cases he
    obtain ⟨e₂, ticket, refusal, hbegin, hcommits, hlifecycle, hchecks, hrefusal⟩ :=
      evaluate_replays hevaluate hidempotent
    have hp : State.Passing (e.state.commitChecks { ticket, context := request.context }) :=
      .of_error hchecks fun hrejects => rejection_ne_idempotent hrejects hrefusal
    obtain ⟨record, hcompared⟩ := State.commitChecks_compared hlifecycle hp
    obtain hrejects | ⟨-, -, kept, hkept, hprint⟩ :=
      e.state.commitChecks_replayed _ hlifecycle refusal hchecks
    · exact absurd hrefusal (rejection_ne_idempotent hrejects)
    · exact ⟨hcommits, e₂, ticket, record, kept, hbegin, hcompared, hkept, hprint⟩

/-- The table still has the attempt of an operation, if it looks for it there. -/
def Keeps (op : Op) (s : State) : Prop :=
  op.retries = true → ∀ context, op.context = some context → Retains context.attempt s

/-- Runs in which the attempt of `op` stays in the table. -/
def Keeping (op : Op) (e : Engine) (_ : Op) : Prop := Keeps op e.state

section
variable {e₀ e₁ e₂ : Engine}

/-- The attempt of a request that succeeded, for as long as the table keeps it. -/
theorem succeeds_kept {context : MutationContext} {fingerprint : Text}
    (hstep : e₀.step config op = some (e₁, answer)) (hsucceeds : answer.succeeds = true)
    (hrun : RunUnder config (Keeping op) e₁ e₂) (hkeeps : Keeps op e₂.state)
    (hcarries : op.context = some context) (hown : op.fingerprint = some fingerprint)
    (hticket : op.handedIn = none) :
    context.attempt.valid = true ∧ ∃ kept, e₂.state.attempts[context.attempt]? = some kept ∧
      kept.fingerprint = fingerprint := by
  have hretries : op.retries = true := Op.retries_of_fingerprint (by rw [hown]; rfl)
  have hretaining : RunUnder config (Retaining context.attempt) e₁ e₂ :=
    hrun.mono fun e _ hkeeping => hkeeping hretries context hcarries
  have hretained := hkeeps hretries context hcarries
  have hfirst := hretaining.front (fun _ _ h => h) hretained
  obtain ⟨hvalid, kept, hkept, hprint⟩ :=
    succeeds_prints hstep hsucceeds hcarries hown hticket hfirst
  exact ⟨hvalid, kept, retained_run hkept hretaining hretained, hprint⟩

/-- Phase two refuses the ticket of an evaluation that is repeated. -/
theorem evaluate_repeats {begun now : Ticks} {request : EvaluateRequest}
    (hauthority : HoldsAuthority e.state (.evaluate begun now request))
    (h : Repeats config.limits e (.evaluate begun now request)) :
    Replays config e (.evaluate begun now request) := by
  obtain ⟨registration, hcaller⟩ := hauthority
  obtain ⟨hcommits, e₁, ticket, record, kept, hbegin, hcompared, hkept, hprint⟩ := h
  have hstate := (beginEvaluation_cases hbegin).1
  have hrefused : ∃ answer,
      e.state.commitChecks { ticket, context := request.context } = .error answer ∧
        answer.outcome = .idempotent :=
    State.commitChecks_repeat hcompared hcaller hkept hprint
  obtain ⟨refusal, hchecks, hidempotent⟩ := hrefused
  rw [← hstate] at hchecks
  refine ⟨e₁.settled, refusal, ?_, hidempotent, (settled_state e₁).trans hstate⟩
  have hticket : ¬ ticket.lifecycle = .rejected := hcompared.unrejected
  simp [Engine.step, evaluate, hbegin, hticket, hcommits, commitEvaluation, commitTicket, hchecks]

/-- A request that agrees with what its entry point compares replays. -/
theorem Repeats.replays {begun now : Ticks} {clock : Nat → Ticks} (hstep : e₀.step config op = some (e₁, answer))
    (hsucceeds : answer.succeeds = true) (hrun : RunUnder config (Keeping op) e₁ e₂)
    (hkeeps : Keeps op e₂.state) (hauthority : HoldsAuthority e₂.state op)
    (h : Repeats config.limits e₂ (op.resubmit begun now clock)) :
    Replays config e₂ (op.resubmit begun now clock) := by
  have hpasses {r : OperationResult} (hr : RefusedBy config.limits e₀.state r op) :
      ¬ r.outcome.isRejection = true := succeeds_passes hstep hsucceeds hr
  have hkept {context : MutationContext} {fingerprint : Text} (hcarries : op.context = some context)
      (hown : op.fingerprint = some fingerprint) (hticket : op.handedIn = none) :
      context.attempt.valid = true ∧ ∃ kept, e₂.state.attempts[context.attempt]? = some kept ∧
        kept.fingerprint = fingerprint :=
    succeeds_kept hstep hsucceeds hrun hkeeps hcarries hown hticket
  cases op with
  | registerPublisher | fencePublisher | advanceEpoch | snapshot | decodeStore | transitionPolicy
  | revalidate | beginEvaluation => exact h.elim
  | createPolicy _ request =>
    obtain ⟨-, kept, hkept, hprint⟩ := hkept rfl rfl rfl
    have hp : State.Passing (e₀.state.createChecks config.limits request) := fun r hr => hpasses hr
    have hrefused := State.createChecks_repeat hp hauthority hkept hprint
    exact .of_refused hrefused
  | updatePolicy _ request =>
    obtain ⟨-, kept, hkept, hprint⟩ := hkept rfl rfl rfl
    obtain ⟨record, hfound, hlive, hexpected⟩ := h
    have hp : State.Passing (e₀.state.updateChecks config.limits request) := fun r hr => hpasses hr
    have hrefused := State.updateChecks_repeat hp hauthority hfound hlive hexpected hkept hprint
    exact .of_refused hrefused
  | applyUpstream request =>
    obtain ⟨hvalid, kept, hkept, hprint⟩ := hkept rfl rfl rfl
    have hp : State.Passing (e₀.state.upstreamChecks config.limits request) := fun r hr => hpasses hr
    have hrefused := State.upstreamChecks_repeat hp hvalid hkept hprint
    exact .of_refused hrefused
  | publishEvidence _ request =>
    obtain ⟨-, kept, hkept, hprint⟩ := hkept rfl rfl rfl
    have hp : State.Passing (e₀.state.publishChecks config.limits request) := fun r hr => hpasses hr
    have hrefused := State.publishChecks_repeat hp hauthority hkept hprint
    exact .of_refused hrefused
  | revokePolicy request =>
    obtain ⟨record, registration, hfound, hcaller⟩ := hauthority
    obtain ⟨existing, hexisting, hreason⟩ := h
    have hp : State.Passing (e₀.state.revokeChecks config.limits request) := fun r hr => hpasses hr
    have hpolicy := State.revokeChecks_policy hp
    obtain ⟨answer, hrefused, hidempotent⟩ :=
      State.revokeChecks_repeat hpolicy hfound hcaller hexisting hreason
    exact .of_refused ⟨answer, hrefused, hidempotent⟩
  | commitEvaluation _ request =>
    change if _ then _ else _ at h
    split at h
    · rename_i hticket
      have hchecks := State.commitChecks_rejected e₂.state hticket
      exact .of_refused ⟨_, hchecks, (State.makeResult_outcome ..).trans h⟩
    · rename_i hticket
      obtain ⟨record, hcompared⟩ := h
      obtain ⟨registration, hcaller⟩ := hauthority
      obtain ⟨-, kept, hkept, hprint⟩ := hkept rfl rfl (if_neg hticket)
      have hrefused := State.commitChecks_repeat hcompared hcaller hkept hprint
      exact .of_refused hrefused
  | rollback _ request =>
    obtain ⟨-, kept, hkept, hprint⟩ := hkept rfl rfl rfl
    obtain ⟨record, registration, hfound, hcaller⟩ := hauthority
    obtain ⟨_, hfound', hactive⟩ := h
    cases hfound.symm.trans hfound'
    have hp : State.Passing (e₀.state.rollbackChecks request) := fun r hr => hpasses hr
    obtain ⟨hpolicy, -⟩ := State.rollbackChecks_compared hp
    have hrefused := State.rollbackChecks_repeat hpolicy hfound hcaller hactive hkept hprint
    exact .of_refused hrefused
  | evaluate _ _ request => exact evaluate_repeats hauthority h

/-! ## Submitted again at once -/

/-- The operations that compare nothing their own success moves. -/
def Op.steady : Op → Bool
  | .createPolicy .. | .applyUpstream .. | .publishEvidence .. | .revokePolicy .. | .rollback .. => true
  | .commitEvaluation _ request => decide (request.ticket.lifecycle ≠ .rejected)
  | _ => false

theorem Op.governs_of_steady (h : op.steady = true) : op.governs = false := by
  cases op <;> simp_all [Op.steady, Op.governs]

theorem Op.handedIn_of_steady (h : op.steady = true) : op.handedIn = none := by
  cases op <;> simp_all [Op.steady, Op.handedIn]

theorem Op.fingerprint_of_steady (h : op.steady = true) (hretries : op.retries = true) :
    op.fingerprint.isSome = true := by
  cases op <;> simp_all [Op.steady, Op.retries, Op.fingerprint]

theorem refusedBy_resubmit {limits : Limits} {s : State} (begun now : Ticks) (clock : Nat → Ticks) :
    RefusedBy limits s result (op.resubmit begun now clock) ↔ RefusedBy limits s result op := by
  cases op <;> exact Iff.rfl

/-- The checks refuse a steady request with a rejection, or as a replay. -/
theorem steady_refused {limits : Limits} {s : State} (hsteady : op.steady = true)
    (h : RefusedBy limits s result op) :
    result.outcome.isRejection = true ∨ result.outcome = .idempotent := by
  have hreplayed {attempt : MutationAttemptId} {fingerprint : Text}
      (h : Replayed s attempt fingerprint result) :
      result.outcome.isRejection = true ∨ result.outcome = .idempotent := h.imp_right And.left
  cases op with
  | createPolicy now request => exact hreplayed (s.createChecks_replayed limits request result h)
  | applyUpstream request => exact hreplayed (s.upstreamChecks_replayed limits request result h)
  | publishEvidence clock request => exact hreplayed (s.publishChecks_replayed limits request result h)
  | revokePolicy request =>
    exact (s.revokeChecks_replayed limits request result h).imp_right And.left
  | rollback now request => exact hreplayed (s.rollbackChecks_replayed request result h)
  | commitEvaluation now request =>
    have hticket : request.ticket.lifecycle ≠ .rejected := by simpa [Op.steady] using hsteady
    exact hreplayed (s.commitChecks_replayed request hticket result h)
  | _ => cases hsteady

theorem refused_replays (hstep : e₀.step config op = some (e₁, answer))
    (hsucceeds : answer.succeeds = true) (hsteady : op.steady = true)
    (h : RefusedBy config.limits e₀.state result op) (begun now : Ticks) (clock : Nat → Ticks) :
    Replays config e₁ (op.resubmit begun now clock) := by
  obtain ⟨e', hrefused, hstate⟩ := step_refused h
  rw [hstep] at hrefused
  cases hrefused
  have hidempotent : result.outcome = .idempotent :=
    (steady_refused hsteady h).resolve_left (succeeds_passes hstep hsucceeds h)
  rw [← hstate, ← refusedBy_resubmit begun now clock] at h
  exact .of_refused ⟨result, h, hidempotent⟩

theorem Authorized.of_standing {s s' : State} {context : MutationContext} {route : Option RouteId}
    {set : Option MultipathSetId} {registration : PublisherRegistration}
    (h : s'.standing = s.standing) (ha : Authorized s context route set registration) :
    Authorized s' context route set registration :=
  { ha with toLive := ha.toLive.congr h.symm }

/-- A commit that succeeded kept what it compares of the ticket. -/
theorem Compared.committed {limits : Limits} {s s' : State} {now : Ticks}
    {request : CommitDecisionRequest} {record : PolicyRecord} {outcome : Outcome}
    (h : CommitEffect limits s now request s' outcome) (hc : Compared s request.ticket record) :
    ∃ record', Compared s' request.ticket record' := by
  have hkeep {record' : PolicyRecord}
      (hfound : s'.policies[request.ticket.dependencies.policy]? = some record')
      (hpolicy : record'.policy = record.policy) (hcandidates : record'.candidates = record.candidates)
      (hevidence : s'.evidenceGeneration = s.evidenceGeneration)
      (hwatermark : s'.evidenceWatermark = s.evidenceWatermark) :
      ∃ record', Compared s' request.ticket record' :=
    ⟨record', hc.unrejected, hc.named, hfound, (State.epoch_of_standing h.standing).trans hc.epoch,
      (State.authorityGeneration_of_standing h.standing).trans hc.authority, hpolicy ▸ hc.active,
      hpolicy ▸ hc.generation, fun he => hevidence.trans (hc.evidence he),
      fun he => hwatermark.trans (hc.watermark he), fun he => hcandidates ▸ hc.candidates he⟩
  have hfound {found : PolicyRecord} (checks : s.commitChecks request = .ok found) :
      found = record := by
    obtain ⟨_, haccepted⟩ := State.commitChecks_ok checks
    exact Option.some.inj (haccepted.found.symm.trans hc.found)
  cases h with
  | refused => exact ⟨record, hc⟩
  | suppressed checks =>
    cases hfound checks
    exact hkeep (State.decided_get ..) rfl rfl (by simp [State.journal, State.putRecord])
      (by simp [State.journal, State.putRecord])
  | unchanged checks => exact hkeep (by simp [hc.found]) rfl rfl (by simp) (by simp)
  | unverified => exact ⟨record, hc⟩
  | committed checks =>
    cases hfound checks
    exact hkeep (State.decided_get ..) rfl rfl (by simp [State.journal, State.putRecord])
      (by simp [State.journal, State.putRecord])

/-- A rollback keeps the policy's declaration. -/
theorem RollbackEffect.declares {limits : Limits} {s s' : State} {now : Ticks}
    {request : RollbackRequest} {outcome : Outcome} {record : PolicyRecord}
    (h : RollbackEffect limits s now request s' outcome)
    (hfound : s.policies[request.policy]? = some record) :
    ∃ record', s'.policies[request.policy]? = some record' ∧ record'.policy = record.policy := by
  cases h with
  | refused | declined => exact ⟨record, hfound, rfl⟩
  | recorded => exact ⟨record, by simp [hfound], rfl⟩
  | restored checks =>
    obtain ⟨_, haccepted⟩ := State.rollbackChecks_ok checks
    cases haccepted.found.symm.trans hfound
    exact ⟨_, State.decided_get .., rfl⟩

/-- A steady request that succeeded leaves its caller its authority, and agrees with the state it
leaves. -/
theorem succeeds_repeats (hstep : e₀.step config op = some (e₁, answer))
    (hsucceeds : answer.succeeds = true) (hsteady : op.steady = true)
    (haccepted : ∀ result, ¬ RefusedBy config.limits e₀.state result op) (begun now : Ticks) (clock : Nat → Ticks) :
    HoldsAuthority e₁.state op ∧ Repeats config.limits e₁ (op.resubmit begun now clock) := by
  have hstanding := step_standing hstep (Op.governs_of_steady hsteady)
  cases op with
  | createPolicy now request =>
    cases hchecks : e₀.state.createChecks config.limits request with
    | error refusal => exact absurd hchecks (haccepted refusal)
    | ok fingerprint =>
      obtain ⟨registration, hcaller, hscope⟩ := State.createChecks_passed (.of_ok hchecks)
      exact ⟨⟨registration, hcaller.of_standing hstanding, hscope⟩, trivial⟩
  | applyUpstream request => exact ⟨trivial, trivial⟩
  | publishEvidence clock request =>
    cases hchecks : e₀.state.publishChecks config.limits request with
    | error refusal => exact absurd hchecks (haccepted refusal)
    | ok fingerprint =>
      obtain ⟨registration, hcaller⟩ := State.publishChecks_ok hchecks
      exact ⟨⟨registration, hcaller.of_standing hstanding⟩, trivial⟩
  | revokePolicy request =>
    cases hchecks : e₀.state.revokeChecks config.limits request with
    | error refusal => exact absurd hchecks (haccepted refusal)
    | ok record =>
      obtain ⟨registration, hrevoked⟩ := State.revokeChecks_ok hchecks
      obtain ⟨record', revocation, hfound, hsemantics, -, hrevocation, hreason⟩ :=
        State.revokePolicy_revokes hchecks
      cases hstep
      have hcaller := hrevoked.caller.of_standing hstanding
      rw [← hsemantics] at hcaller
      exact ⟨⟨record', registration, hfound, hcaller⟩, revocation, hrevocation, hreason⟩
  | rollback now request =>
    obtain ⟨⟨e', result⟩, hrollback, he⟩ := Option.map_eq_some_iff.1 hstep
    cases he
    cases hchecks : e₀.state.rollbackChecks request with
    | error refusal => exact absurd hchecks (haccepted refusal)
    | ok record =>
      obtain ⟨registration, hrestored⟩ := State.rollbackChecks_ok hchecks
      obtain ⟨record', hfound, hpolicy⟩ := (rollback_cases hrollback).declares hrestored.found
      have hcaller := hrestored.caller.of_standing hstanding
      rw [← hpolicy] at hcaller
      exact ⟨⟨record', registration, hfound, hcaller⟩, record', hfound, hpolicy ▸ hrestored.active⟩
  | commitEvaluation now request =>
    obtain ⟨⟨e', result⟩, hcommit, he⟩ := Option.map_eq_some_iff.1 hstep
    cases he
    have hticket : request.ticket.lifecycle ≠ .rejected := by simpa [Op.steady] using hsteady
    cases hchecks : e₀.state.commitChecks request with
    | error refusal => exact absurd hchecks (haccepted refusal)
    | ok record =>
      obtain ⟨registration, hcommitted⟩ := State.commitChecks_ok hchecks
      obtain ⟨_, hcompared⟩ := State.commitChecks_compared hticket (.of_ok hchecks)
      have hrepeats := hcompared.committed (commitEvaluation_cases hcommit)
      refine ⟨⟨registration, hcommitted.caller.of_standing hstanding⟩, ?_⟩
      show if _ then _ else _
      rw [if_neg hticket]
      exact hrepeats
  | _ => cases hsteady

/-- A steady request that succeeded replays at once. -/
theorem steady_replays (hreach : Reachable config e₀) (hbound : config.limits.maxAttempts ≠ 0)
    (hstep : e₀.step config op = some (e₁, answer)) (hsucceeds : answer.succeeds = true)
    (hsteady : op.steady = true) (begun now : Ticks) (clock : Nat → Ticks) :
    Replays config e₁ (op.resubmit begun now clock) := by
  by_cases hrefused : ∃ result, RefusedBy config.limits e₀.state result op
  · obtain ⟨result, hrefused⟩ := hrefused
    exact refused_replays hstep hsucceeds hsteady hrefused begun now clock
  · have hkeeps : Keeps op e₁.state := fun hretries context hcarries =>
      succeeds_retains (.reachable hreach) hbound hstep hsucceeds hcarries
        (Op.fingerprint_of_steady hsteady hretries) (Op.handedIn_of_steady hsteady)
    obtain ⟨hauthority, hrepeats⟩ := succeeds_repeats hstep hsucceeds hsteady
      (fun result hr => hrefused ⟨result, hr⟩) begun now clock
    exact hrepeats.replays hstep hsucceeds (.refl _) hkeeps hauthority

theorem context_resubmit (begun now : Ticks) (clock : Nat → Ticks) :
    (op.resubmit begun now clock).context = op.context := by
  cases op <;> rfl

/-- A request that succeeded, submitted again while the table has its attempt and its caller holds
its authority, is answered IDEMPOTENT and changes nothing exactly when it agrees with what its entry
point compares. A steady request always does when it is submitted again at once. -/
theorem exact_replay_iff (hreach : Reachable config e₀) (hcarries : op.context.isSome = true)
    (hstep : e₀.step config op = some (e₁, answer)) (hsucceeds : answer.succeeds = true)
    (begun now : Ticks) (clock : Nat → Ticks) :
    (config.limits.maxAttempts ≠ 0 → op.steady = true →
      Replays config e₁ (op.resubmit begun now clock)) ∧
    ∀ e₂, RunUnder config (Keeping op) e₁ e₂ → Keeps op e₂.state → HoldsAuthority e₂.state op →
      (Replays config e₂ (op.resubmit begun now clock) ↔
        Repeats config.limits e₂ (op.resubmit begun now clock)) := by
  refine ⟨fun hbound hsteady => steady_replays hreach hbound hstep hsucceeds hsteady begun now clock,
    fun e₂ hrun hkeeps hauthority => ⟨fun h => h.repeats ?_, fun h => ?_⟩⟩
  · rwa [context_resubmit]
  · exact h.replays hstep hsucceeds hrun hkeeps hauthority

end

end

/-! ## Replays of a deployment -/

namespace Scenario

/-- The policy's own declaration, declared again. -/
def update : Op :=
  .updatePolicy 1 {
    policy
    update := { scope := (create 1).scope, semantics := semantics }
    context := { context 1 "update" with expectedPolicyGeneration := some ⟨1⟩ } }

end Scenario

open Scenario in
theorem creation_replays_at_once :
    Replays config (after created) (.createPolicy 5 (create 1)) := by
  obtain ⟨result, hstep, houtcome⟩ := step_result
    (by decide +kernel : returns ([register] ++ [.createPolicy 0 (create 1)]) = true)
    (by decide +kernel : answers [register] (.createPolicy 0 (create 1))
      (fun answer => answer.outcome == some .policyCreated) = true)
  have hsucceeds : (Answer.result result).succeeds = true := by
    simp [Answer.succeeds, Answer.outcome, houtcome, Outcome.isSuccess]
  exact (exact_replay_iff (reachable_after (by decide +kernel)) rfl hstep hsucceeds 0 5 fun _ => 5).1
    (by decide) rfl

open Scenario in
/-- An update that was applied is answered STALE_POLICY_GENERATION when it is submitted again. -/
theorem repeated_update_is_stale :
    Engine.Reachable config (after created) ∧
      (∃ result, (after created).step config update =
        some (after (created ++ [update]), .result result) ∧ result.outcome = .policyUpdated) ∧
      (∃ e result, (after (created ++ [update])).step config update = some (e, .result result) ∧
        result.outcome = .stalePolicyGeneration) ∧
      ¬ Replays config (after (created ++ [update])) update := by
  obtain ⟨result, hstep, houtcome⟩ := step_result
    (by decide +kernel : returns ((created ++ [update]) ++ [update]) = true)
    (by decide +kernel : answers (created ++ [update]) update
      (fun answer => answer.outcome == some .stalePolicyGeneration) = true)
  refine ⟨reachable_after (by decide +kernel), step_result (by decide +kernel) (by decide +kernel),
    ⟨_, result, hstep, houtcome⟩, ?_⟩
  rintro ⟨_, _, hreplay, hidempotent, -⟩
  rw [hstep] at hreplay
  cases hreplay
  rw [houtcome] at hidempotent
  cases hidempotent

end AdaptiveRouting
