import AdaptiveRouting.Proof.Fencing
import AdaptiveRouting.Proof.Publication

/-!
# The counters

The engine counts its epochs, authority generations and evidence generations, and marks what was
superseded in two watermarks. Only a publication and a notification move the gauges
(`step_gauges`), and every step but a recovery raises each counter or keeps it (`step_climbs`). A
recovery takes the counters of its store: they climb exactly when the store goes on from the engine
(`DurableState.Continues`).
-/

namespace AdaptiveRouting

open Guard Engine

/-! ## Gauges -/

/-- The counters of evidence and notifications, with the evidence. -/
structure Gauges where
  evidenceGeneration : EvidenceGeneration
  evidenceWatermark : Watermark
  evidence : Std.ExtTreeMap EvidenceKey EvidenceSeries
  upstreamWatermark : Watermark

namespace State

def gauges (s : State) : Gauges where
  evidenceGeneration := s.evidenceGeneration
  evidenceWatermark := s.evidenceWatermark
  evidence := s.evidence
  upstreamWatermark := s.upstreamWatermark

section
variable {s s' : State}

theorem evidenceGeneration_of_gauges (h : s'.gauges = s.gauges) :
    s'.evidenceGeneration = s.evidenceGeneration :=
  congrArg Gauges.evidenceGeneration h

theorem evidenceWatermark_of_gauges (h : s'.gauges = s.gauges) :
    s'.evidenceWatermark = s.evidenceWatermark :=
  congrArg Gauges.evidenceWatermark h

theorem evidence_of_gauges (h : s'.gauges = s.gauges) : s'.evidence = s.evidence :=
  congrArg Gauges.evidence h

theorem upstreamWatermark_of_gauges (h : s'.gauges = s.gauges) :
    s'.upstreamWatermark = s.upstreamWatermark :=
  congrArg Gauges.upstreamWatermark h

end

@[simp] theorem recordAttempt_gauges (s : State) (limits : Limits) (attempt : MutationAttemptId)
    (fingerprint : Text) (outcome : Outcome) (detail : Text) :
    (s.recordAttempt limits attempt fingerprint outcome detail).gauges = s.gauges := by
  obtain ⟨_, _, h⟩ := s.recordAttempt_eq limits attempt fingerprint outcome detail
  rw [h]
  rfl

@[simp] theorem journal_gauges (s : State) (limits : Limits) (decision : AdaptationDecision) :
    (s.journal limits decision).gauges = s.gauges := rfl

@[simp] theorem putRecord_gauges (s : State) (policy : AdaptivePolicyId) (record : PolicyRecord) :
    (s.putRecord policy record).gauges = s.gauges := rfl

@[simp] theorem reindexPolicy_gauges (s : State) (limits : Limits) (policy : AdaptivePolicyId) :
    (s.reindexPolicy limits policy).gauges = s.gauges := by
  unfold reindexPolicy
  split <;> rfl

@[simp] theorem unindexPolicy_gauges (s : State) (policy : AdaptivePolicyId) :
    (s.unindexPolicy policy).gauges = s.gauges := by
  unfold unindexPolicy
  split <;> rfl

/-! ## Notifications -/

/-- Only the upstream watermark moves, and it does not fall. -/
structure Notified (s s' : State) : Prop where
  evidence : { s'.gauges with upstreamWatermark := s.upstreamWatermark } = s.gauges
  upstream : s.upstreamWatermark ≤ s'.upstreamWatermark

theorem Notified.of_same {s s' : State} (h : s'.gauges = s.gauges) : Notified s s' where
  evidence := by
    rw [h]
    rfl
  upstream := by
    rw [upstreamWatermark_of_gauges h]
    exact UInt64.le_refl _

theorem Notified.trans {a b c : State} (h₁ : Notified a b) (h₂ : Notified b c) : Notified a c where
  evidence := by
    have hsame := congrArg (fun gauges : Gauges =>
      { gauges with upstreamWatermark := a.upstreamWatermark }) h₂.evidence
    exact hsame.trans h₁.evidence
  upstream := UInt64.le_trans h₁.upstream h₂.upstream

theorem applyInvalidation_notified (s : State) (path : PathId) :
    Notified s (s.applyInvalidation path) := by
  refine ⟨?_, ?_⟩
  · obtain ⟨_, _, h⟩ := s.applyInvalidation_eq path
    rw [h]
    rfl
  · rw [s.applyInvalidation_watermark path]
    exact s.upstreamWatermark.le_next

theorem Applies.notified {limits : Limits} {s s' : State} {record : PolicyRecord}
    {n : UpstreamNotification} (h : Applies limits s record n s') : Notified s s' := by
  cases h with
  | declared => exact .of_same (by simp)
  | edited => exact .of_same rfl
  | invalidated =>
    have hedited : Notified s (s.editBinding n.policy record n.binding.path n.edit) := .of_same rfl
    exact hedited.trans (applyInvalidation_notified ..)

theorem applyUpstream_notified (s : State) (limits : Limits) (request : UpstreamNotifyRequest) :
    Notified s (s.applyUpstream limits request).1 := by
  have hbatch : Notified s
      (applyNotifications limits request.context s request.notifications).1 :=
    applyNotifications_rel (R := Notified) (fun _ => .of_same rfl) Notified.trans
      (fun _ _ _ h => by
        obtain ⟨_, _, _, happlies⟩ := applyNotification_ok h
        exact happlies.notified) request.notifications s
  unfold applyUpstream
  split
  · exact .of_same rfl
  · split
    · rename_i happlied
      rwa [happlied] at hbatch
    · rename_i happlied
      rw [happlied] at hbatch
      exact hbatch.trans (.of_same (recordAttempt_gauges ..))

/-! ## Publications -/

theorem applyPublication_watermark (limits : Limits) (s : State)
    (accepted : Ticks × EvidencePublication) :
    s.evidenceWatermark ≤ (applyPublication limits s accepted).evidenceWatermark := by
  obtain ⟨now, p⟩ := accepted
  unfold applyPublication
  dsimp only
  cases s.evidence[p.key]? with
  | none => exact UInt64.le_refl _
  | some series =>
    dsimp only
    split
    · exact s.evidenceWatermark.le_next
    · exact UInt64.le_refl _

theorem applyPublications_watermark (limits : Limits) (batch : List (Ticks × EvidencePublication))
    (s : State) :
    s.evidenceWatermark ≤ (batch.foldl (applyPublication limits) s).evidenceWatermark := by
  induction batch generalizing s with
  | nil => exact UInt64.le_refl _
  | cons accepted rest ih =>
    exact UInt64.le_trans (applyPublication_watermark limits s accepted) (ih _)

/-- What a publication does to the gauges: nothing when it is refused; samples without a generation
when that is exhausted; else samples under the next one. -/
inductive PublishEffect (limits : Limits) (s : State) (clock : Nat → Ticks)
    (request : PublishEvidenceRequest) (s' : State) (outcome : Outcome) : Prop
  | refused (answers : outcome ≠ .policyUpdated) (same : s' = s)
  | exhausted (answers : outcome ≠ .policyUpdated) (last : s.evidenceGeneration.next = none)
      (same : s'.evidenceGeneration = s.evidenceGeneration)
      (upstream : s'.upstreamWatermark = s.upstreamWatermark)
      (watermark : s.evidenceWatermark ≤ s'.evidenceWatermark)
  | published {generation : EvidenceGeneration} (answers : outcome = .policyUpdated)
      (next : s.evidenceGeneration.next = some generation)
      (counts : s'.evidenceGeneration = generation)
      (upstream : s'.upstreamWatermark = s.upstreamWatermark)
      (watermark : s.evidenceWatermark ≤ s'.evidenceWatermark)

theorem publishEvidence_effect (limits : Limits) (s : State) (clock : Nat → Ticks)
    (request : PublishEvidenceRequest) :
    PublishEffect limits s clock request (s.publishEvidence limits clock request).1
      (s.publishEvidence limits clock request).2.outcome := by
  have hwatermark := applyPublications_watermark limits (acceptances clock request.publications) s
  have hgeneration := foldl_keeps (f := applyPublication limits) State.evidenceGeneration
    (fun _ _ => rfl) (acceptances clock request.publications) s
  have hupstream := foldl_keeps (f := applyPublication limits) State.upstreamWatermark
    (fun _ _ => rfl) (acceptances clock request.publications) s
  unfold publishEvidence
  cases hchecks : s.publishChecks limits request with
  | error answer => exact .refused (s.publishChecks_refuses limits request answer hchecks) rfl
  | ok fingerprint =>
    dsimp only
    rw [hgeneration]
    cases hnext : s.evidenceGeneration.next with
    | none => exact .exhausted (by simp) hnext hgeneration hupstream hwatermark
    | some generation =>
      refine .published (by simp) hnext ?_ ?_ ?_
      · exact evidenceGeneration_of_gauges (recordAttempt_gauges ..)
      · exact (upstreamWatermark_of_gauges (recordAttempt_gauges ..)).trans hupstream
      · rw [evidenceWatermark_of_gauges (recordAttempt_gauges ..)]
        exact hwatermark

end State

/-! ## Steps -/

theorem CommitEffect.gauges {limits : Limits} {s s' : State} {now : Ticks}
    {request : CommitDecisionRequest} {outcome : Outcome}
    (h : CommitEffect limits s now request s' outcome) : s'.gauges = s.gauges := by
  cases h <;> simp

theorem RollbackEffect.gauges {limits : Limits} {s s' : State} {now : Ticks}
    {request : RollbackRequest} {outcome : Outcome}
    (h : RollbackEffect limits s now request s' outcome) : s'.gauges = s.gauges := by
  cases h <;> simp

theorem transitionPolicy_gauges (s : State) (request : PolicyLifecycleRequest) :
    (s.transitionPolicy request).1.gauges = s.gauges := by
  rcases transitionPolicy_state s request with h | ⟨_, _, -, ⟨-, -, h⟩ | ⟨-, h⟩⟩ <;> rw [h] <;> rfl

theorem updatePolicy_gauges (s : State) (limits : Limits) (now : Ticks)
    (request : UpdatePolicyRequest) : (s.updatePolicy limits now request).1.gauges = s.gauges := by
  unfold State.updatePolicy
  split
  · rfl
  · rw [State.recordAttempt_gauges, State.reindexPolicy_gauges]
    exact State.unindexPolicy_gauges s request.policy

theorem registerPublisher_gauges (s : State) (limits : Limits) (publisher : PublisherId)
    (workerBoot : WorkerBootId) (scope : AuthorityScope) (session : SessionId) :
    (s.registerPublisher limits publisher workerBoot scope session).1.gauges = s.gauges := by
  unfold State.registerPublisher
  split
  · rfl
  · dsimp only
    split
    · rfl
    · split <;> rfl

theorem advanceEpoch_gauges (s : State) (reason : Text) :
    (s.advanceEpoch reason).1.gauges = s.gauges := by
  unfold State.advanceEpoch
  split
  · rfl
  · dsimp only
    split
    · rfl
    · exact foldl_keeps (f := State.fenceLive) State.gauges (fun _ _ => rfl) _ _

section
variable {config : EngineConfig} {e e' : Engine} {op : Op} {answer : Answer}

/-- What an operation that recovers no store makes of the gauges. -/
inductive GaugeChange (config : EngineConfig) (e : Engine) (op : Op) (answer : Answer)
    (e' : Engine) : Prop
  | kept (same : e'.state.gauges = e.state.gauges)
      (other : ∀ clock request, op ≠ .publishEvidence clock request)
  | notified {request : UpstreamNotifyRequest} (notifies : op = .applyUpstream request)
      (notified : State.Notified e.state e'.state)
  | published {clock : Nat → Ticks} {request : PublishEvidenceRequest} {outcome : Outcome}
      (publishes : op = .publishEvidence clock request) (answers : answer.outcome = some outcome)
      (effect : State.PublishEffect config.limits e.state clock request e'.state outcome)

theorem step_gauges (h : e.step config op = some (e', answer))
    (hop : op.recovers config.limits = none) : GaugeChange config e op answer e' := by
  cases op with
  | registerPublisher publisher workerBoot scope session =>
    cases h
    exact .kept (registerPublisher_gauges ..) (by simp)
  | fencePublisher publisher workerBoot cause =>
    cases h
    refine .kept ?_ (by simp)
    show (e.state.fencePublisher publisher workerBoot cause).1.gauges = _
    unfold State.fencePublisher
    split
    · rfl
    · split <;> rfl
  | advanceEpoch reason =>
    cases h
    exact .kept (advanceEpoch_gauges ..) (by simp)
  | createPolicy now request =>
    obtain ⟨⟨e₁, result⟩, hcreate, he⟩ := Option.map_eq_some_iff.1 h
    cases he
    refine .kept ?_ (by simp)
    show e₁.state.gauges = _
    rcases createPolicy_state hcreate with hs | ⟨_, -, ⟨_, _, hs⟩ | ⟨_, _, -, hs⟩⟩
    · rw [hs]
    · rw [hs, State.recordAttempt_gauges]
    · rw [hs, State.recordAttempt_gauges, State.addPolicy, State.reindexPolicy_gauges]
      rfl
  | updatePolicy now request =>
    cases h
    exact .kept (updatePolicy_gauges ..) (by simp)
  | transitionPolicy request =>
    cases h
    exact .kept (transitionPolicy_gauges ..) (by simp)
  | revokePolicy request =>
    cases h
    refine .kept ?_ (by simp)
    show (e.state.revokePolicy config.limits request).1.gauges = _
    unfold State.revokePolicy
    split <;> rfl
  | applyUpstream request =>
    cases h
    exact .notified rfl (State.applyUpstream_notified ..)
  | publishEvidence clock request =>
    cases h
    exact .published rfl rfl (State.publishEvidence_effect ..)
  | beginEvaluation now request =>
    obtain ⟨⟨e₁, ticket⟩, hbegin, he⟩ := Option.map_eq_some_iff.1 h
    cases he
    exact .kept (congrArg State.gauges (beginEvaluation_cases hbegin).1) (by simp)
  | commitEvaluation now request =>
    obtain ⟨⟨e₁, result⟩, hcommit, he⟩ := Option.map_eq_some_iff.1 h
    cases he
    exact .kept (commitEvaluation_cases hcommit).gauges (by simp)
  | evaluate begun committed request =>
    obtain ⟨⟨e₁, result⟩, hevaluate, he⟩ := Option.map_eq_some_iff.1 h
    cases he
    obtain ⟨e₂, ticket, hbegin, ⟨hs, -⟩ | ⟨-, hs⟩⟩ := evaluate_cases hevaluate
    · exact .kept (congrArg State.gauges hs) (by simp)
    · exact .kept hs.gauges (by simp)
  | rollback now request =>
    obtain ⟨⟨e₁, result⟩, hrollback, he⟩ := Option.map_eq_some_iff.1 h
    cases he
    exact .kept (rollback_cases hrollback).gauges (by simp)
  | revalidate policy context =>
    cases h
    exact .kept (transitionPolicy_gauges ..) (by simp)
  | snapshot now policy =>
    obtain ⟨⟨e₁, view⟩, hsnapshot, he⟩ := Option.map_eq_some_iff.1 h
    cases he
    refine .kept ?_ (by simp)
    show e₁.state.gauges = _
    rcases snapshot_cases hsnapshot with hs | ⟨retained, hs⟩
    · rw [hs]
    · rw [hs]
      rfl
  | decodeStore now decoded origin =>
    cases h
    cases decoded with
    | error refusal => exact .kept rfl (by simp)
    | ok durable =>
      rcases applyDurable_cases e.state config now durable origin with
        ⟨-, hs⟩ | ⟨hadmissible, -⟩
      · exact .kept (congrArg State.gauges hs) (by simp)
      · simp [Op.recovers, hadmissible] at hop

theorem restoreRevocation_gauges (s : State) (revocation : RevocationRecord) :
    (s.restoreRevocation revocation).gauges = s.gauges := by
  unfold State.restoreRevocation
  split <;> rfl

/-- A recovery takes the gauges of its store, without evidence. -/
theorem recoveredState_gauges (config : EngineConfig) (now : Ticks) (d : DurableState)
    (epoch : CoordinatorEpoch) (authority : AdaptiveAuthorityGeneration) :
    (State.recoveredState config now d epoch authority).gauges =
      { evidenceGeneration := d.evidenceGeneration, evidenceWatermark := d.evidenceWatermark
        evidence := {}, upstreamWatermark := d.upstreamWatermark } := by
  unfold State.recoveredState
  dsimp only
  rw [foldl_keeps State.gauges fun s policy => s.reindexPolicy_gauges config.limits policy]
  change State.gauges (d.history.foldl (State.restoreHistory config.limits) _) = _
  rw [foldl_keeps (f := State.restoreHistory config.limits) State.gauges fun _ _ => rfl,
    foldl_keeps (f := State.restoreRevocation) State.gauges restoreRevocation_gauges,
    foldl_keeps (f := State.restoreTiming now) State.gauges fun _ _ => rfl,
    foldl_keeps (f := State.restoreStable) State.gauges fun _ _ => rfl,
    foldl_keeps (f := State.restorePreference) State.gauges fun _ _ => rfl,
    foldl_keeps (f := State.restorePolicy config.conservativeRecovery) State.gauges fun _ _ => rfl]
  rfl

theorem fenceAll_authority (s : State) : s.fenceAll.authorityGeneration = s.authorityGeneration :=
  foldl_keeps (f := State.fenceLive) State.authorityGeneration (fun _ _ => rfl) _ _

theorem advanceEpoch_authority (s : State) (reason : Text) :
    s.epoch.next = none ∧ (s.advanceEpoch reason).1.authorityGeneration = s.authorityGeneration ∨
      s.authorityGeneration.next = none ∧
        (s.advanceEpoch reason).1.authorityGeneration = s.authorityGeneration ∨
      s.epoch.next.isSome = true ∧
        s.authorityGeneration.next = some (s.advanceEpoch reason).1.authorityGeneration := by
  unfold State.advanceEpoch
  cases s.epoch.next with
  | none => exact .inl ⟨rfl, rfl⟩
  | some epoch =>
    dsimp only
    cases s.authorityGeneration.next with
    | none => exact .inr (.inl ⟨rfl, rfl⟩)
    | some authority =>
      refine .inr (.inr ⟨rfl, congrArg some ?_⟩)
      exact (fenceAll_authority { s with epoch, authorityGeneration := authority }).symm

/-- An epoch advance takes the next authority generation when there are both a next epoch and a
next authority generation, and nothing else but a recovery changes it. -/
theorem step_authority (h : e.step config op = some (e', answer))
    (hop : op.recovers config.limits = none) :
    e'.state.authorityGeneration = e.state.authorityGeneration ∧
        (∀ reason, op = .advanceEpoch reason →
          e.state.epoch.next = none ∨ e.state.authorityGeneration.next = none) ∨
      ∃ reason, op = .advanceEpoch reason ∧ e.state.epoch.next.isSome = true ∧
        e.state.authorityGeneration.next = some e'.state.authorityGeneration := by
  by_cases hgoverns : op.governs = true
  · cases op with
    | registerPublisher publisher workerBoot scope session =>
      cases h
      refine .inl ⟨?_, nofun⟩
      show (e.state.registerPublisher ..).1.authorityGeneration = _
      unfold State.registerPublisher
      split
      · rfl
      · dsimp only
        split
        · rfl
        · split <;> rfl
    | fencePublisher publisher workerBoot cause =>
      cases h
      refine .inl ⟨?_, nofun⟩
      show (e.state.fencePublisher ..).1.authorityGeneration = _
      unfold State.fencePublisher
      split
      · rfl
      · split <;> rfl
    | advanceEpoch reason =>
      cases h
      rcases advanceEpoch_authority e.state reason with ⟨hlast, hsame⟩ | ⟨hlast, hsame⟩ | ⟨hepoch, hnext⟩
      · exact .inl ⟨hsame, fun _ _ => .inl hlast⟩
      · exact .inl ⟨hsame, fun _ _ => .inr hlast⟩
      · exact .inr ⟨reason, rfl, hepoch, hnext⟩
    | decodeStore now decoded origin =>
      cases h
      refine .inl ⟨?_, nofun⟩
      cases decoded with
      | error refusal => rfl
      | ok durable =>
        rcases applyDurable_cases e.state config now durable origin with
          ⟨-, hs⟩ | ⟨hadmissible, -⟩
        · exact congrArg State.authorityGeneration hs
        · simp [Op.recovers, hadmissible] at hop
    | _ => cases hgoverns
  · have hgoverns : op.governs = false := by simpa using hgoverns
    refine .inl ⟨State.authorityGeneration_of_standing (step_standing h hgoverns), ?_⟩
    rintro reason rfl
    cases hgoverns

/-! ## Climbing -/

/-- No counter falls. -/
structure State.Climbs (s s' : State) : Prop where
  epoch : s.epoch ≤ s'.epoch
  authority : s.authorityGeneration ≤ s'.authorityGeneration
  evidence : s.evidenceGeneration ≤ s'.evidenceGeneration
  watermark : s.evidenceWatermark ≤ s'.evidenceWatermark
  upstream : s.upstreamWatermark ≤ s'.upstreamWatermark

theorem State.Climbs.refl (s : State) : s.Climbs s :=
  ⟨UInt64.le_refl _, UInt64.le_refl _, UInt64.le_refl _, UInt64.le_refl _, UInt64.le_refl _⟩

theorem State.Climbs.trans {a b c : State} (h₁ : a.Climbs b) (h₂ : b.Climbs c) : a.Climbs c where
  epoch := UInt64.le_trans h₁.epoch h₂.epoch
  authority := UInt64.le_trans h₁.authority h₂.authority
  evidence := UInt64.le_trans h₁.evidence h₂.evidence
  watermark := UInt64.le_trans h₁.watermark h₂.watermark
  upstream := UInt64.le_trans h₁.upstream h₂.upstream

/-- The store goes on from the state: recovered, it is not behind it in any counter. A recovery takes
the epoch and the authority generation after the stored ones, the other counters as they are. -/
structure DurableState.Continues (d : DurableState) (s : State) : Prop where
  epoch : s.epoch.value.toNat ≤ d.epoch.value.toNat + 1
  authority : s.authorityGeneration.value.toNat ≤ d.authorityGeneration.value.toNat + 1
  evidence : s.evidenceGeneration ≤ d.evidenceGeneration
  watermark : s.evidenceWatermark ≤ d.evidenceWatermark
  upstream : s.upstreamWatermark ≤ d.upstreamWatermark

/-- The store an operation recovers, if any, goes on from the engine. -/
def Continuing (limits : Limits) (e : Engine) (op : Op) : Prop :=
  ∀ durable, op.recovers limits = some durable → durable.Continues e.state

theorem Generation.le_next_iff {d : GenerationDomain} {a b c : Generation d} (h : b.next = some c) :
    a ≤ c ↔ a.value.toNat ≤ b.value.toNat + 1 := by
  rw [le_iff_toNat, next_toNat h]

/-- A recovery climbs exactly when its store goes on from the state. -/
theorem recovered_climbs_iff (config : EngineConfig) (now : Ticks) (s : State) {d : DurableState}
    {epoch : CoordinatorEpoch} {authority : AdaptiveAuthorityGeneration}
    (hepoch : d.epoch.next = some epoch) (hauthority : d.authorityGeneration.next = some authority) :
    s.Climbs (State.recoveredState config now d epoch authority) ↔ d.Continues s := by
  have hstanding := recoveredState_standing config now d epoch authority
  have hgauges := recoveredState_gauges config now d epoch authority
  have hsame₁ : (State.recoveredState config now d epoch authority).epoch = epoch :=
    congrArg State.Standing.epoch hstanding
  have hsame₂ : (State.recoveredState config now d epoch authority).authorityGeneration =
      authority := congrArg State.Standing.authorityGeneration hstanding
  have hsame₃ : (State.recoveredState config now d epoch authority).evidenceGeneration =
      d.evidenceGeneration := congrArg Gauges.evidenceGeneration hgauges
  have hsame₄ : (State.recoveredState config now d epoch authority).evidenceWatermark =
      d.evidenceWatermark := congrArg Gauges.evidenceWatermark hgauges
  have hsame₅ : (State.recoveredState config now d epoch authority).upstreamWatermark =
      d.upstreamWatermark := congrArg Gauges.upstreamWatermark hgauges
  refine ⟨fun h => ?_, fun h => ?_⟩
  · obtain ⟨h₁, h₂, h₃, h₄, h₅⟩ := h
    rw [hsame₁, Generation.le_next_iff hepoch] at h₁
    rw [hsame₂, Generation.le_next_iff hauthority] at h₂
    rw [hsame₃] at h₃
    rw [hsame₄] at h₄
    rw [hsame₅] at h₅
    exact ⟨h₁, h₂, h₃, h₄, h₅⟩
  · obtain ⟨h₁, h₂, h₃, h₄, h₅⟩ := h
    rw [← Generation.le_next_iff hepoch] at h₁
    rw [← Generation.le_next_iff hauthority] at h₂
    refine ⟨?_, ?_, ?_, ?_, ?_⟩
    · rwa [hsame₁]
    · rwa [hsame₂]
    · rwa [hsame₃]
    · rwa [hsame₄]
    · rwa [hsame₅]

theorem GaugeChange.climbs (h : GaugeChange config e op answer e') :
    e.state.evidenceGeneration ≤ e'.state.evidenceGeneration ∧
      e.state.evidenceWatermark ≤ e'.state.evidenceWatermark ∧
      e.state.upstreamWatermark ≤ e'.state.upstreamWatermark := by
  cases h with
  | kept same =>
    rw [State.evidenceGeneration_of_gauges same, State.evidenceWatermark_of_gauges same,
      State.upstreamWatermark_of_gauges same]
    exact ⟨UInt64.le_refl _, UInt64.le_refl _, UInt64.le_refl _⟩
  | notified _ notified =>
    have hgeneration := congrArg Gauges.evidenceGeneration notified.evidence
    have hwatermark := congrArg Gauges.evidenceWatermark notified.evidence
    change e'.state.evidenceGeneration = e.state.evidenceGeneration at hgeneration
    change e'.state.evidenceWatermark = e.state.evidenceWatermark at hwatermark
    rw [hgeneration, hwatermark]
    exact ⟨UInt64.le_refl _, UInt64.le_refl _, notified.upstream⟩
  | published _ _ effect =>
    cases effect with
    | refused _ same =>
      rw [same]
      exact ⟨UInt64.le_refl _, UInt64.le_refl _, UInt64.le_refl _⟩
    | exhausted _ _ same upstream watermark =>
      rw [same, upstream]
      exact ⟨UInt64.le_refl _, watermark, UInt64.le_refl _⟩
    | published _ next counts upstream watermark =>
      rw [counts, upstream]
      exact ⟨UInt64.le_of_lt (Generation.lt_next next), watermark, UInt64.le_refl _⟩

/-- A step climbs exactly when the store it recovers, if any, goes on from the engine. -/
theorem step_climbs_iff (h : e.step config op = some (e', answer)) :
    e.state.Climbs e'.state ↔ Continuing config.limits e op := by
  cases hrecovers : op.recovers config.limits with
  | some durable =>
    obtain ⟨now, epoch, authority, hepoch, hauthority, rfl⟩ := step_recovered h hrecovers
    rw [recovered_climbs_iff config now e.state hepoch hauthority]
    refine ⟨fun hcontinues durable' hdurable => ?_, fun hcontinuing => hcontinuing durable hrecovers⟩
    rw [hrecovers] at hdurable
    cases hdurable
    exact hcontinues
  | none =>
    refine ⟨fun _ durable hdurable => ?_, fun _ => ?_⟩
    · rw [hrecovers] at hdurable
      cases hdurable
    · obtain ⟨hevidence, hwatermark, hupstream⟩ := (step_gauges h hrecovers).climbs
      refine ⟨(step_grows h hrecovers).epoch, ?_, hevidence, hwatermark, hupstream⟩
      rcases step_authority h hrecovers with ⟨hsame, -⟩ | ⟨_, -, -, hnext⟩
      · rw [hsame]
        exact UInt64.le_refl _
      · exact UInt64.le_of_lt (Generation.lt_next hnext)

/-- Over a run whose recovered stores all go on from the engine, no counter falls. -/
theorem climbs_run (h : RunUnder config (Continuing config.limits) e e') :
    e.state.Climbs e'.state :=
  h.rel (R := fun e e' => e.state.Climbs e'.state) (fun e => .refl e.state) State.Climbs.trans
    fun _ _ _ _ hop hstep => (step_climbs_iff hstep).2 hop

end

/-- A step lets no counter fall exactly when the store it recovers, if any, goes on from the engine.
Over a run of such steps no counter falls, and no context and no ticket of an epoch that is over
becomes current again. -/
theorem counters_climb (config : EngineConfig) (e : Engine) :
    (∀ (e' : Engine) (op : Op) (answer : Answer), e.step config op = some (e', answer) →
      (e.state.Climbs e'.state ↔ Continuing config.limits e op)) ∧
    ∀ e', RunUnder config (Continuing config.limits) e e' →
      e.state.Climbs e'.state ∧
      (∀ (context : MutationContext) (registration : PublisherRegistration),
        context.epoch < e.state.epoch → ¬ Live e'.state context registration) ∧
      ∀ (request : CommitDecisionRequest) (record : PolicyRecord),
        request.ticket.dependencies.epoch < e.state.epoch →
          e'.state.commitChecks request ≠ .ok record := by
  refine ⟨fun _ _ _ h => step_climbs_iff h, fun e' hrun => ?_⟩
  have hclimbs := climbs_run hrun
  refine ⟨hclimbs, fun context registration hover hlive => ?_, fun request record hover hchecks => ?_⟩
  · rw [hlive.epoch] at hover
    exact absurd hclimbs.epoch (UInt64.not_le.2 hover)
  · obtain ⟨_, haccepted⟩ := State.commitChecks_ok hchecks
    rw [← haccepted.epoch] at hover
    exact absurd hclimbs.epoch (UInt64.not_le.2 hover)

open Scenario in
/-- Loading the store just saved lets no counter fall, and the contexts of the epoch before stay
over. -/
theorem saved_store_climbs :
    let advanced : List Op := challenged ++ [.advanceEpoch []]
    let load : Op := .decodeStore 5 (.ok ((after advanced).state.buildDurable 4)) []
    (after advanced).state.Climbs (after (advanced ++ [load])).state ∧
      ∀ registration, ¬ Live (after (advanced ++ [load])).state (context 1 "late") registration := by
  intro advanced load
  obtain ⟨_, hload⟩ := step_after advanced load (by decide +kernel)
  have hcontinues : Continuing config.limits (after advanced) load := by
    intro durable hdurable
    simp only [load, Op.recovers, Option.ite_none_right_eq_some, Option.some.injEq] at hdurable
    rw [← hdurable.2]
    exact ⟨Nat.le_succ _, Nat.le_succ _, UInt64.le_refl _, UInt64.le_refl _, UInt64.le_refl _⟩
  have hcounters := counters_climb config (after advanced)
  refine ⟨(hcounters.1 _ _ _ hload).2 hcontinues, fun registration => ?_⟩
  exact (hcounters.2 _ (.single hcontinues hload)).2.1 _ _ (by decide +kernel)

open Scenario in
/-- The store of epoch 1, loaded in epoch 3, takes the engine back to epoch 2, and a context of that
epoch, which was over, is live again. -/
theorem older_store_turns_back :
    let load : Op := .decodeStore 0 (.ok ((after []).state.buildDurable 0)) []
    let advanced : List Op := [.advanceEpoch [], register, .advanceEpoch []]
    ∃ answer registration, Reachable config (after advanced) ∧
      (after advanced).step config load = some (after (advanced ++ [load]), answer) ∧
      ¬ (after advanced).state.Climbs (after (advanced ++ [load])).state ∧
      (context 2 "late").epoch < (after advanced).state.epoch ∧
      Run config (after advanced) (after (advanced ++ [load, register])) ∧
      Live (after (advanced ++ [load, register])).state (context 2 "late") registration := by
  intro load advanced
  obtain ⟨answer, hload⟩ := step_after advanced load (by decide +kernel)
  refine ⟨answer, _, reachable_after (by decide +kernel), hload, fun hclimbs => ?_, by decide +kernel,
    run_after advanced [load, register] (by decide +kernel), (State.checkCaller_ok
      (rfl : (after (advanced ++ [load, register])).state.checkCaller (context 2 "late") none none =
        _)).toLive⟩
  have hback : ¬ (after advanced).state.epoch ≤ (after (advanced ++ [load])).state.epoch := by
    decide +kernel
  exact hback hclimbs.epoch

end AdaptiveRouting
