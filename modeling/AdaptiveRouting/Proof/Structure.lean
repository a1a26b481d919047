import AdaptiveRouting.Proof.Records
import AdaptiveRouting.Proof.Scenario

/-!
# Structural limits

A policy keeps within the configured limits (`PolicyRecord.Within`) in every run whose accepted
updates keep to the three bounds that only a creation is checked against, and whose recovered stores
keep within all of them (`structural_limits_hold`). From there an update ends it exactly when it is
accepted past one of the three (`Overgrows`).
-/

namespace AdaptiveRouting

open Guard Engine

/-! ## The limits -/

/-- What `create_policy` and `update_policy` both refuse to exceed. -/
structure Sized (limits : Limits) (scope : PolicyScope) (semantics : PolicySemantics) : Prop where
  routes : scope.routes.length ≤ limits.maxScopeRoutes.toNat
  multipathSets : scope.multipathSets.length ≤ limits.maxScopeMultipathSets.toNat
  thresholds : semantics.thresholds.length ≤ limits.maxThresholdsPerPolicy.toNat
  evidence : semantics.evidence.length ≤ limits.maxEvidenceRequirementsPerPolicy.toNat
  terms : semantics.objective.terms.length ≤ limits.maxObjectiveTerms.toNat

/-- What `create_policy` alone refuses to exceed. -/
structure Tempered (limits : Limits) (semantics : PolicySemantics) : Prop where
  priorities : semantics.priorities.length ≤ limits.maxCandidatesPerPolicy.toNat
  churn : semantics.churn.maxAdaptationsPerWindow.toNat ≤ limits.maxAdaptationsPerWindow.toNat
  maxPenalty : semantics.dampening.maxPenalty.toNat ≤ limits.maxDampeningPenalty.toNat

structure AdaptivePolicy.Within (p : AdaptivePolicy) (limits : Limits) : Prop where
  sized : Sized limits p.scope p.semantics
  tempered : Tempered limits p.semantics

structure PolicyRecord.Within (r : PolicyRecord) (limits : Limits) : Prop where
  policy : r.policy.Within limits
  penalty : r.timing.dampeningPenalty.toNat ≤ limits.maxDampeningPenalty.toNat

/-- A store whose policies and penalties keep within the limits. -/
structure DurableState.Within (d : DurableState) (limits : Limits) : Prop where
  policies : ∀ policy ∈ d.policies, policy.Within limits
  penalties : ∀ timing ∈ d.timings,
    timing.dampeningPenalty.toNat ≤ limits.maxDampeningPenalty.toNat

/-- An accepted update past a bound it is not checked against, or the recovery of a store past any. -/
inductive Overgrows (limits : Limits) (s : State) : Op → Prop
  | updated {now : Ticks} {request : UpdatePolicyRequest} {record : PolicyRecord} {fingerprint : Text}
      {generation : AdaptivePolicyGeneration}
      (checks : s.updateChecks limits request = .ok (record, fingerprint, generation))
      (exceeds : ¬ Tempered limits request.update.semantics) :
      Overgrows limits s (.updatePolicy now request)
  | recovered {now : Ticks} {durable : DurableState} {origin : Text}
      (admissible : durable.admissible limits = true) (exceeds : ¬ durable.Within limits) :
      Overgrows limits s (.decodeStore now (.ok durable) origin)

/-! ## The checks -/

theorem exceeds_eq_false {size : Nat} {limit : UInt64} (h : exceeds size limit = false) :
    size ≤ limit.toNat := by
  simpa [exceeds] using h

theorem exceedsStructure_sized {limits : Limits} {scope : PolicyScope} {semantics : PolicySemantics}
    (h : exceedsStructure limits scope semantics = false) : Sized limits scope semantics := by
  unfold exceedsStructure at h
  simp only [Bool.or_eq_false_iff] at h
  obtain ⟨⟨⟨⟨hroutes, hsets⟩, hthresholds⟩, hevidence⟩, hterms⟩ := h
  exact ⟨exceeds_eq_false hroutes, exceeds_eq_false hsets, exceeds_eq_false hthresholds,
    exceeds_eq_false hevidence, exceeds_eq_false hterms⟩

/-- A rule that is not enabled is all zero. -/
theorem PolicySemantics.check_dampening {semantics : PolicySemantics}
    (h : semantics.check = .ok ()) (hdisabled : semantics.dampening.enabled = false) :
    semantics.dampening.maxPenalty = 0 := by
  unfold PolicySemantics.check at h
  iterate 10 obtain ⟨-, h⟩ := seq_ok h
  obtain ⟨hvalid, -⟩ := seq_ok h
  simp only [DampeningRule.valid, hdisabled, Bool.not_false, if_true, Bool.not_eq_false',
    Bool.and_eq_true, beq_iff_eq] at hvalid
  exact hvalid.1.1.1.1.2

section
variable {s : State} {limits : Limits}

/-- A creation is checked against every bound. -/
theorem createChecks_within {request : CreatePolicyRequest} {fingerprint : Text}
    (h : s.createChecks limits request = .ok fingerprint) (now : Ticks) (id : AdaptivePolicyId) :
    (s.newRecord now id request).Within limits := by
  unfold State.createChecks at h
  obtain ⟨-, h⟩ := seq_ok h
  obtain ⟨⟨⟩, hsemantics, h⟩ := bind_ok h
  have hcheck := mapError_ok hsemantics
  obtain ⟨registration, _, h⟩ := bind_ok h
  obtain ⟨-, h⟩ := seq_ok h
  obtain ⟨hsizes, h⟩ := seq_ok h
  obtain ⟨hchurn, h⟩ := seq_ok h
  obtain ⟨hdampening, -⟩ := seq_ok h
  rw [Bool.or_eq_false_iff] at hsizes
  refine ⟨⟨exceedsStructure_sized hsizes.1, exceeds_eq_false hsizes.2, ?_, ?_⟩, Nat.zero_le _⟩
  · show request.semantics.churn.maxAdaptationsPerWindow.toNat ≤ _
    by_cases henabled : request.semantics.churn.enabled = true
    · rw [henabled, Bool.true_and] at hchurn
      exact exceeds_eq_false hchurn
    · have hzero : request.semantics.churn.maxAdaptationsPerWindow = 0 := by
        simpa [ChurnBounds.enabled] using henabled
      rw [hzero]
      exact Nat.zero_le _
  · show request.semantics.dampening.maxPenalty.toNat ≤ _
    cases henabled : request.semantics.dampening.enabled with
    | true =>
      rw [henabled, Bool.true_and] at hdampening
      exact exceeds_eq_false hdampening
    | false =>
      rw [PolicySemantics.check_dampening hcheck henabled]
      exact Nat.zero_le _

/-- An update is checked against its sizes. -/
theorem updateChecks_sized {request : UpdatePolicyRequest} {record : PolicyRecord}
    {fingerprint : Text} {generation : AdaptivePolicyGeneration}
    (h : s.updateChecks limits request = .ok (record, fingerprint, generation)) :
    Sized limits request.update.scope request.update.semantics := by
  unfold State.updateChecks at h
  obtain ⟨-, h⟩ := seq_ok h
  obtain ⟨-, h⟩ := seq_ok h
  obtain ⟨⟨⟩, _, h⟩ := bind_ok h
  obtain ⟨found, _, h⟩ := bind_ok h
  obtain ⟨registration, _, h⟩ := bind_ok h
  obtain ⟨-, h⟩ := seq_ok h
  obtain ⟨-, h⟩ := seq_ok h
  obtain ⟨-, h⟩ := seq_ok h
  obtain ⟨hsizes, -⟩ := seq_ok h
  exact exceedsStructure_sized hsizes

theorem updatedRecord_policy (s : State) (now : Ticks) (request : UpdatePolicyRequest)
    (generation : AdaptivePolicyGeneration) (record : PolicyRecord) :
    (s.updatedRecord now request generation record).policy.scope = request.update.scope ∧
      (s.updatedRecord now request generation record).policy.semantics = request.update.semantics := by
  unfold State.updatedRecord
  dsimp only
  split <;> exact ⟨rfl, rfl⟩

end

/-! ## Steps -/

section
variable {config : EngineConfig} {e e' : Engine} {op : Op} {answer : Answer}
  {policy : AdaptivePolicyId} {record record' : PolicyRecord}

theorem PolicyRecord.Within.of_policy {limits : Limits} (h : record.Within limits)
    (hscope : record'.policy.scope = record.policy.scope)
    (hsemantics : record'.policy.semantics = record.policy.semantics)
    (hpenalty : record'.timing.dampeningPenalty = record.timing.dampeningPenalty) :
    record'.Within limits := by
  refine ⟨⟨?_, ?_⟩, ?_⟩
  · rw [hscope, hsemantics]
    exact h.policy.sized
  · rw [hsemantics]
    exact h.policy.tempered
  · rw [hpenalty]
    exact h.penalty

/-- A commit caps the penalty it raises. -/
theorem armedTiming_penalty {limits : Limits} (h : record.Within limits) (now : Ticks)
    (lockedPath : PathId) :
    (armedTiming limits record.policy.semantics now lockedPath record.timing).dampeningPenalty.toNat ≤
      limits.maxDampeningPenalty.toNat := by
  unfold armedTiming
  dsimp only
  split
  · rw [UInt32.toNat_min]
    exact Nat.le_trans (Nat.min_le_left ..) h.policy.tempered.maxPenalty
  · exact h.penalty

theorem Rewrites.within (h : Rewrites config.limits e op policy record record')
    (hop : ¬ Overgrows config.limits e.state op) (hs : record.Within config.limits) :
    record'.Within config.limits := by
  cases h with
  | @updated now request _ fingerprint generation checks =>
    obtain ⟨hscope, hsemantics⟩ := updatedRecord_policy e.state now request generation record
    refine ⟨⟨?_, ?_⟩, ?_⟩
    · rw [hscope, hsemantics]
      exact updateChecks_sized checks
    · rw [hsemantics]
      exact Classical.not_not.1 fun hexceeds => hop (.updated checks hexceeds)
    · unfold State.updatedRecord
      dsimp only
      split
      · exact hs.penalty
      · exact Nat.zero_le _
  | @committed op now request record target adaptation transitionGeneration transition id
      preference =>
    refine ⟨hs.policy, ?_⟩
    unfold State.committedRecord PolicyRecord.remember
    dsimp only
    split
    · exact armedTiming_penalty hs now _
    · exact hs.penalty
  | _ => exact hs.of_policy rfl rfl rfl

theorem recovered_within {now : Ticks} {d : DurableState} {epoch : CoordinatorEpoch}
    {authority : AdaptiveAuthorityGeneration} (h : d.Within config.limits) :
    Everywhere (fun _ record => record.Within config.limits)
      (State.recoveredState config now d epoch authority) := by
  refine .recovered (fun source hsource => ?_) fun policy f record hrestores hr => ?_
  · have hwithin := h.policies source hsource
    refine ⟨?_, Nat.zero_le _⟩
    unfold State.recoveredRecord
    dsimp only
    split <;> exact ⟨hwithin.sized, hwithin.tempered⟩
  · cases hrestores with
    | timing stored => exact ⟨hr.policy, h.penalties _ stored⟩
    | _ => exact hr.of_policy rfl rfl rfl

theorem within_step (hs : Everywhere (fun _ record => record.Within config.limits) e.state)
    (hop : ¬ Overgrows config.limits e.state op) (h : e.step config op = some (e', answer)) :
    Everywhere (fun _ record => record.Within config.limits) e'.state :=
  hs.step
    { rewrites := fun _ _ _ hrewrites => hrewrites.within hop
      creates := fun now _ _ id checks => createChecks_within checks now id
      advances := fun _ record hr => by
        unfold State.requireRevalidation
        dsimp only
        split <;> exact hr.of_policy rfl rfl rfl
      amends := fun _ _ _ record record' _ hamends hr => by
        have hpolicy := PolicyRecord.policy_of_frame hamends.frame
        have htiming := PolicyRecord.timing_of_frame hamends.frame
        exact hr.of_policy (by rw [hpolicy]) (by rw [hpolicy]) (by rw [htiming])
      recovers := fun now durable epoch authority hrecovers => by
        obtain ⟨_, _, rfl, hadmissible⟩ := Op.recovers_some hrecovers
        exact recovered_within (Classical.not_not.1 fun hexceeds =>
          hop (.recovered hadmissible hexceeds)) } h

/-- An update keeps every policy within the limits exactly when it does not overgrow them. -/
theorem within_update_iff {now : Ticks} {request : UpdatePolicyRequest}
    (hs : Everywhere (fun _ record => record.Within config.limits) e.state)
    (h : e.step config (.updatePolicy now request) = some (e', answer)) :
    Everywhere (fun _ record => record.Within config.limits) e'.state ↔
      ¬ Overgrows config.limits e.state (.updatePolicy now request) := by
  refine ⟨fun hs' hop => ?_, fun hop => within_step hs hop h⟩
  cases hop with
  | @updated _ _ record fingerprint generation checks exceeds =>
    cases h
    have hwithin := hs' request.policy _ (updatePolicy_get checks)
    have htempered := hwithin.policy.tempered
    rw [(updatedRecord_policy e.state now request generation record).2] at htempered
    exact exceeds htempered

end

/-- In every run in which no accepted update exceeds the bounds on priorities, adaptations per window
and penalty, and no recovered store exceeds any bound, every policy keeps within the limits. From
there the first update that is accepted past one of the three ends it. -/
theorem structural_limits_hold {config : EngineConfig} {nonce : Text} {e : Engine}
    (hrun : RunUnder config (fun e op => ¬ Overgrows config.limits e.state op)
      (Engine.start config nonce) e) :
    (∀ (policy : AdaptivePolicyId) (record : PolicyRecord), e.state.policies[policy]? = some record →
      record.Within config.limits) ∧
    (∀ (now : Ticks) (request : UpdatePolicyRequest) (e' : Engine) (answer : Answer),
      e.step config (.updatePolicy now request) = some (e', answer) →
      (Everywhere (fun _ record => record.Within config.limits) e'.state ↔
        ¬ Overgrows config.limits e.state (.updatePolicy now request))) := by
  have hwithin : Everywhere (fun _ record => record.Within config.limits) e.state :=
    hrun.inv (I := fun e => Everywhere (fun _ record => record.Within config.limits) e.state)
      (fun _ _ _ _ hop hs hstep => within_step hs hop hstep)
      fun policy record hrecord => by simp [Engine.start] at hrecord
  exact ⟨hwithin, fun _ _ _ _ hstep => within_update_iff hwithin hstep⟩

namespace Scenario

/-- An update of the policy's churn bound. -/
def rebound (bound : UInt32) : UpdatePolicyRequest where
  policy := policy
  update := { scope := { fabric := name "fabric", nameSpace := name "space" }
              semantics := { semantics with
                churn := { maxAdaptationsPerWindow := bound, window := 1000 } } }
  context := { context 1 "update" with expectedPolicyGeneration := some ⟨1⟩ }

end Scenario

open Scenario in
/-- A policy within the limits, created and updated. -/
theorem updated_policy_is_within :
    ∃ record, (after (created ++ [.updatePolicy 1 (rebound 64)])).state.policies[policy]? =
      some record ∧ record.Within config.limits := by
  have hrun : RunUnder config (fun e op => ¬ Overgrows config.limits e.state op) engine
      (after (created ++ [.updatePolicy 1 (rebound 64)])) := by
    refine (Runs.runAll_under (fun op => ∀ s, ¬ Overgrows config.limits s op)
      (runAll_after (by decide +kernel)) fun op hmem s hop => ?_).mono fun e op hop => hop e.state
    cases hop with
    | @updated now request _ _ _ _ exceeds =>
      have hrequest : now = 1 ∧ request = rebound 64 := by simpa [created, register] using hmem
      obtain ⟨-, rfl⟩ := hrequest
      exact exceeds ⟨by decide, by decide, by decide⟩
    | recovered => simp [created, register] at hmem
  have hthere : ((after (created ++ [.updatePolicy 1 (rebound 64)])).state.policies[policy]?).isSome =
      true := by decide +kernel
  obtain ⟨record, hrecord⟩ := Option.isSome_iff_exists.1 hthere
  exact ⟨record, hrecord, (structural_limits_hold hrun).1 policy record hrecord⟩

open Scenario in
/-- An update to one adaptation more than the configured bound is accepted. -/
theorem update_exceeds_churn_limit :
    Engine.Reachable config (after (created ++ [.updatePolicy 1 (rebound 65)])) ∧
      ∃ record, (after (created ++ [.updatePolicy 1 (rebound 65)])).state.policies[policy]? =
          some record ∧
        config.limits.maxAdaptationsPerWindow.toNat <
          record.policy.semantics.churn.maxAdaptationsPerWindow.toNat ∧
        ¬ record.Within config.limits := by
  have hthere : ((after (created ++ [.updatePolicy 1 (rebound 65)])).state.policies[policy]?).any
      (fun record => record.policy.semantics.churn.maxAdaptationsPerWindow == 65) = true := by
    decide +kernel
  obtain ⟨record, hrecord, hchurn⟩ := (Option.any_eq_true _ _).1 hthere
  have hchurn : record.policy.semantics.churn.maxAdaptationsPerWindow = 65 := by simpa using hchurn
  have hexceeds : config.limits.maxAdaptationsPerWindow.toNat <
      record.policy.semantics.churn.maxAdaptationsPerWindow.toNat := by
    rw [hchurn]
    decide
  exact ⟨reachable_after (by decide +kernel), record, hrecord, hexceeds, fun hwithin =>
    absurd hwithin.policy.tempered.churn (Nat.not_le.2 hexceeds)⟩

end AdaptiveRouting
