import AdaptiveRouting.Proof.Directory
import AdaptiveRouting.Proof.Records

/-!
# Revocations

A policy of a terminal lifecycle keeps its declaration (`RecordChange.terminal`), so a policy with a
revocation is revoked (`Revoked`), in every run that recovers only stores that agree.
-/

namespace AdaptiveRouting

open Guard Engine

/-! ## Terminal policies -/

section
variable {config : EngineConfig} {e : Engine} {op : Op} {policy : AdaptivePolicyId}
  {record record' : PolicyRecord}

/-- A record whose policy is terminal keeps its policy. -/
theorem RecordChange.terminal (h : RecordChange config e op policy record record')
    (hterminal : record.policy.lifecycle.terminal = true) : record'.policy = record.policy := by
  have hlive (hlive : record.policy.lifecycle.terminal = false) : record'.policy = record.policy := by
    rw [hterminal] at hlive
    cases hlive
  have hundefined {event : PolicyEvent} {next : PolicyLifecycle}
      (hnext : applyPolicyEvent record.policy.lifecycle event = some next) :
      record'.policy = record.policy := by
    rw [applyPolicyEvent_terminal hterminal] at hnext
    cases hnext
  cases h with
  | kept => rfl
  | rewritten rewrites =>
    cases rewrites with
    | updated checks =>
      obtain ⟨_, haccepted⟩ := State.updateChecks_ok checks
      exact hlive haccepted.live
    | held _ checks | moved _ checks =>
      obtain ⟨_, haccepted⟩ := State.transitionChecks_ok checks
      exact hundefined haccepted.next
    | revoked checks =>
      obtain ⟨_, haccepted⟩ := State.revokeChecks_ok checks
      exact hlive haccepted.live
    | suppressed | committed | restored => rfl
  | advanced =>
    unfold State.requireRevalidation
    dsimp only
    rw [if_pos hterminal]
  | notified _ _ _ frame => exact PolicyRecord.policy_of_frame frame

end

/-! ## Revoked policies -/

/-- A policy with a revocation is revoked. -/
def Revoked (s : State) : Prop :=
  ∀ (policy : AdaptivePolicyId) (revocation : RevocationRecord),
    s.revocations[policy]? = some revocation →
      ∃ record, s.policies[policy]? = some record ∧ record.policy.lifecycle = .revoked

/-- The store's revocations are of policies it says are revoked. -/
def DurableState.revokes (d : DurableState) : Prop :=
  ∀ revocation ∈ d.revocations, ∀ policy ∈ d.policies, policy.id = revocation.policy →
    policy.lifecycle = .revoked

section
variable (durable : DurableState)

/-- The revocations are those of the store, of policies that are there. -/
def RevocationsOf (s : State) : Prop :=
  ∀ (policy : AdaptivePolicyId) (revocation : RevocationRecord),
    s.revocations[policy]? = some revocation →
      revocation ∈ durable.revocations ∧ revocation.policy = policy ∧ policy ∈ s.policies

variable {durable} {s : State}

theorem RevocationsOf.of_empty (h : s.revocations = {}) : RevocationsOf durable s := by
  intro policy revocation hrevocation
  rw [h] at hrevocation
  simp at hrevocation

theorem RevocationsOf.edit (h : RevocationsOf durable s) (policy : AdaptivePolicyId)
    (f : PolicyRecord → PolicyRecord) : RevocationsOf durable (s.editRecord policy f) := by
  intro other revocation hrevocation
  obtain ⟨hmem, hpolicy, hthere⟩ := h other revocation hrevocation
  exact ⟨hmem, hpolicy, Std.ExtTreeMap.mem_modify.2 hthere⟩

theorem RevocationsOf.restore (h : RevocationsOf durable s) {revocation : RevocationRecord}
    (hmem : revocation ∈ durable.revocations) :
    RevocationsOf durable (s.restoreRevocation revocation) := by
  unfold State.restoreRevocation
  split
  · rename_i hcontains
    intro policy other hother
    change (s.revocations.insertIfNew revocation.policy revocation)[policy]? = some other at hother
    rw [Std.ExtTreeMap.getElem?_insertIfNew] at hother
    split at hother
    · rename_i hfresh
      cases hother
      obtain rfl : revocation.policy = policy := Std.LawfulEqCmp.eq_of_compare hfresh.1
      exact ⟨hmem, rfl, Std.ExtTreeMap.mem_modify.2 (Std.ExtTreeMap.mem_iff_contains.2 hcontains)⟩
    · exact h.edit revocation.policy (fun record => { record with revocation := some revocation })
        policy other hother
  · exact h

theorem recoveredState_revocations (config : EngineConfig) (now : Ticks) (epoch : CoordinatorEpoch)
    (authority : AdaptiveAuthorityGeneration) :
    RevocationsOf durable (State.recoveredState config now durable epoch authority) := by
  unfold State.recoveredState
  dsimp only
  have hpolicies := foldl_keeps State.policies
    fun s policy => State.reindexPolicy_policies s config.limits policy
  have hdirectory := foldl_keeps State.directory
    fun s policy => State.reindexPolicy_directory s config.limits policy
  unfold RevocationsOf
  rw [hpolicies, State.revocations_of_directory (hdirectory _ _)]
  change RevocationsOf durable (durable.history.foldl (State.restoreHistory config.limits) _)
  refine List.foldlRecOn _ _ (List.foldlRecOn _ _ (RevocationsOf.of_empty ?_)
    fun s hs revocation hmem => hs.restore hmem) fun s hs entry _ => ?_
  · rw [foldl_keeps (f := State.restoreTiming now) State.revocations fun _ _ => rfl,
      foldl_keeps (f := State.restoreStable) State.revocations fun _ _ => rfl,
      foldl_keeps (f := State.restorePreference) State.revocations fun _ _ => rfl,
      foldl_keeps (f := State.restorePolicy config.conservativeRecovery) State.revocations
        fun _ _ => rfl]
  · exact hs.edit entry.1 fun owner => { owner with
      history := keepLast config.limits.maxHistoryPerPolicy (owner.history ++ [entry.2]) }

theorem recoveredRecord_terminal {conservative : Bool} {source : AdaptivePolicy}
    (h : source.lifecycle.terminal = true) :
    (State.recoveredRecord conservative source).policy = source := by
  simp [State.recoveredRecord, h]

/-- Recovery revokes the policies the store says are revoked. -/
theorem recoveredState_revoked (h : durable.revokes) (config : EngineConfig) (now : Ticks)
    (epoch : CoordinatorEpoch) (authority : AdaptiveAuthorityGeneration) :
    Revoked (State.recoveredState config now durable epoch authority) := by
  intro policy revocation hrevocation
  obtain ⟨hmem, hpolicy, hthere⟩ :=
    recoveredState_revocations config now epoch authority policy revocation hrevocation
  obtain ⟨record, hrecord⟩ : ∃ record,
      (State.recoveredState config now durable epoch authority).policies[policy]? = some record :=
    Option.isSome_iff_exists.1 (Std.ExtTreeMap.isSome_getElem?_iff_mem.2 hthere)
  obtain ⟨source, hsource, hid, hrecovered, -⟩ :=
    recoveredState_from config now durable epoch authority policy record hrecord
  have hlifecycle : source.lifecycle = .revoked :=
    h revocation hmem source hsource (hid.trans hpolicy.symm)
  refine ⟨record, hrecord, ?_⟩
  rw [hrecovered, recoveredRecord_terminal (by rw [hlifecycle]; rfl), hlifecycle]

end

section
variable {config : EngineConfig} {e e' : Engine} {op : Op} {answer : Answer}

theorem Revoked.step (hs : Revoked e.state) (h : e.step config op = some (e', answer))
    (hop : ∀ durable, op.recovers config.limits = some durable → durable.revokes) :
    Revoked e'.state := by
  have hkeep (hrecovers : op.recovers config.limits = none) {policy : AdaptivePolicyId}
      (hrevoked : ∃ record, e.state.policies[policy]? = some record ∧
        record.policy.lifecycle = .revoked) :
      ∃ record, e'.state.policies[policy]? = some record ∧ record.policy.lifecycle = .revoked := by
    obtain ⟨record, hrecord, hlifecycle⟩ := hrevoked
    obtain ⟨record', hrecord', hchange⟩ := step_record h hrecovers hrecord
    exact ⟨record', hrecord', (hchange.terminal (by rw [hlifecycle]; rfl)) ▸ hlifecycle⟩
  intro policy revocation hrevocation
  cases hrecovers : op.recovers config.limits with
  | some durable =>
    obtain ⟨now, epoch, authority, -, -, rfl⟩ := step_recovered h hrecovers
    exact recoveredState_revoked (hop durable hrecovers) config now epoch authority policy revocation
      hrevocation
  | none =>
    cases step_directory h with
    | kept same =>
      rw [State.revocations_of_directory same] at hrevocation
      exact hkeep hrecovers (hs policy revocation hrevocation)
    | created _ _ effect =>
      rw [effect.revocations] at hrevocation
      exact hkeep hrecovers (hs policy revocation hrevocation)
    | @revoked request record revocation' revokes checks names writes =>
      subst revokes
      rw [show e'.state.revocations = _ from congrArg Prod.snd writes,
        Std.ExtTreeMap.getElem?_insertIfNew] at hrevocation
      split at hrevocation
      · rename_i hfresh
        obtain rfl : request.policy = policy := Std.LawfulEqCmp.eq_of_compare hfresh.1
        cases h
        change ∃ record,
          (e.state.revokePolicy config.limits request).1.policies[request.policy]? = some record ∧ _
        simp only [State.revokePolicy, checks]
        exact ⟨_, Std.ExtTreeMap.getElem?_insert_self, rfl⟩
      · exact hkeep rfl (hs policy revocation hrevocation)
    | recovered recovers =>
      rw [hrecovers] at recovers
      cases recovers

/-- In every run that recovers only stores that agree, a policy with a revocation is revoked. -/
theorem Revoked.run {nonce : Text}
    (h : RunUnder config
      (fun _ op => ∀ durable, op.recovers config.limits = some durable → durable.revokes)
      (Engine.start config nonce) e) : Revoked e.state :=
  h.inv (I := fun e => Revoked e.state) (fun _ _ _ _ hop hs hstep => hs.step hstep hop)
    fun policy revocation hrevocation => by simp [Engine.start] at hrevocation

/-- Every revocation is filed under its policy, which is there. -/
def Filed (s : State) : Prop :=
  ∀ (policy : AdaptivePolicyId) (revocation : RevocationRecord),
    s.revocations[policy]? = some revocation → revocation.policy = policy ∧ policy ∈ s.policies

theorem Filed.step (hs : Filed e.state) (h : e.step config op = some (e', answer)) :
    Filed e'.state := by
  cases hrecovers : op.recovers config.limits with
  | some durable =>
    obtain ⟨now, epoch, authority, -, -, rfl⟩ := step_recovered h hrecovers
    exact fun policy revocation hrevocation =>
      (recoveredState_revocations config now epoch authority policy revocation hrevocation).2
  | none =>
    have hthere {policy : AdaptivePolicyId} (hmem : policy ∈ e.state.policies) :
        policy ∈ e'.state.policies := by
      obtain ⟨record, hrecord⟩ : ∃ record, e.state.policies[policy]? = some record :=
        Option.isSome_iff_exists.1 (Std.ExtTreeMap.isSome_getElem?_iff_mem.2 hmem)
      obtain ⟨record', hrecord', -⟩ := step_record h hrecovers hrecord
      exact Std.ExtTreeMap.isSome_getElem?_iff_mem.1 (by rw [hrecord']; rfl)
    have hkeep (hsame : e'.state.revocations = e.state.revocations) : Filed e'.state := by
      intro policy revocation hrevocation
      rw [hsame] at hrevocation
      exact (hs policy revocation hrevocation).imp id hthere
    cases step_directory h with
    | kept same => exact hkeep (State.revocations_of_directory same)
    | created _ _ effect => exact hkeep effect.revocations
    | @revoked request record revocation' revokes checks names writes =>
      intro policy revocation hrevocation
      rw [show e'.state.revocations = _ from congrArg Prod.snd writes,
        Std.ExtTreeMap.getElem?_insertIfNew] at hrevocation
      split at hrevocation
      · rename_i hfresh
        cases hrevocation
        obtain rfl : request.policy = policy := Std.LawfulEqCmp.eq_of_compare hfresh.1
        obtain ⟨_, haccepted⟩ := State.revokeChecks_ok checks
        refine ⟨names, hthere (Std.ExtTreeMap.isSome_getElem?_iff_mem.1 ?_)⟩
        rw [haccepted.found]
        rfl
      · exact (hs policy revocation hrevocation).imp id hthere
    | recovered recovers =>
      rw [hrecovers] at recovers
      cases recovers

theorem Filed.reachable (h : Reachable config e) : Filed e.state := by
  obtain ⟨nonce, hrun⟩ := h
  exact hrun.inv (I := fun e => Filed e.state) (fun _ _ _ _ _ hs hstep => hs.step hstep)
    fun policy revocation hrevocation => by simp [Engine.start] at hrevocation

end

end AdaptiveRouting
