import AdaptiveRouting.Proof.Recovery
import AdaptiveRouting.Proof.Replay
import AdaptiveRouting.Proof.Scenario
import AdaptiveRouting.Proof.Timing

/-!
# Recorded revocations

A policy is revoked exactly when a revocation is filed for it, which is the one its record carries and
names its generation (`Recorded`). Two steps end this: a lifecycle event that revokes a policy without
filing anything, and the recovery of a store whose revocations disagree with its policies
(`Misfiles`).
-/

namespace AdaptiveRouting

open Guard Engine Pointwise

/-- A policy, the revocation its record carries and the one that is filed for it. -/
structure Accounts (policy : AdaptivePolicy) (own filed : Option RevocationRecord) : Prop where
  revoked : policy.lifecycle = .revoked ↔ filed.isSome = true
  same : own = filed
  generation : ∀ revocation, filed = some revocation → revocation.generation = policy.generation

/-- Revoked policies keep their generation, and none is revoked or reinstated. -/
theorem Accounts.of_same {policy policy' : AdaptivePolicy} {own filed : Option RevocationRecord}
    (h : Accounts policy own filed)
    (hrevoked : policy'.lifecycle = .revoked ↔ policy.lifecycle = .revoked)
    (hgeneration : policy.lifecycle = .revoked → policy'.generation = policy.generation) :
    Accounts policy' own filed where
  revoked := hrevoked.trans h.revoked
  same := h.same
  generation := fun revocation hfiled => by
    rw [hgeneration (h.revoked.2 (by rw [hfiled]; rfl))]
    exact h.generation revocation hfiled

/-- Every policy and its revocation. -/
def Recorded (s : State) : Prop :=
  ∀ (policy : AdaptivePolicyId) (record : PolicyRecord), s.policies[policy]? = some record →
    Accounts record.policy record.revocation s.revocations[policy]?

/-! ## Stores -/

namespace DurableState

variable (d : DurableState)

/-- The policy a recovery installs under an identity. -/
def policyOf (id : AdaptivePolicyId) : Option AdaptivePolicy :=
  d.policies.find? fun policy => policy.id = id

/-- The revocations of a policy, in their order. -/
def revocationsOf (id : AdaptivePolicyId) : List RevocationRecord :=
  d.revocations.filter fun revocation => revocation.policy = id

/-- The revocations of the store agree with its policies: the first one is filed, and the last one
stays in the policy's record. -/
def Accounted : Prop :=
  ∀ (id : AdaptivePolicyId) (policy : AdaptivePolicy), d.policyOf id = some policy →
    Accounts policy (d.revocationsOf id).getLast? (d.revocationsOf id).head?

end DurableState

/-- An operation revokes a policy without filing a revocation, or recovers a store whose revocations
disagree with its policies. -/
inductive Misfiles (limits : Limits) (s : State) : Op → Prop
  | transition {op : Op} {request : PolicyLifecycleRequest} {record : PolicyRecord}
      {next : PolicyLifecycle} (requests : op.transition = some request)
      (event : request.event = .revoke) (checks : s.transitionChecks request = .ok (record, next)) :
      Misfiles limits s op
  | recovery {op : Op} {durable : DurableState} (recovers : op.recovers limits = some durable)
      (disagrees : ¬ durable.Accounted) : Misfiles limits s op

/-! ## Recovery -/

section
variable (config : EngineConfig) (now : Ticks) (epoch : CoordinatorEpoch)
  (authority : AdaptiveAuthorityGeneration) (durable : DurableState) (id : AdaptivePolicyId)

/-- What an account reads of a record. -/
def PolicyRecord.account (record : PolicyRecord) : AdaptivePolicy × Option RevocationRecord :=
  (record.policy, record.revocation)

/-- The account of a policy that is there. -/
def State.accountOf (s : State) : Option (AdaptivePolicy × Option RevocationRecord) :=
  (s.record id).map PolicyRecord.account

/-- An edit of other fields keeps every account. -/
theorem editRecord_account (s : State) (policy : AdaptivePolicyId) {f : PolicyRecord → PolicyRecord}
    (hf : ∀ record, (f record).account = record.account) :
    State.accountOf id (s.editRecord policy f) = State.accountOf id s := by
  unfold State.accountOf
  by_cases hid : policy = id
  · subst hid
    show ((s.policies.modify policy f)[policy]?).map _ = ((s.policies[policy]?).map _)
    rw [Std.ExtTreeMap.getElem?_modify_self, Option.map_map]
    congr 1
    funext record
    exact hf record
  · show ((s.policies.modify policy f)[id]?).map _ = ((s.policies[id]?).map _)
    rw [get_modify_ne hid]

/-- The first policy of an identity takes it. -/
theorem first_policy (conservative : Bool) (policies : List AdaptivePolicy)
    (record : Option PolicyRecord) :
    policies.foldl (fun (record : Option PolicyRecord) policy =>
        some (record.getD (State.recoveredRecord conservative policy))) record =
      record.or ((policies.head?).map (State.recoveredRecord conservative)) := by
  induction policies generalizing record with
  | nil => simp
  | cons policy rest ih =>
    rw [List.foldl_cons, ih]
    cases record <;> rfl

/-- The last revocation of a policy stays in its record. -/
theorem last_revocation (revocations : List RevocationRecord) (record : Option PolicyRecord) :
    (revocations.foldl (fun (record : Option PolicyRecord) revocation => record.map fun record =>
        { record with revocation := some revocation }) record).map PolicyRecord.account =
      (record.map PolicyRecord.account).map fun account =>
        (account.1, revocations.getLast?.or account.2) := by
  induction revocations generalizing record with
  | nil => simp [Function.comp_def]
  | cons revocation rest ih =>
    rw [List.foldl_cons, ih]
    cases record with
    | none => rfl
    | some record => cases rest <;> simp [PolicyRecord.account, List.getLast?_cons]

/-- The first revocation of a policy that is there is filed. -/
theorem first_revocation (revocations : List RevocationRecord) (filed : Option RevocationRecord)
    (there : Bool) :
    revocations.foldl (fun (entry : Option RevocationRecord × Bool) revocation =>
        (if entry.2 then some (entry.1.getD revocation) else entry.1, entry.2)) (filed, there) =
      (if there then filed.or revocations.head? else filed, there) := by
  induction revocations generalizing filed with
  | nil => simp
  | cons revocation rest ih =>
    rw [List.foldl_cons, ih]
    cases there <;> cases filed <;> rfl

theorem base_account :
    State.accountOf id (State.recoveredBase config now durable epoch authority) =
      (durable.policyOf id).map fun policy =>
        ((State.recoveredRecord config.conservativeRecovery policy).policy, none) := by
  unfold State.recoveredBase
  dsimp only
  rw [foldl_keeps (f := State.restoreTiming now) (State.accountOf id) fun s timing =>
      editRecord_account id s timing.policy fun _ => rfl,
    foldl_keeps (f := State.restoreStable) (State.accountOf id) fun s entry =>
      editRecord_account id s entry.1 fun _ => rfl,
    foldl_keeps (f := State.restorePreference) (State.accountOf id) fun s entry =>
      editRecord_account id s entry.1 fun _ => rfl]
  unfold State.accountOf
  rw [(restorePolicy_local _).foldl, first_policy, List.head?_filter]
  unfold State.record DurableState.policyOf
  simp [PolicyRecord.account, Function.comp_def]
  rfl

/-- The account a recovery opens: the first policy of the identity, with its last revocation. -/
theorem recovered_account :
    State.accountOf id (State.recoveredState config now durable epoch authority) =
      (durable.policyOf id).map fun policy =>
        ((State.recoveredRecord config.conservativeRecovery policy).policy,
          (durable.revocationsOf id).getLast?) := by
  have hbase := base_account config now epoch authority durable id
  have hreindex := foldl_keeps State.policies
    fun s policy => State.reindexPolicy_policies s config.limits policy
  unfold State.recoveredState
  dsimp only
  unfold State.accountOf State.record
  rw [hreindex]
  show State.accountOf id (durable.history.foldl (State.restoreHistory config.limits) _) = _
  rw [foldl_keeps (f := State.restoreHistory config.limits) (State.accountOf id) fun s entry =>
    editRecord_account id s entry.1 (f := fun owner => owner.remember config.limits entry.2)
      fun _ => rfl]
  unfold State.accountOf at hbase ⊢
  rw [restoreRevocation_local.foldl]
  change Option.map _ (List.foldl _
    (State.record (State.recoveredBase config now durable epoch authority) id) _) = _
  rw [last_revocation, hbase, Option.map_map]
  simp only [Function.comp_def, Option.or_none]
  rfl

/-- A recovery files the first revocation of a policy that is there. -/
theorem recovered_filed :
    (State.recoveredState config now durable epoch authority).revocations[id]? =
      if (durable.policyOf id).isSome then (durable.revocationsOf id).head? else none := by
  have hthere : (State.recoveredBase config now durable epoch authority).policies.contains id =
      (durable.policyOf id).isSome := by
    have hbase := congrArg Option.isSome (base_account config now epoch authority durable id)
    rw [State.accountOf, Option.isSome_map, Option.isSome_map] at hbase
    rw [Std.ExtTreeMap.contains_eq_isSome_getElem?]
    exact hbase
  have hfold := congrArg Prod.fst (restoreRevocation_filed.foldl durable.revocations
    (State.recoveredBase config now durable epoch authority) id)
  rw [State.revocations_of_directory (recovered_directory config now epoch authority durable)]
  refine hfold.trans ?_
  rw [first_revocation, base_revocations, hthere]
  simp [DurableState.revocationsOf]

theorem recoveredRecord_revoked (conservative : Bool) (policy : AdaptivePolicy) :
    (State.recoveredRecord conservative policy).policy.lifecycle = .revoked ↔
      policy.lifecycle = .revoked := by
  unfold State.recoveredRecord
  cases conservative <;> cases hlifecycle : policy.lifecycle <;>
    simp [hlifecycle, PolicyLifecycle.terminal]

theorem recoveredRecord_generation (conservative : Bool) (policy : AdaptivePolicy) :
    (State.recoveredRecord conservative policy).policy.generation = policy.generation := by
  unfold State.recoveredRecord
  dsimp only
  split <;> rfl

/-- A recovered state accounts for its revocations exactly when the store does. -/
theorem recovered_recorded_iff :
    Recorded (State.recoveredState config now durable epoch authority) ↔ durable.Accounted := by
  refine ⟨fun h id policy hpolicy => ?_, fun h id record hrecord => ?_⟩
  · have haccount := recovered_account config now epoch authority durable id
    have hfiled := recovered_filed config now epoch authority durable id
    rw [hpolicy] at haccount hfiled
    obtain ⟨record, hrecord, hsame⟩ := Option.map_eq_some_iff.1 haccount
    obtain ⟨hrecovered, hown⟩ := Prod.mk.inj hsame
    have haccounts := h id record hrecord
    rw [hrecovered, hown, hfiled] at haccounts
    exact haccounts.of_same (recoveredRecord_revoked _ policy).symm fun _ =>
      (recoveredRecord_generation _ policy).symm
  · have haccount := recovered_account config now epoch authority durable id
    have hfiled := recovered_filed config now epoch authority durable id
    rw [State.accountOf, State.record, hrecord, Option.map_some, eq_comm,
      Option.map_eq_some_iff] at haccount
    obtain ⟨policy, hpolicy, hsame⟩ := haccount
    obtain ⟨hrecovered, hown⟩ := Prod.mk.inj hsame
    rw [hpolicy] at hfiled
    rw [← hrecovered, ← hown, hfiled]
    exact (h id policy hpolicy).of_same (recoveredRecord_revoked _ policy) fun _ =>
      recoveredRecord_generation _ policy

end

/-! ## Steps -/

section
variable {config : EngineConfig} {e e' : Engine} {op : Op} {answer : Answer}
  {policy : AdaptivePolicyId} {record record' : PolicyRecord}

/-- A step that files no revocation keeps the account of a policy. -/
theorem RecordChange.accounts {filed : Option RevocationRecord}
    (h : RecordChange config e op policy record record')
    (hop : ¬ Misfiles config.limits e.state op) (hrevokes : ∀ request, op ≠ .revokePolicy request)
    (haccounts : Accounts record.policy record.revocation filed) :
    Accounts record'.policy record'.revocation filed := by
  cases h with
  | kept => exact haccounts
  | rewritten rewrites =>
    cases rewrites with
    | @updated now request _ _ generation checks =>
      obtain ⟨_, haccepted⟩ := State.updateChecks_ok checks
      have hlive := haccepted.live
      have hrevocation : (e.state.updatedRecord now request generation record).revocation =
          record.revocation := by
        unfold State.updatedRecord
        dsimp only
        split <;> rfl
      have hlifecycle : (e.state.updatedRecord now request generation record).policy.lifecycle =
          record.policy.lifecycle := by
        unfold State.updatedRecord
        dsimp only
        split <;> rfl
      rw [hrevocation]
      refine haccounts.of_same (by rw [hlifecycle]) fun hrevoked => ?_
      rw [hrevoked] at hlive
      cases hlive
    | held _ checks =>
      obtain ⟨_, haccepted⟩ := State.transitionChecks_ok checks
      have hnext := haccepted.next
      refine haccounts.of_same ⟨nofun, fun hrevoked => ?_⟩ fun _ => rfl
      rw [hrevoked, applyPolicyEvent_terminal rfl] at hnext
      cases hnext
    | moved requests checks =>
      obtain ⟨_, haccepted⟩ := State.transitionChecks_ok checks
      have hnext := haccepted.next
      refine haccounts.of_same ⟨fun hrevoked => ?_, fun hrevoked => ?_⟩ fun _ => rfl
      · change _ = PolicyLifecycle.revoked at hrevoked
        subst hrevoked
        exact absurd (.transition requests (applyPolicyEvent_revoked hnext) checks) hop
      · rw [hrevoked, applyPolicyEvent_terminal rfl] at hnext
        cases hnext
    | revoked => exact absurd rfl (hrevokes _)
    | suppressed | committed | restored => exact haccounts
  | advanced =>
    refine haccounts.of_same ?_ fun hrevoked => ?_
    · unfold State.requireRevalidation
      cases hlifecycle : record.policy.lifecycle <;> simp [hlifecycle, PolicyLifecycle.terminal]
    · simp [State.requireRevalidation, hrevoked, PolicyLifecycle.terminal]
  | notified _ _ _ frame =>
    have hrevocation : record'.frame.revocation = record.frame.revocation := by rw [frame]
    have hsame : record'.revocation = record.revocation := hrevocation
    rw [PolicyRecord.policy_of_frame frame, hsame]
    exact haccounts

theorem revokePolicy_recorded {s : State} (hs : Recorded s) (limits : Limits)
    (request : RevokePolicyRequest) : Recorded (s.revokePolicy limits request).1 := by
  unfold State.revokePolicy
  cases hchecks : s.revokeChecks limits request with
  | error refusal => exact hs
  | ok record =>
    intro policy found hfound
    have hunfiled := State.revokeChecks_unrevoked hchecks
    dsimp only at hfound ⊢
    by_cases hpolicy : request.policy = policy
    · subst hpolicy
      rw [State.putRecord_policies, Std.ExtTreeMap.getElem?_insert_self] at hfound
      cases hfound
      rw [insertIfNew_get hunfiled]
      refine ⟨by simp, rfl, fun revocation hrevocation => ?_⟩
      cases hrevocation
      rfl
    · rw [State.putRecord_policies, get_insert_ne hpolicy] at hfound
      rw [Std.ExtTreeMap.getElem?_insertIfNew,
        if_neg fun hc => hpolicy (Std.LawfulEqCmp.eq_of_compare hc.1)]
      exact hs policy found hfound

/-- Only a revocation and a recovery change what is filed. -/
theorem step_revocations (h : e.step config op = some (e', answer))
    (hrecovers : op.recovers config.limits = none) (hrevokes : ∀ request, op ≠ .revokePolicy request) :
    e'.state.revocations = e.state.revocations := by
  cases step_directory h with
  | kept same => exact State.revocations_of_directory same
  | created _ _ effect => exact effect.revocations
  | revoked revokes => exact absurd revokes (hrevokes _)
  | recovered recovers =>
    rw [hrecovers] at recovers
    cases recovers

theorem Recorded.step (hs : Recorded e.state) (hfiled : Filed e.state)
    (hop : ¬ Misfiles config.limits e.state op) (h : e.step config op = some (e', answer)) :
    Recorded e'.state := by
  cases hrecovers : op.recovers config.limits with
  | some durable =>
    obtain ⟨now, epoch, authority, -, -, rfl⟩ := step_recovered h hrecovers
    refine (recovered_recorded_iff config now epoch authority durable).2 ?_
    by_contra hdisagrees
    exact hop (.recovery hrecovers hdisagrees)
  | none =>
    by_cases hrevokes : ∃ request, op = .revokePolicy request
    · obtain ⟨request, rfl⟩ := hrevokes
      cases h
      exact revokePolicy_recorded hs config.limits request
    · have hrevokes (request : RevokePolicyRequest) : op ≠ .revokePolicy request :=
        fun heq => hrevokes ⟨request, heq⟩
      have hsame := step_revocations h hrecovers hrevokes
      intro policy record' hrecord'
      rw [hsame]
      cases hbefore : e.state.policies[policy]? with
      | none =>
        obtain ⟨now, request, _, -, -, rfl⟩ := step_arrival h hrecovers hbefore hrecord'
        have hnone : e.state.revocations[policy]? = none := by
          rw [Option.eq_none_iff_forall_ne_some]
          intro revocation hrevocation
          have hthere := (hfiled policy revocation hrevocation).2
          simp [Std.ExtTreeMap.mem_iff_isSome_getElem?, hbefore] at hthere
        rw [hnone]
        exact ⟨⟨nofun, nofun⟩, rfl, nofun⟩
      | some record =>
        obtain ⟨after, hafter, hchange⟩ := step_record h hrecovers hbefore
        rw [hrecord'] at hafter
        cases hafter
        exact hchange.accounts hop hrevokes (hs policy record hbefore)

theorem transitionPolicy_moves {s : State} {request : PolicyLifecycleRequest}
    {next : PolicyLifecycle} (hchecks : s.transitionChecks request = .ok (record, next))
    (hevent : request.event ≠ .revalidate) :
    (s.transitionPolicy request).1 = s.putRecord request.policy
      { record with policy := { record.policy with lifecycle := next, epoch := s.epoch } } := by
  unfold State.transitionPolicy
  simp [hchecks, hevent]

/-- A step keeps the accounts exactly when it files what it revokes. -/
theorem Recorded.step_iff (hs : Recorded e.state) (hfiled : Filed e.state)
    (h : e.step config op = some (e', answer)) :
    Recorded e'.state ↔ ¬ Misfiles config.limits e.state op := by
  refine ⟨fun hs' hop => ?_, fun hop => hs.step hfiled hop h⟩
  cases hop with
  | recovery recovers disagrees =>
    obtain ⟨now, epoch, authority, -, -, rfl⟩ := step_recovered h recovers
    exact disagrees ((recovered_recorded_iff config now epoch authority _).1 hs')
  | @transition request record next requests event checks =>
    obtain ⟨_, haccepted⟩ := State.transitionChecks_ok checks
    have hnext := haccepted.next
    rw [event] at hnext
    have hunrevoked : record.policy.lifecycle ≠ .revoked := fun hrevoked => by
      rw [hrevoked, applyPolicyEvent_terminal rfl] at hnext
      cases hnext
    have hstate : e'.state = (e.state.transitionPolicy request).1 := by
      cases op with
      | transitionPolicy => cases requests; cases h; rfl
      | revalidate => cases requests; cases h; rfl
      | _ => cases requests
    rw [hstate, transitionPolicy_moves checks (by rw [event]; nofun)] at hs'
    have haccounts := hs' request.policy _ Std.ExtTreeMap.getElem?_insert_self
    have hfiled' := haccounts.revoked.1 (applyPolicyEvent_revoke hnext)
    exact hunrevoked ((hs request.policy record haccepted.found).revoked.2 hfiled')

/-- The store of an engine whose revocations are recorded agrees with its policies. -/
theorem Recorded.stored {s : State} (hs : Recorded s) (hkeyed : Keyed s) (hfiled : Filed s)
    (saved : Ticks) : (s.buildDurable saved).stored.Accounted := by
  refine (recovered_recorded_iff {} 0 .first .first _).1 fun policy record' hrecord' => ?_
  rw [recovered_policies {} saved 0 .first .first hkeyed hfiled] at hrecord'
  obtain ⟨record, hrecord, rfl⟩ := Option.map_eq_some_iff.1 hrecord'
  rw [recovered_revocations {} saved 0 .first .first hkeyed hfiled]
  have haccounts : Accounts record.policy s.revocations[policy]? s.revocations[policy]? := by
    have hrecorded := hs policy record hrecord
    rwa [hrecorded.same] at hrecorded
  exact haccounts.of_same (recoveredRecord_revoked _ _) fun _ => recoveredRecord_generation _ _

theorem Misfiles.not_of {limits : Limits} {s : State}
    (htransition : (op.transition.all fun request => request.event != .revoke) = true)
    (hrecovers : op.recovers limits = none) : ¬ Misfiles limits s op := by
  intro h
  cases h with
  | transition requests event => simp [requests, event] at htransition
  | recovery recovers =>
    rw [hrecovers] at recovers
    cases recovers

end

/-- In every run that revokes no policy by a mere lifecycle event, and recovers only stores whose
revocations agree with their policies, a policy is revoked exactly when a revocation is filed for it,
which its record carries too and which names its generation. The stores such an engine writes agree,
and the first step that misfiles ends it. -/
theorem revocations_are_recorded {config : EngineConfig} {nonce : Text} {e : Engine}
    (hrun : RunUnder config (fun e op => ¬ Misfiles config.limits e.state op)
      (Engine.start config nonce) e) :
    Recorded e.state ∧ (∀ saved, (e.state.buildDurable saved).stored.Accounted) ∧
      ∀ (e' : Engine) (op : Op) (answer : Answer), e.step config op = some (e', answer) →
        (Recorded e'.state ↔ ¬ Misfiles config.limits e.state op) := by
  have hreachable : Reachable config e := ⟨nonce, hrun.mono fun _ _ _ => trivial⟩
  have hfiled : Filed (Engine.start config nonce).state :=
    fun policy revocation hfiled => by simp [Engine.start] at hfiled
  have hrecorded : Recorded e.state :=
    hrun.inv_under (I := fun e => Recorded e.state) (J := fun e => Filed e.state)
      (fun _ _ _ _ _ hs hstep => hs.step hstep)
      (fun _ _ _ _ hop hfiled hs hstep => hs.step hfiled hop hstep) hfiled
      fun policy record hrecord => by simp [Engine.start] at hrecord
  exact ⟨hrecorded, hrecorded.stored (Keyed.reachable hreachable) (Filed.reachable hreachable),
    fun _ _ _ hstep => hrecorded.step_iff (Filed.reachable hreachable) hstep⟩

open Scenario in
/-- A policy is created and revoked: the revocation is filed and its record carries it. -/
theorem revoked_policy_is_recorded :
    let revoke : Op := .revokePolicy
      { policy, reason := .security, context := context 1 "revoke" }
    ∃ record, (after (created ++ [revoke])).state.policies[policy]? = some record ∧
      record.policy.lifecycle = .revoked ∧ record.revocation.isSome = true ∧
      record.revocation = (after (created ++ [revoke])).state.revocations[policy]? := by
  intro revoke
  obtain ⟨_, hregister⟩ := step_after [] register (by decide +kernel)
  obtain ⟨_, hcreate⟩ := step_after [register] (.createPolicy 0 (create 1)) (by decide +kernel)
  obtain ⟨_, hrevoke⟩ := step_after created revoke (by decide +kernel)
  have hrun : RunUnder config (fun e op => ¬ Misfiles config.limits e.state op) engine
      (after (created ++ [revoke])) :=
    (((Runs.Run.refl _).tail (Misfiles.not_of rfl rfl) hregister).tail (Misfiles.not_of rfl rfl)
      hcreate).tail (Misfiles.not_of rfl rfl) hrevoke
  obtain ⟨hrecorded, -⟩ := @revocations_are_recorded config "n" _ hrun
  have hlifecycle : lifecycleAfter (created ++ [revoke]) = some .revoked := by decide +kernel
  obtain ⟨record, hrecord, hrevoked⟩ := Option.map_eq_some_iff.1 hlifecycle
  have haccounts := hrecorded policy record hrecord
  refine ⟨record, hrecord, hrevoked, ?_, haccounts.same⟩
  rw [haccounts.same]
  exact haccounts.revoked.1 hrevoked

open Scenario in
/-- A lifecycle event revokes a policy, and no revocation says why. -/
theorem revoked_by_event_is_unrecorded :
    let revoke : Op := .transitionPolicy { policy, event := .revoke, context := context 1 "revoke" }
    Reachable config (after (created ++ [revoke])) ∧
      ∃ record, (after (created ++ [revoke])).state.policies[policy]? = some record ∧
        record.policy.lifecycle = .revoked ∧ record.revocation = none ∧
        (after (created ++ [revoke])).state.revocations[policy]? = none := by
  intro revoke
  have hfacts : ((after (created ++ [revoke])).state.policies[policy]?).map
      (fun record => (record.policy.lifecycle, record.revocation)) = some (.revoked, none) := by
    decide +kernel
  obtain ⟨record, hrecord, hsame⟩ := Option.map_eq_some_iff.1 hfacts
  obtain ⟨hlifecycle, hrevocation⟩ := Prod.mk.inj hsame
  exact ⟨reachable_after (by decide +kernel), record, hrecord, hlifecycle, hrevocation,
    by decide +kernel⟩

end AdaptiveRouting
