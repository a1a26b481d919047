import AdaptiveRouting.Lib.Pointwise
import AdaptiveRouting.Proof.Revocations

/-!
# Recovery of a written store

The state recovered from a store that an engine wrote, read policy by policy: each record is the
restored form of the record that was saved (`recovered_policies`), under the names (`recovered_names`)
and with the revocations (`recovered_revocations`) of the engine that wrote it.
-/

namespace AdaptiveRouting

open Engine Pointwise

/-! ## One step of a recovery, read at a policy -/

section
variable {β : Type}

/-- The records of a state, by policy. -/
def State.record (s : State) (policy : AdaptivePolicyId) : Option PolicyRecord := s.policies[policy]?

theorem editRecord_local (key : β → AdaptivePolicyId) (f : β → PolicyRecord → PolicyRecord) :
    Local State.record key (fun b record => record.map (f b))
      (fun s b => s.editRecord (key b) (f b)) := by
  intro s b policy
  show (s.policies.modify (key b) (f b))[policy]? = _
  by_cases hkey : key b = policy
  · subst hkey
    rw [if_pos rfl, Std.ExtTreeMap.getElem?_modify_self]
    rfl
  · rw [if_neg hkey, get_modify_ne hkey]
    rfl

theorem restorePolicy_local (conservative : Bool) :
    Local State.record AdaptivePolicy.id
      (fun policy record => some (record.getD (State.recoveredRecord conservative policy)))
      (State.restorePolicy conservative) := by
  intro s source policy
  show (s.policies.insertIfNew _ _)[policy]? = _
  by_cases hkey : source.id = policy
  · subst hkey
    rw [if_pos rfl]
    unfold State.record
    cases hrecord : s.policies[source.id]? with
    | none => rw [insertIfNew_get hrecord]; rfl
    | some record => rw [get_insertIfNew hrecord]; rfl
  · rw [if_neg hkey, Std.ExtTreeMap.getElem?_insertIfNew,
      if_neg fun hc => hkey (Std.LawfulEqCmp.eq_of_compare hc.1)]
    rfl

theorem restoreRevocation_local :
    Local State.record RevocationRecord.policy
      (fun revocation record => record.map fun record =>
        { record with revocation := some revocation }) State.restoreRevocation := by
  intro s revocation policy
  have hedit := editRecord_local RevocationRecord.policy
    (fun revocation record => { record with revocation := some revocation }) s revocation policy
  unfold State.restoreRevocation
  split
  · exact hedit
  · rename_i habsent
    split
    · rename_i hkey
      subst hkey
      have hnone : s.policies[revocation.policy]? = none := by
        rw [Std.ExtTreeMap.contains_eq_isSome_getElem?] at habsent
        exact Option.not_isSome_iff_eq_none.1 habsent
      rw [State.record, hnone]
      rfl
    · rfl

theorem restoreHistory_local (limits : Limits) :
    Local State.record Prod.fst
      (fun entry record => record.map fun owner => owner.remember limits entry.2)
      (State.restoreHistory limits) :=
  editRecord_local (β := AdaptivePolicyId × AdaptationRecord) Prod.fst
    fun entry owner => owner.remember limits entry.2

end

/-! ## Restored records -/

/-- The timing a recovery re-arms. -/
def DurableTiming.rearmed (timing : DurableTiming) (now : Ticks) : TimingState where
  holdDownActive := timing.holdDownActive
  holdDownDeadline := now + timing.holdDownRemaining
  holdDownLockedPath := timing.holdDownLockedPath
  cooldownActive := timing.cooldownActive
  cooldownDeadline := now + timing.cooldownRemaining
  dampeningPenalty := timing.dampeningPenalty
  dampeningLastDecay := now + timing.dampeningDecayRemaining
  churnCommits := timing.churnAges.map fun age => if now ≥ age then now - age else 0

theorem restoreTiming_local (now : Ticks) :
    Local State.record DurableTiming.policy
      (fun timing record => record.map fun record => { record with
        timing := { timing.rearmed now with
          churnCommits := record.timing.churnCommits ++ (timing.rearmed now).churnCommits } })
      (State.restoreTiming now) :=
  editRecord_local DurableTiming.policy fun timing record => { record with
    timing := { timing.rearmed now with
      churnCommits := record.timing.churnCommits ++ (timing.rearmed now).churnCommits } }

theorem restoreStable_local :
    Local State.record Prod.fst
      (fun entry record => record.map fun record => { record with stable := entry.2 })
      State.restoreStable :=
  editRecord_local (β := AdaptivePolicyId × StableState) Prod.fst
    fun entry record => { record with stable := entry.2 }

theorem restorePreference_local :
    Local State.record Prod.fst
      (fun entry record => record.map fun record => { record with
        preference := { entry.2 with provenance := { entry.2.provenance with cause := .recovered } } })
      State.restorePreference :=
  editRecord_local (β := AdaptivePolicyId × RoutingPreference) Prod.fst
    fun entry record => { record with
      preference := { entry.2 with provenance := { entry.2.provenance with cause := .recovered } } }

/-- A record saved at `saved` and recovered at `now`. -/
def restoredRecord (config : EngineConfig) (saved now : Ticks) (revocation : Option RevocationRecord)
    (policy : AdaptivePolicyId) (record : PolicyRecord) : PolicyRecord where
  policy := (State.recoveredRecord config.conservativeRecovery record.policy).policy
  preference := { record.preference with
    provenance := { record.preference.provenance with cause := .recovered } }
  stable := record.stable
  timing := (durableTiming saved policy record).rearmed now
  revocation := revocation
  history := keepLast config.limits.maxHistoryPerPolicy
    (record.history.map fun entry => { entry with committedAt := 0 })

theorem keepLast_keepLast {α : Type} (bound : UInt64) (queue more : List α) :
    keepLast bound (keepLast bound queue ++ more) = keepLast bound (queue ++ more) := by
  unfold keepLast
  rw [List.length_append, List.length_append, List.length_drop]
  rw [← List.drop_append_of_le_length (by omega), List.drop_drop]
  congr 1
  omega

section
variable (config : EngineConfig) {s : State} (saved now : Ticks) (epoch : CoordinatorEpoch)
  (authority : AdaptiveAuthorityGeneration)

/-- The history a record is given entry by entry. -/
theorem remember_all (limits : Limits) (policy : AdaptivePolicyId) (entries : List AdaptationRecord)
    (record : PolicyRecord) (queue : List AdaptationRecord)
    (hqueue : record.history = keepLast limits.maxHistoryPerPolicy queue) :
    (entries.map fun entry => (policy, entry)).foldl
        (fun (record : Option PolicyRecord) entry => record.map fun owner =>
          owner.remember limits entry.2) (some record) =
      some { record with
        history := keepLast limits.maxHistoryPerPolicy (queue ++ entries) } := by
  induction entries generalizing record queue with
  | nil =>
    rw [List.append_nil, ← hqueue]
    rfl
  | cons entry rest ih =>
    have hnext : (record.remember limits entry).history =
        keepLast limits.maxHistoryPerPolicy (queue ++ [entry]) := by
      show keepLast _ (record.history ++ [entry]) = _
      rw [hqueue, keepLast_keepLast]
    rw [List.map_cons, List.foldl_cons, Option.map_some, ih _ _ hnext, List.append_assoc]
    rfl

theorem remember_empty (limits : Limits) (policy : AdaptivePolicyId)
    (entries : List AdaptationRecord) (record : PolicyRecord) (hempty : record.history = []) :
    (entries.map fun entry => (policy, entry)).foldl
        (fun (record : Option PolicyRecord) entry => record.map fun owner =>
          owner.remember limits entry.2) (some record) =
      some { record with history := keepLast limits.maxHistoryPerPolicy entries } :=
  remember_all limits policy entries record [] (by simp [hempty, keepLast])

/-- The lists of a store, as what the entries of the tables contribute. -/
theorem stored_policies (s : State) (saved : Ticks) : (s.buildDurable saved).stored.policies =
    s.policies.toList.map fun entry => entry.2.policy := by
  show s.policies.values.map _ = _
  rw [values_eq, List.map_map]
  rfl

theorem stored_revocations (s : State) (saved : Ticks) : (s.buildDurable saved).stored.revocations =
    s.revocations.toList.map fun entry => entry.2 :=
  values_eq s.revocations

theorem stored_history (s : State) (saved : Ticks) : (s.buildDurable saved).stored.history =
    s.policies.toList.flatMap fun entry =>
      (entry.2.history.map fun record => { record with committedAt := 0 }).map (entry.1, ·) := by
  show (s.policies.toList.flatMap _).map _ = _
  rw [List.map_flatMap]
  simp only [List.map_map]
  rfl

/-- The state of a recovery ahead of its revocations and its history. -/
def State.recoveredBase (config : EngineConfig) (now : Ticks) (durable : DurableState)
    (epoch : CoordinatorEpoch) (authority : AdaptiveAuthorityGeneration) : State :=
  let s : State :=
    { epoch, authorityGeneration := authority, evidenceGeneration := durable.evidenceGeneration
      evidenceWatermark := durable.evidenceWatermark
      upstreamWatermark := durable.upstreamWatermark }
  let s := durable.policies.foldl (State.restorePolicy config.conservativeRecovery) s
  let s := durable.preferences.foldl State.restorePreference s
  let s := durable.stableStates.foldl State.restoreStable s
  durable.timings.foldl (State.restoreTiming now) s

theorem base_record (hkeyed : Keyed s) (policy : AdaptivePolicyId) :
    (State.recoveredBase config now (s.buildDurable saved).stored epoch authority).record policy =
      (s.policies[policy]?).map fun record =>
        { restoredRecord config saved now none policy record with history := [] } := by
  have hpolicy : ∀ entry ∈ s.policies.toList, entry.2.policy.id = entry.1 := fun entry hmem =>
    hkeyed _ _ (Std.ExtTreeMap.mem_toList_iff_getElem?_eq_some.1 hmem)
  have htimings : (s.buildDurable saved).stored.timings =
      s.policies.toList.map fun entry => durableTiming saved entry.1 entry.2 := rfl
  have hstables : (s.buildDurable saved).stored.stableStates =
      s.policies.toList.map fun entry => (entry.1, entry.2.stable) := rfl
  have hpreferences : (s.buildDurable saved).stored.preferences =
      s.policies.toList.map fun entry => (entry.1, entry.2.preference) := rfl
  have hstart (s₀ : State) (hempty : s₀.policies = {}) : s₀.record policy = none := by
    rw [State.record, hempty]
    simp
  unfold State.recoveredBase
  dsimp only
  rw [htimings, (restoreTiming_local now).foldl_table_map s.policies fun _ _ => rfl,
    hstables, restoreStable_local.foldl_table_map s.policies fun _ _ => rfl,
    hpreferences, restorePreference_local.foldl_table_map s.policies fun _ _ => rfl,
    stored_policies, (restorePolicy_local _).foldl_table_map s.policies hpolicy, hstart _ rfl]
  cases s.policies[policy]? <;> rfl

/-- Every record of the writing engine comes back in its restored form, and no other. -/
theorem recovered_policies (hkeyed : Keyed s) (hfiled : Filed s) (policy : AdaptivePolicyId) :
    (State.recoveredState config now (s.buildDurable saved).stored epoch authority).policies[policy]? =
      (s.policies[policy]?).map
        (restoredRecord config saved now s.revocations[policy]? policy) := by
  have hrevocation : ∀ entry ∈ s.revocations.toList, entry.2.policy = entry.1 := fun entry hmem =>
    (hfiled _ _ (Std.ExtTreeMap.mem_toList_iff_getElem?_eq_some.1 hmem)).1
  have hhistory : ∀ entry ∈ s.policies.toList, ∀ b ∈ (entry.2.history.map fun record =>
      { record with committedAt := 0 }).map (entry.1, ·), b.1 = entry.1 := by
    intro entry _ b hb
    obtain ⟨_, -, rfl⟩ := List.mem_map.1 hb
    rfl
  have hreindex := foldl_keeps State.policies
    fun s policy => State.reindexPolicy_policies s config.limits policy
  unfold State.recoveredState
  dsimp only
  rw [hreindex]
  show State.record (List.foldl _ _ _) policy = _
  rw [stored_history, (restoreHistory_local config.limits).foldl_table s.policies hhistory,
    stored_revocations, restoreRevocation_local.foldl_table_map s.revocations hrevocation]
  show List.foldl _ (Option.elim _
    (State.record (State.recoveredBase config now _ epoch authority) policy) fun _ => Option.map _
    (State.record (State.recoveredBase config now _ epoch authority) policy)) _ = _
  rw [base_record config saved now epoch authority hkeyed]
  cases s.policies[policy]? with
  | none => cases s.revocations[policy]? <;> rfl
  | some record =>
    cases s.revocations[policy]? with
    | none => exact remember_empty config.limits policy _ _ rfl
    | some revocation => exact remember_empty config.limits policy _ _ rfl

/-! ## Names and revocations -/

theorem restoreName_local (conservative : Bool) :
    Local (fun (s : State) (name : AdaptivePolicyName) => s.policyNames[name]?) AdaptivePolicy.name
      (fun policy id => some (id.getD policy.id)) (State.restorePolicy conservative) := by
  intro s source name
  show (s.policyNames.insertIfNew _ _)[name]? = _
  by_cases hkey : source.name = name
  · subst hkey
    rw [if_pos rfl]
    dsimp only
    cases hid : s.policyNames[source.name]? with
    | none => rw [insertIfNew_get hid]; rfl
    | some id => rw [get_insertIfNew hid]; rfl
  · rw [if_neg hkey, Std.ExtTreeMap.getElem?_insertIfNew,
      if_neg fun hc => hkey (Std.LawfulEqCmp.eq_of_compare hc.1)]

/-- The first policy of a name takes it. -/
theorem names_first (sources : List AdaptivePolicy) (id : Option AdaptivePolicyId) :
    sources.foldl (fun (id : Option AdaptivePolicyId) policy => some (id.getD policy.id)) id =
      id.or ((sources.head?).map AdaptivePolicy.id) := by
  induction sources generalizing id with
  | nil => simp
  | cons source rest ih =>
    rw [List.foldl_cons, ih]
    cases id <;> rfl

theorem base_names (durable : DurableState) (name : AdaptivePolicyName) :
    (State.recoveredBase config now durable epoch authority).policyNames[name]? =
      ((durable.policies.filter fun policy => policy.name = name).head?).map AdaptivePolicy.id := by
  unfold State.recoveredBase
  dsimp only
  rw [foldl_keeps (f := State.restoreTiming now) State.policyNames fun _ _ => rfl,
    foldl_keeps (f := State.restoreStable) State.policyNames fun _ _ => rfl,
    foldl_keeps (f := State.restorePreference) State.policyNames fun _ _ => rfl,
    (restoreName_local config.conservativeRecovery).foldl, names_first]
  simp

theorem base_revocations (durable : DurableState) :
    (State.recoveredBase config now durable epoch authority).revocations = {} := by
  unfold State.recoveredBase
  dsimp only
  rw [foldl_keeps (f := State.restoreTiming now) State.revocations fun _ _ => rfl,
    foldl_keeps (f := State.restoreStable) State.revocations fun _ _ => rfl,
    foldl_keeps (f := State.restorePreference) State.revocations fun _ _ => rfl,
    foldl_keeps (f := State.restorePolicy config.conservativeRecovery) State.revocations
      fun _ _ => rfl]

theorem recovered_directory (durable : DurableState) :
    (State.recoveredState config now durable epoch authority).directory =
      (durable.revocations.foldl State.restoreRevocation
        (State.recoveredBase config now durable epoch authority)).directory := by
  have hreindex := foldl_keeps State.directory
    fun s policy => State.reindexPolicy_directory s config.limits policy
  unfold State.recoveredState
  dsimp only
  rw [hreindex]
  exact foldl_keeps (f := State.restoreHistory config.limits) State.directory (fun _ _ => rfl) _ _

/-- A name leads to the first policy of the store under it. -/
theorem recovered_names (durable : DurableState) (name : AdaptivePolicyName) :
    (State.recoveredState config now durable epoch authority).policyNames[name]? =
      ((durable.policies.filter fun policy => policy.name = name).head?).map AdaptivePolicy.id := by
  have hkept (s₀ : State) : (durable.revocations.foldl State.restoreRevocation s₀).policyNames =
      s₀.policyNames :=
    foldl_keeps (f := State.restoreRevocation) State.policyNames
      (fun s revocation => by unfold State.restoreRevocation; split <;> rfl) _ _
  have hdirectory := recovered_directory config now epoch authority durable
  rw [State.policyNames_of_directory hdirectory, hkept, base_names]

/-- The revocations with whether their policies are there. -/
theorem restoreRevocation_filed :
    Local (fun (s : State) (policy : AdaptivePolicyId) =>
        (s.revocations[policy]?, s.policies.contains policy)) RevocationRecord.policy
      (fun revocation entry =>
        (if entry.2 then some (entry.1.getD revocation) else entry.1, entry.2))
      State.restoreRevocation := by
  intro s revocation policy
  have hcontains (there : s.policies.contains revocation.policy = true) :
      (s.restoreRevocation revocation).policies.contains policy = s.policies.contains policy := by
    unfold State.restoreRevocation
    rw [if_pos there]
    exact Std.ExtTreeMap.contains_modify
  by_cases hthere : s.policies.contains revocation.policy = true
  · refine Prod.ext ?_ ?_
    · have hwrites : (s.restoreRevocation revocation).revocations =
          s.revocations.insertIfNew revocation.policy revocation := by
        unfold State.restoreRevocation
        rw [if_pos hthere]
      show (s.restoreRevocation revocation).revocations[policy]? = _
      rw [hwrites]
      by_cases hkey : revocation.policy = policy
      · subst hkey
        simp only [if_true, hthere]
        cases hold : s.revocations[revocation.policy]? with
        | none => rw [insertIfNew_get hold]; rfl
        | some old => rw [get_insertIfNew hold]; rfl
      · rw [if_neg hkey, Std.ExtTreeMap.getElem?_insertIfNew,
          if_neg fun hc => hkey (Std.LawfulEqCmp.eq_of_compare hc.1)]
    · show (s.restoreRevocation revocation).policies.contains policy = _
      rw [hcontains hthere]
      split <;> rfl
  · have hsame : s.restoreRevocation revocation = s := by
      unfold State.restoreRevocation
      rw [if_neg hthere]
    rw [hsame]
    by_cases hkey : revocation.policy = policy
    · subst hkey
      simp [hthere]
    · rw [if_neg hkey]

/-- The revocations of the writing engine come back. -/
theorem recovered_revocations (hkeyed : Keyed s) (hfiled : Filed s) (policy : AdaptivePolicyId) :
    (State.recoveredState config now (s.buildDurable saved).stored epoch
      authority).revocations[policy]? = s.revocations[policy]? := by
  have hrevocation : ∀ entry ∈ s.revocations.toList, entry.2.policy = entry.1 := fun entry hmem =>
    (hfiled _ _ (Std.ExtTreeMap.mem_toList_iff_getElem?_eq_some.1 hmem)).1
  have hdirectory := recovered_directory config now epoch authority (s.buildDurable saved).stored
  have hfold := congrArg Prod.fst (restoreRevocation_filed.foldl_table_map s.revocations hrevocation
    (State.recoveredBase config now (s.buildDurable saved).stored epoch authority) policy)
  have hthere : (State.recoveredBase config now (s.buildDurable saved).stored epoch
      authority).policies.contains policy = (s.policies[policy]?).isSome := by
    rw [Std.ExtTreeMap.contains_eq_isSome_getElem?]
    have hbase := base_record config saved now epoch authority hkeyed policy
    rw [State.record] at hbase
    rw [hbase, Option.isSome_map]
  rw [State.revocations_of_directory hdirectory, stored_revocations]
  refine hfold.trans ?_
  rw [base_revocations, hthere]
  cases hfound : s.revocations[policy]? with
  | none => simp
  | some revocation =>
    have hmem : (s.policies[policy]?).isSome = true :=
      Std.ExtTreeMap.isSome_getElem?_iff_mem.2 (hfiled policy revocation hfound).2
    simp [hmem]

end

/-- A record that recovery installs is the restored form of the one that was saved. -/
theorem step_restored {config : EngineConfig} {e e' : Engine} {op : Op} {answer : Answer}
    {s : State} {saved : Ticks} {policy : AdaptivePolicyId} {record : PolicyRecord}
    (h : e.step config op = some (e', answer)) (hkeyed : Keyed s) (hfiled : Filed s)
    (hop : op.recovers config.limits = some (s.buildDurable saved).stored)
    (hrecord : e'.state.policies[policy]? = some record) :
    ∃ now before, s.policies[policy]? = some before ∧
      record = restoredRecord config saved now s.revocations[policy]? policy before := by
  obtain ⟨now, epoch, authority, -, -, rfl⟩ := step_recovered h hop
  change (State.recoveredState ..).policies[policy]? = some record at hrecord
  rw [recovered_policies _ _ _ _ _ hkeyed hfiled] at hrecord
  obtain ⟨before, hbefore, rfl⟩ := Option.map_eq_some_iff.1 hrecord
  exact ⟨now, before, hbefore, rfl⟩

/-! ## Deployments -/

/-- The engines of a deployment whose steps meet a condition: each starts on its own, and recovers
stores that engines of the deployment wrote. -/
inductive Hosted (ok : EngineConfig → Engine → Op → Prop) : EngineConfig → Engine → Prop
  | start (config : EngineConfig) (nonce : Text) : Hosted ok config (Engine.start config nonce)
  | step {config : EngineConfig} {e e' : Engine} {op : Op} {answer : Answer}
      (hosted : Hosted ok config e) (meets : ok config e op)
      (recovers : op.recovers config.limits = none) (steps : e.step config op = some (e', answer)) :
      Hosted ok config e'
  | recover {config writing : EngineConfig} {e e' writer : Engine} {op : Op} {answer : Answer}
      {saved : Ticks} (hosted : Hosted ok config e) (written : Hosted ok writing writer)
      (meets : ok config e op)
      (recovers : op.recovers config.limits = some (writer.state.buildDurable saved).stored)
      (steps : e.step config op = some (e', answer)) : Hosted ok config e'

theorem Hosted.mono {ok ok' : EngineConfig → Engine → Op → Prop} {config : EngineConfig} {e : Engine}
    (h : Hosted ok config e) (himp : ∀ config e op, ok config e op → ok' config e op) :
    Hosted ok' config e := by
  induction h with
  | start config nonce => exact .start config nonce
  | step _ meets recovers steps ih => exact .step ih (himp _ _ _ meets) recovers steps
  | recover _ _ meets recovers steps hosted written =>
    exact .recover hosted written (himp _ _ _ meets) recovers steps

/-- What every step keeps, the engines of a deployment have. -/
theorem Hosted.inv {ok : EngineConfig → Engine → Op → Prop} {config : EngineConfig} {e : Engine}
    {I : State → Prop} (h : Hosted ok config e)
    (h₀ : ∀ (config : EngineConfig) (nonce : Text), I (Engine.start config nonce).state)
    (hstep : ∀ (config : EngineConfig) (e : Engine) (op : Op) (e' : Engine) (answer : Answer),
      I e.state → e.step config op = some (e', answer) → I e'.state) : I e.state := by
  induction h with
  | start config nonce => exact h₀ config nonce
  | step _ _ _ steps ih => exact hstep _ _ _ _ _ ih steps
  | recover _ _ _ _ steps ih _ => exact hstep _ _ _ _ _ ih steps

theorem Hosted.keyed {ok : EngineConfig → Engine → Op → Prop} {config : EngineConfig} {e : Engine}
    (h : Hosted ok config e) : Keyed e.state :=
  h.inv (I := Keyed) (fun _ _ policy record hrecord => by simp [Engine.start] at hrecord)
    fun _ _ _ _ _ hs hstep => hs.step hstep

theorem Hosted.filed {ok : EngineConfig → Engine → Op → Prop} {config : EngineConfig} {e : Engine}
    (h : Hosted ok config e) : Filed e.state :=
  h.inv (I := Filed) (fun _ _ policy revocation hfiled => by simp [Engine.start] at hfiled)
    fun _ _ _ _ _ hs hstep => hs.step hstep

/-- What the steps of a deployment keep of the records and the restored records inherit, its engines
have. -/
theorem Hosted.records {ok : EngineConfig → Engine → Op → Prop} {config : EngineConfig} {e : Engine}
    {P : AdaptivePolicyId → PolicyRecord → Prop} (h : Hosted ok config e)
    (hstep : ∀ (config : EngineConfig) (e : Engine) (op : Op) (e' : Engine) (answer : Answer),
      Hosted ok config e → ok config e op → op.recovers config.limits = none →
      e.step config op = some (e', answer) → Everywhere P e.state → Everywhere P e'.state)
    (hrestored : ∀ (config : EngineConfig) (saved now : Ticks)
      (revocation : Option RevocationRecord) (policy : AdaptivePolicyId) (record : PolicyRecord),
      P policy record → P policy (restoredRecord config saved now revocation policy record)) :
    Everywhere P e.state := by
  induction h with
  | start config nonce =>
    intro policy record hrecord
    simp [Engine.start] at hrecord
  | step hosted meets recovers steps ih => exact hstep _ _ _ _ _ hosted meets recovers steps ih
  | recover _ written _ recovers steps _ ih =>
    intro policy record hrecord
    obtain ⟨now, before, hbefore, rfl⟩ :=
      step_restored steps written.keyed written.filed recovers hrecord
    exact hrestored _ _ _ _ _ _ (ih policy before hbefore)

/-- What every step keeps of the records, and the restored records inherit, the engines of a deployment
have. -/
theorem Hosted.everywhere {ok : EngineConfig → Engine → Op → Prop} {config : EngineConfig}
    {e : Engine} {P : PolicyRecord → Prop} (h : Hosted ok config e)
    (hstep : ∀ (config : EngineConfig) (e : Engine) (op : Op) (e' : Engine) (answer : Answer),
      Hosted ok config e → op.recovers config.limits = none →
      e.step config op = some (e', answer) → Everywhere (fun _ record => P record) e.state →
      Everywhere (fun _ record => P record) e'.state)
    (hrestored : ∀ (config : EngineConfig) (saved now : Ticks)
      (revocation : Option RevocationRecord) (policy : AdaptivePolicyId) (record : PolicyRecord),
      P record → P (restoredRecord config saved now revocation policy record)) :
    Everywhere (fun _ record => P record) e.state :=
  h.records (fun config e op e' answer hosted _ => hstep config e op e' answer hosted) hrestored

end AdaptiveRouting
