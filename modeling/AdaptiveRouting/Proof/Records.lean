import AdaptiveRouting.Proof.Standing

/-!
# Policy records

What becomes of one policy's record in a step without a recovery (`step_record`), and the invariants
of the records over runs: every record is kept under the identity of its policy (`Keyed`), with its
candidates in the strict order of their paths (`Ordered`).
-/

namespace AdaptiveRouting

open Guard Engine

/-! ## Every record -/

/-- Every record has a property, which may name its policy. -/
def Everywhere (P : AdaptivePolicyId → PolicyRecord → Prop) (s : State) : Prop :=
  ∀ (policy : AdaptivePolicyId) (record : PolicyRecord), s.policies[policy]? = some record →
    P policy record

/-- What recovery does to the record of a policy the store names. -/
inductive Restoration (limits : Limits) (now : Ticks) (d : DurableState) :
    AdaptivePolicyId → (PolicyRecord → PolicyRecord) → Prop
  | preference {entry : AdaptivePolicyId × RoutingPreference} (stored : entry ∈ d.preferences) :
      Restoration limits now d entry.1 fun record => { record with
        preference := { entry.2 with provenance := { entry.2.provenance with cause := .recovered } } }
  | stable {entry : AdaptivePolicyId × StableState} (stored : entry ∈ d.stableStates) :
      Restoration limits now d entry.1 fun record => { record with stable := entry.2 }
  | timing {timing : DurableTiming} (stored : timing ∈ d.timings) :
      Restoration limits now d timing.policy fun record => { record with
        timing :=
          { holdDownActive := timing.holdDownActive
            holdDownDeadline := now + timing.holdDownRemaining
            holdDownLockedPath := timing.holdDownLockedPath
            cooldownActive := timing.cooldownActive
            cooldownDeadline := now + timing.cooldownRemaining
            dampeningPenalty := timing.dampeningPenalty
            dampeningLastDecay := now + timing.dampeningDecayRemaining
            churnCommits := record.timing.churnCommits ++
              timing.churnAges.map fun age => if now ≥ age then now - age else 0 } }
  | revocation {revocation : RevocationRecord} (stored : revocation ∈ d.revocations) :
      Restoration limits now d revocation.policy fun record =>
        { record with revocation := some revocation }
  | history {entry : AdaptivePolicyId × AdaptationRecord} (stored : entry ∈ d.history) :
      Restoration limits now d entry.1 fun owner => { owner with
        history := keepLast limits.maxHistoryPerPolicy (owner.history ++ [entry.2]) }

section
variable {P : AdaptivePolicyId → PolicyRecord → Prop} {s : State}

theorem Everywhere.edit (hs : Everywhere P s) (policy : AdaptivePolicyId)
    {f : PolicyRecord → PolicyRecord} (hf : ∀ record, P policy record → P policy (f record)) :
    Everywhere P (s.editRecord policy f) := by
  intro other record hrecord
  by_cases ho : policy = other
  · subst ho
    change (s.policies.modify policy f)[policy]? = some record at hrecord
    rw [Std.ExtTreeMap.getElem?_modify_self, Option.map_eq_some_iff] at hrecord
    obtain ⟨before, hbefore, rfl⟩ := hrecord
    exact hf before (hs policy before hbefore)
  · exact hs other record (by rw [← hrecord]; exact (get_modify_ne ho).symm)

theorem Everywhere.restorePolicy (hs : Everywhere P s) {conservative : Bool} {source : AdaptivePolicy}
    (hsource : P source.id (State.recoveredRecord conservative source)) :
    Everywhere P (s.restorePolicy conservative source) := by
  intro policy record hrecord
  change (s.policies.insertIfNew _ _)[policy]? = some record at hrecord
  rw [Std.ExtTreeMap.getElem?_insertIfNew] at hrecord
  split at hrecord
  · rename_i hid
    cases hrecord
    exact Std.LawfulEqCmp.eq_of_compare hid.1 ▸ hsource
  · exact hs policy record hrecord

/-- Every recovered record has what the timings of the store make of what the policies are recovered
with, when the other restorations keep both. -/
theorem Everywhere.recovered_timed {Q : AdaptivePolicyId → PolicyRecord → Prop}
    {config : EngineConfig} {now : Ticks} {d : DurableState} {epoch : CoordinatorEpoch}
    {authority : AdaptiveAuthorityGeneration}
    (hpolicies : ∀ source ∈ d.policies,
      Q source.id (State.recoveredRecord config.conservativeRecovery source))
    (hkeeps : ∀ policy f record, Restoration config.limits now d policy f →
      (f record).timing = record.timing →
      (Q policy record → Q policy (f record)) ∧ (P policy record → P policy (f record)))
    (htimings : ∀ s, Everywhere Q s → Everywhere P (d.timings.foldl (State.restoreTiming now) s)) :
    Everywhere P (State.recoveredState config now d epoch authority) := by
  unfold State.recoveredState
  dsimp only
  have hreindexed := foldl_keeps State.policies
    fun s policy => State.reindexPolicy_policies s config.limits policy
  unfold Everywhere
  rw [hreindexed]
  change Everywhere P (d.history.foldl (State.restoreHistory config.limits) _)
  refine List.foldlRecOn _ _ (List.foldlRecOn _ _ (htimings _ (List.foldlRecOn _ _
    (List.foldlRecOn _ _ (List.foldlRecOn _ _ ?_ fun s hs source hsource => ?_)
    fun s hs entry hentry => ?_) fun s hs entry hentry => ?_))
    fun s hs revocation hrevocation => ?_) fun s hs entry hentry => ?_
  · intro policy record hrecord
    simp at hrecord
  · exact hs.restorePolicy (hpolicies source hsource)
  · exact hs.edit entry.1 fun record => (hkeeps _ _ record (.preference hentry) rfl).1
  · exact hs.edit entry.1 fun record => (hkeeps _ _ record (.stable hentry) rfl).1
  · unfold State.restoreRevocation
    split
    · exact hs.edit revocation.policy fun record => (hkeeps _ _ record (.revocation hrevocation) rfl).2
    · exact hs
  · exact hs.edit entry.1 fun record => (hkeeps _ _ record (.history hentry) rfl).2

/-- Every recovered record has what the policies of the store are recovered with, and what the
restorations keep. -/
theorem Everywhere.recovered {config : EngineConfig} {now : Ticks} {d : DurableState}
    {epoch : CoordinatorEpoch} {authority : AdaptiveAuthorityGeneration}
    (hpolicies : ∀ source ∈ d.policies,
      P source.id (State.recoveredRecord config.conservativeRecovery source))
    (hedits : ∀ policy f record, Restoration config.limits now d policy f → P policy record →
      P policy (f record)) :
    Everywhere P (State.recoveredState config now d epoch authority) :=
  .recovered_timed hpolicies
    (fun policy f record hrestores _ => ⟨hedits policy f record hrestores, hedits policy f record hrestores⟩)
    fun _ hs => List.foldlRecOn _ _ hs fun _ hs timing htiming =>
      hs.edit timing.policy fun record => hedits _ _ record (.timing htiming)

end

/-- Every record holds a policy recovered from the list, without candidates. -/
def RecoveredFrom (sources : List AdaptivePolicy) (conservative : Bool) : State → Prop :=
  Everywhere fun policy record => ∃ source ∈ sources, source.id = policy ∧
    record.policy = (State.recoveredRecord conservative source).policy ∧ record.candidates = []

/-- The policies recovery installs are those of the store, in their recovered form. -/
theorem recoveredState_from (config : EngineConfig) (now : Ticks) (d : DurableState)
    (epoch : CoordinatorEpoch) (authority : AdaptiveAuthorityGeneration) :
    RecoveredFrom d.policies config.conservativeRecovery
      (State.recoveredState config now d epoch authority) :=
  .recovered (fun source hsource => ⟨source, hsource, rfl, rfl, rfl⟩)
    fun policy f record hrestores hr => by cases hrestores <;> exact hr

/-! ## One record -/

section
variable {config : EngineConfig} {e e' : Engine} {op : Op} {answer : Answer}
  {policy : AdaptivePolicyId} {record : PolicyRecord}

/-- What an operation that recovers no store makes of the record of one policy. -/
inductive RecordChange (config : EngineConfig) (e : Engine) (op : Op) (policy : AdaptivePolicyId)
    (record : PolicyRecord) : PolicyRecord → Prop
  | kept : RecordChange config e op policy record record
  | rewritten {record' : PolicyRecord} (rewrites : Rewrites config.limits e op policy record record') :
      RecordChange config e op policy record record'
  | advanced {reason : Text} (advances : op = .advanceEpoch reason) :
      RecordChange config e op policy record (State.requireRevalidation record)
  | notified {request : UpstreamNotifyRequest} {fingerprint : Text} {record' : PolicyRecord}
      (notifies : op = .applyUpstream request)
      (checks : e.state.upstreamChecks config.limits request = .ok fingerprint)
      (reached : (State.applyNotifications config.limits request.context e.state
        request.notifications).1.policies[policy]? = some record')
      (frame : record'.frame = record.frame) :
      RecordChange config e op policy record record'

/-- A record is there after the step, and changed in one of the ways of `RecordChange`. -/
theorem step_record (h : e.step config op = some (e', answer))
    (hop : op.recovers config.limits = none) (hrecord : e.state.policies[policy]? = some record) :
    ∃ record', e'.state.policies[policy]? = some record' ∧
      RecordChange config e op policy record record' := by
  have hchange := step_policies h
  generalize e'.state.policies = policies at hchange ⊢
  cases hchange with
  | kept => exact ⟨record, hrecord, .kept⟩
  | @rewritten subject before after found rewrites =>
    by_cases hsubject : subject = policy
    · subst hsubject
      rw [hrecord] at found
      cases found
      exact ⟨after, Std.ExtTreeMap.getElem?_insert_self, .rewritten rewrites⟩
    · exact ⟨record, by rw [get_insert_ne hsubject, hrecord], .kept⟩
  | created => exact ⟨record, get_insertIfNew hrecord, .kept⟩
  | advanced advances =>
    refine ⟨State.requireRevalidation record, ?_, .advanced advances⟩
    rw [Std.ExtTreeMap.getElem?_map, hrecord, Option.map_some]
  | @notified request _ notifies checks =>
    have hframe := State.applyNotifications_frame config.limits request.context e.state
      request.notifications policy
    rw [hrecord, Option.map_some, Option.map_eq_some_iff] at hframe
    obtain ⟨after, hafter, hsame⟩ := hframe
    exact ⟨after, hafter, .notified notifies checks hafter hsame⟩
  | recovered decodes admissible =>
    subst decodes
    simp [Op.recovers, admissible] at hop

end

/-! ## Steps -/

/-- What a step asks of a property of every record: what is written, added, advanced, amended and
recovered has it. -/
structure Preserves (config : EngineConfig) (e : Engine) (op : Op)
    (P : AdaptivePolicyId → PolicyRecord → Prop) : Prop where
  rewrites : ∀ policy record record', Rewrites config.limits e op policy record record' →
    P policy record → P policy record'
  creates : ∀ now request fingerprint (id : AdaptivePolicyId),
    e.state.createChecks config.limits request = .ok fingerprint →
    P id (e.state.newRecord now id request)
  advances : ∀ policy record, P policy record → P policy (State.requireRevalidation record)
  amends : ∀ (s : State) n policy record record', n.binding.wellFormed = true →
    s.Amends n policy record record' → P policy record → P policy record'
  recovers : ∀ now durable epoch authority, op.recovers config.limits = some durable →
    Everywhere P (State.recoveredState config now durable epoch authority)

section
variable {config : EngineConfig} {e e' : Engine} {op : Op} {answer : Answer}
  {P : AdaptivePolicyId → PolicyRecord → Prop}

theorem Everywhere.applyNotifications (limits : Limits) (context : MutationContext) {s : State}
    (hs : Everywhere P s) (hamends : ∀ (s : State) n policy record record',
      n.binding.wellFormed = true → s.Amends n policy record record' → P policy record →
      P policy record') (notifications : List UpstreamNotification) :
    Everywhere P (State.applyNotifications limits context s notifications).1 := by
  refine State.applyNotifications_rel (R := fun s s' => Everywhere P s → Everywhere P s')
    (fun _ => id) (fun h₁ h₂ h => h₂ (h₁ h)) (fun s n s' happly hs policy record' hrecord' => ?_)
    notifications s hs
  obtain ⟨record, _, haccepted, happlies⟩ := State.applyNotification_ok happly
  have hframe := happlies.frame haccepted.found policy
  rw [hrecord', Option.map_some, eq_comm, Option.map_eq_some_iff] at hframe
  obtain ⟨before, hbefore, -⟩ := hframe
  obtain ⟨after, hafter, hchange⟩ := happlies.record haccepted.found hbefore
  rw [hrecord'] at hafter
  cases hafter
  exact hamends s n policy before record' (State.applyNotification_formed happly) hchange
    (hs policy before hbefore)

theorem Everywhere.step (hs : Everywhere P e.state) (hkeeps : Preserves config e op P)
    (h : e.step config op = some (e', answer)) : Everywhere P e'.state := by
  intro policy record hrecord
  have hchange := step_policies h
  generalize e'.state.policies = policies at hchange hrecord
  cases hchange with
  | kept => exact hs policy record hrecord
  | @rewritten subject before after found rewrites =>
    by_cases hsubject : subject = policy
    · subst hsubject
      rw [Std.ExtTreeMap.getElem?_insert_self] at hrecord
      cases hrecord
      exact hkeeps.rewrites _ _ _ rewrites (hs subject before found)
    · rw [get_insert_ne hsubject] at hrecord
      exact hs policy record hrecord
  | created _ checks =>
    rw [Std.ExtTreeMap.getElem?_insertIfNew] at hrecord
    split at hrecord
    · rename_i hfresh
      cases hrecord
      cases Std.LawfulEqCmp.eq_of_compare hfresh.1
      exact hkeeps.creates _ _ _ _ checks
    · exact hs policy record hrecord
  | advanced =>
    rw [Std.ExtTreeMap.getElem?_map, Option.map_eq_some_iff] at hrecord
    obtain ⟨before, hbefore, rfl⟩ := hrecord
    exact hkeeps.advances policy before (hs policy before hbefore)
  | @notified request =>
    exact hs.applyNotifications config.limits request.context hkeeps.amends request.notifications
      policy record hrecord
  | @recovered now durable origin epoch authority decodes admissible =>
    have hrecovers : op.recovers config.limits = some durable := by
      rw [decodes]
      exact if_pos admissible
    exact hkeeps.recovers now durable epoch authority hrecovers policy record hrecord

end

/-! ## Identities -/

/-- Every record is kept under the identity of its policy. -/
def Keyed (s : State) : Prop :=
  ∀ (policy : AdaptivePolicyId) (record : PolicyRecord), s.policies[policy]? = some record →
    record.policy.id = policy

section
variable {config : EngineConfig} {e e' : Engine} {op : Op} {answer : Answer}
  {policy : AdaptivePolicyId}

theorem Rewrites.id {limits : Limits} {record record' : PolicyRecord}
    (h : Rewrites limits e op policy record record') : record'.policy.id = record.policy.id := by
  cases h with
  | updated =>
    unfold State.updatedRecord
    dsimp only
    split <;> rfl
  | _ => rfl

theorem Keyed.step (hk : Keyed e.state) (h : e.step config op = some (e', answer)) :
    Keyed e'.state :=
  Everywhere.step (P := fun policy record => record.policy.id = policy) hk
    { rewrites := fun _ _ _ hrewrites hid => hrewrites.id.trans hid
      creates := fun _ _ _ _ _ => rfl
      advances := fun policy record hid => by
        rw [← hid]
        unfold State.requireRevalidation
        dsimp only
        split <;> rfl
      amends := fun _ _ policy record record' _ hamends hid => by
        rw [PolicyRecord.policy_of_frame hamends.frame, hid]
      recovers := fun now durable epoch authority _ policy record hrecord => by
        obtain ⟨source, -, hid, hpolicy, -⟩ :=
          recoveredState_from config now durable epoch authority policy record hrecord
        rw [hpolicy, ← hid]
        unfold State.recoveredRecord
        dsimp only
        split <;> rfl } h

theorem Keyed.reachable (h : Reachable config e) : Keyed e.state := by
  obtain ⟨nonce, hrun⟩ := h
  exact hrun.inv (I := fun e => Keyed e.state) (fun _ _ _ _ _ hk hstep => hk.step hstep)
    fun policy record hrecord => by simp [Engine.start] at hrecord

end

/-! ## Order -/

/-- The candidates stand in the strict order of their paths. -/
def PolicyRecord.Ordered (r : PolicyRecord) : Prop :=
  Search.Sorted (fun candidate : CandidateRecord => candidate.binding.path) r.candidates

/-- The candidates of every record do. -/
def Ordered (s : State) : Prop :=
  ∀ (policy : AdaptivePolicyId) (record : PolicyRecord), s.policies[policy]? = some record →
    record.Ordered

section
variable {config : EngineConfig} {e e' : Engine} {op : Op} {answer : Answer}

theorem PolicyRecord.Ordered.congr {r r' : PolicyRecord} (h : r.Ordered)
    (hpaths : r'.paths = r.paths) : r'.Ordered := by
  have hpairs : r'.paths.Pairwise fun a b => compare a b = .lt := hpaths ▸ List.pairwise_map.2 h
  exact List.pairwise_map.1 hpairs

/-- Sorting in a path that is not there keeps the order strict. -/
theorem PolicyRecord.Ordered.declare {r : PolicyRecord} {fresh : CandidateRecord} (h : r.Ordered)
    (hfresh : r.findCandidate fresh.binding.path = none) :
    ({ r with candidates := sortCandidates (r.candidates ++ [fresh]) } : PolicyRecord).Ordered := by
  have hnew := Search.findIdx_none h (PolicyRecord.candidateIdx_none hfresh)
  refine Search.sorted_insertionSort (List.pairwise_append.2
    ⟨h.imp fun hlt heq => ?_, List.pairwise_singleton .., fun a ha b hb heq => ?_⟩)
  · rw [hlt] at heq
    cases heq
  · rw [List.mem_singleton.1 hb] at heq
    exact hnew a ha (Std.LawfulEqCmp.eq_of_compare heq)

theorem State.Amends.ordered {s : State} {n : UpstreamNotification} {policy : AdaptivePolicyId}
    {r r' : PolicyRecord} (h : s.Amends n policy r r') (hr : r.Ordered) : r'.Ordered := by
  cases h with
  | declared fresh => exact hr.declare fresh
  | amended =>
    exact hr.congr (PolicyRecord.modifyCandidate_paths fun c hc =>
      State.amend_path (PolicyRecord.findCandidate_path hc))

theorem Rewrites.ordered {limits : Limits} {policy : AdaptivePolicyId} {record record' : PolicyRecord}
    (h : Rewrites limits e op policy record record') (hr : record.Ordered) : record'.Ordered := by
  cases h with
  | updated =>
    unfold State.updatedRecord
    dsimp only
    split
    · exact hr
    · exact List.Pairwise.nil
  | _ => exact hr

theorem Ordered.step (ho : Ordered e.state) (h : e.step config op = some (e', answer)) :
    Ordered e'.state :=
  Everywhere.step (P := fun _ record => record.Ordered) ho
    { rewrites := fun _ _ _ hrewrites => hrewrites.ordered
      creates := fun _ _ _ _ _ => .nil
      advances := fun _ _ hordered => hordered
      amends := fun _ _ _ _ _ _ hamends => hamends.ordered
      recovers := fun now durable epoch authority _ policy record hrecord => by
        obtain ⟨_, -, -, -, hnone⟩ :=
          recoveredState_from config now durable epoch authority policy record hrecord
        rw [PolicyRecord.Ordered, hnone]
        exact List.Pairwise.nil } h

theorem Ordered.reachable (h : Reachable config e) : Ordered e.state := by
  obtain ⟨nonce, hrun⟩ := h
  exact hrun.inv (I := fun e => Ordered e.state) (fun _ _ _ _ _ ho hstep => ho.step hstep)
    fun policy record hrecord => by simp [Engine.start] at hrecord

end

end AdaptiveRouting
