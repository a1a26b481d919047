import AdaptiveRouting.Proof.Bindings
import AdaptiveRouting.Proof.Scenario
import AdaptiveRouting.Proof.Timing

/-!
# Placed candidates

The candidates of a policy stand in the strict order of their paths, and each binding belongs where
it stands: its path authority to its path, its route and its set to the policy's target, its site and
its class to the policy's scope (`Placed`). Two operations misplace a binding: a notification that
writes the authority of another path, and an update to a scope that excludes a candidate the policy
keeps (`Misplaces`).
-/

namespace AdaptiveRouting

open Guard Engine

/-- The binding belongs to the target, and the scope admits its site and its class. -/
structure Admitted (scope : PolicyScope) (target : PolicyTarget) (b : CandidateBinding) : Prop where
  route : b.route.route = target.route
  set : ∀ multipath set, b.multipath = some multipath → target.multipathSet = some set →
    multipath.set = set
  site : scope.coversSite (some b.route.site) = true
  pathClass : scope.coversPathClass b.pathClass = true

/-- And its path authority is about its path. -/
structure Placed (scope : PolicyScope) (target : PolicyTarget) (b : CandidateBinding) : Prop
    extends Admitted scope target b where
  authority : b.pathAuthority.path = b.path

/-- Every binding of the record is placed. -/
def PolicyRecord.Placed (r : PolicyRecord) : Prop :=
  ∀ candidate ∈ r.candidates,
    AdaptiveRouting.Placed r.policy.scope r.policy.semantics.target candidate.binding

/-- The candidates of every policy are in order and placed. -/
def Placement (s : State) : Prop :=
  ∀ (policy : AdaptivePolicyId) (record : PolicyRecord), s.policies[policy]? = some record →
    record.Ordered ∧ record.Placed

/-! ## Notifications -/

/-- It writes the authority of another path. -/
def UpstreamNotification.Foreign (n : UpstreamNotification) : Prop :=
  n.event.writesAuthority = true ∧ n.binding.pathAuthority.path ≠ n.binding.path

theorem State.notificationChecks_admits {s : State} {context : MutationContext}
    {n : UpstreamNotification} {record : PolicyRecord}
    (h : s.notificationChecks context n = .ok record) :
    Admitted record.policy.scope record.policy.semantics.target n.binding := by
  unfold notificationChecks at h
  obtain ⟨-, h⟩ := seq_ok h
  obtain ⟨found, -, h⟩ := bind_ok h
  obtain ⟨-, h⟩ := seq_ok h
  obtain ⟨-, h⟩ := seq_ok h
  obtain ⟨-, h⟩ := seq_ok h
  obtain ⟨-, h⟩ := seq_ok h
  obtain ⟨-, h⟩ := seq_ok h
  obtain ⟨-, h⟩ := seq_ok h
  obtain ⟨_, -, h⟩ := bind_ok h
  obtain ⟨hset, h⟩ := seq_ok h
  obtain ⟨hroute, h⟩ := seq_ok h
  obtain ⟨hsite, h⟩ := seq_ok h
  obtain ⟨hclass, h⟩ := seq_ok h
  cases h
  refine ⟨by simpa using hroute, fun multipath set hmultipath htarget => ?_, ?_, by simpa using hclass⟩
  · rw [hmultipath, htarget] at hset
    simpa using hset
  · unfold PolicyScope.coversRoute at hsite
    simp only [Bool.not_eq_false', Bool.and_eq_true] at hsite
    exact hsite.1.2

section
variable {scope : PolicyScope} {target : PolicyTarget} {n : UpstreamNotification}
  {b : CandidateBinding}

/-- An admitted notification that is not foreign leaves a placed binding placed. -/
theorem Placed.edit (hb : Placed scope target b) (hpath : b.path = n.binding.path)
    (hn : Admitted scope target n.binding) (hforeign : ¬ n.Foreign) :
    Placed scope target (n.edit b) := by
  obtain ⟨event, policy, binding, provenance, expected⟩ := n
  have hauthority (hwrites : event.writesAuthority = true) :
      binding.pathAuthority.path = binding.path := by
    by_contra hother
    exact hforeign ⟨hwrites, hother⟩
  cases event with
  | declareCandidate => exact ⟨hn, hauthority rfl⟩
  | advancePathAuthority => exact ⟨⟨hb.route, hb.set, hb.site, hb.pathClass⟩,
      (hauthority rfl).trans hpath.symm⟩
  | setMembership => exact ⟨⟨hb.route, hn.set, hb.site, hb.pathClass⟩, hb.authority⟩
  | advanceRoute => exact ⟨⟨hn.route, hb.set, hn.site, hb.pathClass⟩, hb.authority⟩
  | invalidateMultipathSet =>
    refine ⟨⟨hb.route, fun multipath set hmultipath htarget => ?_, hb.site, hb.pathClass⟩,
      hb.authority⟩
    obtain ⟨before, hbefore, rfl⟩ := Option.map_eq_some_iff.1 hmultipath
    exact hb.set before set hbefore htarget
  | invalidatePath | invalidateRoute | advanceWeightPolicy | markUnavailable | markAvailable
  | hardFailureSignal | clearHardFailureSignal =>
    exact ⟨⟨hb.route, hb.set, hb.site, hb.pathClass⟩, hb.authority⟩

/-- What a notification that writes a path authority leaves has that authority. -/
theorem rebind_authority (hwrites : n.event.writesAuthority = true) {found : Option CandidateBinding}
    (hfound : n.event.needsCandidate = true → found.isSome = true) :
    ∃ b, n.rebind found = some b ∧ b.pathAuthority = n.binding.pathAuthority := by
  obtain ⟨event, policy, binding, provenance, expected⟩ := n
  cases event with
  | declareCandidate => cases found <;> exact ⟨_, rfl, rfl⟩
  | advancePathAuthority =>
    obtain ⟨b, rfl⟩ := Option.isSome_iff_exists.1 (hfound rfl)
    exact ⟨_, rfl, rfl⟩
  | _ => cases hwrites

end

theorem PolicyRecord.placed_iff {r : PolicyRecord} (hr : r.Ordered) : r.Placed ↔
    ∀ path b, r.bindingOf path = some b →
      AdaptiveRouting.Placed r.policy.scope r.policy.semantics.target b := by
  refine ⟨fun h path b hb => ?_, fun h candidate hcandidate => ?_⟩
  · obtain ⟨candidate, hcandidate, rfl⟩ := List.mem_map.1 (bindingOf_mem hb)
    exact h candidate hcandidate
  · exact h _ _ ((bindingOf_iff hr).2 ⟨List.mem_map_of_mem hcandidate, rfl⟩)

section
variable {limits : Limits} {context : MutationContext} {s s' : State} {n : UpstreamNotification}

/-- An accepted notification keeps the placement exactly when it is not foreign. -/
theorem applyNotification_placed_iff (h : s.applyNotification limits context n = .ok s')
    (hs : Placement s) : Placement s' ↔ ¬ n.Foreign := by
  have ho : Ordered s := fun policy record hrecord => (hs policy record hrecord).1
  have ho' := State.applyNotification_ordered h ho
  obtain ⟨record, hchecks, happly⟩ := bind_ok h
  obtain ⟨_, haccepted⟩ := State.notificationChecks_ok hchecks
  refine ⟨fun hs' hforeign => ?_, fun hforeign policy r' hr' => ⟨ho' policy r' hr', ?_⟩⟩
  · obtain ⟨r', hr', -, hbindings⟩ := State.applyNotification_bindingOf h ho haccepted.found
    have hsubject := hbindings n.binding.path
    rw [if_pos ⟨rfl, rfl⟩] at hsubject
    obtain ⟨b, hb, hauthority⟩ := rebind_authority hforeign.1 (State.applyEvent_needs happly)
    rw [hb] at hsubject
    have hplaced := (PolicyRecord.placed_iff (ho' _ _ hr')).1 (hs' _ _ hr').2 _ _ hsubject
    refine hforeign.2 ?_
    rw [← hauthority, hplaced.authority]
    exact PolicyRecord.bindingOf_path hsubject
  · obtain ⟨r, hr⟩ := State.applyNotification_before h hr'
    obtain ⟨after, hafter, hframe, hbindings⟩ := State.applyNotification_bindingOf h ho hr
    rw [hr'] at hafter
    cases hafter
    have hplaced := (PolicyRecord.placed_iff (ho _ _ hr)).1 (hs _ _ hr).2
    rw [PolicyRecord.placed_iff (ho' _ _ hr'), PolicyRecord.policy_of_frame hframe]
    intro path b hb
    rw [hbindings] at hb
    by_cases hsubject : n.policy = policy ∧ n.binding.path = path
    · rw [if_pos hsubject] at hb
      obtain ⟨rfl, rfl⟩ := hsubject
      rw [haccepted.found] at hr
      cases hr
      have hadmits := State.notificationChecks_admits hchecks
      cases hfound : record.bindingOf n.binding.path with
      | some c =>
        rw [hfound] at hb
        cases hb
        exact (hplaced _ _ hfound).edit (PolicyRecord.bindingOf_path hfound) hadmits hforeign
      | none =>
        rw [hfound] at hb
        unfold UpstreamNotification.rebind at hb
        dsimp only at hb
        split at hb
        · rename_i hevent
          cases hb
          refine ⟨hadmits, ?_⟩
          by_contra hother
          exact hforeign ⟨by rw [hevent]; rfl, hother⟩
        · cases hb
    · rw [if_neg hsubject] at hb
      exact hplaced path b hb

end

/-! ## Steps -/

/-- The scope admits what a binding says of its site and its class. -/
def PolicyScope.admits (scope : PolicyScope) (b : CandidateBinding) : Bool :=
  scope.coversSite (some b.route.site) && scope.coversPathClass b.pathClass

/-- The operations that misplace a binding: an accepted notification writes the authority of another
path, or an update keeps the target and a candidate that its scope excludes. -/
inductive Misplaces (limits : Limits) (s : State) : Op → Prop
  | notification {request : UpstreamNotifyRequest} {fingerprint : Text} {reached after : State}
      {n : UpstreamNotification} (checks : s.upstreamChecks limits request = .ok fingerprint)
      (reaches : State.BatchReaches limits request.context s request.notifications reached n)
      (accepted : reached.applyNotification limits request.context n = .ok after)
      (foreign : n.Foreign) : Misplaces limits s (.applyUpstream request)
  | update {now : Ticks} {request : UpdatePolicyRequest} {record : PolicyRecord} {fingerprint : Text}
      {generation : AdaptivePolicyGeneration} {candidate : CandidateRecord}
      (checks : s.updateChecks limits request = .ok (record, fingerprint, generation))
      (target : request.update.semantics.target = record.policy.semantics.target)
      (there : candidate ∈ record.candidates)
      (excluded : request.update.scope.admits candidate.binding = false) :
      Misplaces limits s (.updatePolicy now request)

section
variable {config : EngineConfig} {e e' : Engine} {op : Op} {answer : Answer}

theorem PolicyRecord.Placed.of_same {r r' : PolicyRecord} (h : r.Placed)
    (hpolicy : r'.policy.scope = r.policy.scope ∧
      r'.policy.semantics.target = r.policy.semantics.target)
    (hcandidates : r'.candidates = r.candidates) : r'.Placed := by
  unfold PolicyRecord.Placed
  rw [hcandidates, hpolicy.1, hpolicy.2]
  exact h

theorem PolicyRecord.Placed.of_none {r : PolicyRecord} (h : r.candidates = []) : r.Placed := by
  intro candidate hcandidate
  rw [h] at hcandidate
  cases hcandidate

/-- What is placed for a target and a scope is placed for the target and a scope that admits it. -/
theorem Placed.rescope {scope scope' : PolicyScope} {target : PolicyTarget} {b : CandidateBinding}
    (h : Placed scope target b) (hadmits : scope'.admits b = true) : Placed scope' target b := by
  unfold PolicyScope.admits at hadmits
  rw [Bool.and_eq_true] at hadmits
  exact ⟨⟨h.route, h.set, hadmits.1, hadmits.2⟩, h.authority⟩

/-- An accepted update keeps a record placed exactly when it changes the target, or its scope admits
every candidate. -/
theorem updatedRecord_placed_iff {s : State} {limits : Limits} {now : Ticks}
    {request : UpdatePolicyRequest} {record : PolicyRecord} {fingerprint : Text}
    {generation : AdaptivePolicyGeneration}
    (checks : s.updateChecks limits request = .ok (record, fingerprint, generation))
    (hrecord : record.Placed) :
    (s.updatedRecord now request generation record).Placed ↔
      ¬ Misplaces limits s (.updatePolicy now request) := by
  unfold State.updatedRecord
  dsimp only
  by_cases htarget : record.policy.semantics.target = request.update.semantics.target
  · rw [if_pos htarget]
    refine ⟨fun hplaced hmisplaces => ?_, fun hadmits candidate hcandidate => ?_⟩
    · cases hmisplaces with
      | update checks' _ there excluded =>
        rw [checks] at checks'
        cases checks'
        have hcandidate := hplaced _ there
        unfold PolicyScope.admits at excluded
        rw [hcandidate.site, hcandidate.pathClass] at excluded
        cases excluded
    · have hplaced := hrecord candidate hcandidate
      show AdaptiveRouting.Placed request.update.scope request.update.semantics.target
        candidate.binding
      rw [← htarget]
      refine hplaced.rescope ?_
      by_contra hexcluded
      exact hadmits (.update checks htarget.symm hcandidate (Bool.eq_false_iff.2 hexcluded))
  · rw [if_neg htarget]
    refine ⟨fun _ hmisplaces => ?_, fun _ => .of_none rfl⟩
    cases hmisplaces with
    | update checks' target =>
      rw [checks] at checks'
      cases checks'
      exact htarget target.symm

theorem RecordChange.placed {policy : AdaptivePolicyId} {record record' : PolicyRecord}
    (h : RecordChange config e op policy record record') (hs : Placement e.state)
    (hop : ¬ Misplaces config.limits e.state op) (hrecord : record.Placed) : record'.Placed := by
  cases h with
  | kept => exact hrecord
  | rewritten rewrites =>
    cases rewrites with
    | updated checks => exact (updatedRecord_placed_iff checks hrecord).2 hop
    | _ => exact hrecord.of_same ⟨rfl, rfl⟩ rfl
  | advanced =>
    unfold State.requireRevalidation
    refine hrecord.of_same ?_ rfl
    dsimp only
    split <;> exact ⟨rfl, rfl⟩
  | @notified request fingerprint _ notifies checks reached =>
    subst notifies
    have hbatch : Placement (State.applyNotifications config.limits request.context e.state
        request.notifications).1 :=
      State.applyNotifications_inv hs fun reached n after hreaches happly hplaced =>
        (applyNotification_placed_iff happly hplaced).2 fun hforeign =>
          hop (.notification checks hreaches happly hforeign)
    exact (hbatch policy record' reached).2

theorem Placement.step (hs : Placement e.state) (hop : ¬ Misplaces config.limits e.state op)
    (h : e.step config op = some (e', answer)) : Placement e'.state := by
  have ho : Ordered e.state := fun policy record hrecord => (hs policy record hrecord).1
  intro policy record' hrecord'
  refine ⟨ho.step h policy record' hrecord', ?_⟩
  cases hrecovers : op.recovers config.limits with
  | some durable =>
    obtain ⟨now, epoch, authority, -, -, rfl⟩ := step_recovered h hrecovers
    obtain ⟨_, -, -, -, hnone⟩ :=
      recoveredState_from config now durable epoch authority policy record' hrecord'
    exact .of_none hnone
  | none =>
    cases hbefore : e.state.policies[policy]? with
    | none =>
      obtain ⟨now, request, _, -, -, rfl⟩ := step_arrival h hrecovers hbefore hrecord'
      exact .of_none rfl
    | some record =>
      obtain ⟨after, hafter, hchange⟩ := step_record h hrecovers hbefore
      rw [hrecord'] at hafter
      cases hafter
      exact hchange.placed hs hop (hs policy record hbefore).2

theorem Placement.of_policies {s s' : State} (hs : Placement s) (h : s'.policies = s.policies) :
    Placement s' := by
  intro policy record hrecord
  rw [h] at hrecord
  exact hs policy record hrecord

/-- A step that applies at most one notification keeps the placement exactly when it misplaces
nothing. -/
theorem Placement.step_iff (hs : Placement e.state)
    (hsingle : ∀ request, op = .applyUpstream request → request.notifications.length ≤ 1)
    (h : e.step config op = some (e', answer)) :
    Placement e'.state ↔ ¬ Misplaces config.limits e.state op := by
  refine ⟨fun hs' hmisplaces => ?_, fun hop => hs.step hop h⟩
  cases hmisplaces with
  | @notification request fingerprint reached after n checks reaches accepted foreign =>
    obtain ⟨hnotifications, hreached⟩ := reaches.single (hsingle request rfl)
    subst hreached
    have hafter : Placement after := by
      refine hs'.of_policies ?_
      cases h
      show _ = (e.state.applyUpstream config.limits request).1.policies
      unfold State.applyUpstream
      simp [checks, hnotifications, State.applyNotifications, accepted]
    exact (applyNotification_placed_iff accepted hs).1 hafter foreign
  | @update now request record fingerprint generation candidate checks target there excluded =>
    obtain ⟨_, haccepted⟩ := State.updateChecks_ok checks
    have hupdated : e'.state.policies[request.policy]? =
        some (e.state.updatedRecord now request generation record) := by
      cases h
      exact updatePolicy_get checks
    have hrecord := (hs request.policy record haccepted.found).2
    exact (updatedRecord_placed_iff checks hrecord).1 (hs' _ _ hupdated).2
      (.update checks target there excluded)

end

/-- In every run that misplaces no binding, the candidates of every policy are in the strict order of
their paths, and each binding belongs to its path, to the policy's target and to its scope. A step
that applies at most one notification keeps this exactly when it misplaces nothing, and so does every
notification of a batch. -/
theorem candidates_are_placed {config : EngineConfig} {nonce : Text} {e : Engine}
    (hrun : RunUnder config (fun e op => ¬ Misplaces config.limits e.state op)
      (Engine.start config nonce) e) :
    Placement e.state ∧
      (∀ (e' : Engine) (op : Op) (answer : Answer),
        (∀ request, op = .applyUpstream request → request.notifications.length ≤ 1) →
        e.step config op = some (e', answer) →
        (Placement e'.state ↔ ¬ Misplaces config.limits e.state op)) ∧
      ∀ (context : MutationContext) (n : UpstreamNotification) (after : State),
        e.state.applyNotification config.limits context n = .ok after →
        (Placement after ↔ ¬ n.Foreign) := by
  have hs : Placement e.state :=
    hrun.inv (I := fun e => Placement e.state) (fun _ _ _ _ hop hs hstep => hs.step hop hstep)
      fun policy record hrecord => by simp [Engine.start] at hrecord
  exact ⟨hs, fun _ _ _ hsingle hstep => hs.step_iff hsingle hstep,
    fun _ _ _ happly => applyNotification_placed_iff happly hs⟩

/-- Operations that can misplace nothing, whatever the state. -/
def Op.places : Op → Bool
  | .updatePolicy .. => false
  | .applyUpstream request => request.notifications.all fun n =>
    !n.event.writesAuthority || n.binding.pathAuthority.path == n.binding.path
  | _ => true

theorem Misplaces.not_of {limits : Limits} {s : State} {op : Op} (h : op.places = true) :
    ¬ Misplaces limits s op := by
  intro hmisplaces
  cases hmisplaces with
  | @notification _ _ _ _ n _ reaches _ foreign =>
    have hn := List.all_eq_true.1 h n reaches.mem
    simp [foreign.1, foreign.2] at hn
  | update => cases h

open Scenario in
/-- Two candidates are declared and evaluated. -/
theorem declared_candidates_are_placed :
    ∃ record, (after challenged).state.policies[policy]? = some record ∧
      record.candidates.length = 2 ∧ record.Ordered ∧ record.Placed := by
  have hreturns : returns challenged = true := by decide +kernel
  have hplaces : challenged.all Op.places = true := by decide +kernel
  have hplacing := Runs.runAll_under (fun op => op.places = true) (runAll_after hreturns)
    fun op hmem => List.all_eq_true.1 hplaces op hmem
  have hrun : RunUnder config (fun e op => ¬ Misplaces config.limits e.state op) engine
      (after challenged) := hplacing.mono fun _ _ h => Misplaces.not_of h
  have hsize : ((after challenged).state.policies[policy]?).any
      (fun record => record.candidates.length == 2) = true := by decide +kernel
  obtain ⟨record, hrecord, htwo⟩ := (Option.any_eq_true _ _).1 hsize
  exact ⟨record, hrecord, by simpa using htwo, (candidates_are_placed hrun).1 policy record hrecord⟩

open Scenario in
/-- A candidate is declared with the authority of another path. -/
theorem foreign_authority_is_installed :
    ¬ ∀ e : Engine, Reachable config e → Placement e.state := by
  intro hclaim
  let foreign : UpstreamNotification := { policy, binding := { binding left with
    pathAuthority := { path := right, generation := ⟨1⟩, legal := true } } }
  have hmisplaced : ((after (created ++ [notify foreign "left"])).state.policies[policy]?).any
      (fun record => record.candidates.any fun candidate =>
        candidate.binding.pathAuthority.path != candidate.binding.path) = true := by
    decide +kernel
  obtain ⟨record, hrecord, hany⟩ := (Option.any_eq_true _ _).1 hmisplaced
  obtain ⟨candidate, hcandidate, hother⟩ := List.any_eq_true.1 hany
  have hplaced := (hclaim _ (reachable_after (by decide +kernel)) policy record hrecord).2
  simp [(hplaced candidate hcandidate).authority] at hother

end AdaptiveRouting
