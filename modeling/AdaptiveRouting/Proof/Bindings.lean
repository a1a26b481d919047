import AdaptiveRouting.Proof.Confinement
import AdaptiveRouting.Proof.Records

/-!
# Bindings

A batch applies each notification in the state the ones ahead of it left (`BatchReaches`), so what
every accepted notification keeps, the batch keeps (`applyNotifications_inv`). An accepted
notification declares one binding of one policy or edits one, and leaves every other binding alone
(`Applies.rebinds`).
-/

namespace AdaptiveRouting

open Guard

namespace State

section
variable {limits : Limits} {context : MutationContext}

/-- The batch comes to a notification, in the state it has reached. -/
inductive BatchReaches (limits : Limits) (context : MutationContext) :
    State → List UpstreamNotification → State → UpstreamNotification → Prop
  | here {s : State} {n : UpstreamNotification} {rest : List UpstreamNotification} :
      BatchReaches limits context s (n :: rest) s n
  | later {s s' reached : State} {n m : UpstreamNotification} {rest : List UpstreamNotification}
      (accepted : s.applyNotification limits context n = .ok s')
      (reaches : BatchReaches limits context s' rest reached m) :
      BatchReaches limits context s (n :: rest) reached m

/-- What every accepted notification of a batch keeps, the batch keeps. -/
theorem applyNotifications_inv {I : State → Prop} {s : State}
    {notifications : List UpstreamNotification} (hs : I s)
    (hstep : ∀ reached n after, BatchReaches limits context s notifications reached n →
      reached.applyNotification limits context n = .ok after → I reached → I after) :
    I (applyNotifications limits context s notifications).1 := by
  induction notifications generalizing s with
  | nil => exact hs
  | cons n rest ih =>
    unfold applyNotifications
    cases happly : s.applyNotification limits context n with
    | error answer => exact hs
    | ok s' =>
      refine ih (hstep s n s' .here happly hs) fun reached m after hreaches => ?_
      exact hstep reached m after (.later happly hreaches)

/-- What every accepted notification keeps, holds where the batch comes. -/
theorem BatchReaches.inv {I : State → Prop} {s reached : State} {n : UpstreamNotification}
    {notifications : List UpstreamNotification}
    (h : BatchReaches limits context s notifications reached n) (hs : I s)
    (hstep : ∀ s n s', s.applyNotification limits context n = .ok s' → I s → I s') : I reached := by
  induction h with
  | here => exact hs
  | later accepted _ ih => exact ih (hstep _ _ _ accepted hs)

theorem BatchReaches.mem {s reached : State} {n : UpstreamNotification}
    {notifications : List UpstreamNotification}
    (h : BatchReaches limits context s notifications reached n) : n ∈ notifications := by
  induction h with
  | here => exact List.mem_cons_self
  | later _ _ ih => exact List.mem_cons_of_mem _ ih

/-- A refused notification ends the batch in the state it found. -/
theorem BatchReaches.refused {s reached : State} {n : UpstreamNotification}
    {notifications : List UpstreamNotification} {answer : OperationResult}
    (h : BatchReaches limits context s notifications reached n)
    (hrefused : reached.applyNotification limits context n = .error answer) :
    applyNotifications limits context s notifications = (reached, some answer) := by
  induction h with
  | here =>
    unfold applyNotifications
    rw [hrefused]
  | later accepted _ ih =>
    unfold applyNotifications
    rw [accepted]
    exact ih hrefused

/-- A batch of at most one notification comes to it at once. -/
theorem BatchReaches.single {s reached : State} {n : UpstreamNotification}
    {notifications : List UpstreamNotification}
    (h : BatchReaches limits context s notifications reached n) (hsingle : notifications.length ≤ 1) :
    notifications = [n] ∧ reached = s := by
  cases h with
  | @here _ _ rest =>
    rw [List.length_cons] at hsingle
    have hrest : rest = [] := List.eq_nil_of_length_eq_zero (by omega)
    rw [hrest]
    exact ⟨rfl, rfl⟩
  | later _ reaches =>
    rw [List.length_cons] at hsingle
    cases reaches <;> simp at hsingle

end

end State

/-! ## Bindings by path -/

theorem map_binding_modify (candidates : List CandidateRecord) (index : Nat)
    (f : CandidateBinding → CandidateBinding) :
    (candidates.modify index fun candidate => { candidate with binding := f candidate.binding }).map
      (·.binding) = (candidates.map (·.binding)).modify index f := by
  refine List.ext_getElem? fun i => ?_
  simp only [List.getElem?_map, List.getElem?_modify]
  cases candidates[i]? with
  | none => rfl
  | some candidate =>
    by_cases hi : index = i
    · simp [hi]
    · simp [hi]

namespace PolicyRecord

/-- The bindings of the candidates, in their order. -/
def bindings (r : PolicyRecord) : List CandidateBinding := r.candidates.map (·.binding)

/-- The binding under a path. -/
def bindingOf (r : PolicyRecord) (path : PathId) : Option CandidateBinding :=
  (r.findCandidate path).map (·.binding)

section
variable {r r' : PolicyRecord} {path : PathId} {b : CandidateBinding}

theorem bindingOf_idx (r : PolicyRecord) (path : PathId) :
    r.bindingOf path = (r.candidateIdx path).bind fun index => r.bindings[index]? := by
  unfold bindingOf findCandidate bindings
  cases r.candidateIdx path <;> simp

theorem bindingOf_path (h : r.bindingOf path = some b) : b.path = path := by
  obtain ⟨candidate, hfound, rfl⟩ := Option.map_eq_some_iff.1 h
  exact findCandidate_path hfound

theorem bindingOf_mem (h : r.bindingOf path = some b) : b ∈ r.bindings := by
  obtain ⟨candidate, hfound, rfl⟩ := Option.map_eq_some_iff.1 h
  exact List.mem_map_of_mem (findCandidate_mem hfound)

/-- In the order of the paths, each binding is found under its path. -/
theorem bindingOf_iff (hr : r.Ordered) : r.bindingOf path = some b ↔ b ∈ r.bindings ∧ b.path = path := by
  refine ⟨fun h => ⟨bindingOf_mem h, bindingOf_path h⟩, ?_⟩
  rintro ⟨hmem, rfl⟩
  obtain ⟨i, hi⟩ := List.mem_iff_getElem?.1 hmem
  obtain ⟨candidate, hcandidate, rfl⟩ := Option.map_eq_some_iff.1 (List.getElem?_map.symm.trans hi)
  rw [bindingOf_idx, candidateIdx, Search.findIdx_of_getElem? hr hcandidate]
  exact hi

theorem candidateIdx_of_bindings (h : r'.bindings = r.bindings) (path : PathId) :
    r'.candidateIdx path = r.candidateIdx path := by
  refine candidateIdx_congr ?_
  have hpaths := congrArg (List.map (·.path)) h
  simpa only [bindings, paths, List.map_map, Function.comp_def] using hpaths

theorem bindingOf_congr (h : r'.bindings = r.bindings) : r'.bindingOf path = r.bindingOf path := by
  rw [bindingOf_idx, bindingOf_idx, candidateIdx_of_bindings h, h]

theorem bumped_bindingOf (r : PolicyRecord) (bump path : PathId) :
    (r.bumped bump).bindingOf path = r.bindingOf path :=
  bindingOf_congr (congrArg GuardedPart.bindings (r.bumped_guarded bump))

/-- An edit of the binding under a path changes that one. -/
theorem modifyCandidate_bindingOf {edited : PathId} {f : CandidateBinding → CandidateBinding}
    (hf : ∀ b, b.path = edited → (f b).path = b.path) :
    (r.modifyCandidate edited fun candidate =>
        { candidate with binding := f candidate.binding }).bindingOf path =
      if edited = path then (r.bindingOf path).map f else r.bindingOf path := by
  have hindex : (r.modifyCandidate edited fun candidate =>
      { candidate with binding := f candidate.binding }).candidateIdx path = r.candidateIdx path :=
    candidateIdx_congr (modifyCandidate_paths fun c hc => hf c.binding (findCandidate_path hc))
  rw [bindingOf_idx, bindingOf_idx, hindex]
  unfold modifyCandidate bindings
  cases hfound : r.candidateIdx edited with
  | none =>
    by_cases hpath : edited = path
    · subst hpath
      simp [hfound]
    · simp [hpath]
  | some index =>
    dsimp only
    rw [map_binding_modify]
    by_cases hpath : edited = path
    · subst hpath
      simp [hfound]
    · rw [if_neg hpath]
      cases hother : r.candidateIdx path with
      | none => rfl
      | some other =>
        have hne : index ≠ other := by
          intro heq
          subst heq
          obtain ⟨a, ha, hedited⟩ := Search.findIdx_some hfound
          obtain ⟨a', ha', hpath'⟩ := Search.findIdx_some hother
          rw [ha] at ha'
          cases ha'
          exact hpath (hedited.symm.trans hpath')
        simp [hne]

/-- A declared candidate is the one under its path. -/
theorem declare_bindingOf {fresh : CandidateRecord} (hr : r.Ordered)
    (hfresh : r.findCandidate fresh.binding.path = none) :
    ({ r with candidates := sortCandidates (r.candidates ++ [fresh]) } : PolicyRecord).bindingOf path =
      if fresh.binding.path = path then some fresh.binding else r.bindingOf path := by
  have hdeclared := hr.declare hfresh
  have hmem (b : CandidateBinding) :
      b ∈ ({ r with candidates := sortCandidates (r.candidates ++ [fresh]) } : PolicyRecord).bindings ↔
        b ∈ r.bindings ∨ b = fresh.binding := by
    unfold bindings sortCandidates
    simp only [List.mem_map, List.mem_insertionSort, List.mem_append, List.mem_singleton]
    constructor
    · rintro ⟨candidate, hcandidate | rfl, rfl⟩
      · exact .inl ⟨candidate, hcandidate, rfl⟩
      · exact .inr rfl
    · rintro (⟨candidate, hcandidate, rfl⟩ | rfl)
      · exact ⟨candidate, .inl hcandidate, rfl⟩
      · exact ⟨fresh, .inr rfl, rfl⟩
  refine Option.ext fun b => ?_
  rw [bindingOf_iff hdeclared, hmem]
  by_cases hpath : fresh.binding.path = path
  · rw [if_pos hpath]
    constructor
    · rintro ⟨hold | rfl, hb⟩
      · have hnone : r.bindingOf fresh.binding.path = none := by rw [bindingOf, hfresh]; rfl
        rw [(bindingOf_iff hr).2 ⟨hold, hb.trans hpath.symm⟩] at hnone
        cases hnone
      · rfl
    · intro h
      cases h
      exact ⟨.inr rfl, hpath⟩
  · rw [if_neg hpath, bindingOf_iff hr]
    constructor
    · rintro ⟨hold | rfl, hb⟩
      · exact ⟨hold, hb⟩
      · exact absurd hb hpath
    · rintro ⟨hold, hb⟩
      exact ⟨.inl hold, hb⟩

end

end PolicyRecord

/-! ## One notification -/

/-- What an accepted notification makes of the binding under its path. -/
def UpstreamNotification.rebind (n : UpstreamNotification) :
    Option CandidateBinding → Option CandidateBinding
  | some b => some (n.edit b)
  | none => if n.event = .declareCandidate then some n.binding else none

/-- The events that are refused for a path that is not declared. -/
def UpstreamEvent.needsCandidate : UpstreamEvent → Bool
  | .advancePathAuthority | .setMembership | .advanceRoute | .advanceWeightPolicy => true
  | _ => false

/-- The events that write a path authority from their binding. They alone compare the generation that
was expected ahead of it. -/
def UpstreamEvent.writesAuthority : UpstreamEvent → Bool
  | .declareCandidate | .advancePathAuthority => true
  | _ => false

namespace State

/-- An accepted notification changes the binding under its path, in its policy, and no other. -/
theorem Applies.bindingOf {limits : Limits} {s s' : State} {record r : PolicyRecord}
    {n : UpstreamNotification} {policy : AdaptivePolicyId} (h : s.Applies limits record n s')
    (found : s.policies[n.policy]? = some record) (ho : Ordered s)
    (hr : s.policies[policy]? = some r) :
    ∃ r', s'.policies[policy]? = some r' ∧ ∀ path, r'.bindingOf path =
      if n.policy = policy ∧ n.binding.path = path then n.rebind (r.bindingOf path)
      else r.bindingOf path := by
  -- the record after the edit of the binding
  have hedit : ∃ r', (s.editBinding n.policy record n.binding.path n.edit).policies[policy]? =
      some r' ∧ ∀ path, r'.bindingOf path = if n.policy = policy ∧ n.binding.path = path
        then (r.bindingOf path).map n.edit else r.bindingOf path := by
    unfold editBinding
    rw [putRecord_policies]
    by_cases hp : n.policy = policy
    · subst hp
      rw [found] at hr
      cases hr
      refine ⟨_, Std.ExtTreeMap.getElem?_insert_self, fun path => ?_⟩
      rw [PolicyRecord.modifyCandidate_bindingOf fun b hb => n.edit_path hb]
      simp
    · exact ⟨r, by rw [get_insert_ne hp, hr], fun path => by rw [if_neg fun hc => hp hc.1]⟩
  -- where nothing is declared, an edit is what `rebind` does
  have hrebind (path : PathId) (hdeclares : n.event = .declareCandidate →
      n.policy = policy → n.binding.path = path → (r.bindingOf path).isSome = true) :
      (if n.policy = policy ∧ n.binding.path = path then (r.bindingOf path).map n.edit
        else r.bindingOf path) =
      if n.policy = policy ∧ n.binding.path = path then n.rebind (r.bindingOf path)
        else r.bindingOf path := by
    by_cases hsubject : n.policy = policy ∧ n.binding.path = path
    · rw [if_pos hsubject, if_pos hsubject]
      cases hb : r.bindingOf path with
      | some b => rfl
      | none =>
        refine (if_neg fun hevent => ?_).symm
        have hsome := hdeclares hevent hsubject.1 hsubject.2
        rw [hb] at hsome
        cases hsome
    · rw [if_neg hsubject, if_neg hsubject]
  cases h with
  | declared event fresh =>
    rw [reindexPolicy_policies, putRecord_policies]
    by_cases hp : n.policy = policy
    · subst hp
      rw [found] at hr
      cases hr
      refine ⟨_, Std.ExtTreeMap.getElem?_insert_self, fun path => ?_⟩
      rw [PolicyRecord.declare_bindingOf (ho n.policy record found) fresh]
      by_cases hpath : n.binding.path = path
      · have hnone : record.bindingOf n.binding.path = none := by
          rw [PolicyRecord.bindingOf, fresh]
          rfl
        subst hpath
        simp [hnone, UpstreamNotification.rebind, event]
      · simp [hpath]
    · exact ⟨r, by rw [get_insert_ne hp, hr], fun path => by rw [if_neg fun hc => hp hc.1]⟩
  | edited event declared =>
    obtain ⟨r', hr', hbindings⟩ := hedit
    refine ⟨r', hr', fun path => ?_⟩
    rw [hbindings, hrebind path fun hevent hpolicy hpath => ?_]
    subst hpolicy hpath
    rw [found] at hr
    cases hr
    rw [PolicyRecord.bindingOf, Option.isSome_map]
    exact declared hevent
  | invalidated event =>
    obtain ⟨r', hr', hbindings⟩ := hedit
    rw [applyInvalidation_get, hr']
    have hrebinds (path : PathId) := hrebind path fun hevent => by
      rw [hevent] at event
      cases event
    split
    · refine ⟨_, rfl, fun path => ?_⟩
      rw [PolicyRecord.bumped_bindingOf, hbindings, hrebinds]
    · refine ⟨r', rfl, fun path => ?_⟩
      rw [hbindings, hrebinds]

section
variable {limits : Limits} {context : MutationContext} {s s' : State} {n : UpstreamNotification}

theorem applyNotification_bindingOf (h : s.applyNotification limits context n = .ok s')
    (ho : Ordered s) {policy : AdaptivePolicyId} {r : PolicyRecord}
    (hr : s.policies[policy]? = some r) :
    ∃ r', s'.policies[policy]? = some r' ∧ r'.frame = r.frame ∧ ∀ path, r'.bindingOf path =
      if n.policy = policy ∧ n.binding.path = path then n.rebind (r.bindingOf path)
      else r.bindingOf path := by
  obtain ⟨_, _, haccepted, happlies⟩ := applyNotification_ok h
  obtain ⟨r', hr', hbindings⟩ := happlies.bindingOf haccepted.found ho hr
  have hframe := happlies.frame haccepted.found policy
  rw [hr, hr'] at hframe
  exact ⟨r', hr', Option.some.inj hframe, hbindings⟩

/-- A record that is there after a notification was there before it. -/
theorem applyNotification_before (h : s.applyNotification limits context n = .ok s')
    {policy : AdaptivePolicyId} {r' : PolicyRecord} (hr' : s'.policies[policy]? = some r') :
    ∃ r, s.policies[policy]? = some r := by
  obtain ⟨_, _, haccepted, happlies⟩ := applyNotification_ok h
  have hframe := happlies.frame haccepted.found policy
  rw [hr', Option.map_some, eq_comm, Option.map_eq_some_iff] at hframe
  obtain ⟨r, hr, -⟩ := hframe
  exact ⟨r, hr⟩

theorem applyNotification_ordered (h : s.applyNotification limits context n = .ok s')
    (ho : Ordered s) : Ordered s' := by
  intro policy r' hr'
  obtain ⟨r, hr⟩ := applyNotification_before h hr'
  obtain ⟨_, _, haccepted, happlies⟩ := applyNotification_ok h
  obtain ⟨after, hafter, hamends⟩ := happlies.record haccepted.found hr
  rw [hr'] at hafter
  cases hafter
  exact hamends.ordered (ho policy r hr)

theorem BatchReaches.ordered {notifications : List UpstreamNotification} {reached : State}
    (h : BatchReaches limits context s notifications reached n) (ho : Ordered s) : Ordered reached :=
  h.inv (I := Ordered) ho fun _ _ _ happly hordered => applyNotification_ordered happly hordered

/-- An event that needs a candidate is accepted for a declared path only. -/
theorem applyEvent_needs {record : PolicyRecord} (h : s.applyEvent limits record n = .ok s')
    (hneeds : n.event.needsCandidate = true) : (record.bindingOf n.binding.path).isSome = true := by
  obtain ⟨event, policy, binding, provenance, expected⟩ := n
  cases event with
  | advancePathAuthority | setMembership | advanceRoute | advanceWeightPolicy =>
    obtain ⟨candidate, hfound, -⟩ := bind_ok h
    simp [PolicyRecord.bindingOf, orRefuse_ok hfound]
  | _ => cases hneeds

end

end State

end AdaptiveRouting
