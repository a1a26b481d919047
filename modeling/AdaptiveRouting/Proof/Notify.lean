import AdaptiveRouting.Proof.Caller

/-!
# Notifications

The effect of one accepted notification, said once (`applyNotification_ok`): a fresh declaration, an
edit of one binding, or an edit of one binding with an invalidation of its path. What every accepted
notification keeps, a batch keeps (`applyNotifications_rel`).
-/

namespace AdaptiveRouting

open Guard

/-- The events that advance the watermark of the path they name. -/
def UpstreamEvent.invalidates : UpstreamEvent → Bool
  | .declareCandidate | .advanceWeightPolicy | .clearHardFailureSignal => false
  | _ => true

/-- What a notification makes of the binding of a declared candidate. -/
def UpstreamNotification.edit (n : UpstreamNotification) (c : CandidateBinding) : CandidateBinding :=
  match n.event with
  | .declareCandidate => n.binding
  | .advancePathAuthority => { c with pathAuthority := n.binding.pathAuthority }
  | .invalidatePath => c.invalidated n.binding
  | .setMembership => { c with multipath := n.binding.multipath }
  | .invalidateMultipathSet =>
    { c with multipath := c.multipath.map fun multipath => { multipath with current := false } }
  | .advanceRoute => { c with route := n.binding.route }
  | .invalidateRoute => { c with route := { c.route with current := false } }
  | .advanceWeightPolicy => { c with weighted := n.binding.weighted }
  | .markUnavailable => { c with available := false }
  | .markAvailable => { c with available := true }
  | .hardFailureSignal => { c with hardFailure := true }
  | .clearHardFailureSignal => { c with hardFailure := false }

theorem sortCandidates_length (candidates : List CandidateRecord) :
    (sortCandidates candidates).length = candidates.length :=
  List.length_insertionSort _ _

/-- Only a declaration writes the path, and it names the candidate's own. -/
theorem UpstreamNotification.edit_path (n : UpstreamNotification) {c : CandidateBinding}
    (h : c.path = n.binding.path) : (n.edit c).path = c.path := by
  unfold edit
  split
  · exact h.symm
  all_goals rfl

theorem Watermark.le_next (w : Watermark) : w ≤ w.next.getD w := by
  cases hnext : w.next with
  | none => exact UInt64.le_refl _
  | some next => exact UInt64.le_of_lt (lt_next hnext)

namespace State

/-- The effect of an accepted notification on the state. -/
inductive Applies (limits : Limits) (s : State) (record : PolicyRecord) (n : UpstreamNotification) :
    State → Prop
  | declared (event : n.event = .declareCandidate)
      (fresh : record.findCandidate n.binding.path = none)
      (legal : n.binding.pathAuthority.legal = true) :
      Applies limits s record n ((s.putRecord n.policy { record with
        candidates := sortCandidates (record.candidates ++ [{ binding := n.binding }])
        }).reindexPolicy limits n.policy)
  | edited (event : n.event.invalidates = false)
      (declared : n.event = .declareCandidate → (record.findCandidate n.binding.path).isSome) :
      Applies limits s record n (s.editBinding n.policy record n.binding.path n.edit)
  | invalidated (event : n.event.invalidates = true) :
      Applies limits s record n
        ((s.editBinding n.policy record n.binding.path n.edit).applyInvalidation n.binding.path)

section
variable {limits : Limits} {s s' : State} {record : PolicyRecord} {n : UpstreamNotification}

theorem declareFresh_ok (h : s.declareFresh limits record n = .ok s') :
    n.binding.pathAuthority.legal = true ∧ s' = (s.putRecord n.policy { record with
      candidates := sortCandidates (record.candidates ++ [{ binding := n.binding }])
      }).reindexPolicy limits n.policy := by
  unfold declareFresh at h
  obtain ⟨-, h⟩ := seq_ok h
  obtain ⟨-, h⟩ := seq_ok h
  obtain ⟨hlegal, h⟩ := seq_ok h
  cases h
  exact ⟨by simpa using hlegal, rfl⟩

theorem applyEvent_ok (h : s.applyEvent limits record n = .ok s') :
    Applies limits s record n s' := by
  obtain ⟨event, policy, binding, provenance, expected⟩ := n
  cases event with
  | declareCandidate =>
    unfold applyEvent at h
    dsimp only at h
    cases hfind : record.findCandidate binding.path with
    | none =>
      rw [hfind] at h
      obtain ⟨hlegal, rfl⟩ := declareFresh_ok h
      exact .declared rfl hfind hlegal
    | some candidate =>
      rw [hfind] at h
      obtain ⟨-, h⟩ := seq_ok h
      cases h
      exact .edited rfl fun _ => by simp [hfind]
  | advancePathAuthority =>
    obtain ⟨candidate, -, h⟩ := bind_ok h
    obtain ⟨-, h⟩ := seq_ok h
    obtain ⟨-, h⟩ := seq_ok h
    cases h
    exact .invalidated rfl
  | setMembership =>
    obtain ⟨candidate, -, h⟩ := bind_ok h
    cases h
    exact .invalidated rfl
  | advanceRoute =>
    obtain ⟨candidate, -, h⟩ := bind_ok h
    cases h
    exact .invalidated rfl
  | advanceWeightPolicy =>
    obtain ⟨candidate, -, h⟩ := bind_ok h
    cases h
    exact .edited rfl nofun
  | clearHardFailureSignal =>
    cases h
    exact .edited rfl nofun
  | invalidatePath | invalidateMultipathSet | invalidateRoute | markUnavailable | markAvailable
  | hardFailureSignal =>
    cases h
    exact .invalidated rfl

/-- An accepted notification: its checks, and its effect on the record they found. -/
theorem applyNotification_ok {context : MutationContext}
    (h : s.applyNotification limits context n = .ok s') :
    ∃ record registration, NotificationAccepted s context n record registration ∧
      Applies limits s record n s' := by
  obtain ⟨record, hchecks, happly⟩ := bind_ok h
  obtain ⟨registration, haccepted⟩ := notificationChecks_ok hchecks
  exact ⟨record, registration, haccepted, applyEvent_ok happly⟩

theorem applyNotification_formed {context : MutationContext}
    (h : s.applyNotification limits context n = .ok s') : n.binding.wellFormed = true := by
  obtain ⟨_, hchecks, -⟩ := bind_ok h
  exact notificationChecks_formed hchecks

@[simp] theorem editBinding_standing {policy : AdaptivePolicyId} {path : PathId}
    {f : CandidateBinding → CandidateBinding} :
    (s.editBinding policy record path f).standing = s.standing := rfl

theorem Applies.standing (h : Applies limits s record n s') : s'.standing = s.standing := by
  cases h with
  | declared => simp
  | edited => rfl
  | invalidated => simp

end

/-! ## Records -/

end State

namespace PolicyRecord

theorem findCandidate_path {r : PolicyRecord} {path : PathId} {c : CandidateRecord}
    (h : r.findCandidate path = some c) : c.binding.path = path := by
  obtain ⟨index, hindex, hc⟩ := Option.bind_eq_some_iff.1 h
  obtain ⟨found, hfound, hpath⟩ := Search.findIdx_some hindex
  rw [hfound] at hc
  cases hc
  exact hpath

theorem findCandidate_mem {r : PolicyRecord} {path : PathId} {c : CandidateRecord}
    (h : r.findCandidate path = some c) : c ∈ r.candidates := by
  obtain ⟨index, -, hc⟩ := Option.bind_eq_some_iff.1 h
  exact List.mem_of_getElem? hc

/-- The paths of the candidates, in order. -/
def paths (r : PolicyRecord) : List PathId := r.candidates.map (·.binding.path)

section
variable {r r' : PolicyRecord} {path : PathId} {f g : CandidateRecord → CandidateRecord}

theorem candidateIdx_congr (h : r'.paths = r.paths) : r'.candidateIdx path = r.candidateIdx path :=
  Search.findIdx_congr h path

theorem candidateIdx_none (h : r.findCandidate path = none) : r.candidateIdx path = none := by
  cases hindex : r.candidateIdx path with
  | none => rfl
  | some index =>
    obtain ⟨c, hc, -⟩ := Search.findIdx_some hindex
    rw [findCandidate, hindex, Option.bind_some, hc] at h
    cases h

/-- An edit relates every candidate to what becomes of it. -/
theorem modifyCandidate_forall₂ {R : CandidateRecord → CandidateRecord → Prop} (hrefl : ∀ c, R c c)
    (hf : ∀ c, r.findCandidate path = some c → R c (f c)) :
    List.Forall₂ R r.candidates (r.modifyCandidate path f).candidates := by
  unfold modifyCandidate
  split
  · rename_i index hindex
    refine List.forall₂_iff_get.2 ⟨by simp, fun i h₁ h₂ => ?_⟩
    simp only [List.get_eq_getElem, List.getElem_modify]
    split
    · rename_i hi
      subst hi
      exact hf _ (by rw [findCandidate, hindex, Option.bind_some, List.getElem?_eq_getElem h₁])
    · exact hrefl _
  · exact List.forall₂_same.2 fun c _ => hrefl c

theorem modifyCandidate_length (r : PolicyRecord) (path : PathId)
    (f : CandidateRecord → CandidateRecord) :
    (r.modifyCandidate path f).candidates.length = r.candidates.length := by
  unfold modifyCandidate
  split <;> simp

/-- An edit that keeps the path of the candidate it finds keeps every path. -/
theorem modifyCandidate_paths
    (hf : ∀ c, r.findCandidate path = some c → (f c).binding.path = c.binding.path) :
    (r.modifyCandidate path f).paths = r.paths := by
  have h := modifyCandidate_forall₂ (R := fun c c' => c'.binding.path = c.binding.path)
    (fun _ => rfl) hf
  unfold paths
  generalize r.candidates = before, (r.modifyCandidate path f).candidates = after at h
  induction h with
  | nil => rfl
  | cons hhead _ ih => rw [List.map_cons, List.map_cons, hhead, ih]

theorem modifyCandidate_id (hf : ∀ c, f c = c) : r.modifyCandidate path f = r := by
  obtain rfl : f = id := funext hf
  unfold modifyCandidate
  split
  · rw [List.modify_id]
  · rfl

/-- Two edits of one path are one. -/
theorem modifyCandidate_twice
    (hf : ∀ c, r.findCandidate path = some c → (f c).binding.path = c.binding.path) :
    (r.modifyCandidate path f).modifyCandidate path g = r.modifyCandidate path (g ∘ f) := by
  have hindex := @candidateIdx_congr r _ path (modifyCandidate_paths hf)
  cases hfound : r.candidateIdx path with
  | none =>
    rw [hfound] at hindex
    simp only [modifyCandidate, hfound]
  | some index =>
    rw [hfound] at hindex
    unfold modifyCandidate at hindex ⊢
    simp only [hfound] at hindex ⊢
    simp only [hindex, List.modify_modify_eq]

end

/-- A record without its candidates. -/
def frame (r : PolicyRecord) : PolicyRecord := { r with candidates := [] }

theorem policy_of_frame {r r' : PolicyRecord} (h : r'.frame = r.frame) : r'.policy = r.policy :=
  show r'.frame.policy = r.frame.policy from congrArg _ h

theorem timing_of_frame {r r' : PolicyRecord} (h : r'.frame = r.frame) : r'.timing = r.timing :=
  show r'.frame.timing = r.frame.timing from congrArg _ h

theorem preference_of_frame {r r' : PolicyRecord} (h : r'.frame = r.frame) :
    r'.preference = r.preference :=
  show r'.frame.preference = r.frame.preference from congrArg _ h

theorem stable_of_frame {r r' : PolicyRecord} (h : r'.frame = r.frame) : r'.stable = r.stable :=
  show r'.frame.stable = r.frame.stable from congrArg _ h

theorem history_of_frame {r r' : PolicyRecord} (h : r'.frame = r.frame) : r'.history = r.history :=
  show r'.frame.history = r.frame.history from congrArg _ h

@[simp] theorem frame_candidates (r : PolicyRecord) (candidates : List CandidateRecord) :
    ({ r with candidates } : PolicyRecord).frame = r.frame := rfl

@[simp] theorem modifyCandidate_frame (r : PolicyRecord) (path : PathId)
    (f : CandidateRecord → CandidateRecord) : (r.modifyCandidate path f).frame = r.frame := by
  unfold modifyCandidate
  split <;> rfl

/-- The watermark of a path's candidate, advanced. -/
def bumped (path : PathId) (r : PolicyRecord) : PolicyRecord :=
  r.modifyCandidate path fun candidate =>
    { candidate with pathWatermark := candidate.pathWatermark + 1 }

end PolicyRecord

namespace State

/-- The reverse index lists the policy under the path. -/
def dependsOn (s : State) (path : PathId) (policy : AdaptivePolicyId) : Bool :=
  (s.policiesByPath[path]?).any (·.contains policy)

theorem bumpPath_fold (path : PathId) (policy : AdaptivePolicyId) (touched : List AdaptivePolicyId)
    (h : touched.Nodup) (s : State) :
    (touched.foldl (fun s dependent => s.bumpPath path dependent) s).policies[policy]? =
      if policy ∈ touched then s.policies[policy]?.map (·.bumped path) else s.policies[policy]? := by
  induction touched generalizing s with
  | nil => simp
  | cons dependent rest ih =>
    obtain ⟨hfresh, hrest⟩ := List.nodup_cons.1 h
    rw [List.foldl_cons, ih hrest]
    by_cases hd : dependent = policy
    · subst hd
      rw [if_neg hfresh, if_pos List.mem_cons_self]
      exact Std.ExtTreeMap.getElem?_modify_self
    · have hne : (s.bumpPath path dependent).policies[policy]? = s.policies[policy]? :=
        get_modify_ne hd
      rw [hne]
      simp only [List.mem_cons, Ne.symm hd, false_or]

/-- An invalidation advances the path's watermark in the policies the index lists. -/
theorem applyInvalidation_get (s : State) (path : PathId) (policy : AdaptivePolicyId) :
    (s.applyInvalidation path).policies[policy]? =
      if s.dependsOn path policy then s.policies[policy]?.map (·.bumped path)
      else s.policies[policy]? := by
  unfold applyInvalidation dependsOn
  dsimp only
  cases hindex : s.policiesByPath[path]? with
  | none => simp
  | some dependents =>
    have hnodup : dependents.toList.Nodup := dependents.distinct_toList.imp fun h heq =>
      h (Std.LawfulEqCmp.compare_eq_iff_eq.2 heq)
    rw [bumpPath_fold path policy _ hnodup]
    simp only [Std.ExtTreeSet.mem_toList, Option.any_some, Std.ExtTreeSet.contains_iff_mem]

/-- What an accepted notification makes of a candidate at its path. -/
def amend (s : State) (n : UpstreamNotification) (policy : AdaptivePolicyId) (c : CandidateRecord) :
    CandidateRecord where
  binding := if n.policy = policy then n.edit c.binding else c.binding
  pathWatermark := if n.event.invalidates && s.dependsOn n.binding.path policy
    then c.pathWatermark + 1 else c.pathWatermark

/-- The path an amended candidate has is the one it had. -/
theorem amend_path {s : State} {n : UpstreamNotification} {policy : AdaptivePolicyId}
    {c : CandidateRecord} (h : c.binding.path = n.binding.path) :
    (s.amend n policy c).binding.path = c.binding.path := by
  unfold amend
  dsimp only
  split
  · exact n.edit_path h
  · rfl

/-- What an accepted notification makes of the record of a policy. -/
inductive Amends (s : State) (n : UpstreamNotification) (policy : AdaptivePolicyId)
    (r : PolicyRecord) : PolicyRecord → Prop
  | declared (fresh : r.findCandidate n.binding.path = none) (event : n.event = .declareCandidate)
      (own : n.policy = policy) : Amends s n policy r { r with
        candidates := sortCandidates (r.candidates ++ [{ binding := n.binding }]) }
  | amended : Amends s n policy r (r.modifyCandidate n.binding.path (s.amend n policy))

theorem Amends.frame {s : State} {n : UpstreamNotification} {policy : AdaptivePolicyId}
    {r r' : PolicyRecord} (h : s.Amends n policy r r') : r'.frame = r.frame := by
  cases h with
  | declared => rfl
  | amended => exact PolicyRecord.modifyCandidate_frame ..

theorem Applies.record {limits : Limits} {s s' : State} {record r : PolicyRecord}
    {n : UpstreamNotification} {policy : AdaptivePolicyId} (h : Applies limits s record n s')
    (found : s.policies[n.policy]? = some record) (hr : s.policies[policy]? = some r) :
    ∃ r', s'.policies[policy]? = some r' ∧ Amends s n policy r r' := by
  -- the record after the edit of the binding
  have hedit : (s.editBinding n.policy record n.binding.path n.edit).policies[policy]? =
      some (r.modifyCandidate n.binding.path fun c =>
        { c with binding := if n.policy = policy then n.edit c.binding else c.binding }) := by
    unfold editBinding
    rw [putRecord_policies]
    by_cases hp : n.policy = policy
    · subst hp
      rw [found] at hr
      cases hr
      simp
    · rw [get_insert_ne hp, hr, PolicyRecord.modifyCandidate_id fun c => by rw [if_neg hp]]
  cases h with
  | declared event fresh =>
    rw [reindexPolicy_policies, putRecord_policies]
    by_cases hp : n.policy = policy
    · subst hp
      rw [found] at hr
      cases hr
      exact ⟨_, Std.ExtTreeMap.getElem?_insert_self, .declared fresh event rfl⟩
    · refine ⟨r, by rw [get_insert_ne hp, hr], ?_⟩
      have hsame : r.modifyCandidate n.binding.path (s.amend n policy) = r :=
        PolicyRecord.modifyCandidate_id fun c => by simp [amend, hp, event, UpstreamEvent.invalidates]
      have hamended : Amends s n policy r (r.modifyCandidate n.binding.path (s.amend n policy)) :=
        .amended
      rwa [hsame] at hamended
  | edited event =>
    have hsame : s.amend n policy = fun c =>
        { c with binding := if n.policy = policy then n.edit c.binding else c.binding } := by
      funext c
      simp [amend, event]
    exact ⟨_, hedit, hsame ▸ .amended⟩
  | invalidated event =>
    rw [applyInvalidation_get, hedit]
    change ∃ r', (if s.dependsOn n.binding.path policy then _ else _) = some r' ∧ _
    by_cases hlisted : s.dependsOn n.binding.path policy = true
    · refine ⟨_, if_pos hlisted, ?_⟩
      unfold PolicyRecord.bumped
      dsimp only
      rw [PolicyRecord.modifyCandidate_twice fun c hc => ?_]
      · have hsame : s.amend n policy = (fun candidate : CandidateRecord =>
            { candidate with pathWatermark := candidate.pathWatermark + 1 }) ∘ fun c =>
            { c with binding := if n.policy = policy then n.edit c.binding else c.binding } := by
          funext c
          simp [amend, event, hlisted]
        exact hsame ▸ .amended
      · dsimp only
        split
        · exact n.edit_path (PolicyRecord.findCandidate_path hc)
        · rfl
    · refine ⟨_, if_neg hlisted, ?_⟩
      have hsame : s.amend n policy = fun c =>
          { c with binding := if n.policy = policy then n.edit c.binding else c.binding } := by
        funext c
        simp [amend, hlisted]
      exact hsame ▸ .amended

theorem applyInvalidation_watermark (s : State) (path : PathId) :
    (s.applyInvalidation path).upstreamWatermark =
      s.upstreamWatermark.next.getD s.upstreamWatermark := by
  unfold applyInvalidation
  dsimp only
  split
  · rfl
  · exact foldl_keeps (f := fun s policy => s.bumpPath path policy) State.upstreamWatermark
      (fun _ _ => rfl) _ _

theorem applyInvalidation_frame (s : State) (path : PathId) (policy : AdaptivePolicyId) :
    (s.applyInvalidation path).policies[policy]?.map (·.frame) =
      s.policies[policy]?.map (·.frame) := by
  rw [applyInvalidation_get]
  split
  · cases s.policies[policy]? <;> simp [PolicyRecord.bumped]
  · rfl

theorem putRecord_frame {s : State} {policy : AdaptivePolicyId} {record record' : PolicyRecord}
    (found : s.policies[policy]? = some record) (h : record'.frame = record.frame)
    (other : AdaptivePolicyId) :
    (s.putRecord policy record').policies[other]?.map (·.frame) =
      s.policies[other]?.map (·.frame) := by
  by_cases ho : policy = other
  · subst ho
    simp [found, h]
  · rw [putRecord_policies, get_insert_ne ho]

/-- A notification moves nothing but candidates. -/
theorem Applies.frame {limits : Limits} {s s' : State} {record : PolicyRecord}
    {n : UpstreamNotification} (h : Applies limits s record n s')
    (found : s.policies[n.policy]? = some record) (policy : AdaptivePolicyId) :
    s'.policies[policy]?.map (·.frame) = s.policies[policy]?.map (·.frame) := by
  cases h with
  | declared =>
    rw [reindexPolicy_policies]
    exact putRecord_frame found (record.frame_candidates _) policy
  | edited => exact putRecord_frame found (PolicyRecord.modifyCandidate_frame ..) policy
  | invalidated =>
    rw [applyInvalidation_frame]
    exact putRecord_frame found (PolicyRecord.modifyCandidate_frame ..) policy

/-! ## Batches -/

/-- A preorder every accepted notification respects relates the ends of a batch. -/
theorem applyNotifications_rel {limits : Limits} {context : MutationContext}
    {R : State → State → Prop} (hrefl : ∀ s, R s s) (htrans : ∀ {a b c}, R a b → R b c → R a c)
    (hstep : ∀ s n s', s.applyNotification limits context n = .ok s' → R s s')
    (notifications : List UpstreamNotification) (s : State) :
    R s (applyNotifications limits context s notifications).1 := by
  induction notifications generalizing s with
  | nil => exact hrefl s
  | cons n rest ih =>
    unfold applyNotifications
    cases happly : s.applyNotification limits context n with
    | error answer => exact hrefl s
    | ok s' => exact htrans (hstep s n s' happly) (ih s')

theorem applyNotifications_standing (limits : Limits) (context : MutationContext) (s : State)
    (notifications : List UpstreamNotification) :
    (applyNotifications limits context s notifications).1.standing = s.standing :=
  applyNotifications_rel (R := fun s s' => s'.standing = s.standing) (fun _ => rfl)
    (fun h₁ h₂ => h₂.trans h₁)
    (fun _ _ _ h => by
      obtain ⟨_, _, _, happlies⟩ := applyNotification_ok h
      exact happlies.standing) notifications s

theorem applyNotifications_frame (limits : Limits) (context : MutationContext) (s : State)
    (notifications : List UpstreamNotification) (policy : AdaptivePolicyId) :
    (applyNotifications limits context s notifications).1.policies[policy]?.map (·.frame) =
      s.policies[policy]?.map (·.frame) :=
  applyNotifications_rel
    (R := fun s s' => s'.policies[policy]?.map (·.frame) = s.policies[policy]?.map (·.frame))
    (fun _ => rfl) (fun h₁ h₂ => h₂.trans h₁)
    (fun _ _ _ h => by
      obtain ⟨_, _, haccepted, happlies⟩ := applyNotification_ok h
      exact happlies.frame haccepted.found policy) notifications s

/-- A batch is refused at its first notification, or that one is accepted. -/
theorem applyNotifications_cons (limits : Limits) (context : MutationContext) (s : State)
    (n : UpstreamNotification) (rest : List UpstreamNotification) :
    (∃ answer, applyNotifications limits context s (n :: rest) = (s, some answer)) ∨
      ∃ record registration, NotificationAccepted s context n record registration := by
  unfold applyNotifications
  cases happly : s.applyNotification limits context n with
  | error answer => exact .inl ⟨answer, rfl⟩
  | ok s' =>
    obtain ⟨record, registration, haccepted, -⟩ := applyNotification_ok happly
    exact .inr ⟨record, registration, haccepted⟩

/-- A request that moved the state had its first notification accepted. -/
theorem applyUpstream_accepted {limits : Limits} {s : State} {request : UpstreamNotifyRequest}
    (h : (s.applyUpstream limits request).1 ≠ s) :
    ∃ n record registration, NotificationAccepted s request.context n record registration := by
  unfold applyUpstream at h
  split at h
  · exact absurd rfl h
  · rename_i fingerprint hchecks
    obtain ⟨hempty, -⟩ := seq_ok hchecks
    cases hnotifications : request.notifications with
    | nil => simp [hnotifications] at hempty
    | cons n rest =>
      rw [hnotifications] at h
      rcases applyNotifications_cons limits request.context s n rest with
        ⟨answer, hrefused⟩ | ⟨record, registration, haccepted⟩
      · rw [hrefused] at h
        exact absurd rfl h
      · exact ⟨n, record, registration, haccepted⟩

@[simp] theorem applyUpstream_standing (s : State) (limits : Limits)
    (request : UpstreamNotifyRequest) : (s.applyUpstream limits request).1.standing = s.standing := by
  have hbatch := applyNotifications_standing limits request.context s request.notifications
  unfold applyUpstream
  split
  · rfl
  · split
    · rename_i reached refusal happlied
      rwa [happlied] at hbatch
    · rename_i reached happlied
      rw [happlied] at hbatch
      rw [recordAttempt_standing]
      exact hbatch

end State

end AdaptiveRouting
