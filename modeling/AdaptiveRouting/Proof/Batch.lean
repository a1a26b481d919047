import AdaptiveRouting.Proof.Notify
import AdaptiveRouting.Proof.Refusals
import AdaptiveRouting.Proof.Scenario

/-!
# Atomicity of an upstream batch

The batch loop applies notification by notification, so a rejected batch leaves the state alone
exactly when what stands ahead of the first refused notification adds up to nothing
(`AddsUpToNothing`): it declares no new candidate, invalidates no path that a policy depends on or
the watermark counts, and writes into each binding, in the end, what the binding holds. Without a new
candidate every record is amended in place (`Amended`), which decides it.
-/

namespace AdaptiveRouting

open Guard Engine

/-! ## Amending a record in place -/

namespace PolicyRecord

theorem modifyCandidate_getElem? (r : PolicyRecord) (path : PathId)
    (f : CandidateRecord → CandidateRecord) (index : Nat) :
    (r.modifyCandidate path f).candidates[index]? =
      r.candidates[index]?.map fun c => if r.candidateIdx path = some index then f c else c := by
  unfold modifyCandidate
  cases hfound : r.candidateIdx path with
  | none => simp
  | some found =>
    dsimp only
    rw [List.getElem?_modify]
    by_cases hindex : found = index
    · simp [hindex]
    · simp [hindex]

/-- The candidate a search finds has the path searched for. -/
theorem candidateIdx_path {r : PolicyRecord} {path : PathId} {index : Nat} {c : CandidateRecord}
    (h : r.candidateIdx path = some index) (hc : r.candidates[index]? = some c) :
    c.binding.path = path := by
  obtain ⟨found, hfound, hpath⟩ := Search.findIdx_some h
  rw [hfound] at hc
  cases hc
  exact hpath

end PolicyRecord

namespace State

/-- The record of a policy after notifications that amend it in place. -/
def amendAll (s : State) (policy : AdaptivePolicyId) (notifications : List UpstreamNotification)
    (r : PolicyRecord) : PolicyRecord :=
  notifications.foldl (fun r n => r.modifyCandidate n.binding.path (s.amend n policy)) r

/-- A candidate after the notifications that name its path. -/
def amendAt (s : State) (policy : AdaptivePolicyId) (path : PathId)
    (notifications : List UpstreamNotification) (c : CandidateRecord) : CandidateRecord :=
  notifications.foldl (fun c n => if n.binding.path = path then s.amend n policy c else c) c

section
variable {s : State} {policy : AdaptivePolicyId}

theorem amend_paths (s : State) (n : UpstreamNotification) (policy : AdaptivePolicyId)
    (r : PolicyRecord) : (r.modifyCandidate n.binding.path (s.amend n policy)).paths = r.paths :=
  PolicyRecord.modifyCandidate_paths fun _ hc =>
    amend_path (PolicyRecord.findCandidate_path hc)

theorem amendAll_frame (notifications : List UpstreamNotification) (r : PolicyRecord) :
    (s.amendAll policy notifications r).frame = r.frame := by
  induction notifications generalizing r with
  | nil => rfl
  | cons n rest ih => exact (ih _).trans (PolicyRecord.modifyCandidate_frame ..)

theorem amendAll_getElem? (notifications : List UpstreamNotification) (r : PolicyRecord)
    (index : Nat) : (s.amendAll policy notifications r).candidates[index]? =
      r.candidates[index]?.map fun c => notifications.foldl (fun c n =>
        if r.candidateIdx n.binding.path = some index then s.amend n policy c else c) c := by
  induction notifications generalizing r with
  | nil => simp [amendAll]
  | cons n rest ih =>
    unfold amendAll at ih ⊢
    rw [List.foldl_cons, ih, PolicyRecord.modifyCandidate_getElem?, Option.map_map]
    simp only [PolicyRecord.candidateIdx_congr (s.amend_paths n policy r)]
    rfl

/-- The candidate that is found at a path is amended by what names the path. -/
theorem amendAll_found {r : PolicyRecord} {path : PathId} {index : Nat} {c : CandidateRecord}
    (hindex : r.candidateIdx path = some index) (hc : r.candidates[index]? = some c)
    (notifications : List UpstreamNotification) :
    (s.amendAll policy notifications r).candidates[index]? =
      some (s.amendAt policy path notifications c) := by
  have hnames : ∀ other, r.candidateIdx other = some index ↔ other = path := fun other => by
    constructor
    · intro hother
      rw [← PolicyRecord.candidateIdx_path hother hc, PolicyRecord.candidateIdx_path hindex hc]
    · rintro rfl
      exact hindex
  rw [amendAll_getElem?, hc]
  simp only [hnames]
  rfl

/-- A candidate that no search finds is not amended. -/
theorem amendAll_unfound {r : PolicyRecord} {index : Nat} {c : CandidateRecord}
    (hindex : r.candidateIdx c.binding.path ≠ some index) (hc : r.candidates[index]? = some c)
    (notifications : List UpstreamNotification) :
    (s.amendAll policy notifications r).candidates[index]? = some c := by
  have hnames : ∀ other, r.candidateIdx other ≠ some index := fun other hother =>
    hindex (by rwa [PolicyRecord.candidateIdx_path hother hc])
  rw [amendAll_getElem?, hc]
  simp only [hnames, if_false, Option.map_some, Option.some.injEq]
  induction notifications with
  | nil => rfl
  | cons n rest ih => exact ih

end

/-- What the notifications that name a candidate write into its binding, one after the other. -/
def rewritten (notifications : List UpstreamNotification) (policy : AdaptivePolicyId)
    (path : PathId) (binding : CandidateBinding) : CandidateBinding :=
  notifications.foldl (fun c n =>
    if n.policy = policy ∧ n.binding.path = path then n.edit c else c) binding

/-- The notifications that invalidate a path a policy depends on. -/
def invalidations (s : State) (policy : AdaptivePolicyId) (path : PathId)
    (notifications : List UpstreamNotification) : Nat :=
  notifications.countP fun n =>
    decide (n.binding.path = path) && n.event.invalidates && s.dependsOn path policy

theorem amendAt_eq (s : State) (policy : AdaptivePolicyId) (path : PathId)
    (notifications : List UpstreamNotification) (c : CandidateRecord) :
    s.amendAt policy path notifications c =
      { binding := rewritten notifications policy path c.binding
        pathWatermark :=
          c.pathWatermark + UInt64.ofNat (s.invalidations policy path notifications) } := by
  induction notifications generalizing c with
  | nil =>
    unfold amendAt rewritten invalidations
    simp
  | cons n rest ih =>
    have hstep : s.amendAt policy path (n :: rest) c =
        s.amendAt policy path rest (if n.binding.path = path then s.amend n policy c else c) := rfl
    rw [hstep, ih]
    unfold rewritten invalidations
    rw [List.foldl_cons, List.countP_cons]
    by_cases hpath : n.binding.path = path
    · subst hpath
      simp only [if_true, amend, and_true, decide_true, Bool.true_and]
      congr 1
      split
      · rename_i hbumps
        rw [UInt64.ofNat_add, UInt64.add_assoc, UInt64.add_comm 1]
        rfl
      · simp
    · simp [hpath]

/-- The watermark after the notifications that advance it. -/
def advanced (notifications : List UpstreamNotification) (w : Watermark) : Watermark :=
  notifications.foldl (fun w n => if n.event.invalidates then w.next.getD w else w) w

theorem le_advanced (notifications : List UpstreamNotification) (w : Watermark) :
    w ≤ advanced notifications w := by
  induction notifications generalizing w with
  | nil => exact UInt64.le_refl _
  | cons n rest ih =>
    refine UInt64.le_trans ?_ (ih _)
    dsimp only
    split
    · exact w.le_next
    · exact UInt64.le_refl _

/-- The watermark stays where it is only if nothing advances it, or nothing can any more. -/
theorem advanced_eq_iff {notifications : List UpstreamNotification} {w : Watermark} :
    advanced notifications w = w ↔
      ∀ n ∈ notifications, n.event.invalidates = true → w.next = none := by
  induction notifications generalizing w with
  | nil => simp [advanced]
  | cons n rest ih =>
    have hstep : advanced (n :: rest) w =
        advanced rest (if n.event.invalidates then w.next.getD w else w) := rfl
    rw [hstep]
    cases hinvalidates : n.event.invalidates with
    | false => simp [hinvalidates, ih]
    | true =>
      cases hnext : w.next with
      | none => simp [ih, hnext]
      | some next =>
        have hlt : w < advanced rest next :=
          UInt64.lt_of_lt_of_le (Watermark.lt_next hnext) (le_advanced rest next)
        simp only [if_true, Option.getD_some]
        constructor
        · intro hsame
          rw [hsame] at hlt
          exact absurd hlt (UInt64.lt_irrefl _)
        · intro hnone
          have hn := hnone n List.mem_cons_self hinvalidates
          cases hn

/-! ## Batches without a new candidate -/

/-- The candidate a policy has at a path. -/
def candidateAt (s : State) (policy : AdaptivePolicyId) (path : PathId) : Option CandidateRecord :=
  s.policies[policy]?.bind (·.findCandidate path)

/-- A state whose records were amended in place. -/
structure Amended (s : State) (notifications : List UpstreamNotification) (s' : State) :
    Prop where
  frame : s' = { s with policies := s'.policies, upstreamWatermark := s'.upstreamWatermark }
  watermark : s'.upstreamWatermark = advanced notifications s.upstreamWatermark
  records : ∀ policy : AdaptivePolicyId,
    s'.policies[policy]? = s.policies[policy]?.map (s.amendAll policy notifications)

section
variable {limits : Limits} {context : MutationContext} {s s' s₁ : State} {n : UpstreamNotification}

/-- A notification that declares no new candidate of a policy amends its record in place. -/
theorem applyNotification_record {policy : AdaptivePolicyId} {r : PolicyRecord}
    (h : s.applyNotification limits context n = .ok s') (hr : s.policies[policy]? = some r)
    (hdeclared : n.policy = policy → n.event = .declareCandidate →
      (s.candidateAt policy n.binding.path).isSome) :
    s'.policies[policy]? = some (r.modifyCandidate n.binding.path (s.amend n policy)) := by
  obtain ⟨record, registration, haccepted, happlies⟩ := applyNotification_ok h
  obtain ⟨r', hr', hamends⟩ := happlies.record haccepted.found hr
  rw [hr']
  cases hamends with
  | amended => rfl
  | declared fresh event own =>
    have hsome := hdeclared own event
    unfold candidateAt at hsome
    rw [hr, Option.bind_some, fresh] at hsome
    cases hsome

/-- Amended in place, a policy has candidates at the same paths. -/
theorem applyNotification_candidateAt {policy : AdaptivePolicyId}
    (h : s.applyNotification limits context n = .ok s')
    (hdeclared : n.policy = policy → n.event = .declareCandidate →
      (s.candidateAt policy n.binding.path).isSome) (path : PathId) :
    (s'.candidateAt policy path).isSome = (s.candidateAt policy path).isSome := by
  cases hr : s.policies[policy]? with
  | none =>
    obtain ⟨record, registration, haccepted, happlies⟩ := applyNotification_ok h
    have hframe := happlies.frame haccepted.found policy
    rw [hr, Option.map_none, Option.map_eq_none_iff] at hframe
    simp [candidateAt, hr, hframe]
  | some r =>
    unfold candidateAt
    rw [applyNotification_record h hr hdeclared, hr]
    have hpaths := s.amend_paths n policy r
    simp only [Option.bind_some, PolicyRecord.findCandidate, PolicyRecord.candidateIdx_congr hpaths]
    cases r.candidateIdx path with
    | none => rfl
    | some index => simp [PolicyRecord.modifyCandidate_getElem?]

theorem applyNotification_amended (h : s.applyNotification limits context n = .ok s')
    (hdeclared : n.event = .declareCandidate → (s.candidateAt n.policy n.binding.path).isSome) :
    Amended s [n] s' := by
  obtain ⟨record, registration, haccepted, happlies⟩ := applyNotification_ok h
  have hknown : n.event = .declareCandidate → record.findCandidate n.binding.path ≠ none := by
    intro hevent hfresh
    have hsome := hdeclared hevent
    unfold candidateAt at hsome
    rw [haccepted.found, Option.bind_some, hfresh] at hsome
    cases hsome
  refine ⟨?_, ?_, fun policy => ?_⟩
  · cases happlies with
    | declared event fresh => exact absurd fresh (hknown event)
    | edited => rfl
    | invalidated =>
      obtain ⟨policies, watermark, hs⟩ := applyInvalidation_eq
        (s.editBinding n.policy record n.binding.path n.edit) n.binding.path
      rw [hs]
      rfl
  · cases happlies with
    | declared event fresh => exact absurd fresh (hknown event)
    | edited event =>
      simp only [advanced, List.foldl_cons, List.foldl_nil, event]
      rfl
    | invalidated event =>
      rw [applyInvalidation_watermark]
      simp only [advanced, List.foldl_cons, List.foldl_nil, event]
      rfl
  · cases hr : s.policies[policy]? with
    | none =>
      have hframe := happlies.frame haccepted.found policy
      rw [hr, Option.map_none, Option.map_eq_none_iff] at hframe
      exact hframe
    | some r =>
      rw [applyNotification_record h hr fun own event => own ▸ hdeclared event, Option.map_some]
      rfl

theorem Amended.cons {rest : List UpstreamNotification} (h₁ : Amended s [n] s₁)
    (h₂ : Amended s₁ rest s') : Amended s (n :: rest) s' where
  frame := by
    rw [h₂.frame, h₁.frame]
  watermark := by
    rw [h₂.watermark, h₁.watermark]
    rfl
  records := fun policy => by
    have hindex : s₁.policiesByPath = s.policiesByPath := by rw [h₁.frame]
    have hsame : ∀ r, s₁.amendAll policy rest r = s.amendAll policy rest r := fun r => by
      unfold amendAll amend dependsOn
      rw [hindex]
    rw [h₂.records, h₁.records, Option.map_map]
    congr 1
    funext r
    exact hsame _

/-- A batch that declares no new candidate amends every record in place. -/
theorem applyNotifications_amended {notifications : List UpstreamNotification}
    (h : applyNotifications limits context s notifications = (s', none))
    (hdeclared : ∀ n ∈ notifications, n.event = .declareCandidate →
      (s.candidateAt n.policy n.binding.path).isSome) : Amended s notifications s' := by
  induction notifications generalizing s with
  | nil =>
    cases h
    exact ⟨rfl, rfl, fun policy => (Option.map_id' ..).symm⟩
  | cons n rest ih =>
    unfold applyNotifications at h
    cases happly : s.applyNotification limits context n with
    | error answer =>
      rw [happly] at h
      cases h
    | ok s₁ =>
      rw [happly] at h
      have hamended := applyNotification_amended happly (hdeclared n List.mem_cons_self)
      refine hamended.cons (ih h fun m hm hevent => ?_)
      rw [applyNotification_candidateAt happly fun own event => own ▸ hdeclared n List.mem_cons_self event]
      exact hdeclared m (List.mem_cons_of_mem n hm) hevent

/-! ## The number of candidates -/

/-- The number of candidates of a policy. -/
def candidateCount (s : State) (policy : AdaptivePolicyId) : Nat :=
  (s.policies[policy]?.map (·.candidates.length)).getD 0

theorem applyInvalidation_count (s : State) (path : PathId) (policy : AdaptivePolicyId) :
    (s.applyInvalidation path).candidateCount policy = s.candidateCount policy := by
  unfold candidateCount
  rw [applyInvalidation_get]
  split
  · cases s.policies[policy]? <;> simp [PolicyRecord.bumped, PolicyRecord.modifyCandidate_length]
  · rfl

theorem putRecord_count (s : State) (policy other : AdaptivePolicyId) (record : PolicyRecord) :
    (s.putRecord policy record).candidateCount other =
      if policy = other then record.candidates.length else s.candidateCount other := by
  unfold candidateCount
  split
  · rename_i h
    subst h
    simp
  · rename_i h
    rw [putRecord_policies, get_insert_ne h]

theorem editBinding_count {record : PolicyRecord} {policy : AdaptivePolicyId}
    (found : s.policies[policy]? = some record) (path : PathId)
    (f : CandidateBinding → CandidateBinding) (other : AdaptivePolicyId) :
    (s.editBinding policy record path f).candidateCount other = s.candidateCount other := by
  unfold editBinding
  rw [putRecord_count]
  split
  · rename_i hother
    subst hother
    simp [PolicyRecord.modifyCandidate_length, candidateCount, found]
  · rfl

/-- A fresh declaration adds a candidate to its policy. -/
theorem declared_count {record : PolicyRecord} (found : s.policies[n.policy]? = some record)
    (policy : AdaptivePolicyId) :
    candidateCount (reindexPolicy (s.putRecord n.policy { record with
      candidates := sortCandidates (record.candidates ++ [{ binding := n.binding }]) }) limits
        n.policy) policy = s.candidateCount policy + if n.policy = policy then 1 else 0 := by
  unfold candidateCount
  rw [reindexPolicy_policies]
  change candidateCount (s.putRecord n.policy _) policy = _
  rw [putRecord_count]
  split
  · rename_i hpolicy
    subst hpolicy
    simp [sortCandidates_length, found]
  · rfl

theorem Applies.count {record : PolicyRecord} (h : Applies limits s record n s')
    (found : s.policies[n.policy]? = some record) (policy : AdaptivePolicyId) :
    s.candidateCount policy ≤ s'.candidateCount policy := by
  cases h with
  | declared =>
    rw [declared_count found]
    omega
  | edited => rw [editBinding_count found]
  | invalidated => rw [applyInvalidation_count, editBinding_count found]

theorem applyNotifications_count (notifications : List UpstreamNotification) (s : State)
    (policy : AdaptivePolicyId) : s.candidateCount policy ≤
      (applyNotifications limits context s notifications).1.candidateCount policy :=
  applyNotifications_rel (R := fun s s' => s.candidateCount policy ≤ s'.candidateCount policy)
    (fun _ => Nat.le_refl _) Nat.le_trans
    (fun _ _ _ h => by
      obtain ⟨_, _, haccepted, happlies⟩ := applyNotification_ok h
      exact happlies.count haccepted.found policy) notifications s

/-- A batch after which a policy has no more candidates declared only what it had. -/
theorem applyNotifications_declared {notifications : List UpstreamNotification}
    {policy : AdaptivePolicyId} (h : applyNotifications limits context s notifications = (s', none))
    (hcount : s'.candidateCount policy ≤ s.candidateCount policy) :
    ∀ n ∈ notifications, n.policy = policy → n.event = .declareCandidate →
      (s.candidateAt policy n.binding.path).isSome := by
  induction notifications generalizing s with
  | nil => simp
  | cons m rest ih =>
    unfold applyNotifications at h
    cases happly : s.applyNotification limits context m with
    | error answer =>
      rw [happly] at h
      cases h
    | ok s₁ =>
      rw [happly] at h
      dsimp only at h
      obtain ⟨record, registration, haccepted, happlies⟩ := applyNotification_ok happly
      have hrest : s₁.candidateCount policy ≤ s'.candidateCount policy := by
        have hle := @applyNotifications_count limits context rest s₁ policy
        rwa [h] at hle
      have hfirst : m.policy = policy → m.event = .declareCandidate →
          (s.candidateAt policy m.binding.path).isSome := by
        rintro rfl hevent
        unfold candidateAt
        rw [haccepted.found, Option.bind_some]
        cases happlies with
        | declared event fresh =>
          rw [declared_count haccepted.found, if_pos rfl] at hrest
          omega
        | edited event declared => exact declared hevent
        | invalidated event =>
          rw [hevent] at event
          cases event
      intro n hn hpolicy hevent
      rcases List.mem_cons.1 hn with rfl | hn
      · exact hfirst hpolicy hevent
      · rw [← applyNotification_candidateAt happly hfirst]
        exact ih h (Nat.le_trans hcount (happlies.count haccepted.found policy)) n hn hpolicy hevent

/-! ## Batches that add up to nothing -/

/-- The notifications of a list declare no new candidate; those that invalidate a path find the
watermark at its end and no candidate of the path in the policies that depend on it; and what they
write into the binding of a candidate is, in the end, what it holds. -/
structure AddsUpToNothing (s : State) (notifications : List UpstreamNotification) : Prop where
  declared : ∀ n ∈ notifications, n.event = .declareCandidate →
    (s.candidateAt n.policy n.binding.path).isSome
  watermark : ∀ n ∈ notifications, n.event.invalidates = true → s.upstreamWatermark.next = none
  dependents : ∀ n ∈ notifications, n.event.invalidates = true →
    ∀ policy, s.dependsOn n.binding.path policy = true → s.candidateAt policy n.binding.path = none
  bindings : ∀ policy path c, s.candidateAt policy path = some c →
    rewritten notifications policy path c.binding = c.binding

/-- A candidate is what it was exactly when its binding is, and no notification invalidates its path
for a policy that depends on it. -/
theorem amendAt_same_iff {policy : AdaptivePolicyId} {path : PathId}
    {notifications : List UpstreamNotification} {c : CandidateRecord}
    (hlength : notifications.length < UInt64.size) :
    s.amendAt policy path notifications c = c ↔
      rewritten notifications policy path c.binding = c.binding ∧
        s.invalidations policy path notifications = 0 := by
  have hcount : s.invalidations policy path notifications ≤ notifications.length :=
    List.countP_le_length
  rw [amendAt_eq]
  constructor
  · intro hsame
    have hwatermark := congrArg CandidateRecord.pathWatermark hsame
    dsimp only at hwatermark
    refine ⟨congrArg CandidateRecord.binding hsame, ?_⟩
    have hzero : UInt64.ofNat (s.invalidations policy path notifications) = 0 := by
      simpa using hwatermark
    have hnat : (UInt64.ofNat (s.invalidations policy path notifications)).toNat = 0 := by
      rw [hzero]
      rfl
    rwa [UInt64.toNat_ofNat', Nat.mod_eq_of_lt (Nat.lt_of_le_of_lt hcount hlength)] at hnat
  · rintro ⟨hbinding, hzero⟩
    rw [hbinding, hzero]
    simp

/-- Notifications that add up to nothing amend a record of the state to itself. -/
theorem amendAll_same {policy : AdaptivePolicyId} {notifications : List UpstreamNotification}
    {r : PolicyRecord} (hnothing : AddsUpToNothing s notifications)
    (hlength : notifications.length < UInt64.size) (hr : s.policies[policy]? = some r) :
    s.amendAll policy notifications r = r := by
  have hcandidates : (s.amendAll policy notifications r).candidates = r.candidates := by
    refine List.ext_getElem? fun index => ?_
    cases hc : r.candidates[index]? with
    | none => rw [amendAll_getElem?, hc, Option.map_none]
    | some c =>
      by_cases hindex : r.candidateIdx c.binding.path = some index
      · rw [amendAll_found hindex hc, Option.some.injEq]
        have hat : s.candidateAt policy c.binding.path = some c := by
          unfold candidateAt PolicyRecord.findCandidate
          rw [hr, Option.bind_some, hindex, Option.bind_some, hc]
        refine (amendAt_same_iff hlength).2 ⟨hnothing.bindings policy _ c hat, ?_⟩
        refine List.countP_eq_zero.2 fun n hn hmatches => ?_
        simp only [Bool.and_eq_true, decide_eq_true_eq] at hmatches
        obtain ⟨⟨hpath, hevent⟩, hdepends⟩ := hmatches
        rw [← hpath] at hdepends hat
        rw [hnothing.dependents n hn hevent policy hdepends] at hat
        cases hat
      · exact amendAll_unfound hindex hc notifications
  have hframe := @amendAll_frame s policy notifications r
  generalize s.amendAll policy notifications r = r' at *
  have hframe' : { r' with candidates := [] } = { r with candidates := [] } := hframe
  cases r
  cases r'
  simp_all

/-- A batch without a refusal leaves the state as it was exactly when its notifications add up to
nothing. -/
theorem applyNotifications_unmoved_iff {notifications : List UpstreamNotification}
    (h : applyNotifications limits context s notifications = (s', none))
    (hlength : notifications.length < UInt64.size) :
    s' = s ↔ AddsUpToNothing s notifications := by
  constructor
  · rintro rfl
    have hdeclared : ∀ n ∈ notifications, n.event = .declareCandidate →
        (s'.candidateAt n.policy n.binding.path).isSome := fun n hn hevent =>
      applyNotifications_declared h (Nat.le_refl _) n hn rfl hevent
    have hamended := applyNotifications_amended h hdeclared
    have hcandidates : ∀ policy path c, s'.candidateAt policy path = some c →
        s'.amendAt policy path notifications c = c := by
      intro policy path c hc
      obtain ⟨r, hr, hfound⟩ := Option.bind_eq_some_iff.1 hc
      obtain ⟨index, hindex, hat⟩ := Option.bind_eq_some_iff.1 hfound
      have hrecord := hamended.records policy
      rw [hr, Option.map_some, Option.some.injEq] at hrecord
      have hamendedAt := @amendAll_found s' policy _ _ _ _ hindex hat notifications
      rw [← hrecord, hat] at hamendedAt
      exact (Option.some.inj hamendedAt).symm
    refine ⟨hdeclared, fun n hn hevent => ?_, fun n hn hevent policy hdepends => ?_,
      fun policy path c hc => ((amendAt_same_iff hlength).1 (hcandidates policy path c hc)).1⟩
    · exact advanced_eq_iff.1 hamended.watermark.symm n hn hevent
    · rw [Option.eq_none_iff_forall_not_mem]
      intro c hc
      have hnone := ((amendAt_same_iff hlength).1 (hcandidates policy _ c hc)).2
      have hfree := List.countP_eq_zero.1 hnone n hn
      simp [hevent, hdepends] at hfree
  · intro hnothing
    have hamended := applyNotifications_amended h hnothing.declared
    have hpolicies : s'.policies = s.policies := by
      refine Std.ExtTreeMap.ext_getElem? fun {policy} => ?_
      rw [hamended.records]
      cases hr : s.policies[policy]? with
      | none => rfl
      | some r =>
        rw [Option.map_some, Option.some.injEq]
        exact amendAll_same hnothing hlength hr
    have hwatermark : s'.upstreamWatermark = s.upstreamWatermark := by
      rw [hamended.watermark]
      exact advanced_eq_iff.2 hnothing.watermark
    rw [hamended.frame, hpolicies, hwatermark]

/-! ## Runs of the loop -/

/-- A refused batch, put together: what was accepted, and the notification that was refused. -/
theorem applyNotifications_append {before after : List UpstreamNotification}
    {answer : OperationResult} (h : applyNotifications limits context s before = (s', none))
    (hn : s'.applyNotification limits context n = .error answer) :
    applyNotifications limits context s (before ++ n :: after) = (s', some answer) := by
  induction before generalizing s with
  | nil =>
    cases h
    simp [applyNotifications, hn]
  | cons m rest ih =>
    unfold applyNotifications at h
    rw [List.cons_append]
    unfold applyNotifications
    cases happly : s.applyNotification limits context m with
    | error refused =>
      rw [happly] at h
      cases h
    | ok s₁ =>
      rw [happly] at h
      exact ih h

end

/-- What stands ahead of the first refused notification of a request adds up to nothing. -/
def NothingAhead (limits : Limits) (s : State) (request : UpstreamNotifyRequest) : Prop :=
  ∀ before n after reached answer, request.notifications = before ++ n :: after →
    applyNotifications limits request.context s before = (reached, none) →
    reached.applyNotification limits request.context n = .error answer →
    AddsUpToNothing s before

/-- A rejected batch leaves the state as it was exactly when the request is refused before its first
notification, or what stands ahead of the first refused one adds up to nothing. -/
theorem applyUpstream_atomic_iff (limits : Limits) (s : State) (request : UpstreamNotifyRequest) :
    ((s.applyUpstream limits request).2.outcome.isRejection = true →
        (s.applyUpstream limits request).1 = s) ↔
      (∃ answer, s.upstreamChecks limits request = .error answer) ∨ NothingAhead limits s request := by
  cases hchecks : s.upstreamChecks limits request with
  | error answer =>
    refine ⟨fun _ => .inl ⟨answer, rfl⟩, fun _ _ => ?_⟩
    rw [applyUpstream, hchecks]
  | ok fingerprint =>
    have hbounded : request.notifications.length < UInt64.size := by
      obtain ⟨-, hrest⟩ := seq_ok hchecks
      obtain ⟨hsize, -⟩ := seq_ok hrest
      have hmax := UInt64.toNat_lt_size limits.maxBatchSize
      simp only [exceeds, decide_eq_false_iff_not] at hsize
      omega
    have hahead : ∀ before n after, request.notifications = before ++ n :: after →
        before.length < UInt64.size := by
      intro before n after hsplit
      rw [hsplit, List.length_append] at hbounded
      omega
    constructor
    · intro hatomic
      refine .inr fun before n after reached answer hsplit haccepted hrefused => ?_
      have hloop : applyNotifications limits request.context s (before ++ n :: after) =
          (reached, some answer) := applyNotifications_append haccepted hrefused
      rw [applyUpstream, hchecks] at hatomic
      dsimp only at hatomic
      rw [hsplit, hloop] at hatomic
      exact (applyNotifications_unmoved_iff haccepted (hahead before n after hsplit)).1
        (hatomic (applyNotification_rejecting _ _ _ _ _ hrefused))
    · rintro (⟨answer, ⟨⟩⟩ | hnothing)
      intro hrejected
      unfold applyUpstream at hrejected ⊢
      rw [hchecks] at hrejected ⊢
      dsimp only at hrejected ⊢
      cases hloop : applyNotifications limits request.context s request.notifications with
      | mk reached refusal =>
        rw [hloop] at hrejected
        cases refusal with
        | none => simp [Outcome.isRejection, Outcome.isSuccess] at hrejected
        | some answer =>
          obtain ⟨before, n, after, hsplit, haccepted, hrefused⟩ := applyNotifications_refused hloop
          exact (applyNotifications_unmoved_iff haccepted (hahead before n after hsplit)).2
            (hnothing before n after reached answer hsplit haccepted hrefused)

end State

namespace Scenario

/-- A declaration, and one for a policy that does not exist. -/
def halfBatch : UpstreamNotifyRequest where
  notifications := [declare left, { declare right with policy := name "other" }]
  context := context 1 "notify"

end Scenario

open Scenario in
/-- A declaration followed by a notification for an unknown policy: the request is answered
`NOT_FOUND`, and the candidate is declared. -/
theorem rejected_batch_declares :
    let declared : List Op := [register, .createPolicy 0 (create 1)]
    let s := (after declared).state
    Engine.Reachable config (after declared) ∧
      (s.applyUpstream config.limits halfBatch).2.outcome = .notFound ∧
      (s.applyUpstream config.limits halfBatch).1 ≠ s := by
  refine ⟨reachable_after (by decide +kernel), by decide +kernel, fun hsame => ?_⟩
  have hcount := congrArg (fun s : State => s.candidateCount policy) hsame
  revert hcount
  decide +kernel

end AdaptiveRouting
