import AdaptiveRouting.Lib.Tally
import AdaptiveRouting.Proof.Batch
import AdaptiveRouting.Proof.Records

/-!
# The bound on all candidates

`max_total_candidates` is meant as a bound on the candidates of all policies, and a declaration
compares it with the candidates of its own policy. What stands between the two is a fresh declaration
that its policy has room for while the policies together have none (`Crowds`): a step keeps the bound
exactly when it is not of this kind (`step_totalCandidates`).
-/

namespace AdaptiveRouting

open Guard Engine

namespace State

/-- The candidates of all policies, counted. -/
def totalCandidates (s : State) : Nat :=
  Tally.total (fun record : PolicyRecord => record.candidates.length) s.policies

/-- A declaration of a candidate its policy lacks, which passes the checks of a notification and has
room in its own policy. -/
structure DeclaresFresh (limits : Limits) (s : State) (context : MutationContext)
    (n : UpstreamNotification) (record : PolicyRecord) : Prop where
  checks : s.notificationChecks context n = .ok record
  event : n.event = .declareCandidate
  undeclared : record.findCandidate n.binding.path = none
  ownRoom : reaches record.candidates.length limits.maxCandidatesPerPolicy = false
  room : exceeds (record.candidates.length + 1) limits.maxTotalCandidates = false
  legal : n.binding.pathAuthority.legal = true

section
variable {limits : Limits} {context : MutationContext} {s s' : State} {n : UpstreamNotification}
  {record : PolicyRecord}

theorem weight_candidates (s : State) (policy : AdaptivePolicyId) :
    Tally.weight (fun record : PolicyRecord => record.candidates.length) s.policies policy =
      s.candidateCount policy := by
  rfl

theorem totalCandidates_le (h : ∀ policy, s.candidateCount policy ≤ s'.candidateCount policy) :
    s.totalCandidates ≤ s'.totalCandidates :=
  Tally.total_le fun policy => by
    rw [weight_candidates, weight_candidates]
    exact h policy

/-! ## One notification -/

/-- Such a declaration is accepted, and there is one candidate more. -/
theorem DeclaresFresh.accepted (h : DeclaresFresh limits s context n record) :
    ∃ s', s.applyNotification limits context n = .ok s' ∧
      s'.totalCandidates = s.totalCandidates + 1 := by
  obtain ⟨registration, haccepted⟩ := notificationChecks_ok h.checks
  refine ⟨(s.putRecord n.policy { record with candidates := sortCandidates (record.candidates ++
    [{ binding := n.binding }]) }).reindexPolicy limits n.policy, ?_, ?_⟩
  · unfold applyNotification
    rw [bind_of h.checks]
    unfold applyEvent
    simp only [h.event, h.undeclared]
    unfold declareFresh
    rw [seq_of h.ownRoom, seq_of h.room, seq_of (by simp [h.legal])]
    rfl
  · have hmem : n.policy ∈ s.policies := by
      simp [Std.ExtTreeMap.mem_iff_isSome_getElem?, haccepted.found]
    refine Tally.total_gain hmem fun policy => ?_
    rw [weight_candidates, weight_candidates]
    exact declared_count haccepted.found policy

/-- An accepted notification is such a declaration, or leaves the candidates as many as they were. -/
theorem applyNotification_total (h : s.applyNotification limits context n = .ok s') :
    (∃ record, DeclaresFresh limits s context n record) ∨ s'.totalCandidates ≤ s.totalCandidates := by
  obtain ⟨record, hchecks, hevent⟩ := bind_ok h
  obtain ⟨registration, haccepted⟩ := notificationChecks_ok hchecks
  cases applyEvent_ok hevent with
  | declared event fresh legal =>
    refine .inl ⟨record, ?_⟩
    unfold applyEvent at hevent
    simp only [event, fresh] at hevent
    unfold declareFresh at hevent
    obtain ⟨hown, hevent⟩ := seq_ok hevent
    obtain ⟨hroom, -⟩ := seq_ok hevent
    exact ⟨hchecks, event, fresh, hown, hroom, legal⟩
  | edited =>
    refine .inr (totalCandidates_le fun policy => ?_)
    rw [editBinding_count haccepted.found]
  | invalidated =>
    refine .inr (totalCandidates_le fun policy => ?_)
    rw [applyInvalidation_count, editBinding_count haccepted.found]

/-! ## A batch -/

/-- The rest of a batch whose front was accepted. -/
theorem applyNotifications_from {before : List UpstreamNotification}
    (h : applyNotifications limits context s before = (s', none)) (rest : List UpstreamNotification) :
    applyNotifications limits context s (before ++ rest) =
      applyNotifications limits context s' rest := by
  induction before generalizing s with
  | nil =>
    cases h
    rfl
  | cons n before ih =>
    rw [List.cons_append]
    cases happly : s.applyNotification limits context n with
    | error answer =>
      simp only [applyNotifications, happly] at h
      cases h
    | ok s₁ =>
      simp only [applyNotifications, happly] at h ⊢
      exact ih h

/-- A batch keeps a bound that every declaration finds room under. -/
theorem applyNotifications_total {bound : Nat} {notifications : List UpstreamNotification}
    (hroom : ∀ before n after reached record, notifications = before ++ n :: after →
      applyNotifications limits context s before = (reached, none) →
      DeclaresFresh limits reached context n record → reached.totalCandidates < bound)
    (hstart : s.totalCandidates ≤ bound) :
    (applyNotifications limits context s notifications).1.totalCandidates ≤ bound := by
  induction notifications generalizing s with
  | nil => exact hstart
  | cons n rest ih =>
    unfold applyNotifications
    cases happly : s.applyNotification limits context n with
    | error answer => exact hstart
    | ok s₁ =>
      refine ih (fun before m after reached record hsplit hahead => ?_) ?_
      · apply hroom (n :: before) m after reached record
        · rw [hsplit, List.cons_append]
        · unfold applyNotifications
          rwa [happly]
      · rcases applyNotification_total happly with ⟨record, hdeclares⟩ | hsame
        · have hfits : s.totalCandidates < bound := hroom [] n rest s record rfl rfl hdeclares
          obtain ⟨s₂, haccepted, htotal⟩ := hdeclares.accepted
          rw [happly] at haccepted
          cases haccepted
          omega
        · omega

end

end State

/-! ## One operation -/

/-- A batch one of whose notifications, when its turn comes, is a fresh declaration that its policy has
room for, while the policies together have as many candidates as the limit allows. -/
inductive Crowds (config : EngineConfig) (e : Engine) : Op → Prop
  | declares {request : UpstreamNotifyRequest} {fingerprint : Text} {reached : State}
      {before after : List UpstreamNotification} {n : UpstreamNotification} {record : PolicyRecord}
      (checks : e.state.upstreamChecks config.limits request = .ok fingerprint)
      (split : request.notifications = before ++ n :: after)
      (ahead : State.applyNotifications config.limits request.context e.state before =
        (reached, none))
      (fresh : State.DeclaresFresh config.limits reached request.context n record)
      (full : config.limits.maxTotalCandidates.toNat ≤ reached.totalCandidates) :
      Crowds config e (.applyUpstream request)

section
variable {config : EngineConfig} {e e' : Engine} {op : Op} {answer : Answer}

theorem Rewrites.candidates {policy : AdaptivePolicyId} {record record' : PolicyRecord}
    (h : Rewrites config.limits e op policy record record') :
    record'.candidates.length ≤ record.candidates.length := by
  cases h with
  | updated =>
    unfold State.updatedRecord
    dsimp only
    split
    · exact Nat.le_refl _
    · exact Nat.zero_le _
  | _ => exact Nat.le_refl _

/-- Only a batch declares candidates. -/
theorem step_declares (h : e.step config op = some (e', answer)) :
    e'.state.totalCandidates ≤ e.state.totalCandidates ∨
      ∃ request fingerprint, op = .applyUpstream request ∧
        e.state.upstreamChecks config.limits request = .ok fingerprint ∧
        e'.state.policies = (State.applyNotifications config.limits request.context e.state
          request.notifications).1.policies := by
  have hchange := step_policies h
  unfold State.totalCandidates
  generalize e'.state.policies = policies at hchange ⊢
  cases hchange with
  | kept => exact .inl (Nat.le_refl _)
  | @rewritten subject before after found rewrites =>
    refine .inl (Tally.total_le fun policy => ?_)
    unfold Tally.weight
    by_cases hsubject : subject = policy
    · subst hsubject
      rw [Std.ExtTreeMap.getElem?_insert_self, found]
      exact rewrites.candidates
    · rw [get_insert_ne hsubject]
  | @created now request fingerprint id ids creates checks mints =>
    refine .inl (Tally.total_le fun policy => ?_)
    unfold Tally.weight
    rw [Std.ExtTreeMap.getElem?_insertIfNew]
    split
    · exact Nat.zero_le _
    · exact Nat.le_refl _
  | advanced =>
    refine .inl (Tally.total_le fun policy => ?_)
    unfold Tally.weight
    rw [Std.ExtTreeMap.getElem?_map, Option.map_map]
    rfl
  | notified notifies checks => exact .inr ⟨_, _, notifies, checks, rfl⟩
  | @recovered now durable origin epoch authority =>
    refine .inl (Tally.total_le fun policy => ?_)
    unfold Tally.weight
    cases hget : (State.recoveredState config now durable epoch authority).policies[policy]? with
    | none => exact Nat.zero_le _
    | some record =>
      obtain ⟨_, -, -, -, hnone⟩ :=
        recoveredState_from config now durable epoch authority policy record hget
      simp [hnone]

theorem Crowds.exceeds (hcrowds : Crowds config e op)
    (h : e.step config op = some (e', answer)) :
    config.limits.maxTotalCandidates.toNat < e'.state.totalCandidates := by
  obtain @⟨request, fingerprint, reached, before, after, n, record, checks, split, ahead, fresh, full⟩ :=
    hcrowds
  obtain ⟨declared, haccepted, htotal⟩ := fresh.accepted
  cases h
  change _ < Tally.total _ (e.state.applyUpstream config.limits request).1.policies
  have hpolicies : (e.state.applyUpstream config.limits request).1.policies =
      (State.applyNotifications config.limits request.context declared after).1.policies := by
    unfold State.applyUpstream
    rw [checks]
    dsimp only
    have hloop := State.applyNotifications_from ahead (n :: after)
    rw [State.applyNotifications, haccepted, ← split] at hloop
    rw [hloop]
    dsimp only
    split
    · rename_i hrest
      rw [hrest]
    · rename_i hrest
      rw [State.recordAttempt_policies, hrest]
  rw [hpolicies]
  have hmore := State.totalCandidates_le
    (@State.applyNotifications_count config.limits request.context after declared)
  unfold State.totalCandidates at hmore htotal full
  omega

/-- A step from under the bound stays under it exactly when it does not crowd. -/
theorem step_totalCandidates (h : e.step config op = some (e', answer))
    (hbound : e.state.totalCandidates ≤ config.limits.maxTotalCandidates.toNat) :
    e'.state.totalCandidates ≤ config.limits.maxTotalCandidates.toNat ↔ ¬ Crowds config e op := by
  constructor
  · intro hle hcrowds
    exact absurd (hcrowds.exceeds h) (Nat.not_lt.2 hle)
  · intro hcrowds
    rcases step_declares h with hle | ⟨request, fingerprint, rfl, checks, hpolicies⟩
    · omega
    · unfold State.totalCandidates
      rw [hpolicies]
      refine State.applyNotifications_total (fun before n after reached record split ahead fresh => ?_)
        hbound
      by_contra hfull
      exact hcrowds (.declares checks split ahead fresh (Nat.not_lt.1 hfull))

/-- Along a run none of whose batches crowds, the candidates of all policies stay within
`max_total_candidates`; and from there on it is a batch that crowds, and no other operation, that
exceeds it. -/
theorem totalCandidates_bounded {nonce : Text}
    (h : RunUnder config (fun e op => ¬ Crowds config e op) (Engine.start config nonce) e) :
    e.state.totalCandidates ≤ config.limits.maxTotalCandidates.toNat ∧
      ∀ op e' answer, e.step config op = some (e', answer) →
        (e'.state.totalCandidates ≤ config.limits.maxTotalCandidates.toNat ↔
          ¬ Crowds config e op) := by
  have hbound : e.state.totalCandidates ≤ config.limits.maxTotalCandidates.toNat :=
    h.inv (I := fun e => e.state.totalCandidates ≤ config.limits.maxTotalCandidates.toNat)
      (fun _ _ _ _ hop hle hstep => (step_totalCandidates hstep hle).2 hop) (Nat.zero_le _)
  exact ⟨hbound, fun op e' answer hstep => step_totalCandidates hstep hbound⟩

end

open Scenario in
/-- A candidate declared where there is none stays within the limit. -/
theorem first_candidate_fits :
    let declared := after (created ++ [notify (declare left) "left"])
    declared.state.totalCandidates ≤ config.limits.maxTotalCandidates.toNat ∧
      ∀ op e' answer, declared.step config op = some (e', answer) →
        (e'.state.totalCandidates ≤ config.limits.maxTotalCandidates.toNat ↔
          ¬ Crowds config declared op) := by
  have hcreated : RunUnder config (fun e op => ¬ Crowds config e op) engine (after created) := by
    refine Runs.Run.mono (Runs.runAll_under (fun op => ∀ e, ¬ Crowds config e op)
      (@runAll_after created (by decide +kernel)) fun op hop => ?_) fun e _ hop => hop e
    simp only [created, List.mem_cons, List.not_mem_nil, or_false] at hop
    intro e hcrowds
    rcases hop with rfl | rfl <;> cases hcrowds
  obtain ⟨answer, hstep⟩ := step_after created (notify (declare left) "left") (by decide +kernel)
  have hfits : (after (created ++ [notify (declare left) "left"])).state.totalCandidates ≤
      config.limits.maxTotalCandidates.toNat := by decide +kernel
  exact totalCandidates_bounded (hcreated.tail
    (fun hcrowds => absurd (hcrowds.exceeds hstep) (Nat.not_lt.2 hfits)) hstep)

namespace Scenario

/-- A deployment with room for one candidate. -/
def crammed : EngineConfig := { limits := { maxTotalCandidates := 1 } }

/-- Two policies, and a candidate of each. -/
def onePerPolicy : List Op :=
  let second : AdaptivePolicyId := name "arf-policy-n-2"
  [register, .createPolicy 0 (create 1),
    .createPolicy 0 { create 1 with name := name "second", context := context 1 "second" },
    notify (declare left) "left", notify { declare left with policy := second } "second-left"]

end Scenario

open Scenario in
/-- Two policies declare a candidate each, where one is all that `max_total_candidates` allows. -/
theorem total_limit_is_per_policy : ∃ e,
    Runs.runAll (Engine.step crammed) (Engine.start crammed "n") onePerPolicy = some e ∧
      Reachable crammed e ∧ e.state.totalCandidates = 2 ∧
      crammed.limits.maxTotalCandidates.toNat = 1 := by
  obtain ⟨e, hrun, htotal⟩ : ∃ e,
      Runs.runAll (Engine.step crammed) (Engine.start crammed "n") onePerPolicy = some e ∧
        (e.state.totalCandidates == 2) = true := Runs.exists_run_of_runAll (by decide +kernel)
  exact ⟨e, hrun, Engine.reachable_of_runAll hrun, by simpa using htotal, rfl⟩

end AdaptiveRouting
