import AdaptiveRouting.Proof.Churn
import AdaptiveRouting.Proof.Counters
import AdaptiveRouting.Proof.HoldDown
import AdaptiveRouting.Proof.Recovery

/-!
# Conservative recovery

The state an engine recovers from a store that another one wrote, against the state that was saved.
The two clocks are unrelated: a store holds remaining durations and ages. A remaining duration is added
to the recovering clock in 64 bits, so a constraint outlasts the restart exactly when that sum does not
wrap (`recovery_is_conservative_iff`).
-/

namespace AdaptiveRouting

open Engine

/-! ## Timing constraints -/

/-- Where a hold-down is looked up: the evaluation of a ticket, or its commit. -/
inductive Phase
  | evaluate
  | commit
  deriving DecidableEq

/-- The hold-down in force. -/
def Phase.holdDown : Phase → PolicySemantics → UInt32 → Ticks
  | .evaluate, semantics, penalty => (effectiveHoldDown semantics penalty).1
  | .commit, semantics, penalty => State.commitHoldDown semantics penalty

namespace PolicyRecord

/-- The hold-down keeps a path from being preferred again. -/
def heldDown (r : PolicyRecord) (phase : Phase) (now : Ticks) (path : PathId) : Bool :=
  r.timing.holdDownActive && phase.holdDown r.policy.semantics r.timing.dampeningPenalty != 0 &&
    (r.preference.previousPath.valid && r.preference.previousPath == path) &&
    decide (now < r.timing.holdDownDeadline)

def cooling (r : PolicyRecord) (now : Ticks) : Bool :=
  r.timing.cooldownActive && decide (now < r.timing.cooldownDeadline)

def churned (r : PolicyRecord) (now : Ticks) : Bool :=
  r.policy.semantics.churn.enabled && decide
    (r.policy.semantics.churn.maxAdaptationsPerWindow.toNat ≤
      recentCommits r.policy.semantics.churn r.timing now)

end PolicyRecord

/-! ## Stamps -/

/-- The clock readings an operation takes. -/
def Op.readings : Op → List Ticks
  | .createPolicy now _ | .updatePolicy now _ | .beginEvaluation now _ => [now]
  | .publishEvidence clock request => (acceptances clock request.publications).map (·.1)
  | .commitEvaluation now _ | .rollback now _ | .snapshot now _ | .decodeStore now _ _ => [now]
  | .evaluate begun committed _ => [begun, committed]
  | _ => []

/-- None of them is past an instant. -/
def ReadBy (instant : Ticks) (op : Op) : Prop := ∀ reading ∈ op.readings, reading ≤ instant

/-- No committed adaptation is stamped past an instant. -/
def PolicyRecord.StampedBy (r : PolicyRecord) (instant : Ticks) : Prop :=
  ∀ stamp ∈ r.timing.churnCommits, stamp ≤ instant

theorem Op.adaptsAt_reading {op : Op} {now : Ticks} (h : op.adaptsAt = some now) :
    now ∈ op.readings := by
  cases op <;> simp_all [Op.adaptsAt, Op.readings]

theorem PolicyRecord.StampedBy.stamp {record record' : PolicyRecord} {instant now : Ticks}
    (h : record.StampedBy instant) (hnow : now ≤ instant)
    (hstamps : ∀ stamp ∈ record'.timing.churnCommits, stamp ∈ record.timing.churnCommits ++ [now]) :
    record'.StampedBy instant := by
  intro stamp hin
  rcases List.mem_append.1 (hstamps stamp hin) with hin | hin
  · exact h stamp hin
  · rw [List.mem_singleton.1 hin]
    exact hnow

section
variable {config : EngineConfig} {e e' : Engine} {op : Op} {answer : Answer}
  {policy : AdaptivePolicyId} {record record' : PolicyRecord} {instant : Ticks}

theorem Rewrites.stampedBy (h : Rewrites config.limits e op policy record record')
    (hop : ReadBy instant op) (hs : record.StampedBy instant) : record'.StampedBy instant := by
  cases h with
  | updated =>
    unfold State.updatedRecord
    dsimp only
    split
    · exact hs
    · intro stamp hin
      cases hin
  | committed commits =>
    refine hs.stamp (hop _ (Op.adaptsAt_reading commits.adaptsAt)) fun stamp hin => ?_
    rw [committedRecord_churnCommits] at hin
    split at hin
    · exact List.mem_of_mem_drop hin
    · exact List.mem_append_left _ hin
  | @restored now => exact hs.stamp (hop now (by simp [Op.readings])) fun stamp hin => hin
  | _ => exact hs

theorem sub_le_of_le {a b : UInt64} (h : b ≤ a) : a - b ≤ a := by
  rw [UInt64.le_iff_toNat_le, UInt64.toNat_sub_of_le _ _ h]
  omega

/-- Restored stamps are not past the reading of the recovery. -/
theorem recovered_stampedBy (config : EngineConfig) (now : Ticks) (d : DurableState)
    (epoch : CoordinatorEpoch) (authority : AdaptiveAuthorityGeneration) :
    Everywhere (fun _ record => record.StampedBy now)
      (State.recoveredState config now d epoch authority) := by
  refine .recovered (fun source _ stamp hin => by cases hin) fun policy f record hrestores hr => ?_
  cases hrestores with
  | timing =>
    intro stamp hin
    rcases List.mem_append.1 hin with hin | hin
    · exact hr stamp hin
    · obtain ⟨age, -, rfl⟩ := List.mem_map.1 hin
      split
      · exact sub_le_of_le ‹_›
      · exact UInt64.zero_le
  | _ => exact hr

/-- A store that is admissible is recovered at the reading of the operation. -/
theorem decodeStore_recovers {now : Ticks} {durable : DurableState} {origin : Text}
    (h : e.step config (.decodeStore now (.ok durable) origin) = some (e', answer))
    (hadmissible : durable.admissible config.limits = true) :
    ∃ epoch authority, durable.epoch.next = some epoch ∧
      durable.authorityGeneration.next = some authority ∧
      e'.state = State.recoveredState config now durable epoch authority := by
  cases h
  rcases applyDurable_cases e.state config now durable origin with
    ⟨hrefused, -⟩ | ⟨-, epoch, authority, hepoch, hauthority, hs⟩
  · rw [hrefused] at hadmissible
    cases hadmissible
  · exact ⟨epoch, authority, hepoch, hauthority, hs⟩

/-- A store that is refused is not reported as applied. -/
theorem admissible_of_updated {now : Ticks} {durable : DurableState} {origin : Text}
    {result : OperationResult}
    (h : e.step config (.decodeStore now (.ok durable) origin) = some (e', .result result))
    (hupdated : result.outcome = .policyUpdated) : durable.admissible config.limits = true := by
  cases h
  change (e.state.applyDurable config now durable origin).2.outcome = _ at hupdated
  unfold State.applyDurable at hupdated
  split at hupdated
  · cases hupdated
  · rename_i hversion
    split at hupdated
    · cases hupdated
    · rename_i hlimits
      split at hupdated
      · rename_i hepoch hauthority
        unfold DurableState.admissible
        simp [Decidable.not_not.1 hversion, hlimits, hepoch, hauthority]
      · cases hupdated

theorem stampedBy_run {nonce : Text} (h : RunUnder config (fun _ op => ReadBy instant op)
    (Engine.start config nonce) e) :
    Everywhere (fun _ record => record.StampedBy instant) e.state := by
  refine h.inv (I := fun e => Everywhere (fun _ record => record.StampedBy instant) e.state)
    (fun e op e' answer hop hs hstep => ?_) fun policy record hrecord => by simp [Engine.start] at hrecord
  cases hrecovers : op.recovers config.limits with
  | some durable =>
    obtain ⟨now, origin, rfl, hadmissible⟩ := Op.recovers_some hrecovers
    obtain ⟨epoch, authority, -, -, hs'⟩ := decodeStore_recovers hstep hadmissible
    rw [hs']
    intro policy record hrecord stamp hin
    exact UInt64.le_trans
      (recovered_stampedBy config now durable epoch authority policy record hrecord stamp hin)
      (hop now (by simp [Op.readings]))
  | none =>
    refine hs.step
      { rewrites := fun _ _ _ hrewrites => hrewrites.stampedBy hop
        creates := fun _ _ _ _ _ stamp hin => by cases hin
        advances := fun _ record _ stamp hin => by
          simp [State.requireRevalidation] at hin
        amends := fun _ _ _ record record' _ hamends hr => by
          intro stamp hin
          rw [PolicyRecord.timing_of_frame hamends.frame] at hin
          exact hr stamp hin
        recovers := fun _ _ _ _ hsome => by
          rw [hrecovers] at hsome
          cases hsome } hstep

end

/-! ## Restarts -/

/-- Two readings, one on each clock, as long after the save as after the recovery. -/
structure SameElapsed (saved later now later' : Ticks) : Prop where
  writes : saved ≤ later
  recovers : now ≤ later'
  elapsed : later - saved = later' - now

/-- What conservative recovery keeps of a record. -/
structure Conserved (saved now : Ticks) (record record' : PolicyRecord) : Prop where
  candidates : record'.candidates = []
  policy : record'.policy = { record.policy with lifecycle :=
    if record.policy.lifecycle.terminal then record.policy.lifecycle else .revalidationRequired }
  preference : record'.preference = { record.preference with
    provenance := { record.preference.provenance with cause := .recovered } }
  anchor : record'.stable = record.stable
  holdDown : ∀ phase path later later', SameElapsed saved later now later' →
    record.heldDown phase later path = true → record'.heldDown phase later' path = true
  cooldown : ∀ later later', SameElapsed saved later now later' →
    record.cooling later = true → record'.cooling later' = true
  churn : ∀ later later', SameElapsed saved later now later' →
    record.churned later = true → record'.churned later' = true

/-- What conservative recovery keeps of a state. -/
structure Conserves (saved now : Ticks) (s s' : State) : Prop where
  epoch : s.epoch.next = some s'.epoch
  authorityGeneration : s.authorityGeneration.next = some s'.authorityGeneration
  registrations : s'.registrations = {}
  evidence : s'.evidence = {}
  policies : ∀ policy : AdaptivePolicyId,
    Option.Rel (Conserved saved now) s.policies[policy]? s'.policies[policy]?
  revocations : ∀ policy : AdaptivePolicyId, s'.revocations[policy]? = s.revocations[policy]?

/-- What is left of the constraints that block at the save fits on the recovering clock. -/
structure PolicyRecord.Rearmable (r : PolicyRecord) (saved now : Ticks) : Prop where
  holdDown : ∀ phase path, r.heldDown phase saved path = true →
    now.toNat + (r.timing.holdDownDeadline - saved).toNat < UInt64.size
  cooldown : r.cooling saved = true →
    now.toNat + (r.timing.cooldownDeadline - saved).toNat < UInt64.size

/-- A deadline armed with what was left of another is as far away, unless the sum wraps. -/
theorem rearmed_lt {saved later now later' deadline : Ticks}
    (h : SameElapsed saved later now later') (hlater : later < deadline)
    (hfits : now.toNat + (deadline - saved).toNat < UInt64.size) :
    later' < now + (deadline - saved) := by
  have hsaved := UInt64.le_iff_toNat_le.1 h.writes
  have hnow := UInt64.le_iff_toNat_le.1 h.recovers
  have helapsed := congrArg UInt64.toNat h.elapsed
  rw [UInt64.toNat_sub_of_le _ _ h.writes, UInt64.toNat_sub_of_le _ _ h.recovers] at helapsed
  rw [UInt64.lt_iff_toNat_lt] at hlater ⊢
  have hleft := UInt64.toNat_sub_of_le deadline saved
    (UInt64.le_iff_toNat_le.2 (by omega))
  rw [UInt64.toNat_add, Nat.mod_eq_of_lt hfits]
  omega

/-- A sum that is past its first term did not wrap. -/
theorem fits_of_lt {now left : Ticks} (h : now < now + left) :
    now.toNat + left.toNat < UInt64.size := by
  have hnow := now.toNat_lt
  have hleft := left.toNat_lt
  rw [UInt64.lt_iff_toNat_lt, UInt64.toNat_add] at h
  simp only [UInt64.size]
  omega

/-! ## Restored timing -/

section
variable {config : EngineConfig} {saved now later later' : Ticks} {policy : AdaptivePolicyId}
  {revocation : Option RevocationRecord} {record : PolicyRecord}

theorem restored_policy : (restoredRecord config saved now revocation policy record).policy =
    (State.recoveredRecord config.conservativeRecovery record.policy).policy := rfl

theorem recovered_semantics (conservative : Bool) (policy : AdaptivePolicy) :
    (State.recoveredRecord conservative policy).policy.semantics = policy.semantics := by
  unfold State.recoveredRecord
  dsimp only
  split <;> rfl

/-- A hold-down that would block is restored with what is left of it. -/
theorem restored_heldDown {phase : Phase} {path : PathId} (hlater : saved ≤ later)
    (h : record.heldDown phase later path = true) :
    (restoredRecord config saved now revocation policy record).heldDown phase later' path =
      decide (later' < now + (record.timing.holdDownDeadline - saved)) := by
  unfold PolicyRecord.heldDown at h
  rw [Bool.and_eq_true, Bool.and_eq_true, Bool.and_eq_true, decide_eq_true_eq] at h
  obtain ⟨⟨⟨hactive, hforce⟩, hpath⟩, hends⟩ := h
  have hleft : saved < record.timing.holdDownDeadline := UInt64.lt_of_le_of_lt hlater hends
  unfold PolicyRecord.heldDown
  simp only [restoredRecord, DurableTiming.rearmed, durableTiming, recovered_semantics, hactive,
    hforce, hpath, hleft, gt_iff_lt, decide_true, Bool.and_true, Bool.true_and, if_true]

theorem restored_cooling (hlater : saved ≤ later) (h : record.cooling later = true) :
    (restoredRecord config saved now revocation policy record).cooling later' =
      decide (later' < now + (record.timing.cooldownDeadline - saved)) := by
  unfold PolicyRecord.cooling at h
  rw [Bool.and_eq_true, decide_eq_true_eq] at h
  obtain ⟨hactive, hends⟩ := h
  have hleft : saved < record.timing.cooldownDeadline := UInt64.lt_of_le_of_lt hlater hends
  unfold PolicyRecord.cooling
  simp only [restoredRecord, DurableTiming.rearmed, durableTiming, hactive, hleft, gt_iff_lt,
    decide_true, Bool.true_and, if_true]

/-- A stamp inside the window is restored as one that is not older. -/
theorem restored_inWindow {churn : ChurnBounds} {stamp : Ticks}
    (h : SameElapsed saved later now later') (hstamp : stamp ≤ saved)
    (hin : inWindow churn later stamp = true) :
    inWindow churn later' (if now ≥ (if saved ≥ stamp then saved - stamp else 0) then
      now - (if saved ≥ stamp then saved - stamp else 0) else 0) = true := by
  have helapsed := congrArg UInt64.toNat h.elapsed
  rw [UInt64.toNat_sub_of_le _ _ h.writes, UInt64.toNat_sub_of_le _ _ h.recovers] at helapsed
  have hage := UInt64.toNat_sub_of_le _ _ hstamp
  have hwrites := UInt64.le_iff_toNat_le.1 h.writes
  have hrecovers := UInt64.le_iff_toNat_le.1 h.recovers
  have hsaved := UInt64.le_iff_toNat_le.1 hstamp
  unfold inWindow at hin ⊢
  simp only [Bool.and_eq_true, decide_eq_true_eq] at hin ⊢
  rw [if_pos hstamp]
  obtain ⟨hpast, hwindow⟩ := hin
  rw [UInt64.le_iff_toNat_le, UInt64.toNat_sub_of_le _ _ hpast] at hwindow
  split
  · rename_i hold
    have hrestored := UInt64.toNat_sub_of_le _ _ hold
    have hle : now - (saved - stamp) ≤ later' := UInt64.le_iff_toNat_le.2 (by omega)
    refine ⟨hle, ?_⟩
    rw [UInt64.le_iff_toNat_le, UInt64.toNat_sub_of_le _ _ hle]
    omega
  · rename_i hyoung
    rw [ge_iff_le, UInt64.le_iff_toNat_le] at hyoung
    refine ⟨UInt64.zero_le, ?_⟩
    rw [UInt64.sub_zero, UInt64.le_iff_toNat_le]
    omega

theorem restored_churned (h : SameElapsed saved later now later') (hstamped : record.StampedBy saved)
    (hchurned : record.churned later = true) :
    (restoredRecord config saved now revocation policy record).churned later' = true := by
  unfold PolicyRecord.churned at hchurned ⊢
  rw [restored_policy, recovered_semantics]
  rw [Bool.and_eq_true, decide_eq_true_eq] at hchurned ⊢
  refine ⟨hchurned.1, hchurned.2.trans ?_⟩
  show record.timing.churnCommits.countP (inWindow record.policy.semantics.churn later) ≤ _
  unfold recentCommits
  simp only [restoredRecord, DurableTiming.rearmed, durableTiming, List.map_map, List.countP_map]
  refine List.countP_mono_left fun stamp hmem hin => ?_
  exact restored_inWindow h (hstamped stamp hmem) hin

end

/-! ## Recovery -/

section
variable {config : EngineConfig} {saved now : Ticks} {policy : AdaptivePolicyId}
  {revocation : Option RevocationRecord} {record : PolicyRecord}

/-- A restored record is conserved exactly when what is left fits on the clock. -/
theorem restored_conserved_iff (hconservative : config.conservativeRecovery = true)
    (hstamped : record.StampedBy saved) :
    Conserved saved now record (restoredRecord config saved now revocation policy record) ↔
      record.Rearmable saved now := by
  have hstart : SameElapsed saved saved now now :=
    ⟨UInt64.le_refl _, UInt64.le_refl _, by rw [UInt64.sub_self, UInt64.sub_self]⟩
  constructor
  · intro h
    refine ⟨fun phase path hheld => ?_, fun hcooling => ?_⟩
    · have hblocks := h.holdDown phase path saved now hstart hheld
      rw [restored_heldDown (UInt64.le_refl _) hheld, decide_eq_true_eq] at hblocks
      exact fits_of_lt hblocks
    · have hblocks := h.cooldown saved now hstart hcooling
      rw [restored_cooling (UInt64.le_refl _) hcooling, decide_eq_true_eq] at hblocks
      exact fits_of_lt hblocks
  · intro h
    refine ⟨rfl, ?_, rfl, rfl, ?_, ?_, ?_⟩
    · rw [restored_policy]
      unfold State.recoveredRecord
      dsimp only
      rw [hconservative, Bool.true_and]
      cases record.policy.lifecycle.terminal <;> rfl
    · intro phase path later later' helapsed hheld
      rw [restored_heldDown helapsed.writes hheld, decide_eq_true_eq]
      unfold PolicyRecord.heldDown at hheld
      rw [Bool.and_eq_true, decide_eq_true_eq] at hheld
      have hsaved : record.heldDown phase saved path = true := by
        unfold PolicyRecord.heldDown
        rw [hheld.1, Bool.true_and, decide_eq_true_eq]
        exact UInt64.lt_of_le_of_lt helapsed.writes hheld.2
      exact rearmed_lt helapsed hheld.2 (h.holdDown phase path hsaved)
    · intro later later' helapsed hcooling
      rw [restored_cooling helapsed.writes hcooling, decide_eq_true_eq]
      unfold PolicyRecord.cooling at hcooling
      rw [Bool.and_eq_true, decide_eq_true_eq] at hcooling
      have hsaved : record.cooling saved = true := by
        unfold PolicyRecord.cooling
        rw [hcooling.1, Bool.true_and, decide_eq_true_eq]
        exact UInt64.lt_of_le_of_lt helapsed.writes hcooling.2
      exact rearmed_lt helapsed hcooling.2 (h.cooldown hsaved)
    · intro later later' helapsed hchurned
      exact restored_churned helapsed hstamped hchurned

end

/-- A state saved at one reading and recovered under conservative recovery at another is conserved
exactly when what is left of every hold-down and cooldown that blocks at the save fits on the
recovering clock. -/
theorem recovery_is_conservative_iff {config writing : EngineConfig} {nonce origin : Text}
    {writer e e' : Engine} {saved now : Ticks} {result : OperationResult}
    (hwriter : RunUnder writing (fun _ op => ReadBy saved op) (Engine.start writing nonce) writer)
    (hconservative : config.conservativeRecovery = true)
    (hstep : e.step config (.decodeStore now (.ok (writer.state.buildDurable saved).stored) origin) =
      some (e', .result result))
    (hrecovered : result.outcome = .policyUpdated) :
    Conserves saved now writer.state e'.state ↔ ∀ (policy : AdaptivePolicyId) (record : PolicyRecord),
      writer.state.policies[policy]? = some record → record.Rearmable saved now := by
  have hreachable : Reachable writing writer := ⟨nonce, hwriter.mono fun _ _ _ => trivial⟩
  have hkeyed := Keyed.reachable hreachable
  have hfiled := Filed.reachable hreachable
  have hstamped := stampedBy_run hwriter
  obtain ⟨epoch, authority, hepoch, hauthority, hs'⟩ :=
    decodeStore_recovers hstep (admissible_of_updated hstep hrecovered)
  have hpolicies := recovered_policies config saved now epoch authority hkeyed hfiled
  have hstanding := recoveredState_standing config now (writer.state.buildDurable saved).stored epoch
    authority
  have hgauges := recoveredState_gauges config now (writer.state.buildDurable saved).stored epoch
    authority
  rw [← hs'] at hstanding hgauges
  constructor
  · intro h policy record hrecord
    have hrel := h.policies policy
    rw [hs', hpolicies, hrecord] at hrel
    cases hrel with
    | some hconserved =>
      exact (restored_conserved_iff hconservative (hstamped policy record hrecord)).1 hconserved
  · intro h
    refine ⟨?_, ?_, congrArg State.Standing.registrations hstanding,
      congrArg Gauges.evidence hgauges, fun policy => ?_, fun policy => ?_⟩
    · rw [show e'.state.epoch = epoch from congrArg State.Standing.epoch hstanding]
      exact hepoch
    · rw [show e'.state.authorityGeneration = authority from
        congrArg State.Standing.authorityGeneration hstanding]
      exact hauthority
    · rw [hs', hpolicies]
      cases hrecord : writer.state.policies[policy]? with
      | none => exact .none
      | some record =>
        exact .some ((restored_conserved_iff hconservative (hstamped policy record hrecord)).2
          (h policy record hrecord))
    · rw [hs']
      exact recovered_revocations config saved now epoch authority hkeyed hfiled policy

namespace Scenario

/-- A fresh engine recovers what a run saved. -/
def restart (ops : List Op) (saved now : Ticks) : Op :=
  .decodeStore now (.ok ((after ops).state.buildDurable saved).stored) "store"

/-- The policy left a path that it is to stay away from for almost as long as the clock counts. -/
def banished : List Op :=
  [register, .createPolicy 0 { create 1 with semantics := { semantics with
      holdDown := { duration := 0xFFFFFFFFFFFFFF00 } } }, activate, notify (declare left) "left",
    publish left 100 "left-evidence", .evaluate 2 2 (evaluation "establish"),
    notify (declare right) "right", publish right 50 "right-evidence", leave]

/-- No operation of a list reads the clock past an instant. -/
def readBy (instant : Ticks) (ops : List Op) : Bool :=
  ops.all fun op => op.readings.all fun reading => decide (reading ≤ instant)

theorem readBy_after {instant : Ticks} {ops : List Op} (h : returns ops = true)
    (hread : readBy instant ops = true) :
    RunUnder config (fun _ op => ReadBy instant op) (Engine.start config "n") (after ops) :=
  Runs.runAll_under (ReadBy instant) (runAll_after h) fun op hmem reading hin =>
    of_decide_eq_true (List.all_eq_true.1 (List.all_eq_true.1 hread op hmem) reading hin)

end Scenario

open Scenario in
/-- A hold-down of 20 ticks and a cooldown of 10, saved after one tick, outlast the restart. -/
theorem restarted_guard_is_conserved :
    Conserves 4 100 (after (poised ++ [leave])).state
      (after [restart (poised ++ [leave]) 4 100]).state := by
  obtain ⟨result, hstep, hresult⟩ := @step_result [] _ _
    (by decide +kernel : returns [restart (poised ++ [leave]) 4 100] = true)
    (by decide +kernel : answers [] (restart (poised ++ [leave]) 4 100)
      (fun answer => answer.outcome == some .policyUpdated) = true)
  refine (recovery_is_conservative_iff (readBy_after (by decide +kernel) (by decide +kernel)) rfl hstep
    hresult).2 ?_
  have hfits : ((after (poised ++ [leave])).state.policies.toList).all (fun entry =>
      decide ((100 : Ticks).toNat + (entry.2.timing.holdDownDeadline - 4).toNat < UInt64.size) &&
        decide ((100 : Ticks).toNat + (entry.2.timing.cooldownDeadline - 4).toNat <
          UInt64.size)) = true := by decide +kernel
  intro policy record hrecord
  have hentry := List.all_eq_true.1 hfits (policy, record)
    (Std.ExtTreeMap.mem_toList_iff_getElem?_eq_some.2 hrecord)
  rw [Bool.and_eq_true, decide_eq_true_eq, decide_eq_true_eq] at hentry
  exact ⟨fun _ _ _ => hentry.1, fun _ => hentry.2⟩

open Scenario in
/-- A hold-down that is to last almost as long as the clock counts is over after a restart on a clock
that reads 4096. -/
theorem restart_ends_hold_down :
    RunUnder config (fun _ op => ReadBy 4 op) (Engine.start config "n") (after banished) ∧
      config.conservativeRecovery = true ∧
      (∃ result, (after []).step config (restart banished 4 4096) =
        some (after [restart banished 4 4096], .result result) ∧ result.outcome = .policyUpdated) ∧
      ¬ Conserves 4 4096 (after banished).state (after [restart banished 4 4096]).state := by
  refine ⟨readBy_after (by decide +kernel) (by decide +kernel), rfl,
    @step_result [] _ _ (by decide +kernel) (by decide +kernel), ?_⟩
  intro h
  have hrel := h.policies policy
  have hheld : ((after banished).state.policies[policy]?).any
      (fun record => record.heldDown .commit 4 left) = true := by decide +kernel
  have hfree : ((after [restart banished 4 4096]).state.policies[policy]?).any
      (fun record => record.heldDown .commit 4096 left) = false := by decide +kernel
  obtain ⟨record, hrecord, hheld⟩ := (Option.any_eq_true _ _).1 hheld
  rw [hrecord] at hrel
  generalize (after [restart banished 4 4096]).state.policies[policy]? = found at hrel hfree
  cases hrel with
  | some hconserved =>
    have hblocks := hconserved.holdDown .commit left 4 4096
      ⟨UInt64.le_refl _, UInt64.le_refl _, rfl⟩ hheld
    rw [Option.any_some, hblocks] at hfree
    cases hfree

end AdaptiveRouting
