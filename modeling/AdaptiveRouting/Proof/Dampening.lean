import AdaptiveRouting.Fabric.Explain
import AdaptiveRouting.Proof.HoldDown
import AdaptiveRouting.Proof.Verdict

/-!
# Dampening

Every adaptation raises a penalty, and the penalty extends the hold-down. The reason phase one gives
never names the extension: it tests what is left of the dampened hold-down where the plain one is
meant (`dampening_reported_iff`). The arithmetic is that of 32 and 64 bits, so it is the declared one
where nothing wraps (`holdDown_arithmetic_iff`).
-/

namespace AdaptiveRouting

open Engine Guard

/-! ## The reported cause -/

namespace EvaluationInputs

section
variable {inputs : EvaluationInputs} {best : CandidateEvaluation} {armed : Ticks}

/-- A running hold-down is what an adaptation back to the best candidate meets. -/
structure HeldBack (inputs : EvaluationInputs) (best : CandidateEvaluation) : Prop where
  established : inputs.preference.established = true
  top : inputs.topRanked = some best
  other : best.path ≠ inputs.preference.preferredPath
  ordinary : inputs.emergencyReason = none
  incumbent : inputs.currentEligible inputs.rank = true
  displaced : inputs.Displaced best.path
  running : inputs.HeldDown

/-- The cause of a suppression by a hold-down armed at an instant: the extension, once the declared
duration is over. -/
def holdDownCause (inputs : EvaluationInputs) (armed : Ticks) : SuppressionReason :=
  if armed.toNat + inputs.policy.semantics.holdDown.duration.toNat ≤ inputs.now.toNat ∧
      inputs.now < inputs.timing.holdDownDeadline then .dampeningExtendedHoldDown
  else .holdDownActive

/-- Phase one names the plain hold-down. -/
theorem HeldBack.reports (h : inputs.HeldBack best) (dependencies : DependencySnapshot) :
    (inputs.evaluate dependencies).lifecycle = .suppressed ∧
      (inputs.evaluate dependencies).suppression = .holdDownActive := by
  obtain ⟨hactive, hdeclared, hrunning⟩ := h.running
  have hleft : (if inputs.timing.holdDownDeadline > inputs.now then
      inputs.timing.holdDownDeadline - inputs.now else 0) ≠ 0 := by
    rw [if_pos hrunning]
    intro hzero
    have hsub := UInt64.toNat_sub_of_le _ _ (UInt64.le_of_lt hrunning)
    rw [hzero] at hsub
    have hlt := UInt64.lt_iff_toNat_lt.1 hrunning
    simp only [UInt64.toNat_zero] at hsub
    omega
  have hgate (ticket : EvaluationTicket) : inputs.holdDownGate best ticket =
      .error (ticket.suppress .holdDownActive .holdDownActive
        (Text.concat ["hold-down suppresses the reverse adaptation to ", best.path.text])) := by
    have helapsed : (if inputs.now ≥ inputs.timing.holdDownDeadline then 0
        else inputs.timing.holdDownDeadline - inputs.now) ≠ 0 := by
      rw [if_neg (UInt64.not_le.2 hrunning)]
      rwa [if_pos hrunning] at hleft
    have hcloses : (inputs.timing.holdDownActive &&
        (effectiveHoldDown inputs.policy.semantics inputs.timing.dampeningPenalty).1 != 0 &&
        inputs.reverse best && (if inputs.now ≥ inputs.timing.holdDownDeadline then 0
          else inputs.timing.holdDownDeadline - inputs.now) != 0) = true := by
      rw [hactive, displaced_iff.2 h.displaced, bne_iff_ne.2 hdeclared, bne_iff_ne.2 helapsed]
      rfl
    unfold holdDownGate
    dsimp only
    rw [if_pos hcloses, beq_false_of_ne hleft, Bool.and_false]
    rfl
  rw [evaluate_some h.top, h.established]
  simp only [Bool.not_true, Bool.false_eq_true, if_false]
  rw [if_neg h.other]
  unfold adapt
  have hranking : ((inputs.unjudgedTicket dependencies).towards best).ranking = inputs.rank := rfl
  rw [hranking, h.incumbent, h.ordinary]
  unfold ordinaryGates
  simp only [if_true]
  rw [bind_of_error (hgate _)]
  exact ⟨rfl, rfl⟩

/-- The reported cause is the right one exactly until the declared duration is over. -/
theorem dampening_reported_iff (h : inputs.HeldBack best) (armed : Ticks)
    (dependencies : DependencySnapshot) :
    (inputs.evaluate dependencies).suppression = inputs.holdDownCause armed ↔
      inputs.now.toNat < armed.toNat + inputs.policy.semantics.holdDown.duration.toNat := by
  rw [(h.reports dependencies).2]
  unfold holdDownCause
  split
  · rename_i hover
    refine ⟨fun hc => (by cases hc), fun hlt => ?_⟩
    omega
  · rename_i hwithin
    refine ⟨fun _ => ?_, fun _ => rfl⟩
    by_contra hover
    exact hwithin ⟨Nat.not_lt.1 hover, h.running.running⟩

end

end EvaluationInputs

namespace Scenario

def oscillating : CreatePolicyRequest :=
  { create 1 with semantics := { semantics with
      holdDown := { duration := 10 }
      dampening :=
        { enabled := true, penaltyIncrement := 1, maxPenalty := 5, penaltyDecayInterval := 4
          penaltyDecayStep := 1, holdDownEscalationStep := 10, maxEffectiveHoldDown := 1000 } } }

/-- The policy left the left path at 3, for at least 10 ticks and at most 20, and the left path is the
better one again. -/
def swung : List Op :=
  [register, .createPolicy 0 oscillating, activate, notify (declare left) "left",
    publish left 100 "left-evidence", .evaluate 2 2 (evaluation "establish"),
    notify (declare right) "right", publish right 50 "right-evidence", leave, recover]

/-- A running hold-down keeps a policy on the right path. -/
def heldBack (inputs : EvaluationInputs) : Bool :=
  decide (inputs.preference.established = true ∧ inputs.preference.preferredPath = right ∧
    inputs.topRanked.map (·.path) = some left ∧ inputs.emergencyReason = none ∧
    inputs.currentEligible inputs.rank = true ∧ inputs.preference.previousPath = left ∧
    inputs.timing.holdDownActive = true ∧
    (effectiveHoldDown inputs.policy.semantics inputs.timing.dampeningPenalty).1 ≠ 0 ∧
    inputs.now < inputs.timing.holdDownDeadline)

theorem heldBack_back {inputs : EvaluationInputs} (h : heldBack inputs = true) :
    ∃ best, inputs.HeldBack best := by
  obtain ⟨hestablished, hright, htop, hordinary, hincumbent, hprevious, hactive, hdeclared,
    hrunning⟩ := of_decide_eq_true h
  obtain ⟨best, htop, hleft⟩ := Option.map_eq_some_iff.1 htop
  refine ⟨best, hestablished, htop, ?_, hordinary, hincumbent, ⟨?_, ?_⟩, hactive, hdeclared, hrunning⟩
  · rw [hleft, hright]
    decide +kernel
  · rw [hprevious]
    decide +kernel
  · rw [hprevious, hleft]

end Scenario

open Scenario in
/-- Two ticks after the adaptation the declared hold-down runs, and is named. -/
theorem plain_holdDown_reported :
    ∃ record, (after swung).state.policies[policy]? = some record ∧ ∀ dependencies,
      (((after swung).state.copyInputs 5 default record).evaluate dependencies).suppression =
        ((after swung).state.copyInputs 5 default record).holdDownCause 3 := by
  obtain ⟨record, hrecord, htest⟩ : ∃ record, (after swung).state.policies[policy]? = some record ∧
      (heldBack ((after swung).state.copyInputs 5 default record) &&
        record.policy.semantics == oscillating.semantics) = true :=
    (Option.any_eq_true _ _).1 (by decide +kernel)
  rw [Bool.and_eq_true, beq_iff_eq] at htest
  obtain ⟨best, hbest⟩ := heldBack_back htest.1
  refine ⟨record, hrecord, fun dependencies =>
    (EvaluationInputs.dampening_reported_iff hbest 3 dependencies).2 ?_⟩
  show (5 : Ticks).toNat < (3 : Ticks).toNat + record.policy.semantics.holdDown.duration.toNat
  rw [htest.2]
  decide

open Scenario in
/-- Twelve ticks after it the extension alone keeps the path out, and is not named. -/
theorem extended_holdDown_unreported :
    Engine.Reachable config (after swung) ∧
    ∃ record, (after swung).state.policies[policy]? = some record ∧
      record.preference.committedAt = 3 ∧
      (∃ best, ((after swung).state.copyInputs 15 default record).HeldBack best) ∧
      ∀ dependencies,
        (((after swung).state.copyInputs 15 default record).evaluate dependencies).suppression ≠
          ((after swung).state.copyInputs 15 default record).holdDownCause 3 := by
  obtain ⟨record, hrecord, htest⟩ : ∃ record, (after swung).state.policies[policy]? = some record ∧
      (heldBack ((after swung).state.copyInputs 15 default record) &&
        record.policy.semantics == oscillating.semantics &&
        record.preference.committedAt == 3) = true :=
    (Option.any_eq_true _ _).1 (by decide +kernel)
  simp only [Bool.and_eq_true, beq_iff_eq] at htest
  obtain ⟨⟨hheld, hsemantics⟩, hcommitted⟩ := htest
  obtain ⟨best, hbest⟩ := heldBack_back hheld
  refine ⟨reachable_after (by decide +kernel), record, hrecord, hcommitted, ⟨best, hbest⟩,
    fun dependencies heq => ?_⟩
  have hnamed := (hbest.reports dependencies).2
  rw [heq] at hnamed
  have hcause : ((after swung).state.copyInputs 15 default record).holdDownCause 3 =
      .dampeningExtendedHoldDown := by
    refine if_pos ⟨?_, hbest.running.running⟩
    show (3 : Ticks).toNat + record.policy.semantics.holdDown.duration.toNat ≤ (15 : Ticks).toNat
    rw [hsemantics]
    decide
  rw [hcause] at hnamed
  cases hnamed

/-! ## Arithmetic -/

/-- The hold-down of a penalty, over the naturals. -/
def naturalHoldDown (semantics : PolicySemantics) (penalty : Nat) : Nat :=
  if semantics.dampening.enabled then
    min (semantics.holdDown.duration.toNat +
      penalty * semantics.dampening.holdDownEscalationStep.toNat)
      semantics.dampening.maxEffectiveHoldDown.toNat
  else semantics.holdDown.duration.toNat

/-- The penalty an adaptation leaves, over the naturals. -/
def naturalPenalty (semantics : PolicySemantics) (penalty : Nat) : Nat :=
  if semantics.dampening.enabled then
    min semantics.dampening.maxPenalty.toNat (penalty + semantics.dampening.penaltyIncrement.toNat)
  else penalty

/-- Everything a policy computes from a penalty is computed as over the naturals: the hold-down of an
evaluation, a commit and an explanation, the penalty the next adaptation leaves, and the deadlines it
or a rollback arms. -/
structure NaturalArithmetic (limits : Limits) (semantics : PolicySemantics) (timing : TimingState)
    (now : Ticks) (lockedPath : PathId) : Prop where
  evaluated : (effectiveHoldDown semantics timing.dampeningPenalty).1.toNat =
    naturalHoldDown semantics timing.dampeningPenalty.toNat
  committed : (State.commitHoldDown semantics timing.dampeningPenalty).toNat =
    naturalHoldDown semantics timing.dampeningPenalty.toNat
  explained : (explainedHoldDown semantics timing.dampeningPenalty).toNat =
    naturalHoldDown semantics timing.dampeningPenalty.toNat
  penalty : (armedTiming limits semantics now lockedPath timing).dampeningPenalty.toNat =
    naturalPenalty semantics timing.dampeningPenalty.toNat
  holdDown : (armedTiming limits semantics now lockedPath timing).holdDownDeadline.toNat =
    now.toNat + naturalHoldDown semantics (naturalPenalty semantics timing.dampeningPenalty.toNat)
  cooldown : (armedTiming limits semantics now lockedPath timing).cooldownDeadline.toNat =
    now.toNat + semantics.cooldown.duration.toNat
  restored : (now + semantics.holdDown.duration).toNat =
    now.toNat + semantics.holdDown.duration.toNat

/-- The escalated duration stays below `2^64`, or wraps to no less than the cap. -/
def EscalationFits (semantics : PolicySemantics) (penalty : Nat) : Prop :=
  semantics.holdDown.duration.toNat +
      penalty * semantics.dampening.holdDownEscalationStep.toNat < UInt64.size ∨
    semantics.dampening.maxEffectiveHoldDown.toNat ≤ (semantics.holdDown.duration.toNat +
      penalty * semantics.dampening.holdDownEscalationStep.toNat) % UInt64.size

/-- Nothing wraps that would show. -/
structure DampeningFits (semantics : PolicySemantics) (penalty : Nat) (now : Ticks) : Prop where
  increment : semantics.dampening.enabled = true →
    penalty + semantics.dampening.penaltyIncrement.toNat < UInt32.size
  current : semantics.dampening.enabled = true → EscalationFits semantics penalty
  next : semantics.dampening.enabled = true →
    EscalationFits semantics (naturalPenalty semantics penalty)
  holdDown : now.toNat + naturalHoldDown semantics (naturalPenalty semantics penalty) < UInt64.size
  cooldown : now.toNat + semantics.cooldown.duration.toNat < UInt64.size

section
variable {semantics : PolicySemantics}

theorem PolicySemantics.check_dampened (h : semantics.check = .ok ())
    (henabled : semantics.dampening.enabled = true) :
    semantics.dampening.penaltyIncrement.toNat ≤ semantics.dampening.maxPenalty.toNat ∧
      semantics.dampening.penaltyDecayInterval ≠ 0 ∧ semantics.dampening.penaltyDecayStep ≠ 0 := by
  unfold PolicySemantics.check at h
  iterate 10 obtain ⟨-, h⟩ := seq_ok h
  obtain ⟨hvalid, -⟩ := seq_ok h
  clear h
  simp [DampeningRule.valid, henabled] at hvalid
  obtain ⟨⟨⟨-, hmax⟩, hinterval, hstep⟩, -⟩ := hvalid
  exact ⟨hmax, hinterval, hstep⟩

/-- The natural hold-down is at least the duration and at most the cap, and grows with the penalty. -/
theorem naturalHoldDown_bounds (hcheck : semantics.check = .ok ()) (penalty : Nat) :
    semantics.holdDown.duration.toNat ≤ naturalHoldDown semantics penalty ∧
      (semantics.dampening.enabled = true →
        naturalHoldDown semantics penalty ≤ semantics.dampening.maxEffectiveHoldDown.toNat) ∧
      ∀ more, penalty ≤ more → naturalHoldDown semantics penalty ≤ naturalHoldDown semantics more := by
  unfold naturalHoldDown
  cases henabled : semantics.dampening.enabled with
  | false => simp
  | true =>
    have hcap := UInt64.le_iff_toNat_le.1 (PolicySemantics.check_ok hcheck henabled).2
    simp only [if_true]
    refine ⟨by omega, fun _ => Nat.min_le_right _ _, fun more hle => ?_⟩
    have hmul := Nat.mul_le_mul_right semantics.dampening.holdDownEscalationStep.toNat hle
    omega

/-- The escalation in 64 bits is the one over the naturals where it fits. -/
theorem escalated_toNat (penalty : UInt32) :
    (min (semantics.holdDown.duration +
        penalty.toUInt64 * semantics.dampening.holdDownEscalationStep)
      semantics.dampening.maxEffectiveHoldDown).toNat =
      min ((semantics.holdDown.duration.toNat +
          penalty.toNat * semantics.dampening.holdDownEscalationStep.toNat) % UInt64.size)
        semantics.dampening.maxEffectiveHoldDown.toNat := by
  rw [toNat_min, UInt64.toNat_add, UInt64.toNat_mul, UInt32.toNat_toUInt64, Nat.add_mod_mod]

theorem escalated_iff (henabled : semantics.dampening.enabled = true) (penalty : UInt32) :
    (min (semantics.holdDown.duration +
        penalty.toUInt64 * semantics.dampening.holdDownEscalationStep)
      semantics.dampening.maxEffectiveHoldDown).toNat = naturalHoldDown semantics penalty.toNat ↔
      EscalationFits semantics penalty.toNat := by
  rw [escalated_toNat]
  unfold naturalHoldDown EscalationFits
  rw [if_pos henabled]
  have hcap := semantics.dampening.maxEffectiveHoldDown.toNat_lt_size
  generalize semantics.holdDown.duration.toNat +
    penalty.toNat * semantics.dampening.holdDownEscalationStep.toNat = escalated
  generalize semantics.dampening.maxEffectiveHoldDown.toNat = cap at hcap ⊢
  by_cases hfits : escalated < UInt64.size
  · rw [Nat.mod_eq_of_lt hfits]
    exact ⟨fun _ => .inl hfits, fun _ => rfl⟩
  · have hle : cap ≤ escalated := Nat.le_of_lt (Nat.lt_of_lt_of_le hcap (Nat.not_lt.1 hfits))
    rw [Nat.min_eq_right hle]
    constructor
    · intro h
      right
      omega
    · intro h
      exact Nat.min_eq_right (h.resolve_left hfits)

/-- The penalty an adaptation leaves is the natural one where its sum fits. -/
theorem armed_penalty_iff {limits : Limits} {timing : TimingState} {now : Ticks} {lockedPath : PathId}
    (hcheck : semantics.check = .ok ()) :
    (armedTiming limits semantics now lockedPath timing).dampeningPenalty.toNat =
        naturalPenalty semantics timing.dampeningPenalty.toNat ↔
      (semantics.dampening.enabled = true →
        timing.dampeningPenalty.toNat + semantics.dampening.penaltyIncrement.toNat < UInt32.size) := by
  unfold armedTiming naturalPenalty
  cases henabled : semantics.dampening.enabled with
  | false => simp
  | true =>
    have hincrement := (PolicySemantics.check_dampened hcheck henabled).1
    have hmax := semantics.dampening.maxPenalty.toNat_lt_size
    have hpenalty := timing.dampeningPenalty.toNat_lt_size
    have hsize : UInt32.size = 4294967296 := rfl
    simp only [if_true, forall_const, UInt32.toNat_min, UInt32.toNat_add, Nat.min_def]
    split <;> split <;> omega

/-- A deadline is where it should be exactly when its sum fits. -/
theorem deadline_iff (now duration : Ticks) :
    (now + duration).toNat = now.toNat + duration.toNat ↔
      now.toNat + duration.toNat < UInt64.size := by
  have hsize : UInt64.size = 18446744073709551616 := rfl
  rw [UInt64.toNat_add]
  omega

theorem explained_iff (penalty : UInt32) :
    (explainedHoldDown semantics penalty).toNat = naturalHoldDown semantics penalty.toNat ↔
      (semantics.dampening.enabled = true → EscalationFits semantics penalty.toNat) := by
  unfold explainedHoldDown
  cases henabled : semantics.dampening.enabled with
  | false => simp [naturalHoldDown, henabled]
  | true =>
    simp only [if_true, forall_const]
    exact escalated_iff henabled penalty

theorem commitHoldDown_natural (hcheck : semantics.check = .ok ()) {penalty : UInt32}
    (hfits : semantics.dampening.enabled = true → EscalationFits semantics penalty.toNat) :
    (State.commitHoldDown semantics penalty).toNat = naturalHoldDown semantics penalty.toNat := by
  unfold State.commitHoldDown
  cases henabled : semantics.dampening.enabled with
  | false => simp [naturalHoldDown, henabled]
  | true =>
    by_cases hzero : penalty = 0
    · have hcap := UInt64.le_iff_toNat_le.1 (PolicySemantics.check_ok hcheck henabled).2
      subst hzero
      simp [naturalHoldDown, henabled, Nat.min_eq_left hcap]
    · simp only [Bool.true_and, bne_iff_ne, ne_eq, hzero, not_false_eq_true, if_true]
      exact (escalated_iff henabled penalty).2 (hfits henabled)

theorem effectiveHoldDown_natural (hcheck : semantics.check = .ok ()) {penalty : UInt32}
    (hfits : semantics.dampening.enabled = true → EscalationFits semantics penalty.toNat) :
    (effectiveHoldDown semantics penalty).1.toNat = naturalHoldDown semantics penalty.toNat := by
  have hcommit := commitHoldDown_natural hcheck hfits
  have hleast := (naturalHoldDown_bounds hcheck penalty.toNat).1
  unfold State.commitHoldDown at hcommit
  unfold effectiveHoldDown
  split at hcommit
  · rename_i hdampened
    simp only [hdampened, if_true]
    split
    · exact hcommit
    · rename_i hnot
      have hnot := UInt64.le_iff_toNat_le.1 (UInt64.not_lt.1 hnot)
      simp only
      omega
  · rename_i hplain
    rw [if_neg hplain]
    exact hcommit

/-- The arithmetic of a penalty is that of the naturals exactly where nothing wraps that would
show. -/
theorem holdDown_arithmetic_iff (limits : Limits) (timing : TimingState) (now : Ticks)
    (lockedPath : PathId) (hcheck : semantics.check = .ok ()) :
    (∀ penalty, semantics.holdDown.duration.toNat ≤ naturalHoldDown semantics penalty ∧
      (semantics.dampening.enabled = true →
        naturalHoldDown semantics penalty ≤ semantics.dampening.maxEffectiveHoldDown.toNat) ∧
      ∀ more, penalty ≤ more →
        naturalHoldDown semantics penalty ≤ naturalHoldDown semantics more) ∧
      (NaturalArithmetic limits semantics timing now lockedPath ↔
        DampeningFits semantics timing.dampeningPenalty.toNat now) := by
  refine ⟨naturalHoldDown_bounds hcheck, ?_⟩
  let armed := armedTiming limits semantics now lockedPath timing
  have hdeadline : armed.holdDownDeadline =
      now + explainedHoldDown semantics armed.dampeningPenalty := rfl
  have hcooldown : armed.cooldownDeadline = now + semantics.cooldown.duration := rfl
  have hsize : UInt64.size = 18446744073709551616 := rfl
  constructor
  · intro h
    have hpenalty : armed.dampeningPenalty.toNat = _ := h.penalty
    have hlate := h.holdDown
    change armed.holdDownDeadline.toNat = _ at hlate
    rw [hdeadline, ← hpenalty] at hlate
    have hnext : (explainedHoldDown semantics armed.dampeningPenalty).toNat =
        naturalHoldDown semantics armed.dampeningPenalty.toNat := by
      have hlt := (explainedHoldDown semantics armed.dampeningPenalty).toNat_lt_size
      rw [UInt64.toNat_add] at hlate
      omega
    refine ⟨(armed_penalty_iff hcheck).1 h.penalty, (explained_iff _).1 h.explained, ?_, ?_,
      (deadline_iff now _).1 h.cooldown⟩
    · rw [← hpenalty]
      exact (explained_iff _).1 hnext
    · rw [← hpenalty, ← hnext]
      rw [← hnext] at hlate
      exact (deadline_iff now _).1 hlate
  · intro h
    have hpenalty : armed.dampeningPenalty.toNat = _ := (armed_penalty_iff hcheck).2 h.increment
    have hnext : (explainedHoldDown semantics armed.dampeningPenalty).toNat = _ :=
      (explained_iff _).2 (fun henabled => hpenalty ▸ h.next henabled)
    have hlate := h.holdDown
    rw [← hpenalty, ← hnext] at hlate
    have hleast := (naturalHoldDown_bounds hcheck armed.dampeningPenalty.toNat).1
    refine ⟨effectiveHoldDown_natural hcheck h.current, commitHoldDown_natural hcheck h.current,
      (explained_iff _).2 h.current, hpenalty, ?_, (deadline_iff now _).2 h.cooldown,
      (deadline_iff now _).2 (by omega)⟩
    change armed.holdDownDeadline.toNat = _
    rw [hdeadline, ← hpenalty, ← hnext]
    exact (deadline_iff now _).2 hlate

end

open Scenario in
/-- The declared numbers are small, and the arithmetic of the policy is the natural one. -/
theorem oscillating_arithmetic :
    NaturalArithmetic config.limits oscillating.semantics { dampeningPenalty := 1 } 3 left :=
  ((holdDown_arithmetic_iff config.limits { dampeningPenalty := 1 } 3 left (by decide +kernel)).2).2
    { increment := fun _ => by decide
      current := fun _ => .inl (by decide)
      next := fun _ => .inl (by decide)
      holdDown := by decide
      cooldown := by decide }

namespace Scenario

/-- A step so large that one penalty wraps the escalated hold-down. -/
def escalating : CreatePolicyRequest :=
  { oscillating with semantics := { oscillating.semantics with
      dampening := { oscillating.semantics.dampening with
        holdDownEscalationStep := 18446744073709551611 } } }

def swungFar : List Op := swung.set 1 (.createPolicy 0 escalating)

end Scenario

open Scenario in
/-- The policy is accepted and adapts at 3, and the hold-down it arms runs to 8 where 1003 is
declared: less than the base hold-down of 10. -/
theorem escalation_wraps :
    Engine.Reachable config (after swungFar) ∧
    ∃ record, (after swungFar).state.policies[policy]? = some record ∧
      record.policy.semantics.check = .ok () ∧ record.timing.dampeningPenalty = 1 ∧
      record.preference.committedAt = 3 ∧ record.timing.holdDownDeadline = 8 ∧
      naturalHoldDown record.policy.semantics 1 = 1000 ∧
      ¬ NaturalArithmetic config.limits record.policy.semantics record.timing 3 left := by
  obtain ⟨record, hrecord, htest⟩ : ∃ record,
      (after swungFar).state.policies[policy]? = some record ∧
      (record.policy.semantics == escalating.semantics && record.timing.dampeningPenalty == 1 &&
        record.preference.committedAt == 3 && record.timing.holdDownDeadline == 8) = true :=
    (Option.any_eq_true _ _).1 (by decide +kernel)
  simp only [Bool.and_eq_true, beq_iff_eq] at htest
  obtain ⟨⟨⟨hsemantics, hpenalty⟩, hcommitted⟩, hdeadline⟩ := htest
  refine ⟨reachable_after (by decide +kernel), record, hrecord, ?_, hpenalty, hcommitted, hdeadline,
    ?_, fun h => ?_⟩
  · rw [hsemantics]
    decide +kernel
  · rw [hsemantics]
    decide
  · have hexplained := h.explained
    rw [hsemantics, hpenalty] at hexplained
    revert hexplained
    decide

end AdaptiveRouting
