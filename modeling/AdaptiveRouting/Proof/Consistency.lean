import AdaptiveRouting.Proof.Anchor
import AdaptiveRouting.Proof.Exits

/-!
# What a ticket reports

A ticket says whether the adaptation is granted in its lifecycle, and why not in its suppression and
outcome. The two agree at every exit of phase one but the two that `evaluate_consistent_iff` names.
The gates that let an adaptation pass write its improvement only (`ordinaryGates_writes`).
-/

namespace AdaptiveRouting

open Guard

/-- A granted ticket reports no suppression, and a suppressed one the outcome of its reason. -/
structure EvaluationTicket.Consistent (ticket : EvaluationTicket) : Prop where
  granted : ticket.lifecycle = .eligible → ticket.suppression = .none ∧ ticket.outcome = .noChange
  suppressed : ticket.lifecycle = .suppressed →
    ticket.suppression ≠ .none ∧ ticket.outcome = ticket.suppression.outcome

/-- The ticket with another improvement. -/
def EvaluationTicket.Writes (ticket passed : EvaluationTicket) : Prop :=
  ∃ improvement required,
    passed = { ticket with improvementBps := improvement, requiredImprovementBps := required }

theorem SuppressionReason.isEvidence_ne_none {reason : SuppressionReason}
    (h : reason.isEvidence = true) : reason ≠ .none := by
  rintro rfl
  cases h

namespace EvaluationTicket

variable {ticket passed : EvaluationTicket} {reason : SuppressionReason} {outcome : Outcome}

theorem Consistent.suppress (hreason : reason ≠ .none) (houtcome : outcome = reason.outcome)
    (ticket : EvaluationTicket) (detail : Text) :
    (ticket.suppress reason outcome detail).Consistent :=
  ⟨by simp [EvaluationTicket.suppress], fun _ => ⟨hreason, houtcome⟩⟩

theorem Consistent.eligible (hlifecycle : ticket.lifecycle = .eligible)
    (hreason : ticket.suppression = .none) (houtcome : ticket.outcome = .noChange) :
    ticket.Consistent :=
  ⟨fun _ => ⟨hreason, houtcome⟩, by simp [hlifecycle]⟩

theorem Writes.refl (ticket : EvaluationTicket) : ticket.Writes ticket := ⟨_, _, rfl⟩

theorem Writes.measure (h : ticket.Writes passed) (improvement : Option UInt32) (required : UInt32) :
    ticket.Writes
      { passed with improvementBps := improvement, requiredImprovementBps := required } := by
  obtain ⟨_, _, rfl⟩ := h
  exact ⟨_, _, rfl⟩

end EvaluationTicket

namespace EvaluationInputs

open EvaluationTicket

section
variable {inputs : EvaluationInputs} {best : CandidateEvaluation} {ticket passed : EvaluationTicket}

/-! ## Gates that pass -/

/-- What passes a gate is the ticket, or the ticket with an improvement. -/
abbrev GateWrites (ticket : EvaluationTicket) (x : Gate) : Prop := Ends ticket.Writes (fun _ => True) x

theorem anyRefusal {ε α : Type} (x : Except ε α) : Ends (fun _ => True) (fun _ => True) x :=
  ⟨fun _ _ => trivial, fun _ _ => trivial⟩

theorem thresholdGate_writes (rule : ThresholdRule) (h : ticket.Writes passed) :
    GateWrites ticket (inputs.thresholdGate best passed rule) := by
  unfold thresholdGate
  refine (anyRefusal _).bind fun values _ => ?_
  exact (anyRefusal _).bind fun _ _ => (anyRefusal _).bind fun _ _ => .ok h

theorem improvementGate_writes (rule : ImprovementRule) (h : ticket.Writes passed) :
    GateWrites ticket (inputs.improvementGate best passed rule) := by
  unfold improvementGate
  refine (anyRefusal _).bind fun values _ => (anyRefusal _).bind fun improvement _ => ?_
  exact (anyRefusal _).bind fun _ _ => .ok (h.measure _ _)

theorem ordinaryGates_writes : GateWrites ticket (inputs.ordinaryGates best ticket) := by
  have hholdDown : GateWrites ticket (inputs.holdDownGate best ticket) := by
    unfold holdDownGate
    exact .ite (.error trivial) (.ok (.refl ticket))
  unfold ordinaryGates cooldownGate churnGate
  refine hholdDown.bind fun t₁ h₁ => ?_
  refine (Ends.ite (.error trivial) (.ok h₁)).bind fun t₂ h₂ => ?_
  refine (Ends.foldlM (fun _ rule h => thresholdGate_writes rule h) h₂ _).bind fun t₃ h₃ => ?_
  refine (Ends.foldlM (fun _ rule h => improvementGate_writes rule h) h₃ _).bind fun t₄ h₄ => ?_
  exact .ite (.error trivial) (.ok h₄)

/-! ## Exits -/

/-- An emergency moves the preference away from a candidate that is no longer eligible. -/
structure FallsThrough (inputs : EvaluationInputs) : Prop where
  challenged : ∃ best, inputs.Challenged best
  emergency : inputs.emergencyReason.isSome = true
  ineligible : inputs.currentEligible inputs.rank = false

/-- The gates reach an improvement rule whose values have no improvement. -/
structure Undefined (inputs : EvaluationInputs) : Prop where
  calm : inputs.emergencyReason = none
  eligible : inputs.currentEligible inputs.rank = true
  incomparable : ∃ best, inputs.Challenged best ∧ inputs.Incomparable best.path

theorem entryDefect_reports {rule : ThresholdRule} {reason : SuppressionReason} {outcome : Outcome}
    {detail : Text} (h : inputs.entryDefect best rule = some (reason, outcome, detail)) :
    reason ≠ .none ∧ outcome = reason.outcome := by
  unfold entryDefect at h
  dsimp only at h
  split at h
  · cases h
    exact ⟨by simp, rfl⟩
  · rename_i requirement _
    split at h
    · rename_i hlookup
      cases h
      exact ⟨SuppressionReason.isEvidence_ne_none (inputs.lookupMetric_refuses _ _ _ hlookup), rfl⟩
    · split at h
      · cases h
      · cases h
        exact ⟨by simp, rfl⟩

theorem incumbentTicket_consistent (inputs : EvaluationInputs) (ticket : EvaluationTicket) :
    (inputs.incumbentTicket ticket).Consistent ∧
      (inputs.incumbentTicket ticket).lifecycle = .suppressed := by
  unfold incumbentTicket
  dsimp only
  split
  · exact ⟨.suppress (by simp) rfl _ _, rfl⟩
  · rename_i ranked _
    split
    · exact ⟨.suppress (by simp) rfl _ _, rfl⟩
    · rename_i hrejection
      rw [hrejection]
      exact ⟨.suppress (by simp) rfl _ _, rfl⟩
    · rename_i hrejection
      rw [hrejection]
      exact ⟨.suppress (by simp) rfl _ _, rfl⟩
    · exact ⟨.suppress (by simp) rfl _ _, rfl⟩

/-- A refusal reports the outcome of its reason, but for an undefined improvement. -/
theorem Blocks.reports {path : PathId} {reason : SuppressionReason} {outcome : Outcome} {detail : Text}
    (h : inputs.Blocks path reason outcome detail) :
    inputs.Incomparable path ∨ reason ≠ .none ∧ outcome = reason.outcome := by
  cases h with
  | heldDown _ named => rcases named with rfl | rfl <;> exact .inr ⟨by simp, rfl⟩
  | thresholdUnknown _ misses | improvementUnknown _ misses =>
    obtain ⟨requirement, -, hlookup⟩ := misses
    exact .inr ⟨SuppressionReason.isEvidence_ne_none (inputs.lookupMetric_refuses _ _ _ hlookup), rfl⟩
  | incomparable kind undefined => exact .inl undefined
  | belowRequired _ named => rcases named with rfl | rfl <;> exact .inr ⟨by simp, rfl⟩
  | _ => exact .inr ⟨by simp, rfl⟩

/-- The current preference of an ordinary adaptation is a candidate. -/
theorem currentBinding_of (h : inputs.currentEligible inputs.rank = true) :
    ∃ current, inputs.currentBinding = some current :=
  Option.isSome_iff_exists.1 (Bool.and_eq_true .. ▸ h : _ ∧ _).1

/-- The gates answer an undefined improvement with an outcome that is not the one of their reason. -/
theorem ordinaryGates_undefined (heligible : inputs.currentEligible inputs.rank = true)
    (h : inputs.Incomparable best.path) (ticket : EvaluationTicket) :
    ∃ (passed : EvaluationTicket) (detail : Text), inputs.ordinaryGates best ticket =
      .error (passed.suppress .belowThreshold .incompatibleMetric detail) := by
  obtain ⟨current, hcurrent⟩ := currentBinding_of heligible
  have hpath := (currentBinding_path hcurrent).2
  obtain ⟨hholdDown, hcooldown, hthresholds, before, rule, after, left, right, hsplit, hbefore, hleft,
    hright, hundefined⟩ := h
  obtain ⟨t₁, h₁⟩ := (@holdDownGate_returns inputs best ticket).2 hholdDown
  obtain ⟨t₂, h₂⟩ := (@cooldownGate_returns inputs t₁).2 hcooldown
  obtain ⟨t₃, h₃⟩ :=
    (Returns.foldlM_iff (fun _ rule => thresholdGate_returns hcurrent hpath rule) t₂ _).2 hthresholds
  obtain ⟨t₄, h₄⟩ :=
    (Returns.foldlM_iff (fun _ rule => improvementGate_returns hcurrent hpath rule) t₃ _).2 hbefore
  refine ⟨t₄, Text.concat ["improvement comparison is not defined for ", rule.kind.text], ?_⟩
  unfold ordinaryGates
  rw [bind_of h₁, bind_of h₂, bind_of h₃, bind_of_error]
  refine foldlM_error_iff.2 ⟨before, rule, after, t₄, hsplit, h₄, ?_⟩
  unfold improvementGate
  rw [bind_of ((ruleValues_ok_iff hcurrent hpath).2 ⟨hleft, hright⟩)]
  dsimp only
  rw [hundefined]
  rfl

/-- An emergency keeps the suppression that was written before it. -/
theorem evaluate_fallsThrough (h : inputs.FallsThrough) (dependencies : DependencySnapshot) :
    ¬ (inputs.evaluate dependencies).Consistent := by
  obtain ⟨⟨best, htop, hestablished, hother⟩, hemergency, hineligible⟩ := h
  obtain ⟨reason, hreason⟩ := Option.isSome_iff_exists.1 hemergency
  have hexit := inputs.evaluate_exits dependencies
  generalize inputs.evaluate dependencies = ticket at hexit
  cases hexit with
  | nothing top => simp [top] at htop
  | barred _ first | established _ first => simp [first] at hestablished
  | merit top _ same =>
    rw [htop] at top
    cases top
    exact absurd same hother
  | incumbent _ calm | refused _ calm | adapted _ calm => simp [calm] at hreason
  | overridden _ _ eligible => simp [hineligible] at eligible
  | escaped challenged emergency ineligible =>
    intro hconsistent
    obtain ⟨hsound, hsuppressed⟩ := inputs.incumbentTicket_consistent
      ((inputs.unjudgedTicket dependencies).towards _)
    exact (hsound.suppressed hsuppressed).1 (hconsistent.granted rfl).1

theorem evaluate_undefined (h : inputs.Undefined) (dependencies : DependencySnapshot) :
    ¬ (inputs.evaluate dependencies).Consistent := by
  obtain ⟨hcalm, heligible, best, ⟨htop, hestablished, hother⟩, hundefined⟩ := h
  obtain ⟨passed, detail, hgates⟩ :=
    ordinaryGates_undefined heligible hundefined ((inputs.unjudgedTicket dependencies).towards best)
  have hexit := inputs.evaluate_exits dependencies
  generalize inputs.evaluate dependencies = ticket at hexit
  cases hexit with
  | nothing top => simp [top] at htop
  | barred _ first | established _ first => simp [first] at hestablished
  | merit top _ same =>
    rw [htop] at top
    cases top
    exact absurd same hother
  | incumbent _ _ ineligible => simp [ineligible] at heligible
  | overridden _ emergency | escaped _ emergency => simp [hcalm] at emergency
  | adapted challenged _ _ gates =>
    have hbest := challenged.top.symm.trans htop
    cases hbest
    rw [hgates] at gates
    cases gates
  | refused challenged _ _ gate =>
    have hbest := challenged.top.symm.trans htop
    cases hbest
    rw [hgates] at gate
    cases gate
    intro hconsistent
    exact absurd (hconsistent.suppressed rfl).2 (by simp [suppress, SuppressionReason.outcome])

/-- A ticket reports what it decided, unless an emergency moved the preference away from an
ineligible candidate, or an improvement was not defined. -/
theorem evaluate_consistent_iff (inputs : EvaluationInputs) (dependencies : DependencySnapshot) :
    (inputs.evaluate dependencies).Consistent ↔ ¬ inputs.FallsThrough ∧ ¬ inputs.Undefined := by
  refine ⟨fun h => ⟨fun hfalls => evaluate_fallsThrough hfalls dependencies h,
    fun hundefined => evaluate_undefined hundefined dependencies h⟩, fun h => ?_⟩
  obtain ⟨hfalls, hundefined⟩ := h
  have hexit := inputs.evaluate_exits dependencies
  generalize inputs.evaluate dependencies = ticket at hexit
  cases hexit with
  | nothing top => exact .suppress (by simp) rfl _ _
  | barred _ _ _ defect =>
    obtain ⟨hreason, houtcome⟩ := entryDefect_reports defect
    exact .suppress hreason houtcome _ _
  | established top first enters => exact .eligible rfl rfl rfl
  | merit => exact .suppress (by simp) rfl _ _
  | incumbent => exact (inputs.incumbentTicket_consistent _).1
  | refused challenged calm eligible gate =>
    obtain ⟨current, hcurrent⟩ := currentBinding_of eligible
    obtain ⟨passed, reason, outcome, detail, -, hblocks, rfl⟩ := ordinaryGates_refuses hcurrent gate
    rcases hblocks.reports with hincomparable | ⟨hreason, houtcome⟩
    · exact absurd ⟨calm, eligible, _, challenged, hincomparable⟩ hundefined
    · exact .suppress hreason houtcome _ _
  | adapted _ _ _ gates =>
    obtain ⟨_, _, rfl⟩ := ordinaryGates_writes.returns _ gates
    exact .eligible rfl rfl rfl
  | overridden => exact .eligible rfl rfl rfl
  | escaped challenged emergency ineligible =>
    exact absurd ⟨⟨_, challenged⟩, by rw [emergency]; rfl, ineligible⟩ hfalls

end

end EvaluationInputs

open Scenario in
/-- Leaving the unavailable left path in an emergency is granted, and reported as suppressed. -/
theorem granted_as_suppressed : Engine.Reachable config (after cutOff) ∧
    ∃ ticket, (after cutOff).step config (.beginEvaluation 3 (evaluation "deferred")) =
        some (after (cutOff ++ [.beginEvaluation 3 (evaluation "deferred")]), .ticket ticket) ∧
      ticket.lifecycle = .eligible ∧ ticket.suppression = .currentPreferenceIneligible ∧
      ticket.outcome = .revalidationRequired :=
  ⟨reachable_after (by decide +kernel), _, step_ticket (by decide +kernel) (by decide +kernel),
    by decide +kernel⟩

end AdaptiveRouting
