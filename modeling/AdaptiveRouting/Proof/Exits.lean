import AdaptiveRouting.Proof.Verdict

/-!
# The exits of an evaluation

Every way phase one ends, with the ticket it ends with (`Exit`, `evaluate_exits`), and every way a gate
refuses an ordinary adaptation (`Blocks`, `ordinaryGates_refuses`). A lookup fails for one of three
reasons only (`lookupMetric_refuses`).
-/

namespace AdaptiveRouting

open Guard

/-- A reason a metric has no current value for. -/
def SuppressionReason.isEvidence : SuppressionReason → Bool
  | .evidenceUnknown | .insufficientSamples | .staleEvidence => true
  | _ => false

namespace EvaluationInputs

theorem lookupMetric_refuses (inputs : EvaluationInputs) (path : PathId)
    (requirement : EvidenceRequirement) :
    Refuses (fun reason => reason.isEvidence = true) (inputs.lookupMetric path requirement) := by
  unfold lookupMetric
  refine .bind (.found rfl) fun resolved => .bind (.guard rfl) fun _ => .bind (.guard rfl) fun _ => ?_
  exact .bind (.guard rfl) fun _ => .bind (.guard rfl) fun _ => .bind (.guard rfl) fun _ => .ok _

/-! ## Exits -/

/-- The ticket of an adaptation that goes through. -/
def adopt (inputs : EvaluationInputs) (ticket : EvaluationTicket) (best : CandidateEvaluation)
    (detail : Text) : EvaluationTicket :=
  { ticket with weightProposal := inputs.proposeWeights best, lifecycle := .eligible, detail }

/-- An evaluation of an established preference, when another eligible candidate ranks first. -/
structure Challenged (inputs : EvaluationInputs) (best : CandidateEvaluation) : Prop where
  top : inputs.topRanked = some best
  established : inputs.preference.established = true
  other : best.path ≠ inputs.preference.preferredPath

/-- Every exit of phase one, and its ticket. -/
inductive Exit (inputs : EvaluationInputs) (dependencies : DependencySnapshot) :
    EvaluationTicket → Prop
  | nothing (top : inputs.topRanked = none) : Exit inputs dependencies
      ((inputs.blankTicket dependencies).suppress .noEligibleAlternative .noEligibleCandidate
        ("no candidate satisfies path authority, multipath membership, scope and " ++
          "evidence requirements" : String))
  | barred {best : CandidateEvaluation} {rule : ThresholdRule} {reason : SuppressionReason}
      {outcome : Outcome} {detail : Text} (top : inputs.topRanked = some best)
      (first : inputs.preference.established = false)
      (declared : rule ∈ inputs.policy.semantics.thresholds)
      (defect : inputs.entryDefect best rule = some (reason, outcome, detail)) :
      Exit inputs dependencies ((inputs.unjudgedTicket dependencies).suppress reason outcome detail)
  | established {best : CandidateEvaluation} (top : inputs.topRanked = some best)
      (first : inputs.preference.established = false)
      (enters : ∀ rule ∈ inputs.policy.semantics.thresholds, inputs.entryDefect best rule = none) :
      Exit inputs dependencies { (inputs.unjudgedTicket dependencies).towards best with
        lifecycle := .eligible
        detail := "initial routing preference established from policy and current evidence" }
  | merit {best : CandidateEvaluation} (top : inputs.topRanked = some best)
      (established : inputs.preference.established = true)
      (same : best.path = inputs.preference.preferredPath) :
      Exit inputs dependencies (((inputs.unjudgedTicket dependencies).towards best).suppress
        .meritNotEstablished .noChange
        "the current preference is already the best eligible candidate")
  | incumbent {best : CandidateEvaluation} (challenged : inputs.Challenged best)
      (calm : inputs.emergencyReason = none)
      (ineligible : inputs.currentEligible inputs.rank = false) : Exit inputs dependencies
        (inputs.incumbentTicket ((inputs.unjudgedTicket dependencies).towards best))
  | refused {best : CandidateEvaluation} {ticket : EvaluationTicket}
      (challenged : inputs.Challenged best) (calm : inputs.emergencyReason = none)
      (eligible : inputs.currentEligible inputs.rank = true)
      (gate : inputs.ordinaryGates best ((inputs.unjudgedTicket dependencies).towards best) =
        .error ticket) : Exit inputs dependencies ticket
  | adapted {best : CandidateEvaluation} {passed : EvaluationTicket}
      (challenged : inputs.Challenged best) (calm : inputs.emergencyReason = none)
      (eligible : inputs.currentEligible inputs.rank = true)
      (gates : inputs.ordinaryGates best ((inputs.unjudgedTicket dependencies).towards best) =
        .ok passed) : Exit inputs dependencies
        (inputs.adopt passed best (Text.concat ["trigger satisfied for ", best.path.text]))
  | overridden {best : CandidateEvaluation} {reason : Text} (challenged : inputs.Challenged best)
      (emergency : inputs.emergencyReason = some reason)
      (eligible : inputs.currentEligible inputs.rank = true) : Exit inputs dependencies
        (inputs.adopt ((inputs.unjudgedTicket dependencies).towards best) best
          (Text.concat ["emergency override: ", reason]))
  | escaped {best : CandidateEvaluation} {reason : Text} (challenged : inputs.Challenged best)
      (emergency : inputs.emergencyReason = some reason)
      (ineligible : inputs.currentEligible inputs.rank = false) : Exit inputs dependencies
        (inputs.adopt (inputs.incumbentTicket ((inputs.unjudgedTicket dependencies).towards best))
          best (Text.concat ["emergency override: ", reason]))

theorem evaluate_exits (inputs : EvaluationInputs) (dependencies : DependencySnapshot) :
    inputs.Exit dependencies (inputs.evaluate dependencies) := by
  cases htop : inputs.topRanked with
  | none =>
    have hnone : (inputs.blankTicket dependencies).ranking.find? (·.eligible) = none := htop
    unfold evaluate
    dsimp only
    rw [hnone]
    exact .nothing htop
  | some best =>
    rw [evaluate_some htop]
    cases hestablished : inputs.preference.established with
    | false =>
      rw [Bool.not_false, if_pos rfl]
      unfold establish
      cases hdefect : inputs.policy.semantics.thresholds.findSome? (inputs.entryDefect best) with
      | none => exact .established htop hestablished (List.findSome?_eq_none_iff.1 hdefect)
      | some defect =>
        obtain ⟨reason, outcome, detail⟩ := defect
        obtain ⟨rule, hrule, hfound⟩ := List.exists_of_findSome?_eq_some hdefect
        exact .barred htop hestablished hrule hfound
    | true =>
      rw [Bool.not_true, if_neg (by simp)]
      by_cases hsame : best.path = inputs.preference.preferredPath
      · rw [if_pos hsame]
        exact .merit htop hestablished hsame
      · rw [if_neg hsame]
        have hchallenged : inputs.Challenged best := ⟨htop, hestablished, hsame⟩
        have hranking : ((inputs.unjudgedTicket dependencies).towards best).ranking = inputs.rank := rfl
        unfold adapt
        rw [hranking]
        cases hreason : inputs.emergencyReason with
        | some reason =>
          cases heligible : inputs.currentEligible inputs.rank with
          | true => exact .overridden hchallenged hreason heligible
          | false => exact .escaped hchallenged hreason heligible
        | none =>
          cases heligible : inputs.currentEligible inputs.rank with
          | false => exact .incumbent hchallenged hreason heligible
          | true =>
            simp only [↓reduceIte]
            cases hgates : inputs.ordinaryGates best
              ((inputs.unjudgedTicket dependencies).towards best) with
            | error ticket => exact .refused hchallenged hreason heligible hgates
            | ok passed => exact .adapted hchallenged hreason heligible hgates

/-! ## Gates -/

/-- An improvement rule is reached whose values have no improvement. -/
structure Incomparable (inputs : EvaluationInputs) (path : PathId) : Prop where
  holdDown : ¬ (inputs.Displaced path ∧ inputs.HeldDown)
  cooldown : ¬ inputs.CoolingDown
  thresholds : ∀ rule ∈ inputs.policy.semantics.thresholds, inputs.Crosses path rule
  rule : ∃ before rule after current value,
    inputs.policy.semantics.improvements = before ++ rule :: after ∧
    (∀ earlier ∈ before, inputs.Improves path earlier) ∧
    inputs.Measures inputs.preference.preferredPath rule.kind current ∧
    inputs.Measures path rule.kind value ∧ relativeImprovementBps current value = none

/-- A declared metric has no current value for a path. -/
def Misses (inputs : EvaluationInputs) (path : PathId) (kind : MetricKind)
    (reason : SuppressionReason) : Prop :=
  ∃ requirement, inputs.policy.semantics.findRequirement kind = some requirement ∧
    inputs.lookupMetric path requirement = .error reason

/-- What a gate refuses an ordinary adaptation to a path with. -/
inductive Blocks (inputs : EvaluationInputs) (path : PathId) :
    SuppressionReason → Outcome → Text → Prop
  | heldDown (reason : SuppressionReason)
      (named : reason = .holdDownActive ∨ reason = .dampeningExtendedHoldDown) :
      Blocks inputs path reason .holdDownActive
        (Text.concat ["hold-down suppresses the reverse adaptation to ", path.text])
  | coolingDown : Blocks inputs path .cooldownActive .cooldownActive
      "cooldown suppresses the adaptation"
  | thresholdUndeclared {rule : ThresholdRule}
      (declared : rule ∈ inputs.policy.semantics.thresholds)
      (missing : inputs.policy.semantics.findRequirement rule.kind = none) :
      Blocks inputs path .hysteresisNotCleared .hysteresisNotCleared
        (Text.concat ["threshold rule cannot be evaluated for ", rule.kind.text])
  | thresholdUnknown {rule : ThresholdRule} {reason : SuppressionReason} {at_ : PathId}
      (declared : rule ∈ inputs.policy.semantics.thresholds)
      (misses : inputs.Misses at_ rule.kind reason) : Blocks inputs path reason reason.outcome
        (Text.concat ["threshold", " rule lacks current evidence for ", rule.kind.text])
  | switchNotCrossed (kind : MetricKind) : Blocks inputs path .belowThreshold .noChange
      (Text.concat ["current preference has not crossed the switch threshold for ", kind.text])
  | bandNotCleared (kind : MetricKind) :
      Blocks inputs path .hysteresisNotCleared .hysteresisNotCleared
        (Text.concat ["candidate has not cleared the hysteresis band for ", kind.text])
  | improvementUndeclared {rule : ImprovementRule}
      (declared : rule ∈ inputs.policy.semantics.improvements)
      (missing : inputs.policy.semantics.findRequirement rule.kind = none) :
      Blocks inputs path .belowThreshold .noChange
        (Text.concat ["improvement rule cannot be evaluated for ", rule.kind.text])
  | improvementUnknown {rule : ImprovementRule} {reason : SuppressionReason} {at_ : PathId}
      (declared : rule ∈ inputs.policy.semantics.improvements)
      (misses : inputs.Misses at_ rule.kind reason) : Blocks inputs path reason reason.outcome
        (Text.concat ["improvement", " rule lacks current evidence for ", rule.kind.text])
  | incomparable (kind : MetricKind) (undefined : inputs.Incomparable path) :
      Blocks inputs path .belowThreshold .incompatibleMetric
        (Text.concat ["improvement comparison is not defined for ", kind.text])
  | belowRequired (reason : SuppressionReason)
      (named : reason = .hysteresisNotCleared ∨ reason = .belowThreshold)
      (observed required : UInt32) (suffix : Text) : Blocks inputs path reason reason.outcome
        (Text.concat ["observed improvement ", natText observed.toNat,
          " bps is below the required ", natText required.toNat, " bps", suffix])
  | spent (recent : Nat) : Blocks inputs path .churnLimitReached .churnLimitReached
      (Text.concat ["churn bound reached: ", natText recent,
        " adaptation(s) inside the declared window"])

/-- A ticket that a gate refused, and what it keeps of the ticket the gates got. -/
def Blocked (inputs : EvaluationInputs) (path : PathId) (ticket refused : EvaluationTicket) : Prop :=
  ∃ (passed : EvaluationTicket) (reason : SuppressionReason) (outcome : Outcome) (detail : Text),
    passed.core = ticket.core ∧ inputs.Blocks path reason outcome detail ∧
      refused = passed.suppress reason outcome detail

section
variable {inputs : EvaluationInputs} {best : CandidateEvaluation} {ticket passed refused :
  EvaluationTicket} {current : CandidateRecord}

theorem currentBinding_path (h : inputs.currentBinding = some current) :
    current ∈ inputs.candidates ∧ current.binding.path = inputs.preference.preferredPath := by
  unfold currentBinding at h
  split at h
  · exact ⟨List.mem_of_find?_eq_some h, beq_iff_eq.1 (List.find?_some h :)⟩
  · cases h

theorem Blocks.blocked {reason : SuppressionReason} {outcome : Outcome} {detail : Text}
    (h : inputs.Blocks best.path reason outcome detail) (hcore : passed.core = ticket.core) :
    inputs.Blocked best.path ticket (passed.suppress reason outcome detail) :=
  ⟨passed, reason, outcome, detail, hcore, h, rfl⟩

/-- A rule has no values: its metric is not declared, or has no current value for one of the paths. -/
theorem ruleValues_refuses (hcurrent : inputs.currentBinding = some current) {kind : MetricKind}
    {missing : EvaluationTicket} {what : Text}
    (h : inputs.ruleValues passed best kind missing what = .error refused) :
    inputs.policy.semantics.findRequirement kind = none ∧ refused = missing ∨
      ∃ reason at_, inputs.Misses at_ kind reason ∧ refused = passed.suppress reason reason.outcome
        (Text.concat [what, " rule lacks current evidence for ", kind.text]) := by
  unfold ruleValues at h
  rw [hcurrent] at h
  cases hrequirement : inputs.policy.semantics.findRequirement kind with
  | none =>
    rw [hrequirement] at h
    cases h
    exact .inl ⟨rfl, rfl⟩
  | some requirement =>
    rw [hrequirement] at h
    dsimp only at h
    right
    cases hleft : inputs.lookupMetric current.binding.path requirement with
    | error reason =>
      rw [hleft] at h
      cases h
      exact ⟨reason, _, ⟨requirement, hrequirement, hleft⟩, rfl⟩
    | ok left =>
      cases hright : inputs.lookupMetric best.path requirement with
      | error reason =>
        rw [hleft, hright] at h
        cases h
        exact ⟨reason, _, ⟨requirement, hrequirement, hright⟩, rfl⟩
      | ok right =>
        rw [hleft, hright] at h
        cases h

theorem thresholdGate_refuses (hcurrent : inputs.currentBinding = some current) {rule : ThresholdRule}
    (hrule : rule ∈ inputs.policy.semantics.thresholds) (hcore : passed.core = ticket.core)
    (h : inputs.thresholdGate best passed rule = .error refused) :
    inputs.Blocked best.path ticket refused := by
  unfold thresholdGate at h
  rcases bind_error h with h | ⟨⟨left, right⟩, -, h⟩
  · rcases ruleValues_refuses hcurrent h with ⟨hmissing, rfl⟩ | ⟨reason, path, hmisses, rfl⟩
    · exact (Blocks.thresholdUndeclared hrule hmissing).blocked hcore
    · exact (Blocks.thresholdUnknown hrule hmisses).blocked hcore
  · rcases seq_error h with ⟨-, rfl⟩ | ⟨-, h⟩
    · exact (Blocks.switchNotCrossed _).blocked hcore
    · rcases seq_error h with ⟨-, rfl⟩ | ⟨-, h⟩
      · exact (Blocks.bandNotCleared _).blocked hcore
      · cases h

/-- What an improvement gate refuses; its values are undefined only where the gates before it passed. -/
theorem improvementGate_refuses (hcurrent : inputs.currentBinding = some current)
    {before after : List ImprovementRule} {rule : ImprovementRule}
    (hsplit : inputs.policy.semantics.improvements = before ++ rule :: after)
    (hholdDown : ¬ (inputs.Displaced best.path ∧ inputs.HeldDown)) (hcooldown : ¬ inputs.CoolingDown)
    (hthresholds : ∀ rule ∈ inputs.policy.semantics.thresholds, inputs.Crosses best.path rule)
    (hbefore : ∀ earlier ∈ before, inputs.Improves best.path earlier)
    (hcore : passed.core = ticket.core)
    (h : inputs.improvementGate best passed rule = .error refused) :
    inputs.Blocked best.path ticket refused := by
  have hrule : rule ∈ inputs.policy.semantics.improvements := by simp [hsplit]
  unfold improvementGate at h
  rcases bind_error h with h | ⟨⟨left, right⟩, hvalues, h⟩
  · rcases ruleValues_refuses hcurrent h with ⟨hmissing, rfl⟩ | ⟨reason, path, hmisses, rfl⟩
    · exact (Blocks.improvementUndeclared hrule hmissing).blocked hcore
    · exact (Blocks.improvementUnknown hrule hmisses).blocked hcore
  · rcases bind_error h with h | ⟨improvement, -, h⟩
    · obtain ⟨hundefined, rfl⟩ := orRefuse_error h
      obtain ⟨hleft, hright⟩ := (ruleValues_ok_iff hcurrent (currentBinding_path hcurrent).2).1 hvalues
      exact (Blocks.incomparable _ ⟨hholdDown, hcooldown, hthresholds, before, rule, after, left, right,
        hsplit, hbefore, hleft, hright, hundefined⟩).blocked hcore
    · rcases seq_error h with ⟨-, rfl⟩ | ⟨-, h⟩
      · exact (Blocks.belowRequired _ (ite_eq_or_eq _ _ _) improvement _ _).blocked hcore
      · cases h

/-- Every refusal of the gates. -/
theorem ordinaryGates_refuses (hcurrent : inputs.currentBinding = some current)
    (h : inputs.ordinaryGates best ticket = .error refused) :
    inputs.Blocked best.path ticket refused := by
  have hpath := (currentBinding_path hcurrent).2
  unfold ordinaryGates at h
  rcases bind_error h with h | ⟨t₁, h₁, h⟩
  · unfold holdDownGate at h
    obtain ⟨-, rfl⟩ := ite_error h
    exact (Blocks.heldDown _ (ite_eq_or_eq _ _ _).symm).blocked rfl
  have hcore₁ := (inputs.holdDownGate_gates best (rfl : ticket.core = _)).returns t₁ h₁
  rcases bind_error h with h | ⟨t₂, h₂, h⟩
  · unfold cooldownGate at h
    obtain ⟨-, rfl⟩ := ite_error h
    exact Blocks.coolingDown.blocked hcore₁
  have hcore₂ := (inputs.cooldownGate_gates hcore₁).returns t₂ h₂
  rcases bind_error h with h | ⟨t₃, h₃, h⟩
  · obtain ⟨before, rule, after, t, hsplit, hran, hrefused⟩ := foldlM_error_iff.1 h
    have hcore := (Ends.foldlM (fun _ rule h => inputs.thresholdGate_gates best rule h)
      hcore₂ before).returns t hran
    exact thresholdGate_refuses hcurrent (by simp [hsplit]) hcore hrefused
  have hcore₃ := (Ends.foldlM (fun _ rule h => inputs.thresholdGate_gates best rule h)
    hcore₂ _).returns t₃ h₃
  rcases bind_error h with h | ⟨t₄, h₄, h⟩
  · obtain ⟨before, rule, after, t, hsplit, hran, hrefused⟩ := foldlM_error_iff.1 h
    have hcore := (Ends.foldlM (fun _ rule h => inputs.improvementGate_gates best rule h)
      hcore₃ before).returns t hran
    exact improvementGate_refuses hcurrent hsplit (holdDownGate_returns.1 ⟨t₁, h₁⟩)
      (cooldownGate_returns.1 ⟨t₂, h₂⟩)
      ((Returns.foldlM_iff (fun _ rule => thresholdGate_returns hcurrent hpath rule) t₂ _).1 ⟨t₃, h₃⟩)
      ((Returns.foldlM_iff (fun _ rule => improvementGate_returns hcurrent hpath rule) t₃ _).1 ⟨t, hran⟩)
      hcore hrefused
  have hcore₄ := (Ends.foldlM (fun _ rule h => inputs.improvementGate_gates best rule h)
    hcore₃ _).returns t₄ h₄
  unfold churnGate at h
  obtain ⟨-, rfl⟩ := ite_error h
  exact (Blocks.spent _).blocked hcore₄

end

end EvaluationInputs

end AdaptiveRouting
