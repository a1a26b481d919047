import AdaptiveRouting.Proof.Scenario
import AdaptiveRouting.Proof.Ticket

/-!
# The verdict of an evaluation

What the gates of phase one decide together. The rule names the best candidate only and no ticket: it
is established over the entry thresholds, or replaces the preference in an emergency, or where nothing
holds it back (`Departs`). Each gate passes on its own condition, whatever ticket it carries along, so
a ticket is eligible exactly under the rule (`evaluate_eligible_iff`).
-/

namespace AdaptiveRouting

open Guard

/-! ## Emergencies -/

/-- What an emergency rule can react to. -/
inductive EmergencyCondition
  | hardFailure | unavailable | unauthorized
  deriving DecidableEq

namespace EmergencyCondition

def enabled : EmergencyCondition → EmergencyRule → Bool
  | hardFailure, rule => rule.onHardFailureSignal
  | unavailable, rule => rule.onCurrentPathUnavailable
  | unauthorized, rule => rule.onCurrentPathUnauthorized

/-- A binding is in the condition. -/
def afflicts : EmergencyCondition → CandidateBinding → Bool
  | hardFailure, b => b.hardFailure
  | unavailable, b => !b.available
  | unauthorized, b => !b.pathAuthority.legal

end EmergencyCondition

namespace EvaluationInputs

section
variable (inputs : EvaluationInputs)

/-- The preferred path is in the condition; one that is no candidate is unavailable and not
authorized, but signals no failure. -/
def Afflicted : EmergencyCondition → Prop
  | .hardFailure => ∃ candidate ∈ inputs.candidates,
      candidate.binding.path = inputs.preference.preferredPath ∧
        EmergencyCondition.hardFailure.afflicts candidate.binding = true
  | condition => ∀ candidate ∈ inputs.candidates,
      candidate.binding.path = inputs.preference.preferredPath →
        condition.afflicts candidate.binding = true

/-- The policy reacts to the condition, and the preferred path is in it. -/
structure Triggers (condition : EmergencyCondition) : Prop where
  established : inputs.preference.established = true
  enabled : inputs.policy.semantics.emergency.enabled = true
  reacts : condition.enabled inputs.policy.semantics.emergency = true
  afflicted : inputs.Afflicted condition

/-! ## The rule -/

/-- The current value of a declared metric of a path. -/
def Measures (path : PathId) (kind : MetricKind) (value : MetricValue) : Prop :=
  ∃ requirement quality, inputs.policy.semantics.findRequirement kind = some requirement ∧
    inputs.lookupMetric path requirement = .ok (value, quality)

/-- The path clears an entry threshold. -/
def Enters (path : PathId) (rule : ThresholdRule) : Prop :=
  ∃ value, inputs.Measures path rule.kind value ∧ thresholdPermitsEntry value rule.clearValue = true

/-- A threshold permits departure from the preferred path and entry to another. -/
def Crosses (path : PathId) (rule : ThresholdRule) : Prop :=
  ∃ current value, inputs.Measures inputs.preference.preferredPath rule.kind current ∧
    inputs.Measures path rule.kind value ∧
    thresholdPermitsDeparture current rule.switchValue = true ∧
    thresholdPermitsEntry value rule.clearValue = true

/-- The path was displaced by the current preference. -/
def Displaced (path : PathId) : Prop :=
  inputs.preference.previousPath.valid = true ∧ inputs.preference.previousPath = path

/-- What an improvement rule requires: more of the displaced path. -/
def requirement (path : PathId) (rule : ImprovementRule) : UInt32 :=
  if inputs.preference.previousPath.valid && inputs.preference.previousPath == path then
    rule.reverseImprovementBps
  else rule.switchImprovementBps

/-- The path improves on the preferred one as much as a rule requires. -/
def Improves (path : PathId) (rule : ImprovementRule) : Prop :=
  ∃ current value improvement, inputs.Measures inputs.preference.preferredPath rule.kind current ∧
    inputs.Measures path rule.kind value ∧
    relativeImprovementBps current value = some improvement ∧
    inputs.requirement path rule ≤ improvement

/-- A hold-down runs until its deadline; an effective duration of zero disables it. -/
structure HeldDown : Prop where
  active : inputs.timing.holdDownActive = true
  declared : (effectiveHoldDown inputs.policy.semantics inputs.timing.dampeningPenalty).1 ≠ 0
  running : inputs.now < inputs.timing.holdDownDeadline

structure CoolingDown : Prop where
  active : inputs.timing.cooldownActive = true
  running : inputs.now < inputs.timing.cooldownDeadline

/-- The window holds as many adaptations as the policy allows. -/
structure Spent : Prop where
  enabled : inputs.policy.semantics.churn.enabled = true
  spent : inputs.policy.semantics.churn.maxAdaptationsPerWindow.toNat ≤
    recentCommits inputs.policy.semantics.churn inputs.timing inputs.now

/-- Nothing holds the preference back from an ordinary adaptation to a path. -/
structure Departs (path : PathId) : Prop where
  incumbent : ∃ current ∈ inputs.rank,
    current.path = inputs.preference.preferredPath ∧ current.eligible = true
  holdDown : ¬ (inputs.Displaced path ∧ inputs.HeldDown)
  cooldown : ¬ inputs.CoolingDown
  thresholds : ∀ rule ∈ inputs.policy.semantics.thresholds, inputs.Crosses path rule
  improvements : ∀ rule ∈ inputs.policy.semantics.improvements, inputs.Improves path rule
  churn : ¬ inputs.Spent

/-- A path becomes the preference. -/
inductive Verdict (path : PathId) : Prop
  | first (hfirst : inputs.preference.established = false)
      (henters : ∀ rule ∈ inputs.policy.semantics.thresholds, inputs.Enters path rule)
  | emergency (hestablished : inputs.preference.established = true)
      (hother : path ≠ inputs.preference.preferredPath)
      (htriggers : ∃ condition, inputs.Triggers condition)
  | ordinary (hestablished : inputs.preference.established = true)
      (hother : path ≠ inputs.preference.preferredPath) (hdeparts : inputs.Departs path)

/-- The best eligible candidate of the ranking. -/
def topRanked : Option CandidateEvaluation := inputs.rank.find? (·.eligible)

end

/-! ## What each gate decides -/

section
variable {inputs : EvaluationInputs}

/-- The candidate of a path, when the paths are distinct. -/
theorem find?_path_iff {candidates : List CandidateRecord}
    (hdistinct : (candidates.map (·.binding.path)).Nodup) {path : PathId} {c : CandidateRecord} :
    candidates.find? (fun c => c.binding.path == path) = some c ↔
      c ∈ candidates ∧ c.binding.path = path := by
  constructor
  · intro h
    exact ⟨List.mem_of_find?_eq_some h, beq_iff_eq.1 (List.find?_some h :)⟩
  · rintro ⟨hmem, rfl⟩
    cases hfind : candidates.find? fun other => other.binding.path == c.binding.path with
    | none => simpa using List.find?_eq_none.1 hfind c hmem
    | some other =>
      have hsame : other.binding.path = c.binding.path := beq_iff_eq.1 (List.find?_some hfind :)
      rw [List.inj_on_of_nodup_map hdistinct (List.mem_of_find?_eq_some hfind) hmem hsame]

theorem currentBinding_iff (hestablished : inputs.preference.established = true)
    (hdistinct : (inputs.candidates.map (·.binding.path)).Nodup) {c : CandidateRecord} :
    inputs.currentBinding = some c ↔
      c ∈ inputs.candidates ∧ c.binding.path = inputs.preference.preferredPath := by
  unfold currentBinding
  rw [if_pos hestablished]
  exact find?_path_iff hdistinct

/-- An emergency is found exactly when a condition triggers one. -/
theorem emergencyReason_isSome_iff (hdistinct : (inputs.candidates.map (·.binding.path)).Nodup) :
    inputs.emergencyReason.isSome = true ↔ ∃ condition, inputs.Triggers condition := by
  cases hestablished : inputs.preference.established with
  | false =>
    have hnone : inputs.emergencyReason = none := by
      unfold emergencyReason
      simp [hestablished]
    rw [hnone]
    refine ⟨fun h => (by cases h), fun h => ?_⟩
    obtain ⟨condition, htriggers⟩ := h
    rw [htriggers.established] at hestablished
    cases hestablished
  | true =>
    have hany (p : CandidateRecord → Bool) : inputs.currentBinding.any p = true ↔
        ∃ c ∈ inputs.candidates, c.binding.path = inputs.preference.preferredPath ∧ p c = true := by
      rw [Option.any_eq_true]
      simp only [currentBinding_iff hestablished hdistinct, and_assoc]
    have hall (p : CandidateRecord → Bool) : inputs.currentBinding.all p = true ↔
        ∀ c ∈ inputs.candidates, c.binding.path = inputs.preference.preferredPath → p c = true := by
      rw [Option.all_eq_true]
      simp only [currentBinding_iff hestablished hdistinct, and_imp]
    unfold emergencyReason
    constructor
    · intro h
      dsimp only at h
      split at h
      · cases h
      · rename_i henabled
        have henabled : inputs.policy.semantics.emergency.enabled = true := by
          simpa [hestablished] using henabled
        split at h
        · rename_i hfailure
          rw [Bool.and_eq_true, hany] at hfailure
          exact ⟨.hardFailure, hestablished, henabled, hfailure.1, hfailure.2⟩
        · split at h
          · rename_i hunavailable
            rw [Bool.and_eq_true, hall] at hunavailable
            exact ⟨.unavailable, hestablished, henabled, hunavailable.1, hunavailable.2⟩
          · split at h
            · rename_i hunauthorized
              rw [Bool.and_eq_true, hall] at hunauthorized
              exact ⟨.unauthorized, hestablished, henabled, hunauthorized.1, hunauthorized.2⟩
            · cases h
    · intro h
      obtain ⟨condition, -, henabled, hreacts, hafflicted⟩ := h
      dsimp only
      rw [henabled, hestablished]
      simp only [Bool.and_self, Bool.not_true, Bool.false_eq_true, if_false]
      split
      · rfl
      · rename_i hfailure
        split
        · rfl
        · rename_i hunavailable
          split
          · rfl
          · rename_i hunauthorized
            rw [Bool.and_eq_true, hany] at hfailure
            rw [Bool.and_eq_true, hall] at hunavailable hunauthorized
            cases condition with
            | hardFailure => exact absurd ⟨hreacts, hafflicted⟩ hfailure
            | unavailable => exact absurd ⟨hreacts, hafflicted⟩ hunavailable
            | unauthorized => exact absurd ⟨hreacts, hafflicted⟩ hunauthorized

theorem displaced_iff {best : CandidateEvaluation} :
    inputs.reverse best = true ↔ inputs.Displaced best.path := by
  unfold reverse Displaced
  simp

theorem requirement_eq (best : CandidateEvaluation) (rule : ImprovementRule) :
    inputs.requirement best.path rule =
      if inputs.reverse best then rule.reverseImprovementBps else rule.switchImprovementBps := rfl

theorem holdDownGate_returns {best : CandidateEvaluation} {ticket : EvaluationTicket} :
    Returns (inputs.holdDownGate best ticket) ↔
      ¬ (inputs.Displaced best.path ∧ inputs.HeldDown) := by
  unfold holdDownGate
  refine Returns.ite_iff.trans (not_congr ?_)
  simp only [Bool.and_eq_true, bne_iff_ne, ne_eq, displaced_iff]
  constructor
  · intro h
    obtain ⟨⟨⟨hactive, hdeclared⟩, hdisplaced⟩, hrunning⟩ := h
    refine ⟨hdisplaced, hactive, hdeclared, ?_⟩
    by_contra hpast
    exact hrunning (if_pos (UInt64.not_lt.1 hpast))
  · intro h
    obtain ⟨hdisplaced, hactive, hdeclared, hrunning⟩ := h
    refine ⟨⟨⟨hactive, hdeclared⟩, hdisplaced⟩, ?_⟩
    rw [if_neg (UInt64.not_le.2 hrunning)]
    intro hzero
    have hle : inputs.now ≤ inputs.timing.holdDownDeadline := UInt64.le_of_lt hrunning
    have hsub := congrArg UInt64.toNat hzero
    rw [UInt64.toNat_sub_of_le _ _ hle] at hsub
    have hlt := UInt64.lt_iff_toNat_lt.1 hrunning
    simp only [UInt64.toNat_zero] at hsub
    omega

theorem cooldownGate_returns {ticket : EvaluationTicket} :
    Returns (inputs.cooldownGate ticket) ↔ ¬ inputs.CoolingDown := by
  unfold cooldownGate
  refine Returns.ite_iff.trans (not_congr ?_)
  rw [Bool.and_eq_true, decide_eq_true_iff]
  exact ⟨fun h => ⟨h.1, h.2⟩, fun h => ⟨h.active, h.running⟩⟩

theorem churnGate_returns {ticket : EvaluationTicket} :
    Returns (inputs.churnGate ticket) ↔ ¬ inputs.Spent := by
  unfold churnGate
  refine Returns.ite_iff.trans (not_congr ?_)
  rw [Bool.and_eq_true, decide_eq_true_iff]
  exact ⟨fun h => ⟨h.1, h.2⟩, fun h => ⟨h.enabled, h.spent⟩⟩

/-- The values a rule compares are those of the preferred path and of the best one. -/
theorem ruleValues_ok_iff {current : CandidateRecord} (hcurrent : inputs.currentBinding = some current)
    (hpath : current.binding.path = inputs.preference.preferredPath) {best : CandidateEvaluation}
    {ticket missing : EvaluationTicket} {kind : MetricKind} {what : Text} {a b : MetricValue} :
    inputs.ruleValues ticket best kind missing what = .ok (a, b) ↔
      inputs.Measures inputs.preference.preferredPath kind a ∧ inputs.Measures best.path kind b := by
  unfold ruleValues Measures
  rw [hcurrent, ← hpath]
  cases hrequirement : inputs.policy.semantics.findRequirement kind with
  | none => simp
  | some requirement =>
    dsimp only
    cases hleft : inputs.lookupMetric current.binding.path requirement with
    | error reason => simp [hleft]
    | ok left =>
      cases hright : inputs.lookupMetric best.path requirement with
      | error reason => simp [hright]
      | ok right =>
        obtain ⟨left, _⟩ := left
        obtain ⟨right, _⟩ := right
        simp [hleft, hright]

section
variable {current : CandidateRecord} {best : CandidateEvaluation} {ticket : EvaluationTicket}

theorem thresholdGate_returns (hcurrent : inputs.currentBinding = some current)
    (hpath : current.binding.path = inputs.preference.preferredPath) (rule : ThresholdRule) :
    Returns (inputs.thresholdGate best ticket rule) ↔ inputs.Crosses best.path rule := by
  unfold thresholdGate
  rw [Returns.bind_iff, Prod.exists]
  unfold Crosses
  refine exists_congr fun a => exists_congr fun b => ?_
  rw [ruleValues_ok_iff hcurrent hpath, Returns.seq_iff, Returns.seq_iff, and_assoc]
  simp only [Bool.not_eq_false']
  exact ⟨fun h => ⟨h.1, h.2.1, h.2.2.1, h.2.2.2.1⟩,
    fun h => ⟨h.1, h.2.1, h.2.2.1, h.2.2.2, Returns.ok _⟩⟩

theorem improvementGate_returns (hcurrent : inputs.currentBinding = some current)
    (hpath : current.binding.path = inputs.preference.preferredPath) (rule : ImprovementRule) :
    Returns (inputs.improvementGate best ticket rule) ↔ inputs.Improves best.path rule := by
  unfold improvementGate
  rw [Returns.bind_iff, Prod.exists]
  unfold Improves
  refine exists_congr fun a => exists_congr fun b => ?_
  rw [ruleValues_ok_iff hcurrent hpath, Returns.bind_iff]
  constructor
  · intro h
    obtain ⟨⟨ha, hb⟩, improvement, himprovement, hrest⟩ := h
    obtain ⟨henough, -⟩ := Returns.seq_iff.1 hrest
    refine ⟨improvement, ha, hb, orRefuse_ok himprovement, ?_⟩
    rw [requirement_eq]
    exact UInt32.not_lt.1 (of_decide_eq_false henough)
  · intro h
    obtain ⟨improvement, ha, hb, himprovement, henough⟩ := h
    refine ⟨⟨ha, hb⟩, improvement, orRefuse_of himprovement, Returns.seq_iff.2 ⟨?_, Returns.ok _⟩⟩
    rw [requirement_eq] at henough
    exact decide_eq_false (UInt32.not_lt.2 henough)

/-- The gates in a row. -/
theorem ordinaryGates_returns (hcurrent : inputs.currentBinding = some current)
    (hpath : current.binding.path = inputs.preference.preferredPath) :
    Returns (inputs.ordinaryGates best ticket) ↔
      ¬ (inputs.Displaced best.path ∧ inputs.HeldDown) ∧ ¬ inputs.CoolingDown ∧
      (∀ rule ∈ inputs.policy.semantics.thresholds, inputs.Crosses best.path rule) ∧
      (∀ rule ∈ inputs.policy.semantics.improvements, inputs.Improves best.path rule) ∧
      ¬ inputs.Spent := by
  have hthresholds (ticket : EvaluationTicket) := Returns.foldlM_iff
    (fun ticket rule => @thresholdGate_returns inputs current best ticket hcurrent hpath rule) ticket
    inputs.policy.semantics.thresholds
  have himprovements (ticket : EvaluationTicket) := Returns.foldlM_iff
    (fun ticket rule => @improvementGate_returns inputs current best ticket hcurrent hpath rule)
    ticket inputs.policy.semantics.improvements
  unfold ordinaryGates
  constructor
  · intro h
    obtain ⟨t₁, h₁, h⟩ := Returns.bind_iff.1 h
    obtain ⟨t₂, h₂, h⟩ := Returns.bind_iff.1 h
    obtain ⟨t₃, h₃, h⟩ := Returns.bind_iff.1 h
    obtain ⟨t₄, h₄, h⟩ := Returns.bind_iff.1 h
    exact ⟨holdDownGate_returns.1 ⟨t₁, h₁⟩, cooldownGate_returns.1 ⟨t₂, h₂⟩,
      (hthresholds t₂).1 ⟨t₃, h₃⟩, (himprovements t₃).1 ⟨t₄, h₄⟩, churnGate_returns.1 h⟩
  · intro h
    obtain ⟨hholdDown, hcooldown, hcrosses, himproves, hchurn⟩ := h
    obtain ⟨t₁, h₁⟩ := holdDownGate_returns.2 hholdDown
    obtain ⟨t₂, h₂⟩ := (@cooldownGate_returns inputs t₁).2 hcooldown
    obtain ⟨t₃, h₃⟩ := (hthresholds t₂).2 hcrosses
    obtain ⟨t₄, h₄⟩ := (himprovements t₃).2 himproves
    exact Returns.bind_iff.2 ⟨t₁, h₁, Returns.bind_iff.2 ⟨t₂, h₂, Returns.bind_iff.2 ⟨t₃, h₃,
      Returns.bind_iff.2 ⟨t₄, h₄, churnGate_returns.2 hchurn⟩⟩⟩⟩

end

/-- The preference is a baseline exactly when it is an eligible candidate. -/
theorem currentEligible_iff (hestablished : inputs.preference.established = true)
    (hdistinct : (inputs.candidates.map (·.binding.path)).Nodup) :
    inputs.currentEligible inputs.rank = true ↔ ∃ current ∈ inputs.rank,
      current.path = inputs.preference.preferredPath ∧ current.eligible = true := by
  have hpaths : (inputs.rank.map (·.path)).Nodup := by
    have hperm : inputs.rank.Perm (inputs.candidates.map inputs.evaluateCandidate) :=
      List.perm_insertionSort _ _
    rw [(hperm.map _).nodup_iff, List.map_map]
    simpa only [Function.comp_def, evaluateCandidate_path] using hdistinct
  have hranked {e : CandidateEvaluation} (hmem : e ∈ inputs.rank)
      (hpath : e.path = inputs.preference.preferredPath) :
      inputs.rank.find? (fun ranked => ranked.path == inputs.preference.preferredPath) = some e := by
    cases hfind : inputs.rank.find? fun ranked => ranked.path == inputs.preference.preferredPath with
    | none => simpa [hpath] using List.find?_eq_none.1 hfind e hmem
    | some other =>
      have hsame : other.path = inputs.preference.preferredPath :=
        beq_iff_eq.1 (List.find?_some hfind :)
      rw [List.inj_on_of_nodup_map hpaths (List.mem_of_find?_eq_some hfind) hmem
        (hsame.trans hpath.symm)]
  unfold currentEligible
  rw [Bool.and_eq_true, Option.isSome_iff_exists]
  constructor
  · intro h
    obtain ⟨⟨candidate, hcandidate⟩, heligible⟩ := h
    obtain ⟨hmem, hpath⟩ := (currentBinding_iff hestablished hdistinct).1 hcandidate
    have hin : inputs.evaluateCandidate candidate ∈ inputs.rank := by
      unfold rank
      rw [List.mem_insertionSort]
      exact List.mem_map_of_mem hmem
    have hsame := (inputs.evaluateCandidate_path candidate).trans hpath
    rw [hranked hin hsame] at heligible
    exact ⟨_, hin, hsame, heligible⟩
  · intro h
    obtain ⟨current, hin, hpath, heligible⟩ := h
    rw [hranked hin hpath]
    obtain ⟨candidate, hmem, rfl⟩ := inputs.mem_rank hin
    rw [evaluateCandidate_path] at hpath
    exact ⟨⟨candidate, (currentBinding_iff hestablished hdistinct).2 ⟨hmem, hpath⟩⟩, heligible⟩

/-- A first preference is established exactly when every entry threshold is cleared. -/
theorem establish_eligible_iff {best : CandidateEvaluation} {ticket : EvaluationTicket} :
    (inputs.establish ticket best).lifecycle = .eligible ↔
      ∀ rule ∈ inputs.policy.semantics.thresholds, inputs.Enters best.path rule := by
  have hdefect (rule : ThresholdRule) :
      inputs.entryDefect best rule = none ↔ inputs.Enters best.path rule := by
    unfold entryDefect Enters Measures
    dsimp only
    cases hrequirement : inputs.policy.semantics.findRequirement rule.kind with
    | none => simp
    | some requirement =>
      cases hlookup : inputs.lookupMetric best.path requirement with
      | error reason => simp [hlookup]
      | ok value =>
        obtain ⟨value, quality⟩ := value
        simp [hlookup]
  unfold establish
  split
  · rename_i hfound
    obtain ⟨rule, hrule, hsome⟩ := List.exists_of_findSome?_eq_some hfound
    refine ⟨fun h => (by cases h), fun h => ?_⟩
    rw [(hdefect rule).2 (h rule hrule)] at hsome
    cases hsome
  · rename_i hnone
    exact ⟨fun _ rule hrule => (hdefect rule).1 (List.findSome?_eq_none_iff.1 hnone rule hrule),
      fun _ => rfl⟩

/-- An established preference is left in an emergency, or where nothing holds it back. -/
theorem adapt_eligible_iff (hestablished : inputs.preference.established = true)
    (hdistinct : (inputs.candidates.map (·.binding.path)).Nodup) {best : CandidateEvaluation}
    {ticket : EvaluationTicket} (hranking : ticket.ranking = inputs.rank) :
    (inputs.adapt ticket best).lifecycle = .eligible ↔
      (∃ condition, inputs.Triggers condition) ∨ inputs.Departs best.path := by
  rw [← emergencyReason_isSome_iff hdistinct]
  have hincumbent := currentEligible_iff hestablished hdistinct
  unfold adapt
  rw [hranking]
  cases hreason : inputs.emergencyReason with
  | some reason => exact ⟨fun _ => .inl rfl, fun _ => rfl⟩
  | none =>
    cases heligible : inputs.currentEligible inputs.rank with
    | false =>
      have hsuppressed := (inputs.incumbentTicket_suppresses (rfl : ticket.core = _)).lifecycle
      refine ⟨fun h => ?_, fun h => ?_⟩
      · change (inputs.incumbentTicket ticket).lifecycle = .eligible at h
        rw [hsuppressed] at h
        cases h
      · rcases h with h | h
        · cases h
        · rw [hincumbent.2 h.incumbent] at heligible
          cases heligible
    | true =>
      obtain ⟨current, hcurrent⟩ := Option.isSome_iff_exists.1 (Bool.and_eq_true .. ▸ heligible).1
      have hpath := ((currentBinding_iff hestablished hdistinct).1 hcurrent).2
      have hgates := @ordinaryGates_returns inputs current best ticket hcurrent hpath
      simp only [↓reduceIte, Option.isSome_none, Bool.false_eq_true, false_or]
      constructor
      · intro h
        cases hgated : inputs.ordinaryGates best ticket with
        | error suppressed =>
          rw [hgated] at h
          have hsuppressed := ((inputs.ordinaryGates_gates best (rfl : ticket.core = _)).refuses _
            hgated).lifecycle
          change suppressed.lifecycle = .eligible at h
          rw [hsuppressed] at h
          cases h
        | ok passed =>
          obtain ⟨hholdDown, hcooldown, hcrosses, himproves, hchurn⟩ := hgates.1 ⟨passed, hgated⟩
          exact ⟨hincumbent.1 heligible, hholdDown, hcooldown, hcrosses, himproves, hchurn⟩
      · intro h
        obtain ⟨-, hholdDown, hcooldown, hcrosses, himproves, hchurn⟩ := h
        obtain ⟨passed, hgated⟩ := hgates.2 ⟨hholdDown, hcooldown, hcrosses, himproves, hchurn⟩
        rw [hgated]

/-! ## The verdict -/

theorem evaluate_none (htop : inputs.topRanked = none) (dependencies : DependencySnapshot) :
    (inputs.evaluate dependencies).lifecycle = .suppressed ∧
      (inputs.evaluate dependencies).suppression = .noEligibleAlternative := by
  have hnone : (inputs.blankTicket dependencies).ranking.find? (·.eligible) = none := htop
  unfold evaluate
  dsimp only
  rw [hnone]
  exact ⟨rfl, rfl⟩

/-- The ticket the verdict on the best candidate is written on. -/
def unjudgedTicket (inputs : EvaluationInputs) (dependencies : DependencySnapshot) : EvaluationTicket :=
  { inputs.blankTicket dependencies with emergency := inputs.emergencyReason.isSome }

theorem evaluate_some {best : CandidateEvaluation} (htop : inputs.topRanked = some best)
    (dependencies : DependencySnapshot) :
    inputs.evaluate dependencies =
      if !inputs.preference.established then
        inputs.establish (inputs.unjudgedTicket dependencies) best
      else if best.path = inputs.preference.preferredPath then
        ((inputs.unjudgedTicket dependencies).towards best).suppress .meritNotEstablished .noChange
          "the current preference is already the best eligible candidate"
      else inputs.adapt ((inputs.unjudgedTicket dependencies).towards best) best := by
  have hsome : (inputs.blankTicket dependencies).ranking.find? (·.eligible) = some best := htop
  unfold evaluate
  dsimp only
  rw [hsome]
  rfl

/-- The verdict on an established preference is about the best eligible candidate. -/
theorem evaluate_towards {best : CandidateEvaluation}
    (hestablished : inputs.preference.established = true) (htop : inputs.topRanked = some best)
    (dependencies : DependencySnapshot) :
    (inputs.evaluate dependencies).targetPreference = best.path := by
  rw [evaluate_some htop, hestablished]
  simp only [Bool.not_true, Bool.false_eq_true, if_false]
  split
  · rfl
  · rcases inputs.adapt_ends best ((inputs.unjudgedTicket dependencies).towards best) with h | h
    · exact congrArg EvaluationTicket.targetPreference h.core
    · exact congrArg EvaluationTicket.targetPreference h.1

/-- An eligible ticket aims at the best eligible candidate. -/
theorem evaluate_target {dependencies : DependencySnapshot}
    (heligible : (inputs.evaluate dependencies).lifecycle = .eligible) :
    ∃ best, inputs.topRanked = some best ∧
      (inputs.evaluate dependencies).targetPreference = best.path := by
  cases htop : inputs.topRanked with
  | none =>
    rw [(evaluate_none htop dependencies).1] at heligible
    cases heligible
  | some best =>
    refine ⟨best, rfl, ?_⟩
    cases hestablished : inputs.preference.established with
    | true => exact evaluate_towards hestablished htop dependencies
    | false =>
      rw [evaluate_some htop, hestablished] at heligible ⊢
      rcases inputs.establish_ends best (inputs.unjudgedTicket dependencies) with h | h
      · have hsuppressed := h.lifecycle
        simp only [Bool.not_false, if_true] at heligible
        rw [heligible] at hsuppressed
        cases hsuppressed
      · exact congrArg EvaluationTicket.targetPreference h.1

/-- A preference that is the best eligible candidate is kept. -/
theorem evaluate_preferred {best : CandidateEvaluation}
    (hestablished : inputs.preference.established = true) (htop : inputs.topRanked = some best)
    (hsame : best.path = inputs.preference.preferredPath) (dependencies : DependencySnapshot) :
    (inputs.evaluate dependencies).lifecycle = .suppressed ∧
      (inputs.evaluate dependencies).suppression = .meritNotEstablished ∧
      (inputs.evaluate dependencies).targetPreference = inputs.preference.preferredPath := by
  rw [evaluate_some htop, hestablished]
  simp only [Bool.not_true, Bool.false_eq_true, if_false]
  rw [if_pos hsame]
  exact ⟨rfl, rfl, hsame⟩

/-- A ticket is eligible exactly when the rule admits the best eligible candidate, and then it aims
at that candidate. -/
theorem evaluate_eligible_iff (hdistinct : (inputs.candidates.map (·.binding.path)).Nodup)
    (dependencies : DependencySnapshot) :
    ((inputs.evaluate dependencies).lifecycle = .eligible ↔
      ∃ best, inputs.topRanked = some best ∧ inputs.Verdict best.path) ∧
    ((inputs.evaluate dependencies).lifecycle = .eligible →
      ∀ best, inputs.topRanked = some best →
        (inputs.evaluate dependencies).targetPreference = best.path) := by
  refine ⟨?_, fun heligible best hbest => ?_⟩
  · cases htop : inputs.topRanked with
    | none =>
      rw [(evaluate_none htop dependencies).1]
      exact ⟨fun h => (by cases h), fun h => (by simp at h)⟩
    | some best =>
      have honly {P : CandidateEvaluation → Prop} :
          (∃ other, some best = some other ∧ P other) ↔ P best := by simp
      rw [honly, evaluate_some htop]
      cases hestablished : inputs.preference.established with
      | false =>
        simp only [Bool.not_false, if_true]
        refine establish_eligible_iff.trans ⟨.first hestablished, fun h => ?_⟩
        cases h with
        | first _ henters => exact henters
        | emergency h => simp [hestablished] at h
        | ordinary h => simp [hestablished] at h
      | true =>
        simp only [Bool.not_true, Bool.false_eq_true, if_false]
        by_cases hsame : best.path = inputs.preference.preferredPath
        · rw [if_pos hsame]
          refine ⟨fun h => (by cases h), fun h => ?_⟩
          cases h with
          | first h => simp [hestablished] at h
          | emergency _ hother => exact absurd hsame hother
          | ordinary _ hother => exact absurd hsame hother
        · rw [if_neg hsame]
          refine (adapt_eligible_iff hestablished hdistinct rfl).trans ⟨fun h => ?_, fun h => ?_⟩
          · rcases h with h | h
            · exact .emergency hestablished hsame h
            · exact .ordinary hestablished hsame h
          · cases h with
            | first h => simp [hestablished] at h
            | emergency _ _ h => exact .inl h
            | ordinary _ _ h => exact .inr h
  · obtain ⟨_, htop, htarget⟩ := evaluate_target heligible
    rw [hbest] at htop
    cases htop
    exact htarget

end

end EvaluationInputs

open Scenario in
/-- The rule admits the challenger of an established preference. -/
theorem challenger_verdict :
    ∃ record, (after challenged).state.policies[policy]? = some record ∧
      record.preference.established = true ∧ record.preference.preferredPath = left ∧
      ((after challenged).state.copyInputs 4 default record).Verdict right := by
  obtain ⟨record, hrecord, htest⟩ : ∃ record,
      (after challenged).state.policies[policy]? = some record ∧
        (let inputs := (after challenged).state.copyInputs 4 default record
        decide (record.preference.established = true ∧ record.preference.preferredPath = left ∧
          (inputs.candidates.map (·.binding.path)).Nodup ∧
          (inputs.evaluate ((after challenged).state.buildDependencies 4 record default)).lifecycle =
            .eligible ∧
          inputs.topRanked.map (·.path) = some right)) = true :=
    (Option.any_eq_true _ _).1 (by decide +kernel)
  obtain ⟨hestablished, hleft, hdistinct, heligible, hbest⟩ := of_decide_eq_true htest
  obtain ⟨best, htop, hverdict⟩ :=
    (EvaluationInputs.evaluate_eligible_iff hdistinct _).1.1 heligible
  have hright : best.path = right := by
    rw [htop] at hbest
    exact Option.some.inj hbest
  exact ⟨record, hrecord, hestablished, hleft, hright ▸ hverdict⟩

end AdaptiveRouting
