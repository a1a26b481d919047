import AdaptiveRouting.Proof.Asymmetry
import AdaptiveRouting.Proof.Consistency
import AdaptiveRouting.Proof.FirstFailure

/-!
# Evaluation is total on valid policies

A valid policy declares a requirement for every metric it names (`PolicySemantics.Covers`), and the
values captured for them are comparable. So no branch that is there only for a policy or a value the
validation excludes is taken (`evaluate_total`): no metric is undeclared, no improvement or score is
undefined, and no gate is reached without a candidate to leave (`Sound`, `EvaluationInputs.Total`).
-/

namespace AdaptiveRouting

open Guard

/-! ## Coverage -/

/-- Every metric a policy names has a requirement. -/
structure PolicySemantics.Covers (semantics : PolicySemantics) : Prop where
  improvements : ∀ rule ∈ semantics.improvements, (semantics.findRequirement rule.kind).isSome = true
  thresholds : ∀ rule ∈ semantics.thresholds, (semantics.findRequirement rule.kind).isSome = true
  terms : ∀ term ∈ semantics.objective.terms, (semantics.findRequirement term.kind).isSome = true
  objective : semantics.objective.valid = true

theorem PolicySemantics.covers {semantics : PolicySemantics} (h : semantics.check = .ok ()) :
    semantics.Covers := by
  unfold PolicySemantics.check at h
  iterate 14 obtain ⟨-, h⟩ := seq_ok h
  obtain ⟨hobjective, h⟩ := seq_ok h
  iterate 3 obtain ⟨-, h⟩ := seq_ok h
  obtain ⟨himprovements, h⟩ := seq_ok h
  obtain ⟨hthresholds, h⟩ := seq_ok h
  have hterms := refuseIf_ok h
  refine ⟨fun rule hrule => ?_, fun rule hrule => ?_, fun term hterm => ?_, by simpa using hobjective⟩
  · exact Option.isNone_eq_false_iff.1 (Bool.eq_false_iff.2 (List.any_eq_false.1 himprovements rule hrule))
  · exact Option.isNone_eq_false_iff.1 (Bool.eq_false_iff.2 (List.any_eq_false.1 hthresholds rule hrule))
  · exact Option.isNone_eq_false_iff.1 (Bool.eq_false_iff.2 (List.any_eq_false.1 hterms term hterm))

/-! ## Texts -/

/-- How the detail of a branch begins that a valid policy does not take. -/
def defensiveTexts : List Text :=
  ["threshold rule has no declared evidence requirement", "threshold rule cannot be evaluated for ",
    "improvement rule cannot be evaluated for ", "improvement comparison is not defined for "]

/-- No defensive text begins with the text, or the other way. -/
def Text.ordinary (text : Text) : Bool :=
  defensiveTexts.all fun defensive => !defensive.isPrefixOf text && !text.isPrefixOf defensive

/-- The detail begins with no defensive text. -/
def Text.Ordinary (detail : Text) : Prop := ∀ text ∈ defensiveTexts, ¬ text <+: detail

theorem Text.ordinary_of_prefix {text detail : Text} (h : text.ordinary = true)
    (hbegins : text <+: detail) : detail.Ordinary := by
  intro defensive hmem hdefensive
  have hapart := List.all_eq_true.1 h defensive hmem
  simp only [Bool.and_eq_true, Bool.not_eq_true', ← Bool.not_eq_true, List.isPrefixOf_iff_prefix]
    at hapart
  rcases List.prefix_or_prefix_of_prefix hdefensive hbegins with h | h
  · exact hapart.1 h
  · exact hapart.2 h

theorem Text.concat_ordinary {first : Text} (h : first.ordinary = true) (rest : List Text) :
    (Text.concat (first :: rest)).Ordinary :=
  ordinary_of_prefix h ⟨_, rfl⟩

theorem Text.concat_two_ordinary {first second : Text} (h : (first ++ second).ordinary = true)
    (rest : List Text) : (Text.concat (first :: second :: rest)).Ordinary :=
  ordinary_of_prefix h ⟨Text.concat rest, by simp [Text.concat]⟩

/-! ## Sound tickets -/

/-- A ticket reports nothing that only a branch a valid policy does not take reports. -/
structure EvaluationTicket.Sound (ticket : EvaluationTicket) : Prop where
  suppression : ticket.suppression ≠ .noTriggerDeclared
  outcome : ticket.outcome ≠ .incompatibleMetric
  detail : ticket.detail.Ordinary

theorem SuppressionReason.outcome_ne (reason : SuppressionReason) :
    reason.outcome ≠ .incompatibleMetric := by
  cases reason <;> simp [SuppressionReason.outcome]

theorem SuppressionReason.isEvidence_ne {reason : SuppressionReason}
    (h : reason.isEvidence = true) : reason ≠ .noTriggerDeclared := by
  rintro rfl
  cases h

namespace EvaluationInputs

/-- The defensive branches of an evaluation are not taken. -/
structure Total (inputs : EvaluationInputs) (ticket : EvaluationTicket) : Prop extends
    EvaluationTicket.Sound ticket where
  rejections : ∀ ranked ∈ ticket.ranking,
    ranked.rejection ≠ .noTriggerDeclared ∧ ranked.rejectionOutcome ≠ .incompatibleMetric
  /-- Without a candidate to leave, an evaluation ends before the gates. -/
  baseline : inputs.preference.established = true → inputs.emergencyReason = none →
    inputs.currentBinding = none →
    ticket.suppression = .noEligibleAlternative ∨ ticket.suppression = .currentPreferenceIneligible

section
variable {inputs : EvaluationInputs} {path : PathId}

/-! ## Candidates -/

theorem requirementFailures_isEvidence {reason : SuppressionReason}
    (h : reason ∈ inputs.requirementFailures path) : reason.isEvidence = true := by
  obtain ⟨requirement, -, hfailure⟩ := List.mem_filterMap.1 h
  unfold requirementFailure at hfailure
  split at hfailure
  · exact inputs.lookupMetric_refuses _ _ _ (refusal_eq_some.1 hfailure)
  · cases hfailure

theorem termFailure_isEvidence (hcovers : inputs.policy.semantics.Covers) {term : ObjectiveTerm}
    (hterm : term ∈ inputs.policy.semantics.objective.terms) {reason : SuppressionReason}
    (h : inputs.termFailure path term = some reason) : reason.isEvidence = true := by
  obtain ⟨requirement, hrequirement⟩ := Option.isSome_iff_exists.1 (hcovers.terms term hterm)
  unfold termFailure at h
  rw [hrequirement] at h
  exact inputs.lookupMetric_refuses _ _ _ (refusal_eq_some.1 h)

theorem upstreamRejection_ne {target : PolicyTarget} {b : CandidateBinding} {outcome : Outcome}
    (h : upstreamRejection target b = some outcome) : outcome ≠ .incompatibleMetric := by
  unfold upstreamRejection at h
  rintro rfl
  split at h
  · cases h
  · split at h
    · cases h
    · split at h
      · cases h
      · split at h
        · cases h
        · split at h <;> cases h

end

section
variable {inputs : EvaluationInputs} {s : State} {now : Ticks} {id : EvidenceSnapshotId}
  {record : PolicyRecord}

/-- The terms of a valid objective have a score. -/
theorem unscored_false (hcovers : inputs.policy.semantics.Covers)
    (hevidence : inputs.evidence = s.captureEvidence now id record) (path : PathId) :
    inputs.unscored path = false := by
  unfold unscored
  split
  · rename_i metrics hmode hmetrics
    rw [Option.isNone_eq_false_iff]
    refine weightedScore_isSome hcovers.objective hmode ?_
    refine (objectiveMetrics_ok_iff.1 hmetrics).imp fun term value h => ?_
    obtain ⟨requirement, quality, hrequirement, hlookup⟩ := h
    have hvalue := State.lookupMetric_value hevidence hlookup
    exact ⟨hvalue.1.trans (PolicySemantics.findRequirement_kind hrequirement), hvalue.2⟩
  · rfl

theorem evaluateCandidate_sound (hcovers : inputs.policy.semantics.Covers)
    (hevidence : inputs.evidence = s.captureEvidence now id record) (candidate : CandidateRecord) :
    (inputs.evaluateCandidate candidate).rejection ≠ .noTriggerDeclared ∧
      (inputs.evaluateCandidate candidate).rejectionOutcome ≠ .incompatibleMetric := by
  have hreports := inputs.evaluateCandidate_reports candidate
  generalize inputs.evaluateCandidate candidate = evaluation at hreports
  have hfailure : ∀ reason outcome,
      inputs.failureBy List.getLast? candidate = some (reason, outcome) →
        reason ≠ .noTriggerDeclared ∧ outcome ≠ .incompatibleMetric := by
    intro reason outcome h
    unfold failureBy at h
    dsimp only at h
    split at h
    · rename_i hupstream
      cases h
      exact ⟨by simp, upstreamRejection_ne hupstream⟩
    · split at h
      · rename_i hpick
        cases h
        have hreason := requirementFailures_isEvidence (List.mem_of_getLast? hpick)
        exact ⟨SuppressionReason.isEvidence_ne hreason, SuppressionReason.outcome_ne _⟩
      · split at h
        · rename_i hterms
          cases h
          obtain ⟨term, hterm, hfails⟩ := List.exists_of_findSome?_eq_some hterms
          have hreason := termFailure_isEvidence hcovers hterm hfails
          exact ⟨SuppressionReason.isEvidence_ne hreason, SuppressionReason.outcome_ne _⟩
        · rw [unscored_false hcovers hevidence, if_neg (by simp)] at h
          cases h
  cases hrecorded : inputs.failureBy List.getLast? candidate with
  | none =>
    rw [hrecorded] at hreports
    simp only [Prod.mk.injEq] at hreports
    rw [hreports.2.1, hreports.2.2]
    exact ⟨by simp, by simp⟩
  | some failure =>
    obtain ⟨reason, outcome⟩ := failure
    rw [hrecorded] at hreports
    simp only [Prod.mk.injEq] at hreports
    rw [hreports.2.1, hreports.2.2]
    exact hfailure reason outcome hrecorded

/-! ## Gates -/

/-- The values an improvement rule compares are comparable. -/
theorem not_incomparable (hevidence : inputs.evidence = s.captureEvidence now id record)
    (path : PathId) : ¬ inputs.Incomparable path := by
  intro h
  obtain ⟨_, rule, _, current, value, -, -, hcurrent, hvalue, hundefined⟩ := h.rule
  obtain ⟨_, _, hrequirement, hlookup⟩ := hcurrent
  obtain ⟨_, _, hrequirement', hlookup'⟩ := hvalue
  obtain ⟨hkind, hvalid⟩ := State.lookupMetric_value hevidence hlookup
  obtain ⟨hkind', hvalid'⟩ := State.lookupMetric_value hevidence hlookup'
  have hsame : current.kind = value.kind := by
    rw [hkind, hkind', PolicySemantics.findRequirement_kind hrequirement,
      PolicySemantics.findRequirement_kind hrequirement']
  obtain ⟨improvement, hdefined, -⟩ :=
    relativeImprovementBps_eq (comparable_iff.2 ⟨hvalid, hvalid', hsame⟩)
  rw [hdefined] at hundefined
  cases hundefined

end

section
variable {inputs : EvaluationInputs}

theorem suppress_sound {reason : SuppressionReason} {outcome : Outcome} {detail : Text}
    (hreason : reason ≠ .noTriggerDeclared) (houtcome : outcome ≠ .incompatibleMetric)
    (hdetail : detail.Ordinary) (ticket : EvaluationTicket) :
    (ticket.suppress reason outcome detail).Sound :=
  ⟨hreason, houtcome, hdetail⟩

theorem granted_sound {ticket : EvaluationTicket} (hreason : ticket.suppression = .none)
    (houtcome : ticket.outcome = .noChange) (hdetail : ticket.detail.Ordinary) : ticket.Sound :=
  ⟨by simp [hreason], by simp [houtcome], hdetail⟩

/-- A gate refuses nothing else, when the rules are covered and no improvement is undefined. -/
theorem Blocks.sound {path : PathId} {reason : SuppressionReason} {outcome : Outcome} {detail : Text}
    (h : inputs.Blocks path reason outcome detail) (hcovers : inputs.policy.semantics.Covers)
    (hdefined : ¬ inputs.Incomparable path) (ticket : EvaluationTicket) :
    (ticket.suppress reason outcome detail).Sound := by
  cases h with
  | heldDown _ named =>
    have hdetail := @Text.concat_ordinary "hold-down suppresses the reverse adaptation to "
      (by decide +kernel) [path.text]
    rcases named with rfl | rfl <;> exact suppress_sound (by simp) (by simp) hdetail ticket
  | coolingDown =>
    exact suppress_sound (by simp) (by simp)
      (Text.ordinary_of_prefix (by decide +kernel) List.prefix_rfl) ticket
  | thresholdUndeclared declared missing =>
    have hdeclared := hcovers.thresholds _ declared
    rw [missing] at hdeclared
    cases hdeclared
  | thresholdUnknown _ misses =>
    obtain ⟨requirement, -, hlookup⟩ := misses
    exact suppress_sound (SuppressionReason.isEvidence_ne (inputs.lookupMetric_refuses _ _ _ hlookup))
      (SuppressionReason.outcome_ne _) (Text.concat_two_ordinary (by decide +kernel) _) ticket
  | switchNotCrossed kind =>
    exact suppress_sound (by simp) (by simp) (Text.concat_ordinary (by decide +kernel) _) ticket
  | bandNotCleared kind =>
    exact suppress_sound (by simp) (by simp) (Text.concat_ordinary (by decide +kernel) _) ticket
  | improvementUndeclared declared missing =>
    have hdeclared := hcovers.improvements _ declared
    rw [missing] at hdeclared
    cases hdeclared
  | improvementUnknown _ misses =>
    obtain ⟨requirement, -, hlookup⟩ := misses
    exact suppress_sound (SuppressionReason.isEvidence_ne (inputs.lookupMetric_refuses _ _ _ hlookup))
      (SuppressionReason.outcome_ne _) (Text.concat_two_ordinary (by decide +kernel) _) ticket
  | incomparable kind undefined => exact absurd undefined hdefined
  | belowRequired _ named observed required suffix =>
    have hdetail := @Text.concat_ordinary "observed improvement " (by decide +kernel)
      [natText observed.toNat, " bps is below the required ", natText required.toNat, " bps", suffix]
    rcases named with rfl | rfl <;>
      exact suppress_sound (by simp) (SuppressionReason.outcome_ne _) hdetail ticket
  | spent recent =>
    exact suppress_sound (by simp) (by simp) (Text.concat_ordinary (by decide +kernel) _) ticket

theorem incumbentTicket_sound (inputs : EvaluationInputs) (ticket : EvaluationTicket) :
    (inputs.incumbentTicket ticket).Sound := by
  have hgeneric : (ticket.suppress .currentPreferenceIneligible .revalidationRequired
      (if inputs.currentBinding.isNone
        then "the current preferred path is no longer part of the candidate set"
        else "the current preferred path is no longer eligible")).Sound := by
    refine suppress_sound (by simp) (by simp) ?_ ticket
    split
    · exact Text.ordinary_of_prefix (by decide +kernel) List.prefix_rfl
    · exact Text.ordinary_of_prefix (by decide +kernel) List.prefix_rfl
  have hinsufficient := @Text.ordinary_of_prefix
    "the current preferred path has insufficient evidence" _ (by decide +kernel) List.prefix_rfl
  unfold incumbentTicket
  dsimp only
  split
  · exact hgeneric
  · split
    · exact suppress_sound (by simp) (by simp)
        (Text.ordinary_of_prefix (by decide +kernel) List.prefix_rfl) ticket
    · rename_i hrejection
      rw [hrejection]
      exact suppress_sound (by simp) (by simp) hinsufficient ticket
    · rename_i hrejection
      rw [hrejection]
      exact suppress_sound (by simp) (by simp) hinsufficient ticket
    · exact hgeneric

theorem entryDefect_sound (hcovers : inputs.policy.semantics.Covers) {best : CandidateEvaluation}
    {rule : ThresholdRule} (hrule : rule ∈ inputs.policy.semantics.thresholds)
    {reason : SuppressionReason} {outcome : Outcome} {detail : Text}
    (h : inputs.entryDefect best rule = some (reason, outcome, detail)) (ticket : EvaluationTicket) :
    (ticket.suppress reason outcome detail).Sound := by
  obtain ⟨requirement, hrequirement⟩ := Option.isSome_iff_exists.1 (hcovers.thresholds rule hrule)
  have hdetail := @Text.concat_ordinary
    "best candidate does not clear the declared entry threshold for " (by decide +kernel)
    [rule.kind.text]
  unfold entryDefect at h
  dsimp only at h
  rw [hrequirement] at h
  dsimp only at h
  split at h
  · rename_i hlookup
    cases h
    exact suppress_sound (SuppressionReason.isEvidence_ne (inputs.lookupMetric_refuses _ _ _ hlookup))
      (SuppressionReason.outcome_ne _) hdetail ticket
  · split at h
    · cases h
    · cases h
      exact suppress_sound (by simp) (by simp) hdetail ticket

/-! ## Exits -/

/-- Without a candidate to leave, the incumbent is reported as gone. -/
theorem incumbentTicket_gone (hestablished : inputs.preference.established = true)
    (hnone : inputs.currentBinding = none) {ticket : EvaluationTicket}
    (hranking : ticket.ranking = inputs.rank) :
    (inputs.incumbentTicket ticket).suppression = .currentPreferenceIneligible := by
  have hunranked : ticket.ranking.find? (fun ranked => ranked.path == inputs.preference.preferredPath) =
      none := by
    rw [hranking]
    refine List.find?_eq_none.2 fun ranked hmem => ?_
    obtain ⟨candidate, hcandidate, rfl⟩ := inputs.mem_rank hmem
    unfold currentBinding at hnone
    rw [if_pos hestablished] at hnone
    rw [evaluateCandidate_path]
    exact List.find?_eq_none.1 hnone candidate hcandidate
  unfold incumbentTicket
  dsimp only
  rw [hunranked]
  rfl

theorem evaluate_sound (hcovers : inputs.policy.semantics.Covers)
    (hdefined : ∀ path, ¬ inputs.Incomparable path) (dependencies : DependencySnapshot) :
    (inputs.evaluate dependencies).Sound := by
  have hexit := inputs.evaluate_exits dependencies
  generalize inputs.evaluate dependencies = ticket at hexit
  cases hexit with
  | nothing top =>
    exact suppress_sound (by simp) (by simp)
      (Text.ordinary_of_prefix (by decide +kernel) List.prefix_rfl) _
  | barred _ _ declared defect => exact entryDefect_sound hcovers declared defect _
  | established top first enters =>
    have hdetail := @Text.ordinary_of_prefix
      "initial routing preference established from policy and current evidence" _
      (by decide +kernel) List.prefix_rfl
    exact granted_sound rfl rfl hdetail
  | merit top established same =>
    exact suppress_sound (by simp) (by simp)
      (Text.ordinary_of_prefix (by decide +kernel) List.prefix_rfl) _
  | incumbent => exact inputs.incumbentTicket_sound _
  | refused challenged calm eligible gate =>
    obtain ⟨current, hcurrent⟩ := currentBinding_of eligible
    obtain ⟨passed, reason, outcome, detail, -, hblocks, rfl⟩ := ordinaryGates_refuses hcurrent gate
    exact hblocks.sound hcovers (hdefined _) _
  | adapted challenged calm eligible gates =>
    obtain ⟨_, _, rfl⟩ := ordinaryGates_writes.returns _ gates
    exact granted_sound rfl rfl (Text.concat_ordinary (by decide +kernel) _)
  | overridden =>
    exact granted_sound rfl rfl (Text.concat_ordinary (by decide +kernel) _)
  | escaped =>
    exact ⟨(inputs.incumbentTicket_sound _).suppression, (inputs.incumbentTicket_sound _).outcome,
      Text.concat_ordinary (by decide +kernel) _⟩

/-- Without a candidate to leave, an evaluation that is no emergency ends before the gates. -/
theorem evaluate_baseline (hestablished : inputs.preference.established = true)
    (hcalm : inputs.emergencyReason = none) (hnone : inputs.currentBinding = none)
    (dependencies : DependencySnapshot) :
    (inputs.evaluate dependencies).suppression = .noEligibleAlternative ∨
      (inputs.evaluate dependencies).suppression = .currentPreferenceIneligible := by
  have hineligible : inputs.currentEligible inputs.rank = false := by
    unfold currentEligible
    rw [hnone]
    rfl
  have hexit := inputs.evaluate_exits dependencies
  generalize inputs.evaluate dependencies = ticket at hexit
  cases hexit with
  | nothing => exact .inl rfl
  | barred _ first | established _ first => simp [first] at hestablished
  | merit top _ same =>
    obtain ⟨candidate, hmem, rfl⟩ := inputs.mem_rank (List.mem_of_find?_eq_some top)
    unfold currentBinding at hnone
    rw [if_pos hestablished] at hnone
    rw [evaluateCandidate_path] at same
    exact absurd (beq_iff_eq.2 same) (List.find?_eq_none.1 hnone candidate hmem)
  | incumbent => exact .inr (incumbentTicket_gone hestablished hnone rfl)
  | refused _ _ eligible | adapted _ _ eligible => simp [hineligible] at eligible
  | overridden _ emergency | escaped _ emergency => simp [hcalm] at emergency

/-- On a valid policy and captured evidence, an evaluation takes none of its defensive branches. -/
theorem evaluate_total (hvalid : inputs.policy.semantics.check = .ok ()) {s : State} {now : Ticks}
    {id : EvidenceSnapshotId} {record : PolicyRecord}
    (hcaptured : inputs.evidence = s.captureEvidence now id record)
    (dependencies : DependencySnapshot) : inputs.Total (inputs.evaluate dependencies) := by
  have hcovers := PolicySemantics.covers hvalid
  refine { evaluate_sound hcovers (not_incomparable hcaptured) dependencies with
    rejections := fun ranked hranked => ?_
    baseline := fun hestablished hcalm hnone =>
      evaluate_baseline hestablished hcalm hnone dependencies }
  rw [evaluate_ranking] at hranked
  obtain ⟨candidate, -, rfl⟩ := inputs.mem_rank hranked
  exact evaluateCandidate_sound hcovers hcaptured candidate

end

end EvaluationInputs

open Scenario in
/-- The challenge of an established preference is evaluated without a defensive branch. -/
theorem challenge_total : ∃ record, (after challenged).state.policies[policy]? = some record ∧
    ∀ dependencies, ((after challenged).state.copyInputs 4 default record).Total
      (((after challenged).state.copyInputs 4 default record).evaluate dependencies) := by
  obtain ⟨record, hrecord, hsemantics⟩ : ∃ record,
      (after challenged).state.policies[policy]? = some record ∧
        (record.policy.semantics == semantics) = true :=
    (Option.any_eq_true _ _).1 (by decide +kernel)
  have hvalid : record.policy.semantics.check = .ok () := by
    rw [beq_iff_eq.1 hsemantics]
    rfl
  exact ⟨record, hrecord, fun dependencies => EvaluationInputs.evaluate_total hvalid rfl dependencies⟩

end AdaptiveRouting
