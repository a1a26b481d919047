import AdaptiveRouting.Proof.Annals
import AdaptiveRouting.Proof.Dampening

/-!
# Decay

A dampening rule declares an interval and a step by which the penalty falls while a policy does not
adapt. Nothing takes the step: as long as the adaptation generation stays, so does the penalty
(`Lineage.unrelieved`), through stores as well, and the one a policy works with is the declared one
within the first interval only (`penalty_decays_iff`).
-/

namespace AdaptiveRouting

open Engine Guard

/-- What is left of a penalty after the ticks that have passed since it changed. -/
def DampeningRule.decayed (rule : DampeningRule) (penalty elapsed : Nat) : Nat :=
  penalty - rule.penaltyDecayStep.toNat * (elapsed / rule.penaltyDecayInterval.toNat)

/-- The penalty the next evaluation of a policy and the next commit work with. -/
structure WorksWith (s : State) (record : PolicyRecord) (penalty : Nat) : Prop where
  evaluation : ∀ now registration,
    (s.copyInputs now registration record).timing.dampeningPenalty.toNat = penalty
  commit : record.timing.dampeningPenalty.toNat = penalty

/-- The policy has not gone back, and has its penalty still if it did not adapt. -/
structure Unrelieved (before after : PolicyRecord) : Prop where
  adaptation : before.preference.adaptationGeneration ≤ after.preference.adaptationGeneration
  penalty : after.preference.adaptationGeneration = before.preference.adaptationGeneration →
    after.timing.dampeningPenalty = before.timing.dampeningPenalty

theorem Unrelieved.of_same {before after : PolicyRecord}
    (hpreference : after.preference = before.preference)
    (hpenalty : after.timing.dampeningPenalty = before.timing.dampeningPenalty) :
    Unrelieved before after := by
  refine ⟨?_, fun _ => hpenalty⟩
  rw [hpreference]
  exact UInt64.le_refl _

theorem Unrelieved.trans {a b c : PolicyRecord} (h : Unrelieved a b) (h' : Unrelieved b c) :
    Unrelieved a c := by
  have hab := h.adaptation
  have hbc := h'.adaptation
  simp only [Generation.le_iff_toNat] at hab hbc
  refine ⟨?_, fun heq => ?_⟩
  · simp only [Generation.le_iff_toNat]
    omega
  · have hca := Generation.eq_iff_toNat.1 heq
    rw [h'.penalty (Generation.eq_iff_toNat.2 (by omega)),
      h.penalty (Generation.eq_iff_toNat.2 (by omega))]

/-- An adaptation took the next generation. -/
theorem Unrelieved.of_next {before after : PolicyRecord}
    (h : before.preference.adaptationGeneration.next = some after.preference.adaptationGeneration) :
    Unrelieved before after := by
  have hlt := Generation.lt_next h
  refine ⟨UInt64.le_of_lt hlt, fun heq => ?_⟩
  rw [heq] at hlt
  exact absurd hlt (UInt64.lt_irrefl _)

section
variable {config : EngineConfig} {e : Engine} {op : Op} {policy : AdaptivePolicyId}
  {record record' : PolicyRecord}

theorem Rewrites.unrelieved {limits : Limits} (h : Rewrites limits e op policy record record')
    (htarget : record'.policy.semantics.target = record.policy.semantics.target) :
    Unrelieved record record' := by
  cases h with
  | updated checks =>
    unfold State.updatedRecord at htarget ⊢
    dsimp only at htarget ⊢
    split at htarget
    · rename_i hsame
      rw [if_pos hsame]
      exact .of_same rfl rfl
    · rename_i hother
      exact absurd htarget.symm hother
  | held | moved | revoked | suppressed => exact .of_same rfl rfl
  | committed _ _ _ _ verified installs =>
    subst installs
    exact .of_next (State.verifyCommit_ok verified).2.1
  | restored _ verified decides =>
    subst decides
    exact .of_next (State.verifyRollback_ok verified).2.2.1

theorem RecordChange.unrelieved (h : RecordChange config e op policy record record')
    (htarget : record'.policy.semantics.target = record.policy.semantics.target) :
    Unrelieved record record' := by
  cases h with
  | kept => exact .of_same rfl rfl
  | rewritten rewrites => exact rewrites.unrelieved htarget
  | advanced => exact .of_same rfl rfl
  | notified _ _ _ hframe =>
    have hpreference := congrArg PolicyRecord.preference hframe
    have hpenalty := congrArg (fun r : PolicyRecord => r.timing.dampeningPenalty) hframe
    exact .of_same hpreference hpenalty

end

/-- A policy is carried on with a penalty that nothing but an adaptation changed. -/
theorem Lineage.unrelieved {policy : AdaptivePolicyId} {config₀ config : EngineConfig} {e₀ e : Engine}
    {record₀ : PolicyRecord} (h : Lineage policy config₀ e₀ config e)
    (hbefore : e₀.state.policies[policy]? = some record₀) :
    ∃ record, e.state.policies[policy]? = some record ∧ Unrelieved record₀ record := by
  induction h with
  | start => exact ⟨record₀, hbefore, .of_same rfl rfl⟩
  | step _ recovers steps keeps ih =>
    obtain ⟨record, hrecord, hsince⟩ := ih
    obtain ⟨record', hrecord', hchange⟩ := step_record steps recovers hrecord
    exact ⟨record', hrecord',
      hsince.trans (hchange.unrelieved (keeps record record' hrecord hrecord'))⟩
  | @recover config writing e e' writer op answer saved hosted written recovers steps ih =>
    obtain ⟨record, hrecord, hsince⟩ := ih
    obtain ⟨now, epoch, authority, -, -, rfl⟩ := step_recovered steps recovers
    have hrestored := recovered_policies config saved now epoch authority written.hosted.keyed
      written.hosted.filed policy
    rw [hrecord, Option.map_some] at hrestored
    exact ⟨_, hrestored, hsince.adaptation, hsince.penalty⟩

theorem decayed_eq_iff {rule : DampeningRule} (hinterval : rule.penaltyDecayInterval ≠ 0)
    (hstep : rule.penaltyDecayStep ≠ 0) (penalty elapsed : Nat) :
    penalty = rule.decayed penalty elapsed ↔
      penalty = 0 ∨ elapsed < rule.penaltyDecayInterval.toNat := by
  have hpos : 0 < rule.penaltyDecayInterval.toNat :=
    Nat.pos_of_ne_zero fun hzero => hinterval (UInt64.toNat_inj.1 hzero)
  have hdown : 0 < rule.penaltyDecayStep.toNat :=
    Nat.pos_of_ne_zero fun hzero => hstep (UInt32.toNat_inj.1 hzero)
  rw [← Nat.div_eq_zero_iff_lt hpos]
  unfold DampeningRule.decayed
  constructor
  · intro heq
    by_cases hzero : elapsed / rule.penaltyDecayInterval.toNat = 0
    · exact .inr hzero
    · have hfall := Nat.mul_pos hdown (Nat.pos_of_ne_zero hzero)
      left
      omega
  · intro h
    rcases h with rfl | hzero
    · simp
    · simp [hzero]

/-- A policy that has not adapted works with the decayed penalty exactly when it has none, or the
first interval is not over. -/
theorem penalty_decays_iff {policy : AdaptivePolicyId} {config₀ config : EngineConfig} {e₀ e : Engine}
    {record₀ record : PolicyRecord} (h : Lineage policy config₀ e₀ config e)
    (hbefore : e₀.state.policies[policy]? = some record₀)
    (hfound : e.state.policies[policy]? = some record)
    (hunadapted :
      record.preference.adaptationGeneration = record₀.preference.adaptationGeneration)
    (henabled : record.policy.semantics.dampening.enabled = true) (elapsed : Nat) :
    WorksWith e.state record (record.policy.semantics.dampening.decayed
        record₀.timing.dampeningPenalty.toNat elapsed) ↔
      record₀.timing.dampeningPenalty.toNat = 0 ∨
        elapsed < record.policy.semantics.dampening.penaltyDecayInterval.toNat := by
  obtain ⟨found, hrecord, hsince⟩ := h.unrelieved hbefore
  rw [hfound] at hrecord
  cases hrecord
  have hpenalty := hsince.penalty hunadapted
  obtain ⟨-, hinterval, hstep⟩ :=
    PolicySemantics.check_dampened (h.hosted.sane policy record hfound).semantics henabled
  rw [← decayed_eq_iff hinterval hstep]
  constructor
  · intro hworks
    rw [← hpenalty]
    have hcommit := hworks.commit
    rw [← hpenalty] at hcommit
    exact hcommit
  · intro hsame
    have hworks : record.timing.dampeningPenalty.toNat = _ := (congrArg _ hpenalty).trans hsame
    exact ⟨fun _ _ => hworks, hworks⟩

namespace Scenario

/-- The engine starts from a store that was written at 15, twelve ticks after the adaptation. -/
def slept : List Op :=
  [.decodeStore 0 (.ok ((after swung).state.buildDurable 15).stored) "store"]

theorem swung_hosted : Hosted (fun _ _ _ => True) config (after swung) := by
  have hrun : RunUnder config (fun _ op => op.recovers config.limits = none ∧
      ∀ now request, op ≠ .updatePolicy now request) engine (after swung) :=
    Runs.runAll_under (fun op => op.recovers config.limits = none ∧
      ∀ now request, op ≠ .updatePolicy now request) (runAll_after (by decide +kernel)) (by
        intro op hmem
        simp only [swung, List.mem_cons, List.not_mem_nil, or_false] at hmem
        rcases hmem with rfl | rfl | rfl | rfl | rfl | rfl | rfl | rfl | rfl | rfl <;>
          exact ⟨rfl, by simp [register, activate, notify, publish, leave, recover]⟩)
  have hlineage : Lineage policy config engine config engine := .start (.start config "n")
  exact (hlineage.run hrun).hosted

theorem slept_lineage : Lineage policy config (after swung) config (after slept) := by
  obtain ⟨_, hstep⟩ := step_after [] (.decodeStore 0 (.ok ((after swung).state.buildDurable 15).stored)
    "store") (by decide +kernel)
  exact .recover (.start config "n") (.start swung_hosted) rfl hstep

/-- The policy has the penalty of one adaptation before and after the store. -/
theorem slept_penalty : ∃ record₀ record,
    (after swung).state.policies[policy]? = some record₀ ∧
    (after slept).state.policies[policy]? = some record ∧
    record.preference.adaptationGeneration = record₀.preference.adaptationGeneration ∧
    record₀.preference.committedAt = 3 ∧ record₀.timing.dampeningPenalty = 1 ∧
    record.timing.dampeningPenalty = 1 ∧ record.policy.semantics = oscillating.semantics := by
  obtain ⟨record₀, hrecord₀, htest₀⟩ : ∃ record,
      (after swung).state.policies[policy]? = some record ∧
      (record.preference.committedAt == 3 && record.timing.dampeningPenalty == 1 &&
        record.preference.adaptationGeneration == ⟨3⟩) = true :=
    (Option.any_eq_true _ _).1 (by decide +kernel)
  obtain ⟨record, hrecord, htest⟩ : ∃ record,
      (after slept).state.policies[policy]? = some record ∧
      (record.policy.semantics == oscillating.semantics && record.timing.dampeningPenalty == 1 &&
        record.preference.adaptationGeneration == ⟨3⟩) = true :=
    (Option.any_eq_true _ _).1 (by decide +kernel)
  simp only [Bool.and_eq_true, beq_iff_eq] at htest₀ htest
  obtain ⟨⟨hcommitted, hpenalty₀⟩, hgeneration₀⟩ := htest₀
  obtain ⟨⟨hsemantics, hpenalty⟩, hgeneration⟩ := htest
  exact ⟨record₀, record, hrecord₀, hrecord, hgeneration.trans hgeneration₀.symm, hcommitted,
    hpenalty₀, hpenalty, hsemantics⟩

end Scenario

open Scenario in
/-- Three ticks after the adaptation the penalty is as declared. -/
theorem penalty_kept_within_interval : ∃ record,
    (after slept).state.policies[policy]? = some record ∧ WorksWith (after slept).state record
      (record.policy.semantics.dampening.decayed 1 3) := by
  obtain ⟨record₀, record, hrecord₀, hrecord, hunadapted, -, hpenalty₀, -, hsemantics⟩ :=
    slept_penalty
  refine ⟨record, hrecord, ?_⟩
  have hworks := (penalty_decays_iff slept_lineage hrecord₀ hrecord hunadapted
    (by rw [hsemantics]; rfl) 3).2 (.inr (by rw [hsemantics]; decide))
  rw [hpenalty₀] at hworks
  exact hworks

open Scenario in
/-- Twelve ticks after it, nothing should be left of the penalty, and all of it is. -/
theorem penalty_outlives_decay : ∃ record₀ record,
    Lineage policy config (after swung) config (after slept) ∧
    (after swung).state.policies[policy]? = some record₀ ∧
    (after slept).state.policies[policy]? = some record ∧
    record.preference.adaptationGeneration = record₀.preference.adaptationGeneration ∧
    record.policy.semantics.dampening.enabled = true ∧ record₀.preference.committedAt = 3 ∧
    record.policy.semantics.dampening.decayed record₀.timing.dampeningPenalty.toNat 12 = 0 ∧
    record.timing.dampeningPenalty = 1 ∧
    ¬ WorksWith (after slept).state record (record.policy.semantics.dampening.decayed
      record₀.timing.dampeningPenalty.toNat 12) := by
  obtain ⟨record₀, record, hrecord₀, hrecord, hunadapted, hcommitted, hpenalty₀, hpenalty,
    hsemantics⟩ := slept_penalty
  have hgone : record.policy.semantics.dampening.decayed
      record₀.timing.dampeningPenalty.toNat 12 = 0 := by
    rw [hsemantics, hpenalty₀]
    decide
  refine ⟨record₀, record, slept_lineage, hrecord₀, hrecord, hunadapted, ?_, hcommitted, hgone,
    hpenalty, fun hworks => ?_⟩
  · rw [hsemantics]
    rfl
  · have hcommit := hworks.commit
    rw [hgone, hpenalty] at hcommit
    cases hcommit

end AdaptiveRouting
