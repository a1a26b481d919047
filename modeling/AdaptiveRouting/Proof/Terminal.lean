import AdaptiveRouting.Proof.Recovery
import AdaptiveRouting.Proof.Scenario
import AdaptiveRouting.Proof.Timing

/-!
# Terminal policies

What a terminal policy keeps (`Frozen`): one operation keeps it (`RecordChange.frozen`), and so does
the recovery of a store that holds it, hence every engine that goes on from one with the terminal
policy, or recovers what such an engine wrote (`Onward`). And only an active policy adapts.
-/

namespace AdaptiveRouting

open Engine

/-- What a terminal policy keeps: its declaration, what it prefers and its rollback anchor. -/
structure Frozen (record record' : PolicyRecord) : Prop where
  lifecycle : record'.policy.lifecycle = record.policy.lifecycle
  scope : record'.policy.scope = record.policy.scope
  semantics : record'.policy.semantics = record.policy.semantics
  generation : record'.policy.generation = record.policy.generation
  established : record'.preference.established = record.preference.established
  preferredPath : record'.preference.preferredPath = record.preference.preferredPath
  adaptationGeneration :
    record'.preference.adaptationGeneration = record.preference.adaptationGeneration
  transitionGeneration :
    record'.preference.transitionGeneration = record.preference.transitionGeneration
  stable : record'.stable = record.stable

namespace Frozen

variable {record record' record'' : PolicyRecord}

theorem of_kept (hpolicy : record'.policy = record.policy)
    (hpreference : record'.preference = record.preference) (hstable : record'.stable = record.stable) :
    Frozen record record' := by
  constructor <;> simp only [hpolicy, hpreference, hstable]

theorem refl (record : PolicyRecord) : Frozen record record := of_kept rfl rfl rfl

theorem trans (h₁ : Frozen record record') (h₂ : Frozen record' record'') :
    Frozen record record'' where
  lifecycle := h₂.lifecycle.trans h₁.lifecycle
  scope := h₂.scope.trans h₁.scope
  semantics := h₂.semantics.trans h₁.semantics
  generation := h₂.generation.trans h₁.generation
  established := h₂.established.trans h₁.established
  preferredPath := h₂.preferredPath.trans h₁.preferredPath
  adaptationGeneration := h₂.adaptationGeneration.trans h₁.adaptationGeneration
  transitionGeneration := h₂.transitionGeneration.trans h₁.transitionGeneration
  stable := h₂.stable.trans h₁.stable

theorem terminal (h : Frozen record record') (hterminal : record.policy.lifecycle.terminal = true) :
    record'.policy.lifecycle.terminal = true := by
  rw [h.lifecycle]
  exact hterminal

end Frozen

/-! ## One operation -/

section
variable {config : EngineConfig} {e e' : Engine} {op : Op} {answer : Answer}
  {policy : AdaptivePolicyId} {record record' : PolicyRecord}

/-- The record of a terminal policy is frozen. -/
theorem RecordChange.frozen (h : RecordChange config e op policy record record')
    (hterminal : record.policy.lifecycle.terminal = true) : Frozen record record' := by
  have hpolicy := h.terminal hterminal
  have hactive (hactive : record.policy.lifecycle = .active) : Frozen record record' := by
    rw [hactive] at hterminal
    cases hterminal
  cases h with
  | kept => exact .refl record
  | rewritten rewrites =>
    cases rewrites with
    | updated checks =>
      obtain ⟨_, haccepted⟩ := State.updateChecks_ok checks
      rw [haccepted.live] at hterminal
      cases hterminal
    | committed _ checks =>
      obtain ⟨_, haccepted⟩ := State.commitChecks_ok checks
      exact hactive haccepted.active
    | restored checks =>
      obtain ⟨_, haccepted⟩ := State.rollbackChecks_ok checks
      exact hactive haccepted.active
    | held | moved | revoked | suppressed => exact .of_kept hpolicy rfl rfl
  | advanced => exact .of_kept hpolicy rfl rfl
  | notified _ _ _ frame =>
    exact .of_kept hpolicy (PolicyRecord.preference_of_frame frame)
      (PolicyRecord.stable_of_frame frame)

/-- An operation that recovers no store freezes a terminal policy. -/
theorem step_frozen (h : e.step config op = some (e', answer))
    (hop : op.recovers config.limits = none) (hrecord : e.state.policies[policy]? = some record)
    (hterminal : record.policy.lifecycle.terminal = true) :
    ∃ record', e'.state.policies[policy]? = some record' ∧ Frozen record record' := by
  obtain ⟨record', hrecord', hchange⟩ := step_record h hop hrecord
  exact ⟨record', hrecord', hchange.frozen hterminal⟩

/-- A commit or a rollback changes the preference of an active policy only. -/
theorem step_adapts_active (h : e.step config op = some (e', answer))
    (hop : op.adaptsAt.isSome = true) (hrecord : e.state.policies[policy]? = some record)
    (hrecord' : e'.state.policies[policy]? = some record')
    (hne : record'.preference ≠ record.preference) : record.policy.lifecycle = .active := by
  have hrecovers : op.recovers config.limits = none := by
    cases op <;> first | rfl | cases hop
  obtain ⟨after, hafter, hchange⟩ := step_record h hrecovers hrecord
  rw [hrecord'] at hafter
  cases hafter
  cases hchange with
  | kept => exact absurd rfl hne
  | rewritten rewrites =>
    cases rewrites with
    | committed _ checks =>
      obtain ⟨_, haccepted⟩ := State.commitChecks_ok checks
      exact haccepted.active
    | restored checks =>
      obtain ⟨_, haccepted⟩ := State.rollbackChecks_ok checks
      exact haccepted.active
    | updated => cases hop
    | held | moved | revoked | suppressed => exact absurd rfl hne
  | advanced => exact absurd rfl hne
  | notified _ _ _ frame => exact absurd (PolicyRecord.preference_of_frame frame) hne

end

/-! ## Engines that go on from a state -/

/-- The engines that go on from an engine: those its steps lead to, and those that recover a store
which such an engine wrote, wherever they run. -/
inductive Onward (config₀ : EngineConfig) (e₀ : Engine) : EngineConfig → Engine → Prop
  | here : Onward config₀ e₀ config₀ e₀
  | step {config : EngineConfig} {e e' : Engine} {op : Op} {answer : Answer}
      (onward : Onward config₀ e₀ config e) (recovers : op.recovers config.limits = none)
      (steps : e.step config op = some (e', answer)) : Onward config₀ e₀ config e'
  | recover {config writing : EngineConfig} {e e' writer : Engine} {op : Op} {answer : Answer}
      {saved : Ticks} (reachable : Reachable config e) (written : Onward config₀ e₀ writing writer)
      (recovers : op.recovers config.limits = some (writer.state.buildDurable saved).stored)
      (steps : e.step config op = some (e', answer)) : Onward config₀ e₀ config e'

section
variable {config config₀ : EngineConfig} {e e₀ : Engine} {policy : AdaptivePolicyId}
  {record : PolicyRecord}

theorem Onward.reachable (h : Onward config₀ e₀ config e) (h₀ : Reachable config₀ e₀) :
    Reachable config e := by
  induction h with
  | here => exact h₀
  | step _ _ steps ih =>
    obtain ⟨nonce, hrun⟩ := ih
    exact ⟨nonce, hrun.tail trivial steps⟩
  | recover reachable _ _ steps =>
    obtain ⟨nonce, hrun⟩ := reachable
    exact ⟨nonce, hrun.tail trivial steps⟩

/-- The stored record of a terminal policy comes back frozen. -/
theorem restoredRecord_frozen (config : EngineConfig) (saved now : Ticks)
    (revocation : Option RevocationRecord) (policy : AdaptivePolicyId)
    (hterminal : record.policy.lifecycle.terminal = true) :
    Frozen record (restoredRecord config saved now revocation policy record) := by
  have hpolicy : (restoredRecord config saved now revocation policy record).policy = record.policy :=
    recoveredRecord_terminal hterminal
  constructor <;> first | rw [hpolicy] | rfl

theorem Onward.frozen (h : Onward config₀ e₀ config e) (h₀ : Reachable config₀ e₀)
    (hrecord : e₀.state.policies[policy]? = some record)
    (hterminal : record.policy.lifecycle.terminal = true) :
    ∃ record', e.state.policies[policy]? = some record' ∧ Frozen record record' := by
  induction h with
  | here => exact ⟨record, hrecord, .refl record⟩
  | step _ recovers steps ih =>
    obtain ⟨before, hbefore, hfrozen⟩ := ih
    obtain ⟨after, hafter, hnext⟩ := step_frozen steps recovers hbefore (hfrozen.terminal hterminal)
    exact ⟨after, hafter, hfrozen.trans hnext⟩
  | @recover config writing e e' writer op answer saved _ written recovers steps ih =>
    obtain ⟨stored, hstored, hfrozen⟩ := ih
    have hwriter := written.reachable h₀
    obtain ⟨now, epoch, authority, -, -, hstate⟩ := step_recovered steps recovers
    rw [hstate, recovered_policies config saved now epoch authority (Keyed.reachable hwriter)
      (Filed.reachable hwriter), hstored]
    exact ⟨_, rfl, hfrozen.trans
      (restoredRecord_frozen config saved now _ policy (hfrozen.terminal hterminal))⟩

end

/-- Once a policy is revoked, superseded or retired, every engine that goes on from there holds it as
it was, through any operation and the recovery of any store saved since; and a commit or a rollback
changes a preference only where the policy is active. -/
theorem only_active_policies_change :
    (∀ (config₀ config : EngineConfig) (e₀ e : Engine) (policy : AdaptivePolicyId)
        (record : PolicyRecord), Reachable config₀ e₀ →
      e₀.state.policies[policy]? = some record → record.policy.lifecycle.terminal = true →
      Onward config₀ e₀ config e →
      ∃ record', e.state.policies[policy]? = some record' ∧ Frozen record record') ∧
    (∀ (config : EngineConfig) (e e' : Engine) (op : Op) (answer : Answer)
        (policy : AdaptivePolicyId) (record record' : PolicyRecord), Reachable config e →
      op.adaptsAt.isSome = true → e.step config op = some (e', answer) →
      e.state.policies[policy]? = some record → e'.state.policies[policy]? = some record' →
      record'.preference ≠ record.preference → record.policy.lifecycle = .active) :=
  ⟨fun _ _ _ _ _ _ h₀ hrecord hterminal honward => honward.frozen h₀ hrecord hterminal,
    fun _ _ _ _ _ _ _ _ _ hop hstep hrecord hrecord' hne =>
      step_adapts_active hstep hop hrecord hrecord' hne⟩

open Scenario in
/-- A policy that prefers the left path is retired, the epoch advances, and the store is loaded into a
new engine: the policy is still retired, and prefers the left path. -/
theorem retired_policy_stays :
    let retire : Op := .transitionPolicy { policy, event := .retire, context := context 1 "retire" }
    let retired : List Op := Scenario.settled ++ [retire]
    let recover : Op := .decodeStore 9 (.ok ((after (retired ++ [.advanceEpoch []])).state.buildDurable
      9).stored) []
    (∃ record record', (after retired).state.policies[policy]? = some record ∧
      record.policy.lifecycle = .retired ∧ record.preference.preferredPath = left ∧
      (after [recover]).state.policies[policy]? = some record' ∧ Frozen record record') ∧
    ∃ before after', (after challenged).state.policies[policy]? = some before ∧
      (after (challenged ++ [.evaluate 3 3 (evaluation "switch")])).state.policies[policy]? =
        some after' ∧
      after'.preference ≠ before.preference ∧ before.policy.lifecycle = .active := by
  intro retire retired recover
  have hretired : ((after retired).state.policies[policy]?).map
      (fun record => (record.policy.lifecycle, record.preference.preferredPath)) =
        some (.retired, left) := by decide +kernel
  obtain ⟨record, hrecord, hfacts⟩ := Option.map_eq_some_iff.1 hretired
  obtain ⟨hlifecycle, hpath⟩ := Prod.mk.inj hfacts
  obtain ⟨_, hadvance⟩ := step_after retired (.advanceEpoch []) (by decide +kernel)
  obtain ⟨_, hrecover⟩ := step_after [] recover (by decide +kernel)
  have hadmissible : ((after (retired ++ [.advanceEpoch []])).state.buildDurable 9).stored.admissible
      config.limits = true := by decide +kernel
  have hrecovers : recover.recovers config.limits =
      some ((after (retired ++ [.advanceEpoch []])).state.buildDurable 9).stored := by
    simp only [recover, Op.recovers, hadmissible, if_true]
  have honward : Onward config (after retired) config (after [recover]) :=
    .recover (reachable_after (by decide +kernel)) (.step .here rfl hadvance) hrecovers hrecover
  obtain ⟨record', hrecord', hfrozen⟩ := only_active_policies_change.1 _ _ _ _ policy record
    (reachable_after (by decide +kernel)) hrecord (by rw [hlifecycle]; rfl) honward
  obtain ⟨_, hswitch⟩ := step_after challenged (.evaluate 3 3 (evaluation "switch"))
    (by decide +kernel)
  have hprefers {ops : List Op} {path : PathId}
      (h : ((after ops).state.policies[policy]?).map (·.preference.preferredPath) = some path) :
      ∃ record, (after ops).state.policies[policy]? = some record ∧
        record.preference.preferredPath = path := Option.map_eq_some_iff.1 h
  obtain ⟨before, hbefore, hleft⟩ := @hprefers challenged left (by decide +kernel)
  obtain ⟨after', hafter, hright⟩ :=
    @hprefers (challenged ++ [.evaluate 3 3 (evaluation "switch")]) right (by decide +kernel)
  have hne : after'.preference ≠ before.preference := by
    intro heq
    rw [heq, hleft] at hright
    revert hright
    decide +kernel
  exact ⟨⟨record, record', hrecord, hlifecycle, hpath, hrecord', hfrozen⟩,
    before, after', hbefore, hafter, hne,
    only_active_policies_change.2 _ _ _ _ _ policy before after' (reachable_after (by decide +kernel))
      rfl hswitch hbefore hafter hne⟩

end AdaptiveRouting
