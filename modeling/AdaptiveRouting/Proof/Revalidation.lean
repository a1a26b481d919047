import AdaptiveRouting.Proof.Records
import AdaptiveRouting.Proof.Scenario

/-!
# Revalidation

A policy that must be revalidated is not active, and no operation makes it active but a `REVALIDATE`
that finds a candidate evaluation would accept upstream, a `SUSPEND` followed by a `RESUME`, a
`REVALIDATE` that finds only candidates outside the target set, and a recovery that is not
conservative. `Withheld` is the invariant: the lifecycle is `REVALIDATION_REQUIRED` or terminal.
-/

namespace AdaptiveRouting

open Guard Engine

/-! ## Withheld policies -/

/-- The lifecycle is `REVALIDATION_REQUIRED`, or terminal. -/
def PolicyLifecycle.withheld (lifecycle : PolicyLifecycle) : Bool :=
  lifecycle == .revalidationRequired || lifecycle.terminal

/-- The policy is out of service until it is revalidated. -/
def Withheld (policy : AdaptivePolicyId) (s : State) : Prop :=
  ∀ record, s.policies[policy]? = some record → record.policy.lifecycle.withheld = true

/-- Some candidate is one evaluation accepts upstream: legal, on a current route, available, and
for a multipath target a member of its current set. -/
def PolicyRecord.serviceable (r : PolicyRecord) : Bool :=
  r.candidates.any fun candidate =>
    (upstreamRejection r.policy.semantics.target candidate.binding).isNone

/-- A successful `REVALIDATE` of the policy, executed with a serviceable candidate. -/
def Revalidates (policy : AdaptivePolicyId) (e : Engine) (op : Op) : Prop :=
  ∃ request record, op.transition = some request ∧ request.policy = policy ∧
    e.state.transitionChecks request = .ok (record, .active) ∧ request.event = .revalidate ∧
    record.serviceable = true

/-- What keeps a withheld policy withheld: it is not suspended; a `REVALIDATE` that finds a usable
candidate finds one of the target set; a recovered store is recovered conservatively, or holds no
policy of this identity in service; and no policy is created under its identity. -/
structure Withholds (config : EngineConfig) (policy : AdaptivePolicyId) (e : Engine) (op : Op) :
    Prop where
  suspend : ∀ request record, op.transition = some request → request.policy = policy →
    e.state.transitionChecks request ≠ .ok (record, .suspended)
  membership : ∀ request record, op.transition = some request → request.policy = policy →
    request.event = .revalidate → e.state.transitionChecks request = .ok (record, .active) →
    record.candidates.any (·.usable) = true → record.serviceable = true
  recovery : ∀ durable, op.recovers config.limits = some durable →
    config.conservativeRecovery = true ∨
      ∀ source ∈ durable.policies, source.id = policy → source.lifecycle.withheld = true
  identity : ∀ now request ids, op = .createPolicy now request →
    e.ids.mint .policy = some (policy, ids) → policy ∈ e.state.policies

theorem recoveredRecord_withheld {conservative : Bool} {source : AdaptivePolicy}
    (h : conservative = true ∨ source.lifecycle.withheld = true) :
    (State.recoveredRecord conservative source).policy.lifecycle.withheld = true := by
  unfold State.recoveredRecord
  dsimp only
  split
  · rfl
  · rename_i hkept
    rcases h with rfl | h
    · have hterminal : source.lifecycle.terminal = true := by simpa using hkept
      simp [PolicyLifecycle.withheld, hterminal]
    · exact h

section
variable {config : EngineConfig} {e e' : Engine} {op : Op} {answer : Answer}
  {policy : AdaptivePolicyId}

/-- The record written over a withheld one is withheld. -/
theorem Rewrites.withheld {record record' : PolicyRecord}
    (h : Rewrites config.limits e op policy record record')
    (hrecord : record.policy.lifecycle.withheld = true) (hop : Withholds config policy e op)
    (hearned : ¬ Revalidates policy e op) : record'.policy.lifecycle.withheld = true := by
  cases h with
  | updated checks =>
    unfold State.updatedRecord
    dsimp only
    split <;> exact hrecord
  | held => rfl
  | @moved _ request record next requests checks usable =>
    obtain ⟨_, haccepted⟩ := State.transitionChecks_ok checks
    have hnext := haccepted.next
    have hsuspend := hop.suspend request record requests rfl
    have hactive : next ≠ .active := by
      rintro rfl
      rcases applyPolicyEvent_active hnext with ⟨hl, -⟩ | ⟨hl, -⟩ | ⟨-, hevent⟩
      · simp [hl, PolicyLifecycle.withheld, PolicyLifecycle.terminal] at hrecord
      · simp [hl, PolicyLifecycle.withheld, PolicyLifecycle.terminal] at hrecord
      · exact hearned ⟨request, record, requests, rfl, checks, hevent,
          hop.membership request record requests rfl hevent checks (usable hevent)⟩
    revert hnext hrecord
    generalize record.policy.lifecycle = lifecycle
    intro hrecord hnext
    cases next with
    | active => exact absurd rfl hactive
    | suspended => exact absurd checks hsuspend
    | declared => cases lifecycle <;> cases hev : request.event <;> simp_all [applyPolicyEvent]
    | _ => rfl
  | revoked => rfl
  | suppressed => exact hrecord
  | committed => exact hrecord
  | restored => exact hrecord

/-- A withheld policy stays withheld through every operation that does not earn its
revalidation. -/
theorem Withheld.step (hw : Withheld policy e.state) (hop : Withholds config policy e op)
    (hearned : ¬ Revalidates policy e op) (h : e.step config op = some (e', answer)) :
    Withheld policy e'.state := by
  intro record hrecord
  have hchange := step_policies h
  generalize e'.state.policies = policies at hchange hrecord
  cases hchange with
  | kept => exact hw record hrecord
  | @rewritten subject before after found rewrites =>
    by_cases hsubject : subject = policy
    · subst hsubject
      rw [Std.ExtTreeMap.getElem?_insert_self] at hrecord
      cases hrecord
      exact rewrites.withheld (hw before found) hop hearned
    · rw [get_insert_ne hsubject] at hrecord
      exact hw record hrecord
  | @created now request fingerprint id ids creates checks mints =>
    rw [Std.ExtTreeMap.getElem?_insertIfNew] at hrecord
    split at hrecord
    · rename_i hfresh
      obtain rfl : id = policy := Std.LawfulEqCmp.eq_of_compare hfresh.1
      exact absurd (hop.identity now request ids creates mints) hfresh.2
    · exact hw record hrecord
  | advanced =>
    rw [Std.ExtTreeMap.getElem?_map, Option.map_eq_some_iff] at hrecord
    obtain ⟨before, hbefore, rfl⟩ := hrecord
    unfold State.requireRevalidation
    dsimp only
    split
    · exact hw before hbefore
    · rfl
  | @notified request =>
    have hframe := State.applyNotifications_frame config.limits request.context e.state
      request.notifications policy
    rw [hrecord, Option.map_some, eq_comm, Option.map_eq_some_iff] at hframe
    obtain ⟨before, hbefore, hsame⟩ := hframe
    rw [← PolicyRecord.policy_of_frame hsame]
    exact hw before hbefore
  | @recovered now durable origin epoch authority decodes admissible next =>
    obtain ⟨source, hsource, hid, hpolicy, -⟩ :=
      recoveredState_from config now durable epoch authority policy record hrecord
    rw [hpolicy]
    refine recoveredRecord_withheld ?_
    rcases hop.recovery durable (by simp [decodes, Op.recovers, admissible]) with hc | hstored
    · exact .inl hc
    · exact .inr (hstored source hsource hid)

end

/-- Revalidation is earned: once a policy must be revalidated, it is not active again in any run
whose steps withhold it until a successful `REVALIDATE` executed with a serviceable candidate. -/
theorem revalidation_is_earned {config : EngineConfig} {policy : AdaptivePolicyId} {e e' : Engine}
    {record : PolicyRecord} (hrecord : e.state.policies[policy]? = some record)
    (hrequired : record.policy.lifecycle = .revalidationRequired)
    (hrun : RunUnder config
      (fun e op => Withholds config policy e op ∧ ¬ Revalidates policy e op) e e') :
    ∀ record', e'.state.policies[policy]? = some record' → record'.policy.lifecycle ≠ .active := by
  have hw : Withheld policy e'.state :=
    hrun.inv (I := fun e => Withheld policy e.state)
      (fun _ _ _ _ hop hw hstep => hw.step hop.1 hop.2 hstep)
      (fun found hfound => by
        rw [hrecord] at hfound
        cases hfound
        simp [hrequired, PolicyLifecycle.withheld])
  intro record' hrecord' hactive
  have := hw record' hrecord'
  simp [hactive, PolicyLifecycle.withheld, PolicyLifecycle.terminal] at this

namespace Scenario

/-- The policy is active, and must be revalidated in the next epoch. -/
def required : List Op :=
  [register, .createPolicy 0 (create 1), activate, .advanceEpoch [], registerNext]

def suspend : Op := .transitionPolicy { policy, event := .suspend, context := nextContext 2 "suspend" }

def resume : Op := .transitionPolicy { policy, event := .resume, context := nextContext 2 "resume" }

end Scenario

open Scenario in
/-- Another epoch does not put the policy back into service. -/
theorem next_epoch_keeps_withheld :
    lifecycleAfter (required ++ [.advanceEpoch []]) ≠ some .active := by
  intro hactive
  obtain ⟨record', hrecord', hactive⟩ := Option.map_eq_some_iff.1 hactive
  have hrequired : lifecycleAfter required = some .revalidationRequired := by decide +kernel
  obtain ⟨record, hrecord, hlifecycle⟩ := Option.map_eq_some_iff.1 hrequired
  obtain ⟨_, hstep⟩ := step_after required (.advanceEpoch []) (by decide +kernel)
  have hop : Withholds config policy (after required) (.advanceEpoch []) :=
    { suspend := fun _ _ h => by cases h
      membership := fun _ _ h => by cases h
      recovery := fun _ h => by cases h
      identity := fun _ _ _ h => by cases h }
  have hearned : ¬ Revalidates policy (after required) (.advanceEpoch []) := by
    rintro ⟨_, _, h, -⟩
    cases h
  exact revalidation_is_earned hrecord hlifecycle (.single ⟨hop, hearned⟩ hstep) record' hrecord'
    hactive

open Scenario in
/-- A `SUSPEND` and a `RESUME` put a policy that must be revalidated into service, although it has no
candidate at all. -/
theorem suspend_resume_bypasses_revalidation :
    Engine.Reachable config (after required) ∧
      lifecycleAfter required = some .revalidationRequired ∧
      Engine.Run config (after required) (after (required ++ [suspend, resume])) ∧
      lifecycleAfter (required ++ [suspend, resume]) = some .active ∧
      ((after (required ++ [suspend, resume])).state.policies[policy]?).any (·.serviceable) = false :=
  ⟨reachable_after (by decide +kernel), by decide +kernel,
    run_after required [suspend, resume] (by decide +kernel), by decide +kernel, by decide +kernel⟩

end AdaptiveRouting
