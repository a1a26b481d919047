import AdaptiveRouting.Proof.Attempts
import AdaptiveRouting.Proof.Decay

/-!
# The rollback anchor

The preference of a policy and the anchor it would be rolled back to are two records, written by
commits, rollbacks, updates of the target and recoveries. They stay in lockstep
(`Hosted.lockstep`): the anchor is there when the preference displaced another one, and is that
one. A rollback swaps the two, so another one swaps them back (`lockstep_kept`).
-/

namespace AdaptiveRouting

open Engine Guard

/-- The adaptation and the transition generation of the preference are one number, and the anchor is
the preference it displaced. -/
structure PolicyRecord.Lockstep (record : PolicyRecord) : Prop where
  generations : record.preference.adaptationGeneration.value =
    record.preference.transitionGeneration.value
  previous : record.preference.previousPath.valid = true ↔ record.stable.established = true
  path : record.stable.established = true → record.stable.path = record.preference.previousPath
  other : record.stable.established = true →
    record.stable.path ≠ record.preference.preferredPath
  established : record.stable.established = true → record.preference.established = true
  earlier : record.stable.established = true →
    record.stable.adaptationGeneration < record.preference.adaptationGeneration

/-- A preference that is there names a path. -/
def PolicyRecord.Settled (record : PolicyRecord) : Prop :=
  record.preference.established = true → record.preference.preferredPath.valid = true

theorem next_value_eq {a : AdaptationGeneration} {b : TransitionGeneration} {a' : AdaptationGeneration}
    {b' : TransitionGeneration} (h : a.value = b.value) (ha : a.next = some a')
    (hb : b.next = some b') : a'.value = b'.value := by
  have ha := Generation.next_toNat ha
  have hb := Generation.next_toNat hb
  apply UInt64.toNat_inj.1
  rw [ha, hb, h]

section
variable {config : EngineConfig} {e e' : Engine} {op : Op} {policy : AdaptivePolicyId}
  {record record' : PolicyRecord}

theorem PolicyRecord.Lockstep.of_same (h : record.Lockstep)
    (hpreference : record'.preference = record.preference) (hstable : record'.stable = record.stable) :
    record'.Lockstep := by
  constructor
  all_goals rw [hpreference]
  all_goals try rw [hstable]
  · exact h.generations
  · exact h.previous
  · exact h.path
  · exact h.other
  · exact h.established
  · exact h.earlier

theorem PolicyRecord.lockstep_fresh {target : PolicyTarget}
    (hpreference : record.preference = freshPreference target) (hstable : record.stable = {}) :
    record.Lockstep := by
  constructor
  all_goals rw [hpreference]
  all_goals try rw [hstable]
  · rfl
  · exact ⟨fun h => (by cases h), fun h => (by cases h)⟩
  all_goals intro h; cases h

theorem PolicyRecord.Sane.findCandidate (hsane : record.Sane) {path : PathId}
    {target : CandidateRecord} (h : record.findCandidate path = some target) :
    target.binding.path = path ∧ path.valid = true := by
  have hpath := findCandidate_path h
  refine ⟨hpath, hsane.paths path ?_⟩
  exact List.mem_map.2 ⟨target, findCandidate_mem h, hpath⟩

/-- An update keeps the preference and its anchor, or discards both. -/
theorem State.updatedRecord_lockstep {s : State} {now : Ticks} {request : UpdatePolicyRequest}
    {generation : AdaptivePolicyGeneration} (hr : record.Lockstep ∧ record.Settled) :
    (s.updatedRecord now request generation record).Lockstep ∧
      (s.updatedRecord now request generation record).Settled := by
  unfold State.updatedRecord
  dsimp only
  split
  · exact ⟨hr.1.of_same rfl rfl, hr.2⟩
  · refine ⟨PolicyRecord.lockstep_fresh rfl rfl, fun h => ?_⟩
    cases h

theorem State.committedRecord_lockstep {s : State} {limits : Limits} {now : Ticks}
    {ticket : EvaluationTicket} {context : MutationContext} {target : CandidateRecord}
    {adaptation : AdaptationGeneration} {transitionGeneration : TransitionGeneration}
    {transition : TransitionPlanId} {id : AdaptationDecisionId} {decision : AdaptationDecision}
    (hsane : record.Sane) (hr : record.Lockstep ∧ record.Settled)
    (other : alreadyCurrent record ticket = false)
    (verified : s.verifyCommit limits now record ticket =
      .ok (target, adaptation, transitionGeneration)) :
    (State.committedRecord limits now record (s.committedPreference now record ticket context target
        adaptation transitionGeneration transition id) decision).Lockstep ∧
      (State.committedRecord limits now record (s.committedPreference now record ticket context target
        adaptation transitionGeneration transition id) decision).Settled := by
  obtain ⟨hfound, hadaptation, htransition⟩ := State.verifyCommit_ok verified
  obtain ⟨hpath, hvalid⟩ := hsane.findCandidate hfound
  have hlater := Generation.lt_next hadaptation
  refine ⟨?_, fun _ => ?_⟩
  · unfold State.committedRecord State.committedPreference
    cases hestablished : record.preference.established with
    | false =>
      constructor
      all_goals simp only [PolicyRecord.remember]
      · exact next_value_eq hr.1.generations hadaptation htransition
      · exact ⟨fun h => (by cases h), fun h => (by cases h)⟩
      all_goals intro h; cases h
    | true =>
      constructor
      all_goals simp only [PolicyRecord.remember, if_true, anchor]
      · exact next_value_eq hr.1.generations hadaptation htransition
      · exact ⟨fun _ => trivial, fun _ => hr.2 hestablished⟩
      · exact fun _ => trivial
      · intro _ hsame
        rw [alreadyCurrent, hestablished, Bool.true_and, hsame, hpath, beq_self_eq_true] at other
        cases other
      · exact fun _ => trivial
      · exact fun _ => hlater
  · show target.binding.path.valid = true
    rw [hpath]
    exact hvalid

/-- A rollback swaps the preference and its anchor. -/
theorem State.rolledBackRecord_lockstep {limits : Limits} {now : Ticks} {target : CandidateRecord}
    {adaptation : AdaptationGeneration} {transitionGeneration : TransitionGeneration}
    {transition : TransitionPlanId} {decision : AdaptationDecision}
    (hr : record.Lockstep ∧ record.Settled)
    (verified : State.verifyRollback record = .ok (target, adaptation, transitionGeneration))
    (hadaptation : decision.adaptationGeneration = adaptation)
    (htransition : decision.transitionGeneration = transitionGeneration) :
    (State.rolledBackRecord limits now record target decision transition).Lockstep ∧
      (State.rolledBackRecord limits now record target decision transition).Settled := by
  obtain ⟨hstable, -, hnext, htransitions⟩ := State.verifyRollback_ok verified
  have hestablished := hr.1.established hstable
  have hback : record.stable.path.valid = true := by
    rw [hr.1.path hstable]
    exact hr.1.previous.2 hstable
  have hlater := Generation.lt_next hnext
  refine ⟨?_, fun _ => hback⟩
  unfold State.rolledBackRecord
  constructor
  all_goals simp only [PolicyRecord.remember, anchor, hadaptation, htransition]
  · exact next_value_eq hr.1.generations hnext htransitions
  · exact ⟨fun _ => trivial, fun _ => hr.2 hestablished⟩
  · exact fun _ => trivial
  · exact fun _ hsame => hr.1.other hstable hsame.symm
  · exact fun _ => hestablished
  · exact fun _ => hlater

theorem Rewrites.lockstep {limits : Limits} (h : Rewrites limits e op policy record record')
    (hsane : Everywhere (fun _ record => record.Sane) e.state)
    (hr : record.Lockstep ∧ record.Settled) : record'.Lockstep ∧ record'.Settled := by
  cases h with
  | updated => exact State.updatedRecord_lockstep hr
  | held | moved | revoked | suppressed => exact ⟨hr.1.of_same rfl rfl, hr.2⟩
  | committed _ checks _ other verified installs =>
    subst installs
    obtain ⟨_, haccepted⟩ := State.commitChecks_ok checks
    exact State.committedRecord_lockstep (hsane _ _ haccepted.found) hr other verified
  | restored _ verified decides =>
    subst decides
    exact State.rolledBackRecord_lockstep hr verified rfl rfl

end

/-- The preference of every policy and its anchor are in lockstep, in every engine of a deployment. -/
theorem Hosted.lockstep {ok : EngineConfig → Engine → Op → Prop} {config : EngineConfig} {e : Engine}
    (h : Hosted ok config e) :
    Everywhere (fun _ record => record.Lockstep ∧ record.Settled) e.state := by
  refine h.everywhere (P := fun record => record.Lockstep ∧ record.Settled)
    (fun _ _ _ _ _ hosted recovers steps hs => ?_) fun _ _ _ _ _ _ hr => ?_
  · refine hs.step ?_ steps
    exact
      { rewrites := fun _ _ _ hrewrites hr => hrewrites.lockstep hosted.sane hr
        creates := fun _ _ _ _ _ => ⟨PolicyRecord.lockstep_fresh rfl rfl, fun h => (by cases h)⟩
        advances := fun _ _ hr => ⟨hr.1.of_same rfl rfl, hr.2⟩
        amends := fun _ _ _ record record' _ hamends hr => by
          have hpreference := congrArg PolicyRecord.preference hamends.frame
          have hstable := congrArg PolicyRecord.stable hamends.frame
          refine ⟨hr.1.of_same hpreference hstable, ?_⟩
          unfold PolicyRecord.Settled
          change record'.preference = record.preference at hpreference
          rw [hpreference]
          exact hr.2
        recovers := fun _ _ _ _ hrecovers => by
          rw [recovers] at hrecovers
          cases hrecovers }
  · obtain ⟨hlockstep, hsettled⟩ := hr
    exact ⟨⟨hlockstep.generations, hlockstep.previous, hlockstep.path, hlockstep.other,
      hlockstep.established, hlockstep.earlier⟩, hsettled⟩

/-! ## Rollbacks -/

theorem State.verifyRollback_refused {record : PolicyRecord} {refusal : State.RollbackRefusal}
    (h : State.verifyRollback record = .error refusal) : refusal.outcome ≠ .decisionCommitted := by
  unfold verifyRollback at h
  revert h
  have hguard {c : Bool} {refusal : RollbackRefusal} (ho : refusal.outcome ≠ .decisionCommitted) :
      Refuses (fun refusal => refusal.outcome ≠ .decisionCommitted) (refuseIf c refusal) := .guard ho
  refine Refuses.bind (hguard (by simp)) (fun _ => ?_) refusal
  refine .bind (.found (by simp)) fun target => ?_
  refine .bind (hguard (by simp)) fun _ => .bind (hguard (by simp)) fun _ => ?_
  refine .bind (hguard (by simp)) fun _ => .bind (hguard (by simp)) fun _ => ?_
  refine .bind (hguard (by simp)) fun _ => .bind (.found (by simp)) fun _ => ?_
  exact .bind (.found (by simp)) fun _ => .ok _

/-- The preference and the anchor a successful rollback leaves. -/
theorem rollback_swaps {config : EngineConfig} {e e' : Engine} {now : Ticks}
    {request : RollbackRequest} {result : OperationResult}
    (h : e.step config (.rollback now request) = some (e', .result result))
    (hcommitted : result.outcome = .decisionCommitted) :
    ∃ record record', e.state.policies[request.policy]? = some record ∧
      e'.state.policies[request.policy]? = some record' ∧ record.stable.established = true ∧
      record'.preference.preferredPath = record.stable.path ∧
      record'.stable.path = record.preference.preferredPath := by
  obtain ⟨⟨e₁, answer⟩, hrollback, he⟩ := Option.map_eq_some_iff.1 h
  cases he
  have heffect := rollback_cases hrollback
  rw [hcommitted] at heffect
  change ∃ record record', _ ∧ e₁.state.policies[request.policy]? = some record' ∧ _
  generalize e₁.state = s' at heffect ⊢
  generalize houtcome : Outcome.decisionCommitted = outcome at heffect
  cases heffect with
  | refused checks =>
    have hreplayed := e.state.rollbackChecks_replayed request _ checks
    exact absurd houtcome.symm (hreplayed.outcome_ne rfl (by simp))
  | declined _ verified => exact absurd houtcome.symm (State.verifyRollback_refused verified)
  | recorded _ verified => exact absurd houtcome.symm (State.verifyRollback_refused verified)
  | @restored record target adaptation transitionGeneration transition id decision checks verified =>
    obtain ⟨_, haccepted⟩ := State.rollbackChecks_ok checks
    exact ⟨record, _, haccepted.found, State.decided_get .., (State.verifyRollback_ok verified).1,
      rfl, rfl⟩

/-- In every engine of a deployment each preference is in lockstep with its anchor, and two rollbacks
in a row restore both paths. -/
theorem lockstep_kept {config : EngineConfig} {e : Engine} (h : Hosted (fun _ _ _ => True) config e) :
    Everywhere (fun _ record => record.Lockstep) e.state ∧
      ∀ e₁ e₂ now₁ now₂ request₁ request₂ result₁ result₂, request₁.policy = request₂.policy →
        e.step config (.rollback now₁ request₁) = some (e₁, .result result₁) →
        result₁.outcome = .decisionCommitted →
        e₁.step config (.rollback now₂ request₂) = some (e₂, .result result₂) →
        result₂.outcome = .decisionCommitted →
        ∃ record record', e.state.policies[request₁.policy]? = some record ∧
          e₂.state.policies[request₁.policy]? = some record' ∧
          record'.preference.preferredPath = record.preference.preferredPath ∧
          record'.stable.path = record.stable.path := by
  refine ⟨fun policy record hrecord => (h.lockstep policy record hrecord).1, ?_⟩
  intro e₁ e₂ now₁ now₂ request₁ request₂ result₁ result₂ hpolicy h₁ hcommitted₁ h₂ hcommitted₂
  obtain ⟨record, between, hrecord, hbetween, -, hpreferred₁, hanchor₁⟩ :=
    rollback_swaps h₁ hcommitted₁
  obtain ⟨before, after, hbefore, hafter, -, hpreferred₂, hanchor₂⟩ := rollback_swaps h₂ hcommitted₂
  rw [← hpolicy, hbetween] at hbefore
  cases hbefore
  rw [← hpolicy] at hafter
  refine ⟨record, after, hrecord, hafter, ?_, ?_⟩
  · rw [hpreferred₂, hanchor₁]
  · rw [hanchor₂, hpreferred₁]

namespace Scenario

def turn (attempt : String) : RollbackRequest := { policy, context := context 1 attempt }

/-- The policy that left the left path goes back to it, and leaves it again. -/
def turnedBack : List Op := swung ++ [.rollback 31 (turn "back")]

def turnedAgain : List Op := turnedBack ++ [.rollback 32 (turn "forth")]

/-- The policy leaves a path that is not available. -/
def fleeing : CreatePolicyRequest :=
  { create 1 with semantics := { semantics with
      emergency := { enabled := true, onCurrentPathUnavailable := true } } }

/-- The preferred left path has become unavailable. -/
def cutOff : List Op :=
  [register, .createPolicy 0 fleeing, activate, notify (declare left) "left",
    publish left 100 "left-evidence", .evaluate 2 2 (evaluation "establish"),
    notify (declare right) "right", publish right 150 "right-evidence",
    notify { declare left with event := .markUnavailable } "unavailable"]

end Scenario

open Scenario in
theorem turned_back_twice : ∃ record record',
    (after swung).state.policies[policy]? = some record ∧
    (after turnedAgain).state.policies[policy]? = some record' ∧ record.Lockstep ∧
    record'.preference.preferredPath = record.preference.preferredPath ∧
    record'.stable.path = record.stable.path := by
  obtain ⟨result₁, h₁, hcommitted₁⟩ := step_result
    (by decide +kernel : returns (swung ++ [.rollback 31 (turn "back")]) = true)
    (by decide +kernel : answers swung (.rollback 31 (turn "back"))
      (fun answer => answer.outcome == some .decisionCommitted) = true)
  obtain ⟨result₂, h₂, hcommitted₂⟩ := step_result
    (by decide +kernel : returns (turnedBack ++ [.rollback 32 (turn "forth")]) = true)
    (by decide +kernel : answers turnedBack (.rollback 32 (turn "forth"))
      (fun answer => answer.outcome == some .decisionCommitted) = true)
  obtain ⟨hlockstep, htwice⟩ := lockstep_kept swung_hosted
  obtain ⟨record, record', hrecord, hrecord', hpreferred, hanchor⟩ :=
    htwice (after turnedBack) (after turnedAgain) 31 32 (turn "back") (turn "forth") result₁ result₂
      rfl h₁ hcommitted₁ h₂ hcommitted₂
  exact ⟨record, record', hrecord, hrecord', hlockstep policy record hrecord, hpreferred, hanchor⟩

end AdaptiveRouting
