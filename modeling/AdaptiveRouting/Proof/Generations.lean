import AdaptiveRouting.Proof.Scenario
import AdaptiveRouting.Proof.Timing

/-!
# Generations of a policy

Without a recovery, the generation of a policy never falls, and its adaptation and transition
generations move together: they take their successors in the steps that replace the preferred path,
start over when an update changes the target, and stay otherwise (`Generational`).
-/

namespace AdaptiveRouting

open Engine

/-- The path a policy prefers, once it has adapted. -/
def PolicyRecord.preferred (record : PolicyRecord) : Option PathId :=
  if record.preference.established then some record.preference.preferredPath else none

/-- What a step makes of the adaptation and the transition generation of a policy. -/
inductive Generational (op : Op) (answer : Answer) (policy : AdaptivePolicyId)
    (record record' : PolicyRecord) : Prop
  | retargeted {now : Ticks} {request : UpdatePolicyRequest} (updates : op = .updatePolicy now request)
      (subject : request.policy = policy)
      (target : request.update.semantics.target ≠ record.policy.semantics.target)
      (discards : record'.preference = freshPreference request.update.semantics.target)
  | kept (path : record'.preferred = record.preferred)
      (adaptation : record'.preference.adaptationGeneration = record.preference.adaptationGeneration)
      (transition : record'.preference.transitionGeneration = record.preference.transitionGeneration)
  | replaced (path : record'.preferred ≠ record.preferred)
      (adaptation : record.preference.adaptationGeneration.next =
        some record'.preference.adaptationGeneration)
      (transition : record.preference.transitionGeneration.next =
        some record'.preference.transitionGeneration)
      (adapts : op.adaptsAt.isSome = true) (answers : answer.outcome = some .decisionCommitted)

theorem Generational.of_preference {op : Op} {answer : Answer} {policy : AdaptivePolicyId}
    {record record' : PolicyRecord} (h : record'.preference = record.preference) :
    Generational op answer policy record record' := by
  refine .kept ?_ ?_ ?_
  · unfold PolicyRecord.preferred
    rw [h]
  · rw [h]
  · rw [h]

/-! ## Answers -/

section
variable {limits : Limits} {s s' : State} {now : Ticks} {outcome : Outcome}
  {policy : AdaptivePolicyId} {record record' : PolicyRecord}

/-- A commit that changes a preference answers so. -/
theorem CommitEffect.answers {request : CommitDecisionRequest}
    (h : CommitEffect limits s now request s' outcome) (hrecord : s.policies[policy]? = some record)
    (hrecord' : s'.policies[policy]? = some record') :
    record'.preference = record.preference ∨ outcome = .decisionCommitted := by
  cases h with
  | refused | unverified =>
    rw [hrecord] at hrecord'
    cases hrecord'
    exact .inl rfl
  | unchanged =>
    rw [State.recordAttempt_policies, hrecord] at hrecord'
    cases hrecord'
    exact .inl rfl
  | @suppressed found id decision checks =>
    obtain ⟨_, haccepted⟩ := State.commitChecks_ok checks
    refine .inl ?_
    by_cases hsubject : request.ticket.dependencies.policy = policy
    · subst hsubject
      rw [State.decided_get] at hrecord'
      rw [haccepted.found] at hrecord
      cases hrecord
      cases hrecord'
      rfl
    · rw [State.recordAttempt_policies, State.journal_policies, State.putRecord_policies,
        get_insert_ne hsubject, hrecord] at hrecord'
      cases hrecord'
      rfl
  | committed => exact .inr rfl

/-- A rollback that changes a preference answers so. -/
theorem RollbackEffect.answers {request : RollbackRequest}
    (h : RollbackEffect limits s now request s' outcome) (hrecord : s.policies[policy]? = some record)
    (hrecord' : s'.policies[policy]? = some record') :
    record'.preference = record.preference ∨ outcome = .decisionCommitted := by
  cases h with
  | refused | declined =>
    rw [hrecord] at hrecord'
    cases hrecord'
    exact .inl rfl
  | recorded =>
    rw [State.recordAttempt_policies, hrecord] at hrecord'
    cases hrecord'
    exact .inl rfl
  | restored => exact .inr rfl

end

section
variable {config : EngineConfig} {e e' : Engine} {op : Op} {answer : Answer}
  {policy : AdaptivePolicyId} {record record' : PolicyRecord}

/-- An adaptation is answered as committed. -/
theorem step_answers_adaptation (h : e.step config op = some (e', answer))
    (hop : op.adaptsAt.isSome = true) (hrecord : e.state.policies[policy]? = some record)
    (hrecord' : e'.state.policies[policy]? = some record') :
    record'.preference = record.preference ∨ answer.outcome = some .decisionCommitted := by
  have hanswers {outcome : Outcome}
      (h : record'.preference = record.preference ∨ outcome = .decisionCommitted) :
      record'.preference = record.preference ∨ some outcome = some .decisionCommitted :=
    h.imp id (congrArg some)
  cases op with
  | commitEvaluation now request =>
    obtain ⟨⟨e₁, result⟩, hcommit, he⟩ := Option.map_eq_some_iff.1 h
    cases he
    exact hanswers ((commitEvaluation_cases hcommit).answers hrecord hrecord')
  | evaluate begun committed request =>
    obtain ⟨⟨e₁, result⟩, hevaluate, he⟩ := Option.map_eq_some_iff.1 h
    cases he
    obtain ⟨_, _, _, ⟨hsame, -⟩ | ⟨-, heffect⟩⟩ := evaluate_cases hevaluate
    · change e₁.state.policies[policy]? = some record' at hrecord'
      rw [hsame, hrecord] at hrecord'
      cases hrecord'
      exact .inl rfl
    · exact hanswers (heffect.answers hrecord hrecord')
  | rollback now request =>
    obtain ⟨⟨e₁, result⟩, hrollback, he⟩ := Option.map_eq_some_iff.1 h
    cases he
    exact hanswers ((rollback_cases hrollback).answers hrecord hrecord')
  | _ => cases hop

/-! ## Anchored records -/

/-- A policy with a rollback anchor has a preference. -/
def PolicyRecord.Anchored (record : PolicyRecord) : Prop :=
  record.stable.established = true → record.preference.established = true

theorem Rewrites.anchored {limits : Limits} (h : Rewrites limits e op policy record record')
    (hr : record.Anchored) : record'.Anchored := by
  cases h with
  | updated =>
    unfold State.updatedRecord
    dsimp only
    split
    · exact hr
    · intro hstable
      cases hstable
  | committed _ _ _ _ _ installs =>
    subst installs
    intro _
    rfl
  | restored _ verified =>
    intro _
    exact hr (State.verifyRollback_ok verified).1
  | held | moved | revoked | suppressed => exact hr

theorem anchored_step (hs : Everywhere (fun _ record => record.Anchored) e.state)
    (hop : op.recovers config.limits = none) (h : e.step config op = some (e', answer)) :
    Everywhere (fun _ record => record.Anchored) e'.state :=
  hs.step
    { rewrites := fun _ _ _ hrewrites hr => hrewrites.anchored hr
      creates := fun _ _ _ _ _ hstable => by cases hstable
      advances := fun _ _ hr => hr
      amends := fun _ _ _ record record' _ hamends hr => by
        show record'.frame.stable.established = true → record'.frame.preference.established = true
        rw [hamends.frame]
        exact hr
      recovers := fun _ _ _ _ hrecovers => by
        rw [hop] at hrecovers
        cases hrecovers } h

/-! ## Steps -/

/-- The update that a step makes of a policy. -/
inductive Redeclared (limits : Limits) (s : State) (op : Op) (policy : AdaptivePolicyId)
    (record : PolicyRecord) : PolicyRecord → Prop
  | updated {now : Ticks} {request : UpdatePolicyRequest} {fingerprint : Text}
      {generation : AdaptivePolicyGeneration} (updates : op = .updatePolicy now request)
      (subject : request.policy = policy)
      (checks : s.updateChecks limits request = .ok (record, fingerprint, generation)) :
      Redeclared limits s op policy record (s.updatedRecord now request generation record)

/-- Only an update declares a policy anew. -/
theorem RecordChange.declares (h : RecordChange config e op policy record record') :
    (record'.policy.generation = record.policy.generation ∧
        record'.policy.scope = record.policy.scope ∧
        record'.policy.semantics = record.policy.semantics) ∨
      Redeclared config.limits e.state op policy record record' := by
  cases h with
  | kept => exact .inl ⟨rfl, rfl, rfl⟩
  | rewritten rewrites =>
    cases rewrites with
    | updated checks => exact .inr (.updated rfl rfl checks)
    | held | moved | revoked | suppressed | committed | restored => exact .inl ⟨rfl, rfl, rfl⟩
  | advanced =>
    unfold State.requireRevalidation
    dsimp only
    split <;> exact .inl ⟨rfl, rfl, rfl⟩
  | notified _ _ _ frame =>
    rw [PolicyRecord.policy_of_frame frame]
    exact .inl ⟨rfl, rfl, rfl⟩

/-- An update takes the next generation. -/
theorem Redeclared.next {limits : Limits} {s : State}
    (h : Redeclared limits s op policy record record') :
    record.policy.generation.next = some record'.policy.generation := by
  cases h with
  | updated _ _ checks =>
    obtain ⟨_, haccepted⟩ := State.updateChecks_ok checks
    have hnext := haccepted.next
    unfold State.updatedRecord
    dsimp only
    split <;> exact hnext

theorem RecordChange.policyGeneration_le (h : RecordChange config e op policy record record') :
    record.policy.generation ≤ record'.policy.generation := by
  rcases h.declares with ⟨hsame, -⟩ | hredeclared
  · rw [hsame]
    exact UInt64.le_refl _
  · exact UInt64.le_of_lt (Generation.lt_next hredeclared.next)

/-- What a step does to the generations of a policy whose anchor has a preference ahead of it. -/
theorem step_generational (h : e.step config op = some (e', answer))
    (hop : op.recovers config.limits = none) (hrecord : e.state.policies[policy]? = some record)
    (hanchored : record.Anchored) :
    ∃ record', e'.state.policies[policy]? = some record' ∧
      record.policy.generation ≤ record'.policy.generation ∧
      Generational op answer policy record record' := by
  obtain ⟨record', hrecord', hchange⟩ := step_record h hop hrecord
  refine ⟨record', hrecord', hchange.policyGeneration_le, ?_⟩
  -- an adaptation takes successors, so its answer is that of a change
  have hanswer (hadapts : op.adaptsAt.isSome = true)
      (hnext : record.preference.adaptationGeneration.next =
        some record'.preference.adaptationGeneration) :
      answer.outcome = some .decisionCommitted := by
    rcases step_answers_adaptation h hadapts hrecord hrecord' with hsame | hanswer
    · rw [hsame] at hnext
      have hlt := Generation.next_toNat hnext
      omega
    · exact hanswer
  cases hchange with
  | kept => exact .of_preference rfl
  | rewritten rewrites =>
    cases rewrites with
    | @updated now request _ _ generation checks =>
      by_cases htarget : record.policy.semantics.target = request.update.semantics.target
      · refine .of_preference ?_
        unfold State.updatedRecord
        simp [htarget]
      · refine .retargeted rfl rfl (Ne.symm htarget) ?_
        unfold State.updatedRecord
        simp [htarget]
    | held | moved | revoked | suppressed => exact .of_preference rfl
    | @committed _ _ _ _ target _ _ _ _ _ commits _ _ other verified installs =>
      subst installs
      obtain ⟨hfound, hadaptation, htransition⟩ := State.verifyCommit_ok verified
      have hadapts : op.adaptsAt.isSome = true := by
        rw [commits.adaptsAt]
        rfl
      refine .replaced (fun hsame => ?_) hadaptation htransition hadapts (hanswer hadapts hadaptation)
      have hpath := PolicyRecord.findCandidate_path hfound
      unfold alreadyCurrent at other
      unfold PolicyRecord.preferred at hsame
      change some _ = _ at hsame
      split at hsame
      · rename_i hestablished
        have hcurrent : target.binding.path = record.preference.preferredPath := Option.some.inj hsame
        rw [hestablished, ← hcurrent, hpath] at other
        simp at other
      · cases hsame
    | restored _ verified decides =>
      subst decides
      obtain ⟨hstable, hmoves, hadaptation, htransition⟩ := State.verifyRollback_ok verified
      have hestablished := hanchored hstable
      refine .replaced (fun hsame => ?_) hadaptation htransition rfl (hanswer rfl hadaptation)
      unfold PolicyRecord.preferred at hsame
      rw [if_pos hestablished] at hsame
      change (if record.preference.established = true then some record.stable.path else none) = _
        at hsame
      rw [if_pos hestablished] at hsame
      rw [hestablished, Option.some.inj hsame] at hmoves
      simp at hmoves
  | advanced => exact .of_preference rfl
  | notified _ _ _ frame => exact .of_preference (PolicyRecord.preference_of_frame frame)

/-! ## Runs -/

/-- An operation is an update of the policy that changes its target. -/
def Retargets (policy : AdaptivePolicyId) (e : Engine) (op : Op) : Prop :=
  ∃ now request record, op = .updatePolicy now request ∧ request.policy = policy ∧
    e.state.policies[policy]? = some record ∧
    request.update.semantics.target ≠ record.policy.semantics.target

/-- The policy is there, with adaptation and transition generations that did not fall. -/
def Advancing (policy : AdaptivePolicyId) (before : PolicyRecord) (s : State) : Prop :=
  ∃ record, s.policies[policy]? = some record ∧
    before.preference.adaptationGeneration ≤ record.preference.adaptationGeneration ∧
    before.preference.transitionGeneration ≤ record.preference.transitionGeneration

theorem Advancing.step {before : PolicyRecord} (hs : Advancing policy before e.state)
    (hanchored : Everywhere (fun _ record => record.Anchored) e.state)
    (hop : op.recovers config.limits = none) (hretargets : ¬ Retargets policy e op)
    (h : e.step config op = some (e', answer)) : Advancing policy before e'.state := by
  obtain ⟨record, hrecord, hadaptation, htransition⟩ := hs
  obtain ⟨record', hrecord', -, hchange⟩ :=
    step_generational h hop hrecord (hanchored policy record hrecord)
  cases hchange with
  | retargeted updates subject target =>
    exact absurd ⟨_, _, record, updates, subject, hrecord, target⟩ hretargets
  | kept _ hsame hsame' => exact ⟨record', hrecord', by rw [hsame]; exact hadaptation,
      by rw [hsame']; exact htransition⟩
  | replaced _ hnext hnext' =>
    exact ⟨record', hrecord', UInt64.le_trans hadaptation (UInt64.le_of_lt (Generation.lt_next hnext)),
      UInt64.le_trans htransition (UInt64.le_of_lt (Generation.lt_next hnext'))⟩

/-- Without a recovery, the policy stays and its generation never falls. -/
theorem policyGeneration_run
    (hrun : RunUnder config (fun _ op => op.recovers config.limits = none) e e')
    (hrecord : e.state.policies[policy]? = some record) :
    ∃ record', e'.state.policies[policy]? = some record' ∧
      record.policy.generation ≤ record'.policy.generation := by
  refine hrun.inv (I := fun e' => ∃ record', e'.state.policies[policy]? = some record' ∧
    record.policy.generation ≤ record'.policy.generation) ?_ ⟨record, hrecord, UInt64.le_refl _⟩
  intro e op e' answer hop hs hstep
  obtain ⟨before, hbefore, hle⟩ := hs
  obtain ⟨after, hafter, hchange⟩ := step_record hstep hop hbefore
  exact ⟨after, hafter, UInt64.le_trans hle hchange.policyGeneration_le⟩

theorem anchored_run
    (hrun : RunUnder config (fun _ op => op.recovers config.limits = none) e e')
    (hs : Everywhere (fun _ record => record.Anchored) e.state) :
    Everywhere (fun _ record => record.Anchored) e'.state :=
  hrun.inv (I := fun e => Everywhere (fun _ record => record.Anchored) e.state)
    (fun _ _ _ _ hop hs hstep => anchored_step hs hop hstep) hs

theorem advancing_run
    (hrun : RunUnder config
      (fun e op => op.recovers config.limits = none ∧ ¬ Retargets policy e op) e e')
    (hanchored : Everywhere (fun _ record => record.Anchored) e.state)
    (hrecord : e.state.policies[policy]? = some record) :
    Advancing policy record e'.state :=
  hrun.inv_under (I := fun e => Advancing policy record e.state)
    (J := fun e => Everywhere (fun _ record => record.Anchored) e.state)
    (fun _ _ _ _ hop hs hstep => anchored_step hs hop.1 hstep)
    (fun _ _ _ _ hop hanchored hs hstep => hs.step hanchored hop.1 hop.2 hstep) hanchored
    ⟨record, hrecord, UInt64.le_refl _, UInt64.le_refl _⟩

end

/-- In a run without recovery, every step keeps a policy, does not lower its generation, and moves its
adaptation and transition generations as `Generational` says: both to their successors exactly when it
replaces the preferred path, which only a commit or a rollback that answers so does. Over a run the
policy's generation does not fall, and the other two do not either when no update changes its
target. -/
theorem generations_follow_the_preference {config : EngineConfig} {nonce : Text} {e : Engine}
    (hrun : RunUnder config (fun _ op => op.recovers config.limits = none)
      (Engine.start config nonce) e) (policy : AdaptivePolicyId) (record : PolicyRecord)
    (hrecord : e.state.policies[policy]? = some record) :
    (∀ (e' : Engine) (op : Op) (answer : Answer), op.recovers config.limits = none →
      e.step config op = some (e', answer) →
      ∃ record', e'.state.policies[policy]? = some record' ∧
        record.policy.generation ≤ record'.policy.generation ∧
        Generational op answer policy record record') ∧
    (∀ e', RunUnder config (fun _ op => op.recovers config.limits = none) e e' →
      ∃ record', e'.state.policies[policy]? = some record' ∧
        record.policy.generation ≤ record'.policy.generation) ∧
    (∀ e', RunUnder config
        (fun e op => op.recovers config.limits = none ∧ ¬ Retargets policy e op) e e' →
      ∃ record', e'.state.policies[policy]? = some record' ∧
        record.preference.adaptationGeneration ≤ record'.preference.adaptationGeneration ∧
        record.preference.transitionGeneration ≤ record'.preference.transitionGeneration) := by
  have hanchored : Everywhere (fun _ record => record.Anchored) e.state :=
    anchored_run hrun fun policy record hrecord => by simp [Engine.start] at hrecord
  exact ⟨fun _ _ _ hop hstep => step_generational hstep hop hrecord (hanchored policy record hrecord),
    fun _ hlater => policyGeneration_run hlater hrecord,
    fun _ hlater => advancing_run hlater hanchored hrecord⟩

open Scenario in
/-- The switch to the better path takes both successors. -/
theorem switch_takes_successors :
    let switch : Op := .evaluate 3 3 (evaluation "switch")
    ∃ answer record record', (after challenged).state.policies[policy]? = some record ∧
      (after challenged).step config switch = some (after (challenged ++ [switch]), answer) ∧
      (after (challenged ++ [switch])).state.policies[policy]? = some record' ∧
      record.policy.generation ≤ record'.policy.generation ∧
      record.preference.adaptationGeneration.next = some record'.preference.adaptationGeneration ∧
      record.preference.transitionGeneration.next = some record'.preference.transitionGeneration ∧
      answer.outcome = some .decisionCommitted := by
  intro switch
  have hprefers {ops : List Op} {path : PathId}
      (h : ((after ops).state.policies[policy]?).map (·.preferred) = some (some path)) :
      ∃ record, (after ops).state.policies[policy]? = some record ∧ record.preferred = some path :=
    Option.map_eq_some_iff.1 h
  obtain ⟨record, hrecord, hleft⟩ := @hprefers challenged left (by decide +kernel)
  obtain ⟨record', hrecord', hright⟩ := @hprefers (challenged ++ [switch]) right (by decide +kernel)
  obtain ⟨answer, hswitch⟩ := step_after challenged switch (by decide +kernel)
  have hstart := recoverless_after [] challenged (by decide +kernel) (by decide +kernel)
  obtain ⟨found, hfound, hle, hchange⟩ :=
    (@generations_follow_the_preference config "n" _ hstart policy record hrecord).1 _ switch answer
      rfl hswitch
  rw [hrecord'] at hfound
  cases hfound
  refine ⟨answer, record, record', hrecord, hswitch, hrecord', hle, ?_⟩
  cases hchange with
  | retargeted updates => simp [switch] at updates
  | kept path =>
    have hne : right ≠ left := by decide +kernel
    rw [hleft, hright] at path
    exact absurd (Option.some.inj path) hne
  | replaced _ adaptation transition _ answers => exact ⟨adaptation, transition, answers⟩

open Scenario in
/-- A policy that adapted twice is updated to another route: its adaptation generation falls back to
the first. -/
theorem retargeted_policy_starts_over :
    let switched : List Op := challenged ++ [.evaluate 3 3 (evaluation "switch")]
    let retarget : Op := .updatePolicy 4 {
      policy
      update := { scope := (create 1).scope
                  semantics := { semantics with target := { route := name "other-route" } } }
      context := { context 1 "retarget" with expectedPolicyGeneration := some ⟨1⟩ } }
    RunUnder config (fun _ op => op.recovers config.limits = none) engine
        (after (switched ++ [retarget])) ∧
      ∃ record record', (after switched).state.policies[policy]? = some record ∧
        (after (switched ++ [retarget])).state.policies[policy]? = some record' ∧
        record'.preference.adaptationGeneration < record.preference.adaptationGeneration := by
  intro switched retarget
  have hgeneration {ops : List Op} {generation : AdaptationGeneration}
      (h : ((after ops).state.policies[policy]?).map (·.preference.adaptationGeneration) =
        some generation) : ∃ record, (after ops).state.policies[policy]? = some record ∧
          record.preference.adaptationGeneration = generation := Option.map_eq_some_iff.1 h
  obtain ⟨record, hrecord, htwice⟩ := @hgeneration switched ⟨3⟩ (by decide +kernel)
  obtain ⟨record', hrecord', hfirst⟩ := @hgeneration (switched ++ [retarget]) ⟨1⟩ (by decide +kernel)
  refine ⟨recoverless_after [] (switched ++ [retarget]) (by decide +kernel) (by decide +kernel),
    record, record', hrecord, hrecord', ?_⟩
  rw [htwice, hfirst]
  decide

end AdaptiveRouting
