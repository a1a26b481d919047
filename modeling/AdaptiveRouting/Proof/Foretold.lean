import AdaptiveRouting.Fabric.Topics
import AdaptiveRouting.Proof.Churn
import AdaptiveRouting.Proof.Consistency
import AdaptiveRouting.Proof.Lookup
import AdaptiveRouting.Proof.TwinPhases
import AdaptiveRouting.Proof.Unrelated
import AdaptiveRouting.Proof.Weights

/-!
# What is foretold

The comparison of the candidates, a snapshot and phase one evaluate three copies of the same inputs
(`explained_alike`). As long as nothing concerns the policy and no evidence is published, what phase
one let pass goes on to pass (`Clears.later`), so that phase two has little left to refuse
(`verifyCommit_clears`): what is explained is what is done (`explained_is_done`).
-/

namespace AdaptiveRouting

open Guard Engine

/-! ## Timing without a preference -/

/-- Nothing runs, and nothing was adapted. -/
structure TimingState.Idle (timing : TimingState) : Prop where
  holdDown : timing.holdDownActive = false
  cooldown : timing.cooldownActive = false
  churn : timing.churnCommits = []

/-- There is no timing before there is a preference. -/
def PolicyRecord.Idle (record : PolicyRecord) : Prop :=
  record.preference.established = false → record.timing.Idle

theorem Rewrites.idle {limits : Limits} {e : Engine} {op : Op} {policy : AdaptivePolicyId}
    {record record' : PolicyRecord} (h : Rewrites limits e op policy record record')
    (hlockstep : Everywhere (fun _ record => record.Lockstep ∧ record.Settled) e.state)
    (hidle : record.Idle) : record'.Idle := by
  cases h with
  | updated =>
    unfold State.updatedRecord
    dsimp only
    split
    · exact hidle
    · exact fun _ => ⟨rfl, rfl, rfl⟩
  | held | moved | revoked | suppressed => exact hidle
  | committed _ _ _ _ _ installs =>
    subst installs
    exact fun hfirst => by cases hfirst
  | restored checks verified =>
    obtain ⟨_, haccepted⟩ := State.rollbackChecks_ok checks
    have hstable := (State.verifyRollback_ok verified).1
    have hestablished := (hlockstep _ _ haccepted.found).1.established hstable
    exact fun hfirst => by cases hfirst.symm.trans hestablished

/-- No engine of a deployment times a policy without a preference. -/
theorem Hosted.idle {ok : EngineConfig → Engine → Op → Prop} {config : EngineConfig} {e : Engine}
    (h : Hosted ok config e) : Everywhere (fun _ record => record.Idle) e.state := by
  refine h.everywhere (P := PolicyRecord.Idle)
    (fun _ _ _ _ _ hosted recovers steps hs => ?_) fun _ saved now _ policy record hidle hfirst => ?_
  · refine hs.step ?_ steps
    exact
      { rewrites := fun _ _ _ hrewrites hr => hrewrites.idle hosted.lockstep hr
        creates := fun _ _ _ _ _ _ => ⟨rfl, rfl, rfl⟩
        advances := fun _ record _ => by
          unfold State.requireRevalidation
          dsimp only
          split <;> exact fun _ => ⟨rfl, rfl, rfl⟩
        amends := fun _ _ _ record record' _ hamends hr => by
          have hpreference := congrArg PolicyRecord.preference hamends.frame
          have htiming := congrArg PolicyRecord.timing hamends.frame
          change record'.preference = record.preference at hpreference
          change record'.timing = record.timing at htiming
          unfold PolicyRecord.Idle
          rw [hpreference, htiming]
          exact hr
        recovers := fun _ _ _ _ hrecovers => by
          rw [recovers] at hrecovers
          cases hrecovers }
  · have hrest := hidle hfirst
    refine ⟨?_, ?_, ?_⟩
    · show (record.timing.holdDownActive && _) = false
      rw [hrest.holdDown, Bool.false_and]
    · show (record.timing.cooldownActive && _) = false
      rw [hrest.cooldown, Bool.false_and]
    · show ((record.timing.churnCommits.map _).map _) = []
      rw [hrest.churn]
      rfl

/-! ## What passes between the phases -/

/-- An operation that does not concern the policy, and publishes nothing. -/
structure Aside (config : EngineConfig) (policy : AdaptivePolicyId) (e : Engine) (op : Op) : Prop
    extends Unrelated config policy e op where
  unpublished : ∀ clock request, op ≠ .publishEvidence clock request

/-- What phase two compares its ticket with is the same in both states. -/
structure Unstirred (policy : AdaptivePolicyId) (s s' : State) : Prop extends Unmoved policy s s' where
  generation : s'.evidenceGeneration = s.evidenceGeneration
  watermark : s'.evidenceWatermark = s.evidenceWatermark

section
variable {config : EngineConfig} {policy : AdaptivePolicyId} {e e' : Engine}

theorem Aside.unstirred {op : Op} {answer : Answer} {record : PolicyRecord}
    (hop : Aside config policy e op) (hk : Keyed e.state)
    (found : e.state.policies[policy]? = some record) (h : e.step config op = some (e', answer)) :
    Unstirred policy e.state e'.state := by
  have hunmoved := hop.toUnrelated.unmoved hk found h
  cases step_gauges h hop.recovers with
  | kept same =>
    exact ⟨hunmoved, State.evidenceGeneration_of_gauges same, State.evidenceWatermark_of_gauges same⟩
  | notified _ notified =>
    exact ⟨hunmoved, congrArg Gauges.evidenceGeneration notified.evidence,
      congrArg Gauges.evidenceWatermark notified.evidence⟩
  | published publishes => exact absurd publishes (hop.unpublished _ _)

theorem unstirred_run {record : PolicyRecord} (hk : Keyed e.state)
    (found : e.state.policies[policy]? = some record)
    (hrun : RunUnder config (Aside config policy) e e') : Unstirred policy e.state e'.state :=
  hrun.inv_under (I := fun after => Unstirred policy e.state after.state)
    (J := fun after => Keyed after.state) (fun _ _ _ _ _ hk hstep => hk.step hstep)
    (fun _ _ _ _ hop hk hs hstep =>
      have hnext := hop.unstirred hk (hs.record.trans found) hstep
      ⟨hs.toUnmoved.trans hnext.toUnmoved, hnext.generation.trans hs.generation,
        hnext.watermark.trans hs.watermark⟩)
    hk ⟨.refl policy e.state, rfl, rfl⟩

end

/-! ## What phase two re-checks -/

/-- The gates phase two looks at let a ticket pass at a reading. -/
structure Clears (record : PolicyRecord) (ticket : EvaluationTicket) (now : Ticks) : Prop where
  holdDown : ticket.emergency = false → record.timing.holdDownActive = true →
    record.preference.previousPath.valid = true →
    record.preference.previousPath = ticket.targetPreference →
    State.commitHoldDown record.policy.semantics record.timing.dampeningPenalty ≠ 0 →
    record.timing.holdDownDeadline ≤ now
  cooldown : ticket.emergency = false → record.timing.cooldownActive = true →
    record.timing.cooldownDeadline ≤ now
  churn : ticket.emergency = false → record.policy.semantics.churn.enabled = true →
    recentCommits record.policy.semantics.churn record.timing now <
      record.policy.semantics.churn.maxAdaptationsPerWindow.toNat

/-- No more adaptations are recent later on, where none is stamped ahead of the earlier reading. -/
theorem recentCommits_later {churn : ChurnBounds} {timing : TimingState} {begun now : Ticks}
    (hlater : begun ≤ now) (hpast : ∀ stamp ∈ timing.churnCommits, stamp ≤ begun) :
    recentCommits churn timing now ≤ recentCommits churn timing begun := by
  refine List.countP_mono_left fun stamp hstamp hin => ?_
  have hle := hpast stamp hstamp
  simp only [Bool.and_eq_true, decide_eq_true_eq, UInt64.le_iff_toNat_le] at hin hle hlater ⊢
  rw [UInt64.toNat_sub_of_le _ _ (UInt64.le_iff_toNat_le.2 hin.1)] at hin
  rw [UInt64.toNat_sub_of_le _ _ (UInt64.le_iff_toNat_le.2 hle)]
  omega

/-- Gates that are passed stay passed while the record does. -/
theorem Clears.later {record : PolicyRecord} {ticket : EvaluationTicket} {begun now : Ticks}
    (h : Clears record ticket begun) (hlater : begun ≤ now)
    (hpast : ∀ stamp ∈ record.timing.churnCommits, stamp ≤ begun) : Clears record ticket now where
  holdDown := fun hordinary hactive hvalid hreverse hdeclared =>
    UInt64.le_trans (h.holdDown hordinary hactive hvalid hreverse hdeclared) hlater
  cooldown := fun hordinary hactive => UInt64.le_trans (h.cooldown hordinary hactive) hlater
  churn := fun hordinary henabled =>
    Nat.lt_of_le_of_lt (recentCommits_later hlater hpast) (h.churn hordinary henabled)

/-- What is left for phase two to answer. -/
def State.closes (s : State) (limits : Limits) (now : Ticks) (preference : RoutingPreference) :
    Outcome :=
  if reaches (s.pendingTransitions now) limits.maxPendingTransitions then .resourceLimit
  else if preference.adaptationGeneration.next.isSome && preference.transitionGeneration.next.isSome
    then .decisionCommitted
  else .generationOverflow

/-- A target that is there, legal and as the ticket knew it is left to the bounds. -/
theorem verifyCommit_clears {s : State} {limits : Limits} {now : Ticks} {record : PolicyRecord}
    {ticket : EvaluationTicket} {target : CandidateRecord} (hclears : Clears record ticket now)
    (htarget : record.findCandidate ticket.targetPreference = some target)
    (hlegal : target.binding.pathAuthority.legal = true)
    (hgeneration : ticket.targetPathAuthorityGeneration.valid = true →
      target.binding.pathAuthority.generation = ticket.targetPathAuthorityGeneration) :
    (∃ adaptation transition, s.verifyCommit limits now record ticket =
        .ok (target, adaptation, transition) ∧
        s.closes limits now record.preference = .decisionCommitted) ∨
      ∃ detail, s.verifyCommit limits now record ticket =
        .error (s.closes limits now record.preference, detail) ∧
        s.closes limits now record.preference ≠ .decisionCommitted := by
  have hholdDown : (!ticket.emergency && record.timing.holdDownActive &&
      (record.preference.previousPath.valid &&
        record.preference.previousPath == ticket.targetPreference) &&
      State.commitHoldDown record.policy.semantics record.timing.dampeningPenalty != 0 &&
      decide (now < record.timing.holdDownDeadline)) = false := by
    rw [Bool.eq_false_iff]
    intro hheld
    simp only [Bool.and_eq_true, Bool.not_eq_true', decide_eq_true_eq, bne_iff_ne, ne_eq,
      beq_iff_eq] at hheld
    obtain ⟨⟨⟨⟨hordinary, hactive⟩, hvalid, hreverse⟩, hdeclared⟩, hrunning⟩ := hheld
    exact absurd (hclears.holdDown hordinary hactive hvalid hreverse hdeclared)
      (UInt64.not_le.2 hrunning)
  have hcooldown : (!ticket.emergency && record.timing.cooldownActive &&
      decide (now < record.timing.cooldownDeadline)) = false := by
    rw [Bool.eq_false_iff]
    intro hcooling
    simp only [Bool.and_eq_true, Bool.not_eq_true', decide_eq_true_eq] at hcooling
    exact absurd (hclears.cooldown hcooling.1.1 hcooling.1.2) (UInt64.not_le.2 hcooling.2)
  have hchurn : (!ticket.emergency && record.policy.semantics.churn.enabled &&
      decide (record.policy.semantics.churn.maxAdaptationsPerWindow.toNat ≤
        recentCommits record.policy.semantics.churn record.timing now)) = false := by
    rw [Bool.eq_false_iff]
    intro hspent
    simp only [Bool.and_eq_true, Bool.not_eq_true', decide_eq_true_eq] at hspent
    exact absurd (hclears.churn hspent.1.1 hspent.1.2) (Nat.not_lt.2 hspent.2)
  have hmoved : (ticket.targetPathAuthorityGeneration.valid &&
      target.binding.pathAuthority.generation != ticket.targetPathAuthorityGeneration) = false := by
    cases hvalid : ticket.targetPathAuthorityGeneration.valid with
    | false => rfl
    | true => simp [hgeneration hvalid]
  unfold State.verifyCommit State.closes
  dsimp only
  rw [seq_of hholdDown, seq_of hcooldown, seq_of hchurn, bind_of (orRefuse_of htarget),
    seq_of (by rw [hlegal]; rfl), seq_of hmoved]
  cases reaches (s.pendingTransitions now) limits.maxPendingTransitions with
  | true => exact .inr ⟨_, rfl, by simp⟩
  | false =>
    rw [seq_of rfl]
    cases hadaptation : record.preference.adaptationGeneration.next with
    | none => exact .inr ⟨_, rfl, by simp⟩
    | some adaptation =>
      cases htransition : record.preference.transitionGeneration.next with
      | none => exact .inr ⟨_, rfl, by simp⟩
      | some transition => exact .inl ⟨adaptation, transition, rfl, by simp⟩

/-- The dependencies of a ticket do not drift from the candidates they were captured from. -/
theorem dependencyDrift_captured (s : State) (now : Ticks) (record : PolicyRecord)
    (evaluation : EvaluationId) :
    dependencyDrift record.candidates (s.buildDependencies now record evaluation) = none := by
  unfold dependencyDrift
  rw [if_neg (by simp [State.buildDependencies])]
  refine List.findSome?_eq_none_iff.2 ?_
  rintro ⟨candidate, index⟩ hmem
  have hfound := List.mem_zipIdx_iff_getElem?.1 hmem
  simp only at hfound
  simp [candidateDrift, State.buildDependencies, hfound]

/-! ## What phase one vouches for -/

theorem evaluateCandidate_generation (inputs : EvaluationInputs) (candidate : CandidateRecord) :
    (inputs.evaluateCandidate candidate).pathAuthorityGeneration =
      candidate.binding.pathAuthority.generation := by
  unfold EvaluationInputs.evaluateCandidate
  dsimp only
  split
  · rfl
  · split
    · rfl
    · split
      · rfl
      · split
        · rfl
        · split <;> rfl

/-- Phase two arms no gate that phase one ignores. -/
theorem commitHoldDown_declared {semantics : PolicySemantics} {penalty : UInt32}
    (h : State.commitHoldDown semantics penalty ≠ 0) : (effectiveHoldDown semantics penalty).1 ≠ 0 := by
  unfold State.commitHoldDown at h
  unfold effectiveHoldDown
  split
  · rename_i hdampened
    rw [if_pos hdampened] at h
    dsimp only
    split
    · exact h
    · rename_i hcapped
      intro hzero
      change semantics.holdDown.duration = 0 at hzero
      rw [hzero] at hcapped h
      refine h (UInt64.toNat_inj.1 ?_)
      rw [gt_iff_lt, UInt64.lt_iff_toNat_lt] at hcapped
      simpa using hcapped
  · rename_i hcalm
    rwa [if_neg hcalm] at h

/-- What an eligible ticket aims at, and what it passed. -/
structure Grants (inputs : EvaluationInputs) (record : PolicyRecord) (ticket : EvaluationTicket)
    (best : CandidateEvaluation) : Prop where
  top : inputs.topRanked = some best
  target : ticket.targetPreference = best.path
  generation : ticket.targetPathAuthorityGeneration = best.pathAuthorityGeneration
  other : alreadyCurrent record ticket = false
  clears : Clears record ticket inputs.now

section
variable {s : State} {now : Ticks} {captured : EvidenceSnapshotId} {record : PolicyRecord}
  {dependencies : DependencySnapshot}

theorem alreadyCurrent_of {ticket : EvaluationTicket} {best : CandidateEvaluation}
    (htarget : ticket.targetPreference = best.path)
    (hother : best.path ≠ record.preference.preferredPath) : alreadyCurrent record ticket = false := by
  unfold alreadyCurrent
  rw [htarget, beq_eq_false_iff_ne.2 (Ne.symm hother), Bool.and_false]

/-- An eligible ticket aims at the best candidate, and the gates of phase two let it pass. -/
theorem evaluate_grants (hidle : record.Idle)
    (h : ((s.copyInputs now captured record).evaluate dependencies).lifecycle = .eligible) :
    ∃ best, Grants (s.copyInputs now captured record) record
      ((s.copyInputs now captured record).evaluate dependencies) best := by
  have hexit := (s.copyInputs now captured record).evaluate_exits dependencies
  generalize (s.copyInputs now captured record).evaluate dependencies = ticket at hexit h ⊢
  have hraised {ticket : EvaluationTicket} (hemergency : ticket.emergency = true) :
      Clears record ticket now :=
    ⟨fun hordinary => by simp [hemergency] at hordinary,
      fun hordinary => by simp [hemergency] at hordinary,
      fun hordinary => by simp [hemergency] at hordinary⟩
  cases hexit with
  | nothing | barred | merit => cases h
  | @incumbent best =>
    have hsuppressed := ((s.copyInputs now captured record).incumbentTicket_consistent
      (((s.copyInputs now captured record).unjudgedTicket dependencies).towards best)).2
    cases h.symm.trans hsuppressed
  | refused _ _ _ gate =>
    have hsuppressed := ((EvaluationInputs.ordinaryGates_gates _ _ rfl).refuses _ gate).lifecycle
    cases h.symm.trans hsuppressed
  | @established best top first =>
    have hrest := hidle first
    refine ⟨best, top, rfl, rfl, ?_, ?_, ?_, fun _ henabled => ?_⟩
    · unfold alreadyCurrent
      change record.preference.established = false at first
      rw [first, Bool.false_and]
    · exact fun _ hactive => by simp [hrest.holdDown] at hactive
    · exact fun _ hactive => by simp [hrest.cooldown] at hactive
    · rw [recentCommits, hrest.churn, List.countP_nil]
      unfold ChurnBounds.enabled at henabled
      refine Nat.pos_of_ne_zero fun hzero => ?_
      simp [UInt32.toNat_inj.1 (hzero.trans UInt32.toNat_zero.symm)] at henabled
  | @adapted best passed challenged calm eligible gates =>
    obtain ⟨current, hcurrent⟩ := EvaluationInputs.currentBinding_of eligible
    have hreturns := (EvaluationInputs.ordinaryGates_returns hcurrent
      (EvaluationInputs.currentBinding_path hcurrent).2).1 ⟨_, gates⟩
    obtain ⟨hholdDown, hcooldown, -, -, hchurn⟩ := hreturns
    obtain ⟨_, _, rfl⟩ := EvaluationInputs.ordinaryGates_writes.returns _ gates
    refine ⟨best, challenged.top, rfl, rfl, alreadyCurrent_of rfl challenged.other, ?_, ?_, ?_⟩
    · exact fun _ hactive hvalid hreverse hdeclared => UInt64.not_lt.1 fun hrunning =>
        hholdDown ⟨⟨hvalid, hreverse⟩, hactive, commitHoldDown_declared hdeclared, hrunning⟩
    · exact fun _ hactive => UInt64.not_lt.1 fun hrunning => hcooldown ⟨hactive, hrunning⟩
    · exact fun _ henabled => Nat.not_le.1 fun hspent => hchurn ⟨henabled, hspent⟩
  | @overridden best reason challenged emergency =>
    refine ⟨best, challenged.top, rfl, rfl, alreadyCurrent_of rfl challenged.other, hraised ?_⟩
    exact congrArg Option.isSome emergency
  | @escaped best reason challenged emergency =>
    have hcore := ((s.copyInputs now captured record).incumbentTicket_suppresses
      (t := ((s.copyInputs now captured record).unjudgedTicket dependencies).towards best) rfl).core
    have htarget := congrArg EvaluationTicket.targetPreference hcore
    refine ⟨best, challenged.top, htarget, congrArg EvaluationTicket.targetPathAuthorityGeneration hcore,
      alreadyCurrent_of htarget challenged.other, hraised ?_⟩
    exact (congrArg EvaluationTicket.emergency hcore).trans (congrArg Option.isSome emergency)

end

/-! ## What the comparison tells -/

section
variable {inputs : EvaluationInputs} {best : CandidateEvaluation}

theorem Blocks.suppresses {path : PathId} {reason : SuppressionReason} {outcome : Outcome}
    {detail : Text} (h : inputs.Blocks path reason outcome detail) : reason ≠ .none := by
  cases h with
  | heldDown _ named | belowRequired _ named => rcases named with rfl | rfl <;> simp
  | thresholdUnknown _ misses | improvementUnknown _ misses =>
    obtain ⟨requirement, -, hlookup⟩ := misses
    exact SuppressionReason.isEvidence_ne_none (inputs.lookupMetric_refuses _ _ _ hlookup)
  | _ => simp

/-- A verdict is granted when it reports no suppression, or leaves an ineligible preference in an
emergency. -/
theorem evaluate_granted_iff (inputs : EvaluationInputs) (dependencies : DependencySnapshot) :
    (inputs.evaluate dependencies).lifecycle = .eligible ↔
      (inputs.evaluate dependencies).suppression = .none ∨ inputs.FallsThrough := by
  have hfalls {P : Prop} (h : ∀ best, inputs.Challenged best → inputs.emergencyReason.isSome = true →
      inputs.currentEligible inputs.rank = false → P) : inputs.FallsThrough → P := by
    rintro ⟨⟨best, hchallenged⟩, hemergency, hineligible⟩
    exact h best hchallenged hemergency hineligible
  have hexit := inputs.evaluate_exits dependencies
  generalize inputs.evaluate dependencies = ticket at hexit
  cases hexit with
  | nothing top =>
    refine ⟨fun h => (by cases h), fun h => ?_⟩
    exact h.elim (fun h => (by cases h)) (hfalls fun _ hchallenged _ _ => by
      cases top.symm.trans hchallenged.top)
  | barred _ first _ defect =>
    refine ⟨fun h => (by cases h), fun h => ?_⟩
    refine h.elim (fun h => absurd h (EvaluationInputs.entryDefect_reports defect).1) ?_
    exact hfalls fun _ hchallenged _ _ => by cases first.symm.trans hchallenged.established
  | established => exact ⟨fun _ => .inl rfl, fun _ => rfl⟩
  | merit top _ same =>
    refine ⟨fun h => (by cases h), fun h => ?_⟩
    refine h.elim (fun h => (by cases h)) (hfalls fun other hchallenged _ _ => ?_)
    cases top.symm.trans hchallenged.top
    exact absurd same hchallenged.other
  | @incumbent best _ calm =>
    obtain ⟨hconsistent, hsuppressed⟩ := inputs.incumbentTicket_consistent
      ((inputs.unjudgedTicket dependencies).towards best)
    refine ⟨fun h => (by cases h.symm.trans hsuppressed), fun h => ?_⟩
    refine h.elim (fun h => absurd h (hconsistent.suppressed hsuppressed).1) ?_
    exact hfalls fun _ _ hemergency _ => by simp [calm] at hemergency
  | refused _ calm eligible gate =>
    obtain ⟨current, hcurrent⟩ := EvaluationInputs.currentBinding_of eligible
    obtain ⟨_, _, _, _, -, hblocks, rfl⟩ := EvaluationInputs.ordinaryGates_refuses hcurrent gate
    refine ⟨fun h => (by cases h), fun h => ?_⟩
    refine h.elim (fun h => absurd h (Blocks.suppresses hblocks)) ?_
    exact hfalls fun _ _ hemergency _ => by simp [calm] at hemergency
  | adapted _ _ _ gates =>
    obtain ⟨_, _, rfl⟩ := EvaluationInputs.ordinaryGates_writes.returns _ gates
    exact ⟨fun _ => .inl rfl, fun _ => rfl⟩
  | overridden => exact ⟨fun _ => .inl rfl, fun _ => rfl⟩
  | escaped challenged emergency ineligible =>
    exact ⟨fun _ => .inr ⟨⟨_, challenged⟩, by rw [emergency]; rfl, ineligible⟩, fun _ => rfl⟩

end

/-- Nothing is renamed, and the clock is not moved. -/
def Translation.still : Translation where
  boots := ⟨id, Function.injective_id, fun _ => rfl⟩
  sessions := ⟨id, Function.injective_id, fun _ => rfl⟩
  attempts := ⟨id, Function.injective_id, fun _ => rfl⟩
  offset := 0

theorem State.twin_self (s : State) : s.Twin .still s where
  epoch := rfl
  authorityGeneration := rfl
  evidenceGeneration := rfl
  evidenceWatermark := rfl
  upstreamWatermark := rfl
  policies := fun _ => rfl
  evidence := fun _ => rfl
  registrations := fun _ => rfl
  fencedBoots := fun _ => rfl
  attempts := fun _ => rfl

/-- Whatever identities are minted for them, the evaluations of a record at one reading say the same. -/
theorem evaluations_alike (s : State) (now : Ticks) (record : PolicyRecord)
    (captured captured' : EvidenceSnapshotId) (evaluation evaluation' : EvaluationId) :
    ((s.copyInputs now captured' record).evaluate (s.buildDependencies now record evaluation')).face =
      ((s.copyInputs now captured record).evaluate (s.buildDependencies now record evaluation)).face :=
  (s.twin_self.copyInputs rfl rfl captured captured').evaluate
    (s.twin_self.buildDependencies rfl now now evaluation evaluation')

/-- A view shows what an evaluation found out about its path. -/
structure CandidateView.Shows (view : CandidateView) (ranked : CandidateEvaluation) : Prop where
  path : view.binding.path = ranked.path
  eligible : view.eligible = ranked.eligible
  rejection : view.rejection = ranked.rejection
  quality : view.quality = ranked.quality
  score : view.score = ranked.score
  metrics : view.metrics = ranked.metrics
  priority : view.priority = ranked.priority
  current : view.currentPreference = ranked.currentPreference
  previous : view.previousPreference = ranked.previousPreference

theorem candidateView_shows {ranking : List CandidateEvaluation} {candidate : CandidateRecord}
    {ranked : CandidateEvaluation}
    (h : (ranking.find? fun ranked => ranked.path == candidate.binding.path) = some ranked) :
    (State.candidateView ranking candidate).Shows ranked := by
  have hpath : (ranked.path == candidate.binding.path) = true := (List.find?_some h :)
  unfold State.candidateView
  rw [h]
  exact ⟨(beq_iff_eq.1 hpath).symm, rfl, rfl, rfl, rfl, rfl, rfl, rfl, rfl⟩

theorem rank_finds {inputs : EvaluationInputs} {candidate : CandidateRecord}
    (hdistinct : (inputs.candidates.map (·.binding.path)).Nodup)
    (hmem : candidate ∈ inputs.candidates) :
    (inputs.rank.find? fun ranked => ranked.path == candidate.binding.path) =
      some (inputs.evaluateCandidate candidate) := by
  have hpaths : (inputs.rank.map (·.path)).Nodup := by
    refine (((List.perm_insertionSort _ _).map _).nodup_iff).2 ?_
    rw [List.map_map]
    have hkeys : ((fun ranked : CandidateEvaluation => ranked.path) ∘ inputs.evaluateCandidate) =
        fun candidate => candidate.binding.path := funext inputs.evaluateCandidate_path
    rwa [hkeys]
  refine (find?_eq_some_of_distinct hpaths).2 ⟨?_, inputs.evaluateCandidate_path candidate⟩
  exact (List.mem_insertionSort _).2 (List.mem_map_of_mem hmem)

/-! ## The wait between the phases -/

section
variable {s s₂ : State} {begun : Ticks} {policy : AdaptivePolicyId} {record : PolicyRecord}
  {ticket : EvaluationTicket} {evaluation : EvaluationId} {context : MutationContext}
  {registration : PublisherRegistration}

/-- A ticket is not refused for what was left alone while it waited. -/
theorem commitChecks_unstirred (hunstirred : Unstirred policy s s₂)
    (hfound : s.policies[policy]? = some record) (hid : record.policy.id = policy)
    (hvalid : policy.valid = true) (hactive : record.policy.lifecycle = .active)
    (hissued : ticket.lifecycle ≠ .rejected)
    (hdependencies : ticket.dependencies = s.buildDependencies begun record evaluation)
    (caller : s₂.checkCaller context none none = .ok registration)
    (fresh : s₂.replayCheck context.attempt (fingerprintCommit ticket) = none) :
    s₂.commitChecks { ticket, context } = .ok record := by
  have hpolicy : ticket.dependencies.policy = policy := by
    rw [hdependencies]
    exact hid
  have hfound₂ : s₂.policies[policy]? = some record := hunstirred.record.trans hfound
  have hdrift : (if ticket.lifecycle = .eligible then
      dependencyDrift record.candidates ticket.dependencies else none) = none := by
    rw [hdependencies, dependencyDrift_captured, ite_self]
  unfold State.commitChecks State.requireCaller State.refuseReplay
  dsimp only
  rw [hpolicy, seq_of (beq_eq_false_iff_ne.2 hissued), seq_of (by rw [hvalid]; rfl),
    bind_of (mapError_of caller), bind_of (orRefuse_of hfound₂), hdrift, fresh, hdependencies,
    hunstirred.epoch, hunstirred.authority, hunstirred.generation, hunstirred.watermark, hactive]
  simp [State.buildDependencies, refuseWith, pure, Except.pure, bind, Except.bind]

end

/-- What was foretold, and what phase two made of it. -/
structure Foretold (config : EngineConfig) (e : Engine) (begun : Ticks) (policy : AdaptivePolicyId)
    (record : PolicyRecord) (ticket : EvaluationTicket) (e₂ : Engine) (committed : Ticks) (e₃ : Engine)
    (outcome : Outcome) : Prop where
  /-- The comparison tells the verdict and the ranking of the ticket. -/
  told : ∀ captured, e.state.explain config.limits begun captured .candidateComparison policy =
    { topic := .candidateComparison, policy, outcome := ticket.outcome
      suppression := ticket.suppression
      entries := markTruncated config.limits.maxExplanationEntries ((rankingEntries ticket.ranking).foldl
        (addEntry config.limits.maxExplanationEntries) []) }
  /-- A snapshot shows the ranking. -/
  shown : ∀ e' view, e.step config (.snapshot begun policy) = some (e', .view (some view)) →
    (∀ seen ∈ view.candidates, ∃ ranked ∈ ticket.ranking, seen.Shows ranked) ∧
      ∀ ranked ∈ ticket.ranking, ∃ seen ∈ view.candidates, seen.Shows ranked
  /-- A granted verdict is refused for a bound only, and installs the best eligible candidate. -/
  adapted : ticket.suppression = .none ∨ (e.state.copyInputs begun default record).FallsThrough →
    outcome = e₂.state.closes config.limits committed record.preference ∧
      (outcome = .decisionCommitted → ∃ best record', ticket.ranking.find? (·.eligible) = some best ∧
        e₃.state.policies[policy]? = some record' ∧ record'.preference.preferredPath = best.path)
  /-- Any other verdict is recorded as it was told, and changes nothing else of the policy. -/
  kept : ticket.suppression ≠ .none → ¬ (e.state.copyInputs begun default record).FallsThrough →
    outcome = ticket.outcome ∧ ∃ entry, entry.outcome = ticket.outcome ∧
      entry.suppression = ticket.suppression ∧
      e₃.state.policies[policy]? = some (record.remember config.limits entry)

section
variable {config : EngineConfig} {e e₁ e₂ e₃ : Engine} {begun committed : Ticks}
  {request : EvaluateRequest} {ticket : EvaluationTicket} {record : PolicyRecord}
  {context : MutationContext} {registration : PublisherRegistration} {result : OperationResult}

/-- Phase two on a ticket that is not eligible records what it says. -/
theorem CommitEffect.keeps {limits : Limits} {s s' : State} {request : CommitDecisionRequest}
    {outcome : Outcome} (h : CommitEffect limits s committed request s' outcome)
    (hchecks : s.commitChecks request = .ok record) (hineligible : request.ticket.lifecycle ≠ .eligible) :
    outcome = request.ticket.outcome ∧ ∃ entry, entry.outcome = request.ticket.outcome ∧
      entry.suppression = request.ticket.suppression ∧
      s'.policies[request.ticket.dependencies.policy]? = some (record.remember limits entry) := by
  cases h with
  | refused checks => cases hchecks.symm.trans checks
  | @suppressed _ id decision checks _ decides =>
    cases hchecks.symm.trans checks
    subst decides
    refine ⟨rfl, historyEntry (s.suppressedDecision record request id) committed, rfl, rfl, ?_⟩
    simp only [State.recordAttempt_policies, State.journal_policies, State.putRecord_policies]
    exact Std.ExtTreeMap.getElem?_insert_self
  | unchanged _ eligible | unverified _ eligible | committed _ eligible =>
    exact absurd eligible hineligible

/-- Phase two on an eligible ticket that nothing but a bound stands against. -/
theorem CommitEffect.closes {limits : Limits} {s s' : State} {request : CommitDecisionRequest}
    {outcome : Outcome} {target : CandidateRecord}
    (h : CommitEffect limits s committed request s' outcome)
    (hchecks : s.commitChecks request = .ok record) (heligible : request.ticket.lifecycle = .eligible)
    (hother : alreadyCurrent record request.ticket = false)
    (hclears : Clears record request.ticket committed)
    (htarget : record.findCandidate request.ticket.targetPreference = some target)
    (hlegal : target.binding.pathAuthority.legal = true)
    (hgeneration : request.ticket.targetPathAuthorityGeneration =
      target.binding.pathAuthority.generation) :
    outcome = s.closes limits committed record.preference ∧
      (outcome = .decisionCommitted → ∃ record',
        s'.policies[request.ticket.dependencies.policy]? = some record' ∧
          record'.preference.preferredPath = request.ticket.targetPreference) := by
  have hverify := @verifyCommit_clears s limits committed record request.ticket target hclears htarget
    hlegal fun _ => hgeneration.symm
  cases h with
  | refused checks => cases hchecks.symm.trans checks
  | suppressed _ ineligible => exact absurd heligible ineligible
  | unchanged checks _ current =>
    cases hchecks.symm.trans checks
    cases hother.symm.trans current
  | unverified checks _ _ verified =>
    cases hchecks.symm.trans checks
    rcases hverify with ⟨_, _, hok, -⟩ | ⟨_, herror, hne⟩
    · cases hok.symm.trans verified
    · cases herror.symm.trans verified
      exact ⟨rfl, fun hcommitted => absurd hcommitted hne⟩
  | committed checks _ _ verified installs =>
    cases hchecks.symm.trans checks
    rcases hverify with ⟨_, _, -, hcloses⟩ | ⟨_, herror, -⟩
    · rw [State.recordAttempt_policies, State.journal_policies, State.putRecord_policies]
      refine ⟨hcloses.symm, fun _ => ⟨_, Std.ExtTreeMap.getElem?_insert_self, ?_⟩⟩
      subst installs
      exact PolicyRecord.findCandidate_path (State.verifyCommit_ok verified).1
    · cases herror.symm.trans verified

theorem beginChecks_valid {limits : Limits} (h : beginChecks limits e request = .ok record) :
    request.policy.valid = true := by
  unfold beginChecks at h
  obtain ⟨hvalid, -⟩ := seq_ok h
  simpa using hvalid

/-- What phase one says, and vouches for, when it takesUp a request. -/
structure Judged (e : Engine) (begun : Ticks) (record : PolicyRecord) (ticket : EvaluationTicket) :
    Prop where
  issued : ticket.lifecycle ≠ .rejected
  dependencies : ∃ evaluation, ticket.dependencies = e.state.buildDependencies begun record evaluation
  alike : ∀ captured, (explainedTicket e.state record (e.state.copyInputs begun captured record)).face =
    ticket.face
  ranking : ∀ captured, ticket.ranking = (e.state.copyInputs begun captured record).rank
  grants : ticket.lifecycle = .eligible → ∃ best target, ticket.ranking.find? (·.eligible) = some best ∧
    ticket.targetPreference = best.path ∧ alreadyCurrent record ticket = false ∧
    Clears record ticket begun ∧ record.findCandidate ticket.targetPreference = some target ∧
    target.binding.pathAuthority.legal = true ∧
    ticket.targetPathAuthorityGeneration = target.binding.pathAuthority.generation

theorem begin_judges (hosted : Hosted (fun _ _ _ => True) config e)
    (accepted : beginChecks config.limits e request = .ok record)
    (begins : e.step config (.beginEvaluation begun request) = some (e₁, .ticket ticket)) :
    e₁.state = e.state ∧ Judged e begun record ticket := by
  obtain ⟨⟨_, _⟩, hbegin, he⟩ := Option.map_eq_some_iff.1 begins
  cases he
  obtain ⟨hstate, hrefused | ⟨_, evaluation, evidence, decision, hchecks, rfl⟩⟩ :=
    beginEvaluation_cases hbegin
  · cases accepted.symm.trans hrefused
  cases accepted.symm.trans hchecks
  obtain ⟨_, hbegun⟩ := State.beginChecks_ok accepted
  have hordered := hosted.ordered _ _ hbegun.found
  have hissues := (e.state.copyInputs begun evidence record).evaluate_issues
    (e.state.buildDependencies begun record evaluation)
  have hranking := (e.state.copyInputs begun evidence record).evaluate_ranking
    (e.state.buildDependencies begun record evaluation)
  have halike (captured : EvidenceSnapshotId) :=
    evaluations_alike e.state begun record evidence captured evaluation default
  refine ⟨hstate, ?_, ⟨evaluation, hissues.dependencies⟩, halike, fun captured => ?_, fun h => ?_⟩
  · rcases hissues.verdict with h | h
    · exact fun hrejected => by cases h.symm.trans hrejected
    · exact fun hrejected => by cases h.1.symm.trans hrejected
  · have hsame := (congrArg EvaluationTicket.ranking (halike captured) :)
    exact hsame.symm.trans (EvaluationInputs.evaluate_ranking _ _)
  · obtain ⟨best, hgrants⟩ := evaluate_grants (hosted.idle _ _ hbegun.found) h
    have hfound := hgrants.top
    obtain ⟨target, hmem, rfl⟩ :=
      EvaluationInputs.mem_rank _ (List.mem_of_find?_eq_some hfound)
    have heligible := EvaluationInputs.evaluateCandidate_eligible _ (List.find?_some hfound)
    have hpath := (hgrants.target.trans (EvaluationInputs.evaluateCandidate_path _ target))
    refine ⟨_, target, ?_, hgrants.target, hgrants.other, ?_, ?_, ?_, ?_⟩
    · exact (congrArg (·.find? (·.eligible)) hranking).trans hfound
    · exact ⟨hgrants.clears.holdDown, hgrants.clears.cooldown, hgrants.clears.churn⟩
    · rw [PolicyRecord.findCandidate_eq_find? hordered]
      exact (find?_eq_some_of_distinct (Search.keys_nodup hordered)).2 ⟨hmem, hpath.symm⟩
    · unfold upstreamRejection at heligible
      by_contra hillegal
      rw [if_pos (by simpa using hillegal)] at heligible
      cases heligible
    · exact hgrants.generation.trans (evaluateCandidate_generation _ target)

/-- The explanation tells the verdict of the ticket. -/
theorem Judged.tells (h : Judged e begun record ticket) (captured : EvidenceSnapshotId) :
    let told := explainedTicket e.state record (e.state.copyInputs begun captured record)
    told.lifecycle = ticket.lifecycle ∧ told.outcome = ticket.outcome ∧
      told.suppression = ticket.suppression ∧ told.ranking = ticket.ranking :=
  ⟨(congrArg EvaluationTicket.lifecycle (h.alike captured) :),
    (congrArg EvaluationTicket.outcome (h.alike captured) :),
    (congrArg EvaluationTicket.suppression (h.alike captured) :),
    (congrArg EvaluationTicket.ranking (h.alike captured) :)⟩

/-- What is explained is what is done: a ticket that waits while nothing concerns its policy is only
refused for the bound on pending transitions or an exhausted generation. -/
theorem explained_is_done (hosted : Hosted (fun _ _ _ => True) config e)
    (accepted : beginChecks config.limits e request = .ok record)
    (begins : e.step config (.beginEvaluation begun request) = some (e₁, .ticket ticket))
    (past : ∀ stamp ∈ record.timing.churnCommits, stamp ≤ begun)
    (waits : RunUnder config (Aside config request.policy) e₁ e₂) (later : begun ≤ committed)
    (caller : e₂.state.checkCaller context none none = .ok registration)
    (fresh : e₂.state.replayCheck context.attempt (fingerprintCommit ticket) = none)
    (commits : e₂.step config (.commitEvaluation committed { ticket, context }) =
      some (e₃, .result result)) :
    Foretold config e begun request.policy record ticket e₂ committed e₃ result.outcome := by
  obtain ⟨hstate, hjudged⟩ := begin_judges hosted accepted begins
  obtain ⟨_, hbegun⟩ := State.beginChecks_ok accepted
  have hid : record.policy.id = request.policy := hosted.keyed _ _ hbegun.found
  have hdistinct (captured : EvidenceSnapshotId) :
      ((e.state.copyInputs begun captured record).candidates.map (·.binding.path)).Nodup :=
    Search.keys_nodup (hosted.ordered _ _ hbegun.found)
  have hunstirred : Unstirred request.policy e.state e₂.state := by
    have hrun := unstirred_run (hstate.symm ▸ hosted.keyed)
      (hstate.symm ▸ hbegun.found : e₁.state.policies[request.policy]? = some record) waits
    rwa [hstate] at hrun
  obtain ⟨evaluation, hdependencies⟩ := hjudged.dependencies
  have hpolicy : ticket.dependencies.policy = request.policy := by
    rw [hdependencies]
    exact hid
  have hchecks := commitChecks_unstirred hunstirred hbegun.found hid (beginChecks_valid accepted)
    hbegun.active hjudged.issued hdependencies caller fresh
  obtain ⟨⟨_, _⟩, hcommit, he⟩ := Option.map_eq_some_iff.1 commits
  cases he
  have heffect := commitEvaluation_cases hcommit
  have hgranted : ticket.lifecycle = .eligible ↔ ticket.suppression = .none ∨
      (e.state.copyInputs begun default record).FallsThrough := by
    obtain ⟨hlifecycle, -, hsuppression, -⟩ := hjudged.tells default
    rw [← hlifecycle, ← hsuppression]
    exact evaluate_granted_iff _ _
  refine ⟨fun captured => ?_, fun e' view hsnapshot => ?_, fun h => ?_, fun hnamed hstays => ?_⟩
  · obtain ⟨-, houtcome, hsuppression, hranking⟩ := hjudged.tells captured
    unfold State.explain
    rw [hbegun.found, ← hid]
    unfold buildExplanation topicExplanation topicExplanation.comparison
    dsimp only
    rw [houtcome, hsuppression, hranking]
  · obtain ⟨id, captured, hview⟩ := snapshot_views hbegun.found hsnapshot
    cases hview
    have hshown : (e.state.viewRecord begun id captured record).candidates =
        record.candidates.map (State.candidateView ticket.ranking) := by
      rw [hjudged.ranking captured, ← EvaluationInputs.evaluate_ranking _
        (e.state.buildDependencies begun record default)]
      rfl
    rw [hshown, hjudged.ranking captured]
    refine ⟨fun seen hseen => ?_, fun ranked hranked => ?_⟩
    · obtain ⟨candidate, hmem, rfl⟩ := List.mem_map.1 hseen
      have hfinds := rank_finds (hdistinct captured) hmem
      exact ⟨_, List.mem_of_find?_eq_some hfinds, candidateView_shows hfinds⟩
    · obtain ⟨candidate, hmem, rfl⟩ := EvaluationInputs.mem_rank _ hranked
      exact ⟨_, List.mem_map_of_mem hmem, candidateView_shows (rank_finds (hdistinct captured) hmem)⟩
  · have heligible := hgranted.2 h
    obtain ⟨best, target, hbest, htarget, hother, hclears, hfound, hlegal, hgeneration⟩ :=
      hjudged.grants heligible
    obtain ⟨hcloses, hinstalls⟩ := heffect.closes hchecks heligible hother
      (hclears.later later past) hfound hlegal hgeneration
    refine ⟨hcloses, fun hcommitted => ?_⟩
    obtain ⟨record', hrecord', hpath⟩ := hinstalls hcommitted
    exact ⟨best, record', hbest, hpolicy ▸ hrecord', hpath.trans htarget⟩
  · have hineligible : ticket.lifecycle ≠ .eligible := fun heligible =>
      (hgranted.1 heligible).elim hnamed hstays
    obtain ⟨houtcome, entry, hentry, hsuppression, hrecord⟩ := heffect.keeps hchecks hineligible
    exact ⟨houtcome, entry, hentry, hsuppression, hpolicy ▸ hrecord⟩

end

namespace Scenario

/-- The challenged policy is evaluated for a commit that follows later. -/
def weigh : Op := .beginEvaluation 3 (evaluation "weigh")

/-- Meanwhile another publisher registers. -/
def enrolOther : Op := .registerPublisher (name "other") (name "other-boot") scope (name "other-session")

def waited : List Op := challenged ++ [weigh] ++ [enrolOther]

def closing : Op :=
  .commitEvaluation 5 { ticket := ticketAfter challenged weigh, context := context 1 "close" }

theorem enrolOther_aside (e : Engine) : Aside config policy e enrolOther where
  elsewhere := id
  updates := by simp [enrolOther]
  commits := by simp [enrolOther]
  notifies := by simp [enrolOther]
  publishes := by simp [enrolOther]
  advances := by simp [enrolOther]
  recovers := rfl
  unpublished := by simp [enrolOther]

/-- The request is evaluated, on a record without adaptations ahead of the reading. -/
def takesUp (ops : List Op) (request : EvaluateRequest) (begun : Ticks) : Bool :=
  (beginChecks config.limits (after ops) request).toOption.any fun record =>
    record.timing.churnCommits.all fun stamp => stamp ≤ begun

theorem taken_record {ops : List Op} {request : EvaluateRequest} {begun : Ticks}
    (h : takesUp ops request begun = true) : ∃ record,
      beginChecks config.limits (after ops) request = .ok record ∧
        ∀ stamp ∈ record.timing.churnCommits, stamp ≤ begun := by
  unfold takesUp at h
  cases hchecks : beginChecks config.limits (after ops) request with
  | error _ =>
    rw [hchecks] at h
    cases h
  | ok record =>
    rw [hchecks] at h
    refine ⟨record, rfl, fun stamp hstamp => ?_⟩
    exact of_decide_eq_true (List.all_eq_true.1 h stamp hstamp)

end Scenario

open Scenario in
/-- The ticket that waited is committed. -/
theorem waiting_ticket_commits : ∃ record result,
    (after waited).step config closing = some (after (waited ++ [closing]), .result result) ∧
      result.outcome = .decisionCommitted ∧
      Foretold config (after challenged) 3 policy record (ticketAfter challenged weigh) (after waited) 5
        (after (waited ++ [closing])) result.outcome := by
  have hosted := (hosted_unaided (by decide +kernel : returns challenged = true)
    (by decide +kernel)).mono fun _ _ _ _ => trivial
  obtain ⟨record, haccepted, hpast⟩ :=
    taken_record (by decide +kernel : takesUp challenged (evaluation "weigh") 3 = true)
  have hbegins := step_ticket (by decide +kernel : returns (challenged ++ [weigh]) = true)
    (by decide +kernel)
  obtain ⟨_, hwaits⟩ := step_after (challenged ++ [weigh]) enrolOther (by decide +kernel)
  obtain ⟨result, hcommits, hcommitted⟩ := @step_result waited closing .decisionCommitted
    (by decide +kernel) (by decide +kernel)
  obtain ⟨registration, hcaller⟩ : ∃ registration,
      (after waited).state.checkCaller (context 1 "close") none none = .ok registration := by
    cases hchecks : (after waited).state.checkCaller (context 1 "close") none none with
    | ok registration => exact ⟨registration, rfl⟩
    | error refusal =>
      have hok : ((after waited).state.checkCaller (context 1 "close") none none).isOk = true := by
        decide +kernel
      rw [hchecks] at hok
      cases hok
  have hfresh : ((after waited).state.replayCheck (context 1 "close").attempt
      (fingerprintCommit (ticketAfter challenged weigh))).isNone = true := by decide +kernel
  exact ⟨record, result, hcommits, hcommitted, explained_is_done hosted haccepted hbegins hpast
    (.single (enrolOther_aside _) hwaits) (by decide) hcaller (Option.isNone_iff_eq_none.1 hfresh)
    hcommits⟩

end AdaptiveRouting
