import AdaptiveRouting.Proof.Trespass

/-!
# Fidelity of a commit

Phase two evaluates nothing: what it installs is what an evaluation of its own state chooses only as
far as the ticket still says so. A ticket phase one issued does. The generations it carries fix the
facts and the evidence it was computed from (`facts_of_rises`, `Holding.run`), an adaptation
generation that has not moved fixes the preference (`Rests`), and the timing gates only open as the
clock goes on. So the inputs of the commit renew those of the ticket (`EvaluationInputs.Renews`), and
the verdict and the target are the same (`issued_ticket_commits_faithfully`).
-/

namespace AdaptiveRouting

open Guard Engine

/-! ## Inputs that renew others -/

/-- The timing holds back nothing that the earlier one did not. -/
structure TimingState.Eases (timing before : TimingState) : Prop where
  holdDown : timing.holdDownActive = true →
    before.holdDownActive = true ∧ timing.holdDownDeadline = before.holdDownDeadline
  cooldown : timing.cooldownActive = true →
    before.cooldownActive = true ∧ timing.cooldownDeadline = before.cooldownDeadline
  penalty : timing.dampeningPenalty = before.dampeningPenalty
  commits : timing.churnCommits.Sublist before.churnCommits

theorem TimingState.Eases.refl (timing : TimingState) : timing.Eases timing :=
  ⟨fun h => ⟨h, rfl⟩, fun h => ⟨h, rfl⟩, rfl, List.Sublist.refl _⟩

theorem TimingState.Eases.trans {a b c : TimingState} (h₁ : b.Eases a) (h₂ : c.Eases b) :
    c.Eases a where
  holdDown := fun h =>
    ⟨(h₁.holdDown (h₂.holdDown h).1).1, (h₂.holdDown h).2.trans (h₁.holdDown (h₂.holdDown h).1).2⟩
  cooldown := fun h =>
    ⟨(h₁.cooldown (h₂.cooldown h).1).1, (h₂.cooldown h).2.trans (h₁.cooldown (h₂.cooldown h).1).2⟩
  penalty := h₂.penalty.trans h₁.penalty
  commits := h₂.commits.trans h₁.commits

namespace EvaluationInputs

/-- The same policy over the same facts, values and preference, read later. -/
structure Renews (later inputs : EvaluationInputs) : Prop where
  semantics : later.policy.semantics = inputs.policy.semantics
  facts : later.candidates.map (·.binding.facts) = inputs.candidates.map (·.binding.facts)
  preference : later.preference = inputs.preference
  timing : later.timing.Eases inputs.timing
  lookups : ∀ requirement ∈ inputs.policy.semantics.evidence, ∀ path,
    later.lookupMetric path requirement = inputs.lookupMetric path requirement
  clock : inputs.now ≤ later.now
  stamps : ∀ stamp ∈ inputs.timing.churnCommits, stamp ≤ inputs.now

namespace Renews

section
variable {later inputs : EvaluationInputs} {path : PathId}

theorem evidenceGate (h : later.Renews inputs) : later.evidenceGate path = inputs.evidenceGate path := by
  unfold EvaluationInputs.evidenceGate
  rw [h.semantics]
  refine List.foldl_ext _ _ _ fun _ requirement hin => ?_
  rw [h.lookups requirement hin path]

theorem findRequirement_mem {semantics : PolicySemantics} {kind : MetricKind}
    {requirement : EvidenceRequirement} (h : semantics.findRequirement kind = some requirement) :
    requirement ∈ semantics.evidence :=
  List.mem_of_find?_eq_some h

theorem objectiveMetrics (h : later.Renews inputs) :
    later.objectiveMetrics path = inputs.objectiveMetrics path := by
  unfold EvaluationInputs.objectiveMetrics
  rw [h.semantics]
  refine congrArg (List.mapM · _) (funext fun term => ?_)
  cases hrequirement : inputs.policy.semantics.findRequirement term.kind with
  | none => rfl
  | some requirement =>
    have hfound {reason : SuppressionReason} : orRefuse (some requirement) reason = .ok requirement :=
      orRefuse_of rfl
    rw [bind_of hfound, bind_of hfound, h.lookups requirement (findRequirement_mem hrequirement) path]

/-- Candidates of the same facts are evaluated alike. -/
theorem evaluateCandidate (h : later.Renews inputs) {candidate candidate' : CandidateRecord}
    (hfacts : candidate'.binding.facts = candidate.binding.facts) :
    later.evaluateCandidate candidate' = inputs.evaluateCandidate candidate := by
  have hpath : candidate'.binding.path = candidate.binding.path := congrArg UpstreamFacts.path hfacts
  have hauthority : candidate'.binding.pathAuthority.generation =
      candidate.binding.pathAuthority.generation := congrArg UpstreamFacts.authority hfacts
  have hroute : candidate'.binding.route.generation = candidate.binding.route.generation :=
    congrArg UpstreamFacts.route hfacts
  have hmultipath : candidate'.binding.multipath = candidate.binding.multipath :=
    congrArg UpstreamFacts.multipath hfacts
  unfold EvaluationInputs.evaluateCandidate
  dsimp only
  rw [h.semantics, h.preference, hpath, hauthority, hroute, hmultipath,
    CandidateBinding.upstreamRejection_of_facts hfacts, h.evidenceGate, h.objectiveMetrics]

/-- So the ranking is the same. -/
theorem rank (h : later.Renews inputs) : later.rank = inputs.rank := by
  have halike : List.Forall₂ (fun c' c : CandidateRecord => c'.binding.facts = c.binding.facts)
      later.candidates inputs.candidates := by
    have hsame := h.facts
    rw [← List.forall₂_eq_eq_eq, List.forall₂_map_left_iff, List.forall₂_map_right_iff] at hsame
    exact hsame
  have hevaluations : later.candidates.map later.evaluateCandidate =
      inputs.candidates.map inputs.evaluateCandidate := by
    rw [← List.forall₂_eq_eq_eq, List.forall₂_map_left_iff, List.forall₂_map_right_iff]
    exact halike.imp fun _ _ hfacts => h.evaluateCandidate hfacts
  unfold EvaluationInputs.rank
  rw [hevaluations, h.semantics]

theorem topRanked (h : later.Renews inputs) : later.topRanked = inputs.topRanked := by
  unfold EvaluationInputs.topRanked
  rw [h.rank]

/-! ## The verdict on renewed inputs -/

theorem measures (h : later.Renews inputs) {kind : MetricKind} {value : MetricValue} :
    later.Measures path kind value ↔ inputs.Measures path kind value := by
  unfold Measures
  rw [h.semantics]
  refine exists_congr fun requirement => exists_congr fun quality => and_congr_right fun hfound => ?_
  rw [h.lookups requirement (findRequirement_mem hfound) path]

theorem enters (h : later.Renews inputs) {rule : ThresholdRule} :
    later.Enters path rule ↔ inputs.Enters path rule := by
  unfold Enters
  simp only [h.measures]

theorem crosses (h : later.Renews inputs) {rule : ThresholdRule} :
    later.Crosses path rule ↔ inputs.Crosses path rule := by
  unfold Crosses
  simp only [h.measures, h.preference]

theorem improves (h : later.Renews inputs) {rule : ImprovementRule} :
    later.Improves path rule ↔ inputs.Improves path rule := by
  unfold Improves requirement
  simp only [h.measures, h.preference]

/-- A condition of the preferred path is one of its facts. -/
theorem afflicted (h : later.Renews inputs) {condition : EmergencyCondition}
    (hafflicted : inputs.Afflicted condition) : later.Afflicted condition := by
  have hback {c : CandidateRecord} {candidates candidates' : List CandidateRecord}
      (hsame : candidates'.map (·.binding.facts) = candidates.map (·.binding.facts))
      (hin : c ∈ candidates) : ∃ c' ∈ candidates', c'.binding.facts = c.binding.facts := by
    have hmem : c.binding.facts ∈ candidates'.map (·.binding.facts) := by
      rw [hsame]
      exact List.mem_map_of_mem hin
    exact List.mem_map.1 hmem
  have hall {condition : EmergencyCondition}
      (hfacts : ∀ b b' : CandidateBinding, b'.facts = b.facts →
        condition.afflicts b' = condition.afflicts b)
      (hafflicted : ∀ c ∈ inputs.candidates, c.binding.path = inputs.preference.preferredPath →
        condition.afflicts c.binding = true) :
      ∀ c ∈ later.candidates, c.binding.path = later.preference.preferredPath →
        condition.afflicts c.binding = true := by
    intro c hin hpath
    obtain ⟨seen, hseen, hsame⟩ := hback h.facts.symm hin
    rw [← hfacts _ _ hsame]
    refine hafflicted seen hseen ?_
    rw [← h.preference]
    exact (congrArg UpstreamFacts.path hsame).trans hpath
  cases condition with
  | hardFailure =>
    obtain ⟨c, hin, hpath, hfailure⟩ := hafflicted
    obtain ⟨c', hin', hsame⟩ := hback h.facts hin
    refine ⟨c', hin', ?_, ?_⟩
    · rw [h.preference]
      exact (congrArg UpstreamFacts.path hsame).trans hpath
    · exact (congrArg UpstreamFacts.hardFailure hsame).trans hfailure
  | unavailable =>
    exact hall (fun _ _ hsame => congrArg Bool.not (congrArg UpstreamFacts.available hsame)) hafflicted
  | unauthorized =>
    exact hall (fun _ _ hsame => congrArg Bool.not (congrArg UpstreamFacts.legal hsame)) hafflicted

theorem triggers (h : later.Renews inputs) {condition : EmergencyCondition}
    (htriggers : inputs.Triggers condition) : later.Triggers condition where
  established := by rw [h.preference]; exact htriggers.established
  enabled := by rw [h.semantics]; exact htriggers.enabled
  reacts := by rw [h.semantics]; exact htriggers.reacts
  afflicted := h.afflicted htriggers.afflicted

/-- A gate that was open is open. -/
theorem departs (h : later.Renews inputs) (hdeparts : inputs.Departs path) : later.Departs path where
  incumbent := by rw [h.rank, h.preference]; exact hdeparts.incumbent
  holdDown := by
    rintro ⟨hdisplaced, hheld⟩
    obtain ⟨hactive, hdeadline⟩ := h.timing.holdDown hheld.active
    refine hdeparts.holdDown ⟨?_, hactive, ?_, ?_⟩
    · unfold Displaced at hdisplaced ⊢
      rwa [← h.preference]
    · have hdeclared := hheld.declared
      rwa [h.semantics, h.timing.penalty] at hdeclared
    · rw [← hdeadline]
      exact UInt64.lt_of_le_of_lt h.clock hheld.running
  cooldown := by
    intro hcooling
    obtain ⟨hactive, hdeadline⟩ := h.timing.cooldown hcooling.active
    refine hdeparts.cooldown ⟨hactive, ?_⟩
    rw [← hdeadline]
    exact UInt64.lt_of_le_of_lt h.clock hcooling.running
  thresholds := by
    rw [h.semantics]
    exact fun rule hin => h.crosses.2 (hdeparts.thresholds rule hin)
  improvements := by
    rw [h.semantics]
    exact fun rule hin => h.improves.2 (hdeparts.improvements rule hin)
  churn := by
    rintro ⟨henabled, hspent⟩
    rw [h.semantics] at henabled hspent
    have hfewer : recentCommits inputs.policy.semantics.churn later.timing later.now ≤
        recentCommits inputs.policy.semantics.churn inputs.timing later.now :=
      h.timing.commits.countP_le
    exact hdeparts.churn ⟨henabled,
      hspent.trans (hfewer.trans (recentCommits_later h.clock h.stamps))⟩

/-- What was admitted is admitted. -/
theorem verdict (h : later.Renews inputs) (hverdict : inputs.Verdict path) : later.Verdict path := by
  cases hverdict with
  | first hfirst henters =>
    refine .first (by rw [h.preference]; exact hfirst) ?_
    rw [h.semantics]
    exact fun rule hin => h.enters.2 (henters rule hin)
  | emergency hestablished hother htriggers =>
    obtain ⟨condition, htriggers⟩ := htriggers
    exact .emergency (by rw [h.preference]; exact hestablished) (by rw [h.preference]; exact hother)
      ⟨condition, h.triggers htriggers⟩
  | ordinary hestablished hother hdeparts =>
    exact .ordinary (by rw [h.preference]; exact hestablished) (by rw [h.preference]; exact hother)
      (h.departs hdeparts)

end

end Renews

end EvaluationInputs

/-! ## Preferences that rest -/

/-- The record is past a generation or an adaptation, or has the preference it had and a timing that
eases. -/
def PolicyRecord.Rests (r before : PolicyRecord) : Prop :=
  before.policy.generation < r.policy.generation ∨
    before.policy.generation = r.policy.generation ∧
      (before.preference.adaptationGeneration < r.preference.adaptationGeneration ∨
        r.preference = before.preference ∧ r.timing.Eases before.timing)

theorem PolicyRecord.Rests.refl (r : PolicyRecord) : r.Rests r := .inr ⟨rfl, .inr ⟨rfl, .refl _⟩⟩

theorem PolicyRecord.Rests.trans {a b c : PolicyRecord} (h₁ : b.Rests a) (h₂ : c.Rests b) :
    c.Rests a := by
  rcases h₁ with h | ⟨h, h₁⟩ <;> rcases h₂ with h' | ⟨h', h₂⟩
  · exact .inl (UInt64.lt_trans h h')
  · exact .inl (h' ▸ h)
  · exact .inl (h ▸ h')
  · refine .inr ⟨h.trans h', ?_⟩
    rcases h₁ with hlt | ⟨hpreference, heases⟩ <;> rcases h₂ with hlt' | ⟨hpreference', heases'⟩
    · exact .inl (UInt64.lt_trans hlt hlt')
    · rw [hpreference']
      exact .inl hlt
    · rw [hpreference] at hlt'
      exact .inl hlt'
    · exact .inr ⟨hpreference'.trans hpreference, heases.trans heases'⟩

section
variable {config : EngineConfig} {e e' : Engine} {op : Op} {policy : AdaptivePolicyId}
  {record record' : PolicyRecord}

theorem Rewrites.rests (h : Rewrites config.limits e op policy record record') :
    record'.Rests record := by
  cases h with
  | updated checks =>
    obtain ⟨_, haccepted⟩ := State.updateChecks_ok checks
    refine .inl ?_
    unfold State.updatedRecord
    dsimp only
    split <;> exact Generation.lt_next haccepted.next
  | held | moved | revoked | suppressed => exact .inr ⟨rfl, .inr ⟨rfl, .refl _⟩⟩
  | committed _ _ _ _ verified installs =>
    subst installs
    exact .inr ⟨rfl, .inl (Generation.lt_next (State.verifyCommit_ok verified).2.1)⟩
  | restored _ verified decides =>
    subst decides
    exact .inr ⟨rfl, .inl (Generation.lt_next (State.verifyRollback_ok verified).2.2.1)⟩

theorem RecordChange.rests (h : RecordChange config e op policy record record') :
    record'.Rests record := by
  cases h with
  | kept => exact .refl record
  | rewritten rewrites => exact rewrites.rests
  | advanced =>
    unfold State.requireRevalidation
    dsimp only
    split <;> exact .inr ⟨rfl, .inr ⟨rfl, nofun, nofun, rfl, List.nil_sublist _⟩⟩
  | notified _ _ _ frame =>
    refine .inr ⟨?_, .inr ⟨PolicyRecord.preference_of_frame frame, ?_⟩⟩
    · rw [PolicyRecord.policy_of_frame frame]
    · rw [PolicyRecord.timing_of_frame frame]
      exact .refl _

end

/-! ## Between the phases -/

/-- What the comparisons of phase two rely on between the phases: the notifications are watched, the
publications counted, and no store of an earlier epoch is recovered. -/
structure Attended (config : EngineConfig) (policy : AdaptivePolicyId) (epoch : CoordinatorEpoch)
    (e : Engine) (op : Op) : Prop where
  watches : Watches config policy epoch e op
  counted : Counted config epoch e op

/-- The clock went on from phase one, whose reading no adaptation of the record is ahead of, and no
evidence that was current then is over its age now. -/
structure State.OnTime (s : State) (begun now : Ticks) (record : PolicyRecord) : Prop where
  clock : begun ≤ now
  stamps : ∀ stamp ∈ record.timing.churnCommits, stamp ≤ begun
  evidence : ∀ requirement ∈ record.policy.semantics.evidence, ∀ path resolved,
    (s.captureEvidence begun default record).find path requirement.kind = some resolved →
      resolved.aggregate.age begun ≤ requirement.maxAge →
      resolved.aggregate.age now ≤ requirement.maxAge

/-- The ticket says what another one does, as far as phase two reads it. -/
structure EvaluationTicket.Repeats (ticket issued : EvaluationTicket) : Prop where
  dependencies : ticket.dependencies = issued.dependencies
  lifecycle : ticket.lifecycle = issued.lifecycle
  outcome : ticket.outcome = issued.outcome
  target : ticket.targetPreference = issued.targetPreference
  emergency : ticket.emergency = issued.emergency

theorem EvidenceAggregate.age_mono (aggregate : EvidenceAggregate) {begun now : Ticks}
    (h : begun ≤ now) : aggregate.age begun ≤ aggregate.age now := by
  unfold age
  simp only [ge_iff_le, UInt64.le_iff_toNat_le] at h ⊢
  split
  · rename_i hbegun
    rw [if_pos (hbegun.trans h), UInt64.toNat_sub_of_le _ _ (UInt64.le_iff_toNat_le.2 hbegun),
      UInt64.toNat_sub_of_le _ _ (UInt64.le_iff_toNat_le.2 (hbegun.trans h))]
    omega
  · exact Nat.zero_le _

/-- A lookup that finds the same evidence, of an age on the same side of the bound, finds the same
value. -/
theorem EvaluationInputs.lookupMetric_current {later inputs : EvaluationInputs} {path : PathId}
    {requirement : EvidenceRequirement}
    (hfind : later.evidence.find path requirement.kind = inputs.evidence.find path requirement.kind)
    (hage : ∀ resolved, inputs.evidence.find path requirement.kind = some resolved →
      (resolved.aggregate.age later.now ≤ requirement.maxAge ↔
        resolved.aggregate.age inputs.now ≤ requirement.maxAge)) :
    later.lookupMetric path requirement = inputs.lookupMetric path requirement := by
  unfold lookupMetric
  rw [hfind]
  cases hfound : inputs.evidence.find path requirement.kind with
  | none => rfl
  | some resolved =>
    have hsame : decide (resolved.aggregate.age later.now > requirement.maxAge) =
        decide (resolved.aggregate.age inputs.now > requirement.maxAge) := by
      rw [decide_eq_decide, gt_iff_lt, gt_iff_lt, ← UInt64.not_le, ← UInt64.not_le, hage resolved hfound]
    have horRefuse {reason : SuppressionReason} : orRefuse (some resolved) reason = .ok resolved :=
      orRefuse_of rfl
    rw [bind_of horRefuse, bind_of horRefuse]
    dsimp only
    rw [hsame]

section
variable {s s' : State} {record record' : PolicyRecord} {begun now : Ticks}

/-- The inputs of a later state renew those of an earlier one. -/
theorem State.inputsAt_renews
    (hevidence : s'.evidence = s.evidence)
    (hsemantics : record'.policy.semantics = record.policy.semantics)
    (hfacts : record'.candidates.map (·.binding.facts) = record.candidates.map (·.binding.facts))
    (hpreference : record'.preference = record.preference)
    (htiming : record'.timing.Eases record.timing) (hontime : s.OnTime begun now record) :
    (s'.inputsAt now record').Renews (s.inputsAt begun record) where
  semantics := hsemantics
  facts := hfacts
  preference := hpreference
  timing := htiming
  clock := hontime.clock
  stamps := hontime.stamps
  lookups := by
    intro requirement hin path
    have hpaths : record'.paths = record.paths := by
      have hmap := congrArg (List.map UpstreamFacts.path) hfacts
      rw [List.map_map, List.map_map] at hmap
      exact hmap
    have hfind : (s'.captureEvidence now default record').find path requirement.kind =
        (s.captureEvidence begun default record).find path requirement.kind :=
      captureEvidence_find (fun key _ => by rw [hevidence]) hpaths hsemantics begun now default default
        path requirement.kind
    refine EvaluationInputs.lookupMetric_current hfind fun resolved hfound => ?_
    exact ⟨fun hnow => UInt64.le_trans (resolved.aggregate.age_mono hontime.clock) hnow,
      hontime.evidence requirement hin path resolved hfound⟩

end

/-! ## Commits -/

section
variable {config : EngineConfig} {e e' e₁ e₂ : Engine} {begun now : Ticks} {request : EvaluateRequest}
  {ticket : EvaluationTicket} {before record : PolicyRecord}

/-- Behind the adaptation generation, the preference rests in every run whose recovered stores are not
older. -/
theorem rests_run {ok : Engine → Op → Prop} {policy : AdaptivePolicyId} {epoch : CoordinatorEpoch}
    (hd : During policy epoch (·.Rests before) e.state)
    (hok : ∀ e op, ok e op → RecoversFrom config.limits epoch e op) (h : RunUnder config ok e e') :
    During policy epoch (·.Rests before) e'.state :=
  h.inv (I := fun e => During policy epoch (·.Rests before) e.state)
    (fun e op _ _ hop hd hstep =>
      hd.step (hok e op hop) (fun _ _ _ hchange hr => hr.trans hchange.rests) hstep) hd

/-- At the epoch and the generations it had, the record has the preference it had. -/
theorem rests_at {s : State} {policy : AdaptivePolicyId} {epoch : CoordinatorEpoch}
    (hd : During policy epoch (·.Rests before) s) (hepoch : s.epoch = epoch)
    (hrecord : s.policies[policy]? = some record)
    (hgeneration : record.policy.generation = before.policy.generation)
    (hadaptation : record.preference.adaptationGeneration = before.preference.adaptationGeneration) :
    record.preference = before.preference ∧ record.timing.Eases before.timing := by
  rcases hd with hlt | ⟨-, found, hfound, hrests⟩
  · rw [hepoch] at hlt
    exact absurd hlt (UInt64.lt_irrefl _)
  · cases hrecord.symm.trans hfound
    rcases hrests with hlt | ⟨-, hlt | hrested⟩
    · rw [hgeneration] at hlt
      exact absurd hlt (UInt64.lt_irrefl _)
    · rw [hadaptation] at hlt
      exact absurd hlt (UInt64.lt_irrefl _)
    · exact hrested

/-- What a commit finds, at the generations of phase one and the adaptation generation it had, renews
what the ticket was computed from. -/
theorem attended_renews (hstate : e'.state = e.state)
    (hrun : RunUnder config (Attended config request.policy e.state.epoch) e' e₁)
    (hbefore : e.state.policies[request.policy]? = some before)
    (hrecord : e₁.state.policies[request.policy]? = some record)
    (hepoch : e₁.state.epoch = e.state.epoch)
    (hgeneration : record.policy.generation = before.policy.generation)
    (hevidence : e₁.state.evidenceGeneration = e.state.evidenceGeneration)
    {evaluation : EvaluationId} (hdrift : dependencyDrift record.candidates
      (e.state.buildDependencies begun before evaluation) = none)
    (hadaptation : record.preference.adaptationGeneration = before.preference.adaptationGeneration)
    (hontime : e.state.OnTime begun now before) :
    (e₁.state.inputsAt now record).Renews (e.state.inputsAt begun before) := by
  have hholding : Holding e.state.epoch e.state.evidenceGeneration e.state.evidence e₁.state :=
    Holding.run (hstate ▸ .inr ⟨rfl, .inr ⟨rfl, rfl⟩⟩) (hrun.mono fun _ _ hop => hop.counted)
  have hfollows : During request.policy e.state.epoch (·.Follows before) e₁.state :=
    follows_run (.start hstate hbefore (.refl before)) (hrun.mono fun _ _ hop => hop.watches)
  have hrests : During request.policy e.state.epoch (·.Rests before) e₁.state :=
    rests_run (.start hstate hbefore (.refl before)) (fun _ _ hop => hop.counted.recovery) hrun
  obtain ⟨hsemantics, hrises⟩ := follows_at hfollows hepoch hrecord hgeneration
  obtain ⟨hpreference, heases⟩ := rests_at hrests hepoch hrecord hgeneration hadaptation
  exact State.inputsAt_renews (holding_at hholding hepoch hevidence) hsemantics
    (facts_of_rises hrises hdrift) hpreference heases hontime

/-- An eligible ticket of phase one is the verdict on a record of the policy. -/
theorem begin_proposes (hbegin : beginEvaluation config.limits e begun request = some (e', ticket))
    (hissued : ticket.lifecycle = .eligible) :
    e'.state = e.state ∧ ∃ before, e.state.policies[request.policy]? = some before ∧
      (∃ evaluation, ticket.dependencies = e.state.buildDependencies begun before evaluation) ∧
      (e.state.reevaluate begun before).lifecycle = .eligible ∧
      ticket.targetPreference = (e.state.reevaluate begun before).targetPreference ∧
      ticket.emergency = (e.state.reevaluate begun before).emergency := by
  obtain ⟨hstate, hrefused | ⟨before, _, _, _, hchecks, -⟩⟩ := beginEvaluation_cases hbegin
  · cases (beginChecks_refuses _ _ _ _ hrefused).lifecycle.symm.trans hissued
  obtain ⟨_, haccepted⟩ := State.beginChecks_ok hchecks
  obtain ⟨hdependencies, hlifecycle, htarget, -, hemergency⟩ := begin_reevaluates hbegin hchecks
  exact ⟨hstate, before, haccepted.found, hdependencies, hlifecycle.symm.trans hissued, htarget,
    hemergency⟩

/-- What phase one proposed is what renewed inputs propose. -/
theorem EvaluationInputs.Renews.evaluate {later inputs : EvaluationInputs}
    (h : later.Renews inputs) (hdistinct : (inputs.candidates.map (·.binding.path)).Nodup)
    {dependencies dependencies' : DependencySnapshot}
    (heligible : (inputs.evaluate dependencies).lifecycle = .eligible) :
    (later.evaluate dependencies').lifecycle = .eligible ∧
      (later.evaluate dependencies').targetPreference =
        (inputs.evaluate dependencies).targetPreference ∧
      ((inputs.evaluate dependencies).emergency = true → later.emergencyReason.isSome = true) := by
  have hdistinct' : (later.candidates.map (·.binding.path)).Nodup := by
    have hpaths := congrArg (List.map UpstreamFacts.path) h.facts
    rw [List.map_map, List.map_map] at hpaths
    exact hpaths ▸ hdistinct
  obtain ⟨hverdict, htarget⟩ := evaluate_eligible_iff hdistinct dependencies
  obtain ⟨hverdict', htarget'⟩ := evaluate_eligible_iff hdistinct' dependencies'
  obtain ⟨best, htop, hbest⟩ := hverdict.1 heligible
  have htop' : later.topRanked = some best := h.topRanked.trans htop
  have heligible' := hverdict'.2 ⟨best, htop', h.verdict hbest⟩
  refine ⟨heligible', ?_, fun hemergency => ?_⟩
  · rw [htarget' heligible' best htop', htarget heligible best htop]
  · have hraised : inputs.emergencyReason.isSome = true :=
      (evaluate_proposal htop heligible).2.2.symm.trans hemergency
    obtain ⟨condition, htriggers⟩ := (emergencyReason_isSome_iff hdistinct).1 hraised
    exact (emergencyReason_isSome_iff hdistinct').2 ⟨condition, h.triggers htriggers⟩

end

/-- A ticket phase one issued, presented as it was issued, commits what an evaluation of the commit's
state chooses, and skips the timing gates only in an emergency: where the steps between the phases are
attended, the policy has not adapted since, and the commit is timely. -/
theorem issued_ticket_commits_faithfully {config : EngineConfig} {e e' e₁ e₂ : Engine}
    {begun now : Ticks} {request : EvaluateRequest} {ticket : EvaluationTicket}
    {commit : CommitDecisionRequest} {result : OperationResult} (hreach : Reachable config e)
    (hbegin : e.step config (.beginEvaluation begun request) = some (e', .ticket ticket))
    (hrun : RunUnder config (Attended config request.policy e.state.epoch) e' e₁)
    (hticket : commit.ticket.Repeats ticket)
    (hcommit : e₁.step config (.commitEvaluation now commit) = some (e₂, .result result))
    (hadaptation : e₁.state.adaptationOf request.policy = e.state.adaptationOf request.policy)
    (hontime : ∀ before, e.state.policies[request.policy]? = some before →
      e.state.OnTime begun now before) :
    HonestCommit e₁.state e₂.state now commit.ticket result.outcome := by
  intro hcommitted
  obtain ⟨⟨_, _⟩, hbegun, he⟩ := Option.map_eq_some_iff.1 hbegin
  cases he
  obtain ⟨⟨e₃, _⟩, hcommits, he⟩ := Option.map_eq_some_iff.1 hcommit
  cases he
  obtain ⟨record, record', target, hinstalls⟩ :=
    commit_installs (commitEvaluation_cases hcommits) hcommitted fun hineligible => by
      rw [hticket.outcome]
      rw [hticket.lifecycle] at hineligible
      rcases (beginEvaluation_issues hbegun).2 with hrefused | ⟨_, _, _, _, _, hissues⟩
      · exact hrefused.outcome
      · exact (hissues.verdict.resolve_left hineligible).2
  have hissued : ticket.lifecycle = .eligible := hticket.lifecycle.symm.trans hinstalls.eligible
  obtain ⟨hstate, before, hbefore, ⟨evaluation, hdependencies⟩, hverdict, hproposed, hemergency⟩ :=
    begin_proposes hbegun hissued
  have hsubject : commit.ticket.dependencies.policy = request.policy := by
    rw [hticket.dependencies, hdependencies]
    exact Keyed.reachable hreach request.policy before hbefore
  obtain ⟨_, hpassed⟩ := State.commitChecks_ok hinstalls.checks
  have hfound : e₁.state.policies[request.policy]? = some record := hsubject ▸ hpassed.found
  have hcounted := State.commitChecks_evidence hinstalls.checks hinstalls.eligible
  have hdrift := hpassed.drift hinstalls.eligible
  have hepoch := hpassed.epoch
  have hgeneration := hpassed.generation
  rw [hticket.dependencies, hdependencies] at hcounted hdrift hepoch hgeneration
  unfold State.adaptationOf at hadaptation
  rw [hfound, hbefore] at hadaptation
  have hrenews : (e₁.state.inputsAt now record).Renews (e.state.inputsAt begun before) :=
    attended_renews hstate hrun hbefore hfound hepoch hgeneration hcounted hdrift
      (Option.some.inj hadaptation) (hontime before hbefore)
  have hdistinct : ((e.state.inputsAt begun before).candidates.map (·.binding.path)).Nodup :=
    Search.keys_nodup (Ordered.reachable hreach request.policy before hbefore)
  obtain ⟨heligible, htarget, hraised⟩ := hrenews.evaluate hdistinct hverdict
  refine ⟨record, record', hpassed.found, hinstalls.found, heligible, hinstalls.established, ?_,
    fun hclaimed => ?_⟩
  · rw [← PolicyRecord.findCandidate_path hinstalls.installed,
      PolicyRecord.findCandidate_path hinstalls.candidate, hticket.target, hproposed]
    exact htarget.symm
  · exact hraised (hemergency.symm.trans (hticket.emergency.symm.trans hclaimed))

theorem Scenario.attends_reweigh (e : Engine) (epoch : CoordinatorEpoch) :
    Attended config policy epoch e reweigh :=
  ⟨watches_reweigh e epoch, counted_reweigh e epoch⟩

open Scenario in
/-- The commit of an issued ticket, after the weights moved. -/
theorem reweighed_commit_is_faithful :
    HonestCommit (after (begun ++ [reweigh])).state (after (begun ++ [reweigh, commitFirst])).state 4
      firstTicket .decisionCommitted := by
  obtain ⟨_, hreweigh⟩ := step_after begun reweigh (by decide +kernel)
  obtain ⟨result, hcommit, houtcome⟩ := step_result (by decide +kernel :
    returns (begun ++ [reweigh] ++ [commitFirst]) = true) (by decide +kernel :
      answers (begun ++ [reweigh]) commitFirst
        (fun answer => answer.outcome == some .decisionCommitted) = true)
  rw [← houtcome]
  refine issued_ticket_commits_faithfully (reachable_after (by decide +kernel)) take_first
    (.single (attends_reweigh ..) hreweigh) ⟨rfl, rfl, rfl, rfl, rfl⟩ hcommit (by decide +kernel) ?_
  have hontime : ((after challenged).state.policies[policy]?).all (fun record =>
      record.timing.churnCommits.all (fun stamp => decide (stamp ≤ 3)) &&
        record.policy.semantics.evidence.all fun requirement =>
          ((after challenged).state.captureEvidence 3 default record).values.all fun resolved =>
            decide (resolved.aggregate.age 4 ≤ requirement.maxAge)) = true := by decide +kernel
  intro record hrecord
  have hfound : (after challenged).state.policies[policy]? = some record := hrecord
  rw [hfound, Option.all_some, Bool.and_eq_true, List.all_eq_true, List.all_eq_true] at hontime
  refine ⟨by decide, fun stamp hstamp => of_decide_eq_true (hontime.1 stamp hstamp), ?_⟩
  intro requirement hin path resolved hfound _
  exact of_decide_eq_true (List.all_eq_true.1 (hontime.2 requirement hin) resolved
    (EvidenceSnapshot.find_mem hfound).1)

end AdaptiveRouting
