import AdaptiveRouting.Proof.Effect
import AdaptiveRouting.Proof.Refusals

/-!
# Tickets

What phase one puts on a ticket. The gates write the verdict and the improvement only (`core` is the
rest), and refuse with a suppression that reports no success (`SuppressionOf`). So an issued ticket
carries the dependencies and the adaptation generation it was computed from, and an eligible one aims
at an eligible candidate that is not the current preference (`Issued`).
-/

namespace AdaptiveRouting

open Guard

namespace EvaluationTicket

/-- A ticket without its verdict, improvement and weights. -/
def core (t : EvaluationTicket) : EvaluationTicket :=
  { t with
    lifecycle := .proposed, outcome := .noChange, suppression := .none, detail := []
    improvementBps := none, requiredImprovementBps := 0, weightProposal := none }

/-- A refusal to adapt that says the same of everything else as `t`. -/
structure SuppressionOf (t t' : EvaluationTicket) : Prop where
  core : t'.core = t.core
  lifecycle : t'.lifecycle = .suppressed
  outcome : t'.outcome.isTimely = true

theorem suppress_of {t t' : EvaluationTicket} (h : t'.core = t.core) {outcome : Outcome}
    (ho : outcome.isTimely = true) (reason : SuppressionReason) (detail : Text) :
    SuppressionOf t (t'.suppress reason outcome detail) :=
  ⟨h, rfl, ho⟩

end EvaluationTicket

/-- A gate passes on the core of the ticket it got, or suppresses it. -/
abbrev Gates (t : EvaluationTicket) (x : Gate) : Prop :=
  Ends (fun t' => t'.core = t.core) t.SuppressionOf x

namespace EvaluationInputs

open EvaluationTicket

section
variable (inputs : EvaluationInputs) {t ticket : EvaluationTicket} (best : CandidateEvaluation)

theorem holdDownGate_gates (h : ticket.core = t.core) : Gates t (inputs.holdDownGate best ticket) := by
  unfold holdDownGate
  exact .ite (.error (suppress_of h rfl _ _)) (.ok h)

theorem cooldownGate_gates (h : ticket.core = t.core) : Gates t (inputs.cooldownGate ticket) := by
  unfold cooldownGate
  exact .ite (.error (suppress_of h rfl _ _)) (.ok h)

theorem churnGate_gates (h : ticket.core = t.core) : Gates t (inputs.churnGate ticket) := by
  unfold churnGate
  exact .ite (.error (suppress_of h rfl _ _)) (.ok h)

theorem ruleValues_ends (h : ticket.core = t.core) (kind : MetricKind) {missing : EvaluationTicket}
    (hmissing : SuppressionOf t missing) (what : Text) :
    Ends (fun _ => True) t.SuppressionOf (inputs.ruleValues ticket best kind missing what) := by
  unfold ruleValues
  split
  · split
    · exact .ok trivial
    · exact .error (suppress_of h (SuppressionReason.outcome_isTimely _) _ _)
    · exact .error (suppress_of h (SuppressionReason.outcome_isTimely _) _ _)
  · exact .error hmissing

theorem thresholdGate_gates (rule : ThresholdRule) (h : ticket.core = t.core) :
    Gates t (inputs.thresholdGate best ticket rule) := by
  unfold thresholdGate
  refine (inputs.ruleValues_ends best h rule.kind (suppress_of h rfl _ _) _).bind fun values _ => ?_
  refine (Ends.guard (suppress_of h rfl _ _)).bind fun _ _ => ?_
  exact (Ends.guard (suppress_of h rfl _ _)).bind fun _ _ => .ok h

theorem improvementGate_gates (rule : ImprovementRule) (h : ticket.core = t.core) :
    Gates t (inputs.improvementGate best ticket rule) := by
  unfold improvementGate
  refine (inputs.ruleValues_ends best h rule.kind (suppress_of h rfl _ _) _).bind fun values _ => ?_
  refine Ends.bind (Q := fun _ => True) ⟨fun _ _ => trivial, .found (suppress_of h rfl _ _)⟩
    fun improvement _ => ?_
  refine (Ends.guard ⟨h, rfl, SuppressionReason.outcome_isTimely _⟩).bind fun _ _ => ?_
  exact Ends.ok (Q := fun t' : EvaluationTicket => t'.core = t.core) h

theorem ordinaryGates_gates (h : ticket.core = t.core) :
    Gates t (inputs.ordinaryGates best ticket) := by
  unfold ordinaryGates
  refine (inputs.holdDownGate_gates best h).bind fun t₁ h₁ => ?_
  refine (inputs.cooldownGate_gates h₁).bind fun t₂ h₂ => ?_
  refine (Ends.foldlM (fun _ rule h => inputs.thresholdGate_gates best rule h) h₂ _).bind
    fun t₃ h₃ => ?_
  refine (Ends.foldlM (fun _ rule h => inputs.improvementGate_gates best rule h) h₃ _).bind
    fun t₄ h₄ => ?_
  exact inputs.churnGate_gates h₄

theorem incumbentTicket_suppresses (h : ticket.core = t.core) :
    SuppressionOf t (inputs.incumbentTicket ticket) := by
  unfold incumbentTicket
  dsimp only
  split
  · exact suppress_of h rfl _ _
  · split <;> exact suppress_of h rfl _ _

/-- An adaptation suppresses the ticket it got, or makes it eligible. -/
theorem adapt_ends (ticket : EvaluationTicket) :
    SuppressionOf ticket (inputs.adapt ticket best) ∨
      (inputs.adapt ticket best).core = ticket.core ∧
        (inputs.adapt ticket best).lifecycle = .eligible := by
  unfold adapt
  cases hreason : inputs.emergencyReason with
  | some reason =>
    right
    cases inputs.currentEligible ticket.ranking with
    | true => exact ⟨rfl, rfl⟩
    | false => exact ⟨(inputs.incumbentTicket_suppresses (rfl : ticket.core = _)).core, rfl⟩
  | none =>
    cases inputs.currentEligible ticket.ranking with
    | true =>
      have hgates := inputs.ordinaryGates_gates best (rfl : ticket.core = _)
      simp only [↓reduceIte]
      cases hgated : inputs.ordinaryGates best ticket with
      | error suppressed => exact .inl (hgates.refuses _ hgated)
      | ok passed =>
        have hcore : passed.core = ticket.core := hgates.returns passed hgated
        exact .inr ⟨hcore, rfl⟩
    | false => exact .inl (inputs.incumbentTicket_suppresses rfl)

theorem entryDefect_outcome {rule : ThresholdRule} {reason : SuppressionReason} {outcome : Outcome}
    {detail : Text} (h : inputs.entryDefect best rule = some (reason, outcome, detail)) :
    outcome.isTimely = true := by
  unfold entryDefect at h
  dsimp only at h
  split at h
  · cases h
    rfl
  · split at h
    · cases h
      exact SuppressionReason.outcome_isTimely _
    · split at h
      · cases h
      · cases h
        rfl

/-- Establishing a first preference suppresses the ticket, or makes it eligible. -/
theorem establish_ends (ticket : EvaluationTicket) :
    SuppressionOf ticket (inputs.establish ticket best) ∨
      (inputs.establish ticket best).core = (ticket.towards best).core ∧
        (inputs.establish ticket best).lifecycle = .eligible := by
  unfold establish
  split
  · rename_i hdefect
    obtain ⟨rule, -, hrule⟩ := List.exists_of_findSome?_eq_some hdefect
    exact .inl (suppress_of rfl (inputs.entryDefect_outcome best hrule) _ _)
  · exact .inr ⟨rfl, rfl⟩

end

/-! ## Issued tickets -/

/-- What a ticket carries before the verdict. -/
structure Carries (inputs : EvaluationInputs) (dependencies : DependencySnapshot)
    (ticket : EvaluationTicket) : Prop where
  dependencies : ticket.dependencies = dependencies
  adaptationGeneration : ticket.adaptationGeneration = inputs.preference.adaptationGeneration
  emergency : ticket.emergency = true → inputs.emergencyReason.isSome = true

/-- An eligible candidate of the ranking that is not the current preference. -/
def Aims (inputs : EvaluationInputs) (path : PathId) : Prop :=
  ∃ best ∈ inputs.rank, best.eligible = true ∧ path = best.path ∧
    (inputs.preference.established = true → best.path ≠ inputs.preference.preferredPath)

/-- What phase one vouches for on a ticket it issues. -/
structure Issues (inputs : EvaluationInputs) (dependencies : DependencySnapshot)
    (ticket : EvaluationTicket) : Prop extends Carries inputs dependencies ticket where
  verdict : ticket.lifecycle = .eligible ∨
    ticket.lifecycle = .suppressed ∧ ticket.outcome.isRejection = true
  target : ticket.lifecycle = .eligible → inputs.Aims ticket.targetPreference

section
variable {inputs : EvaluationInputs} {dependencies : DependencySnapshot}
  {ticket issued : EvaluationTicket}

theorem Carries.of_core (h : inputs.Carries dependencies ticket) (hc : issued.core = ticket.core) :
    inputs.Carries dependencies issued where
  dependencies := (congrArg EvaluationTicket.dependencies hc).trans h.dependencies
  adaptationGeneration :=
    (congrArg EvaluationTicket.adaptationGeneration hc).trans h.adaptationGeneration
  emergency := fun he => h.emergency ((congrArg EvaluationTicket.emergency hc).symm.trans he)

theorem Carries.suppressed (h : inputs.Carries dependencies ticket)
    (hs : SuppressionOf ticket issued) : inputs.Issues dependencies issued where
  toCarries := h.of_core hs.core
  verdict := .inr ⟨hs.lifecycle, isRejection_of_isTimely hs.outcome⟩
  target := by simp [hs.lifecycle]

theorem Carries.eligible (h : inputs.Carries dependencies ticket) (hc : issued.core = ticket.core)
    (hl : issued.lifecycle = .eligible) (ht : inputs.Aims ticket.targetPreference) :
    inputs.Issues dependencies issued where
  toCarries := h.of_core hc
  verdict := .inl hl
  target := fun _ => (congrArg EvaluationTicket.targetPreference hc).symm ▸ ht

end

theorem evaluate_issues (inputs : EvaluationInputs) (dependencies : DependencySnapshot) :
    inputs.Issues dependencies (inputs.evaluate dependencies) := by
  have hblank : inputs.Carries dependencies (inputs.blankTicket dependencies) := ⟨rfl, rfl, nofun⟩
  unfold evaluate
  dsimp only
  split
  · exact hblank.suppressed (suppress_of rfl rfl _ _)
  · rename_i best hbest
    have hrank : best ∈ inputs.rank := List.mem_of_find?_eq_some hbest
    have heligible : best.eligible = true := List.find?_some hbest
    -- the ticket before the verdict
    generalize hdef : ({ inputs.blankTicket dependencies with
      emergency := inputs.emergencyReason.isSome } : EvaluationTicket) = issued
    have hissued : inputs.Carries dependencies issued := hdef ▸ ⟨rfl, rfl, id⟩
    have htowards : inputs.Carries dependencies (issued.towards best) :=
      ⟨hissued.dependencies, hissued.adaptationGeneration, hissued.emergency⟩
    split
    · rename_i hfirst
      have hfirst : inputs.preference.established = false := by simpa using hfirst
      rcases inputs.establish_ends best issued with hs | ⟨hc, hl⟩
      · exact hissued.suppressed hs
      · exact htowards.eligible hc hl
          ⟨best, hrank, heligible, rfl, fun h => by simp [hfirst] at h⟩
    · split
      · exact htowards.suppressed (suppress_of rfl rfl _ _)
      · rename_i hother
        rcases inputs.adapt_ends best (issued.towards best) with hs | ⟨hc, hl⟩
        · exact htowards.suppressed hs
        · exact htowards.eligible hc hl ⟨best, hrank, heligible, rfl, fun _ => hother⟩

/-! ## Outcomes of issued tickets -/

section
variable (inputs : EvaluationInputs) {ticket : EvaluationTicket} (best : CandidateEvaluation)

/-- A gate that passes leaves the outcome of the ticket alone. -/
abbrev PassesOn (outcome : Outcome) (x : Gate) : Prop :=
  Ends (fun t : EvaluationTicket => t.outcome = outcome) (fun _ => True) x

theorem thresholdGate_passes {outcome : Outcome} (rule : ThresholdRule)
    (h : ticket.outcome = outcome) : PassesOn outcome (inputs.thresholdGate best ticket rule) := by
  unfold thresholdGate
  refine Ends.bind (Q := fun _ => True) ⟨fun _ _ => trivial, fun _ _ => trivial⟩ fun values _ => ?_
  exact (Ends.guard trivial).bind fun _ _ => (Ends.guard trivial).bind fun _ _ => .ok h

theorem improvementGate_passes {outcome : Outcome} (rule : ImprovementRule)
    (h : ticket.outcome = outcome) : PassesOn outcome (inputs.improvementGate best ticket rule) := by
  unfold improvementGate
  refine Ends.bind (Q := fun _ => True) ⟨fun _ _ => trivial, fun _ _ => trivial⟩ fun values _ => ?_
  refine Ends.bind (Q := fun _ => True) ⟨fun _ _ => trivial, fun _ _ => trivial⟩
    fun improvement _ => ?_
  exact (Ends.guard trivial).bind fun _ _ =>
    Ends.ok (Q := fun t : EvaluationTicket => t.outcome = outcome) h

theorem ordinaryGates_passes : PassesOn ticket.outcome (inputs.ordinaryGates best ticket) := by
  unfold ordinaryGates holdDownGate cooldownGate churnGate
  refine Ends.bind (Q := fun t : EvaluationTicket => t.outcome = ticket.outcome)
    (.ite (.error trivial) (.ok rfl)) fun t₁ h₁ => ?_
  refine Ends.bind (Q := fun t : EvaluationTicket => t.outcome = ticket.outcome)
    (.ite (.error trivial) (.ok h₁)) fun t₂ h₂ => ?_
  refine (Ends.foldlM (fun _ rule h => inputs.thresholdGate_passes best rule h) h₂ _).bind
    fun t₃ h₃ => ?_
  refine (Ends.foldlM (fun _ rule h => inputs.improvementGate_passes best rule h) h₃ _).bind
    fun t₄ h₄ => ?_
  exact .ite (.error trivial) (.ok h₄)

theorem adapt_outcome (h : ticket.outcome.isTimely = true) :
    (inputs.adapt ticket best).outcome.isTimely = true := by
  have hincumbent := (inputs.incumbentTicket_suppresses (rfl : ticket.core = _)).outcome
  unfold adapt
  cases hreason : inputs.emergencyReason with
  | some reason =>
    cases inputs.currentEligible ticket.ranking with
    | true => exact h
    | false => exact hincumbent
  | none =>
    cases inputs.currentEligible ticket.ranking with
    | true =>
      have hgates := inputs.ordinaryGates_gates best (rfl : ticket.core = _)
      simp only [↓reduceIte]
      cases hgated : inputs.ordinaryGates best ticket with
      | error suppressed => exact (hgates.refuses _ hgated).outcome
      | ok passed =>
        have hpassed : passed.outcome = ticket.outcome :=
          (inputs.ordinaryGates_passes best).returns passed hgated
        show passed.outcome.isTimely = true
        rw [hpassed]
        exact h
    | false => exact hincumbent

end

/-- No ticket phase one issues reports a success or a stale epoch. -/
theorem evaluate_outcome (inputs : EvaluationInputs) (dependencies : DependencySnapshot) :
    (inputs.evaluate dependencies).outcome.isTimely = true := by
  unfold evaluate
  dsimp only
  split
  · rfl
  · rename_i best hbest
    split
    · rename_i hfirst
      unfold establish
      split
      · rename_i hdefect
        obtain ⟨rule, -, hrule⟩ := List.exists_of_findSome?_eq_some hdefect
        exact inputs.entryDefect_outcome best hrule
      · rfl
    · split
      · rfl
      · exact inputs.adapt_outcome best rfl

theorem Issues.of_decision {inputs : EvaluationInputs} {dependencies : DependencySnapshot}
    {ticket : EvaluationTicket} (h : inputs.Issues dependencies ticket)
    (decision : AdaptationDecisionId) : inputs.Issues dependencies { ticket with decision } :=
  ⟨⟨h.dependencies, h.adaptationGeneration, h.emergency⟩, h.verdict, h.target⟩

/-! ## Eligible candidates -/

section
variable (inputs : EvaluationInputs)

theorem evaluateCandidate_path (candidate : CandidateRecord) :
    (inputs.evaluateCandidate candidate).path = candidate.binding.path := by
  unfold evaluateCandidate
  dsimp only
  split
  · rfl
  · split
    · rfl
    · split
      · rfl
      · split
        · rfl
        · split <;> rfl

/-- Only a candidate that is usable upstream is eligible. -/
theorem evaluateCandidate_eligible {candidate : CandidateRecord}
    (h : (inputs.evaluateCandidate candidate).eligible = true) :
    upstreamRejection inputs.policy.semantics.target candidate.binding = none := by
  unfold evaluateCandidate at h
  dsimp only at h
  split at h
  · cases h
  · assumption

theorem mem_rank {best : CandidateEvaluation} (h : best ∈ inputs.rank) :
    ∃ candidate ∈ inputs.candidates, inputs.evaluateCandidate candidate = best := by
  unfold rank at h
  rw [List.mem_insertionSort] at h
  exact List.mem_map.1 h

/-- An eligible ticket aims at a candidate that is usable upstream. -/
theorem Aims.candidate {inputs : EvaluationInputs} {path : PathId} (h : inputs.Aims path) :
    ∃ candidate ∈ inputs.candidates, candidate.binding.path = path ∧
      upstreamRejection inputs.policy.semantics.target candidate.binding = none := by
  obtain ⟨best, hrank, heligible, rfl, -⟩ := h
  obtain ⟨candidate, hmem, rfl⟩ := inputs.mem_rank hrank
  exact ⟨candidate, hmem, (inputs.evaluateCandidate_path candidate).symm,
    inputs.evaluateCandidate_eligible heligible⟩

end

end EvaluationInputs

/-! ## Phase one -/

/-- A ticket that only says why nothing was evaluated. -/
structure EvaluationTicket.Refused (t : EvaluationTicket) : Prop where
  lifecycle : t.lifecycle = .rejected
  outcome : t.outcome.isRejection = true

theorem beginChecks_refuses (limits : Limits) (e : Engine) (request : EvaluateRequest) :
    Refuses EvaluationTicket.Refused (beginChecks limits e request) := by
  unfold beginChecks
  refine .bind (.guard ⟨rfl, rfl⟩) fun _ => .bind (.guard ⟨rfl, rfl⟩) fun _ => ?_
  refine .bind (.found ⟨rfl, rfl⟩) fun record => ?_
  refine .bind (.mapError (e.state.checkCaller_rejects _ _ _) fun _ h => ⟨rfl, h⟩) fun _ => ?_
  refine .bind (.guard ⟨rfl, lifecycleOutcome_isRejection _⟩) fun _ => ?_
  exact .bind (.guard ⟨rfl, rfl⟩) fun _ => .bind (.guard ⟨rfl, rfl⟩) fun _ => .ok _

/-- No ticket `begin_evaluation` returns reports a success. -/
theorem beginEvaluation_outcome {limits : Limits} {e e' : Engine} {now : Ticks}
    {request : EvaluateRequest} {ticket : EvaluationTicket}
    (h : beginEvaluation limits e now request = some (e', ticket)) :
    ticket.outcome.isRejection = true := by
  rcases beginEvaluation_cases h with ⟨-, hrefused | ⟨_, _, _, _, -, rfl⟩⟩
  · exact (beginChecks_refuses limits e request _ hrefused).outcome
  · exact isRejection_of_isTimely (EvaluationInputs.evaluate_outcome _ _)

/-- What `begin_evaluation` returns: a refusal, or a ticket issued on the copied inputs of the
policy. -/
theorem beginEvaluation_issues {limits : Limits} {e e' : Engine} {now : Ticks}
    {request : EvaluateRequest} {ticket : EvaluationTicket}
    (h : beginEvaluation limits e now request = some (e', ticket)) :
    e'.state = e.state ∧ (ticket.Refused ∨ ∃ record registration evaluation evidence,
      State.BeginAccepted e.state request record registration ∧
      (e.state.copyInputs now evidence record).Issues
        (e.state.buildDependencies now record evaluation) ticket) := by
  obtain ⟨hstate, hrefused | ⟨record, evaluation, evidence, decision, hchecks, rfl⟩⟩ :=
    beginEvaluation_cases h
  · exact ⟨hstate, .inl (beginChecks_refuses limits e request _ hrefused)⟩
  · obtain ⟨registration, haccepted⟩ := State.beginChecks_ok hchecks
    exact ⟨hstate, .inr ⟨record, registration, evaluation, evidence, haccepted,
      (EvaluationInputs.evaluate_issues _ _).of_decision decision⟩⟩

end AdaptiveRouting
