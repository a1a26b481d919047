import AdaptiveRouting.Fabric.Evidence

/-!
# Policy evaluation

Phase one as a pure function of copied inputs: the eligibility of every candidate, their canonical
ranking, the emergency condition, and the gates an ordinary adaptation passes in order (hold-down,
cooldown, thresholds, improvements, churn). The result is a ticket.
-/

namespace AdaptiveRouting

open Guard

/-- The values an evaluation reads, copied out of the state. -/
structure EvaluationInputs where
  policy : AdaptivePolicy
  candidates : List CandidateRecord
  preference : RoutingPreference
  timing : TimingState
  evidence : EvidenceSnapshot
  now : Ticks

namespace EvaluationInputs

/-! ## Metrics -/

/-- The current value of a required metric and its quality, or why there is none. -/
def lookupMetric (inputs : EvaluationInputs) (path : PathId) (requirement : EvidenceRequirement) :
    Except SuppressionReason (MetricValue × EvidenceQuality) := do
  let resolved ← orRefuse (inputs.evidence.find path requirement.kind) .evidenceUnknown
  let aggregate := resolved.aggregate
  refuseIf (!aggregate.valid) SuppressionReason.evidenceUnknown
  refuseIf (resolved.quality.rank < requirement.minQuality.rank) SuppressionReason.evidenceUnknown
  refuseIf (aggregate.sampleCount < requirement.minSamples) SuppressionReason.insufficientSamples
  refuseIf (aggregate.age inputs.now > requirement.maxAge) SuppressionReason.staleEvidence
  refuseIf (aggregate.window < requirement.minWindow) SuppressionReason.insufficientSamples
  return (aggregate.value, resolved.quality)

/-! ## Eligibility -/

end EvaluationInputs

/-- Why a binding is not usable upstream: authority, route, availability, then membership of the
target set. -/
def upstreamRejection (target : PolicyTarget) (b : CandidateBinding) : Option Outcome :=
  if !b.pathAuthority.legal then some .stalePathAuthority
  else if !b.route.current then some .staleRoute
  else if !b.available then some .withdrawnUpstream
  else match target.multipathSet with
    | none => none
    | some set =>
      if b.multipath.any fun m => m.current && m.set == set && m.contains b.path then none
      else some .staleMultipathSet

def qualityOfRank (weakest : Nat) : EvidenceQuality :=
  if weakest ≥ 4 then .primary
  else if weakest = 3 then .aggregated
  else if weakest = 2 then .operator
  else .estimated

def CandidateEvaluation.reject (e : CandidateEvaluation) (reason : SuppressionReason)
    (outcome : Outcome) : CandidateEvaluation :=
  { e with eligible := false, rejection := reason, rejectionOutcome := outcome }

namespace EvaluationInputs

/-- The last required metric that is missing, and the weakest quality among the present ones. -/
def evidenceGate (inputs : EvaluationInputs) (path : PathId) : Option SuppressionReason × Nat :=
  inputs.policy.semantics.evidence.foldl (fun (rejection, weakest) requirement =>
    match inputs.lookupMetric path requirement with
    | .ok (_, quality) => (rejection, min weakest quality.rank)
    | .error reason => (if requirement.required then some reason else rejection, weakest))
    (none, 4)

/-- The values of the objective's terms, in declaration order. -/
def objectiveMetrics (inputs : EvaluationInputs) (path : PathId) :
    Except SuppressionReason (List MetricValue) :=
  inputs.policy.semantics.objective.terms.mapM fun term => do
    let requirement ← orRefuse (inputs.policy.semantics.findRequirement term.kind) .noTriggerDeclared
    let (value, _) ← inputs.lookupMetric path requirement
    return value

def evaluateCandidate (inputs : EvaluationInputs) (candidate : CandidateRecord) :
    CandidateEvaluation :=
  let b := candidate.binding
  let semantics := inputs.policy.semantics
  let base : CandidateEvaluation :=
    { path := b.path
      pathAuthorityGeneration := b.pathAuthority.generation
      routeGeneration := b.route.generation
      multipathSetGeneration := (b.multipath.map (·.generation)).getD {}
      priority := semantics.priorityOf b.path
      currentPreference := inputs.preference.established && inputs.preference.preferredPath == b.path
      previousPreference :=
        inputs.preference.previousPath.valid && inputs.preference.previousPath == b.path
      eligible := true, quality := .primary }
  match upstreamRejection semantics.target b with
  | some outcome => base.reject .upstreamDependencyStale outcome
  | none =>
    match inputs.evidenceGate b.path with
    | (some reason, _) => base.reject reason reason.outcome
    | (none, weakest) =>
      let graded := { base with quality := qualityOfRank weakest }
      match inputs.objectiveMetrics b.path with
      | .error reason => graded.reject reason reason.outcome
      | .ok metrics =>
        let measured := { graded with metrics }
        match semantics.objective.mode with
        | .lexicographic => measured
        | .weightedScore =>
          match weightedScore semantics.objective.terms metrics with
          | none => measured.reject .evidenceUnknown .incompatibleMetric
          | some score => { measured with score := some score }

end EvaluationInputs

/-! ## Ranking -/

/-- Orientation aware strict "a is better than b". -/
def metricIsBetter (a b : MetricValue) : Bool :=
  match (describeMetric a.kind).orientation with
  | .lowerIsBetter => a.value < b.value
  | .higherIsBetter => a.value > b.value

/-- The first term on which the metrics differ decides. -/
def lexicographicAhead : List ObjectiveTerm → List MetricValue → List MetricValue → Option Bool
  | _ :: terms, a :: as, b :: bs =>
    if !a.valid || !b.valid then none
    else if a.value ≠ b.value then some (metricIsBetter a b)
    else lexicographicAhead terms as bs
  | _, _, _ => none

/-- The canonical order: eligibility, priority, quality, objective, path. -/
def ranksAhead (semantics : PolicySemantics) (a b : CandidateEvaluation) : Bool :=
  if a.eligible ≠ b.eligible then a.eligible
  else if a.priority ≠ b.priority then a.priority > b.priority
  else if a.quality.rank ≠ b.quality.rank then a.quality.rank > b.quality.rank
  else match semantics.objective.mode with
    | .weightedScore =>
      if a.score.getD 0 ≠ b.score.getD 0 then a.score.getD 0 > b.score.getD 0
      else a.path < b.path
    | .lexicographic =>
      (lexicographicAhead semantics.objective.terms a.metrics b.metrics).getD
        (decide (a.path < b.path))

/-- Every candidate evaluated, in the stable canonical order. -/
def EvaluationInputs.rank (inputs : EvaluationInputs) : List CandidateEvaluation :=
  (inputs.candidates.map inputs.evaluateCandidate).insertionSort fun a b =>
    !ranksAhead inputs.policy.semantics b a

/-! ## Gates -/

def thresholdPermitsDeparture (current switchValue : MetricValue) : Bool :=
  atLeastAsBad current switchValue

def thresholdPermitsEntry (candidate clearValue : MetricValue) : Bool :=
  atLeastAsGood candidate clearValue

namespace EvaluationTicket

/-- Phase one's refusal to adapt. -/
def suppress (t : EvaluationTicket) (reason : SuppressionReason) (outcome : Outcome)
    (detail : Text) : EvaluationTicket :=
  { t with lifecycle := .suppressed, suppression := reason, outcome, detail }

def towards (t : EvaluationTicket) (best : CandidateEvaluation) : EvaluationTicket :=
  { t with
    targetPreference := best.path
    targetPathAuthorityGeneration := best.pathAuthorityGeneration
    targetScore := best.score }

end EvaluationTicket

/-- The hold-down a penalty extends, and whether it does. -/
def effectiveHoldDown (semantics : PolicySemantics) (penalty : UInt32) : Ticks × Bool :=
  if semantics.dampening.enabled && penalty != 0 then
    let escalated := semantics.holdDown.duration +
      penalty.toUInt64 * semantics.dampening.holdDownEscalationStep
    let capped := min escalated semantics.dampening.maxEffectiveHoldDown
    if capped > semantics.holdDown.duration then (capped, true)
    else (semantics.holdDown.duration, false)
  else (semantics.holdDown.duration, false)

/-- The committed adaptations inside the churn window. -/
def recentCommits (churn : ChurnBounds) (timing : TimingState) (now : Ticks) : Nat :=
  timing.churnCommits.countP fun stamp => stamp ≤ now && now - stamp ≤ churn.window

/-- The gates of an ordinary adaptation run in `Except`: an error is the suppressed ticket. -/
abbrev Gate := Except EvaluationTicket EvaluationTicket

namespace EvaluationInputs

/-- The binding of the established preference. -/
def currentBinding (inputs : EvaluationInputs) : Option CandidateRecord :=
  if inputs.preference.established then
    inputs.candidates.find? fun candidate =>
      candidate.binding.path == inputs.preference.preferredPath
  else none

/-- The emergency condition that holds, if one is enabled and does; the last one is named. -/
def emergencyReason (inputs : EvaluationInputs) : Option Text :=
  let rule := inputs.policy.semantics.emergency
  let current := inputs.currentBinding
  if !(rule.enabled && inputs.preference.established) then none
  else if rule.onHardFailureSignal && current.any fun c => c.binding.hardFailure then
    some "hard failure signal on the current preferred path"
  else if rule.onCurrentPathUnavailable && current.all fun c => !c.binding.available then
    some "current preferred path is unavailable"
  else if rule.onCurrentPathUnauthorized && current.all fun c => !c.binding.pathAuthority.legal then
    some "current preferred path is not authorized"
  else none

/-- The entry threshold the best candidate does not clear when a first preference is established. -/
def entryDefect (inputs : EvaluationInputs) (best : CandidateEvaluation) (rule : ThresholdRule) :
    Option (SuppressionReason × Outcome × Text) :=
  let detail := Text.concat
    ["best candidate does not clear the declared entry threshold for ", rule.kind.text]
  match inputs.policy.semantics.findRequirement rule.kind with
  | none =>
    some (.noTriggerDeclared, .noChange, "threshold rule has no declared evidence requirement")
  | some requirement =>
    match inputs.lookupMetric best.path requirement with
    | .error reason => some (reason, reason.outcome, detail)
    | .ok (value, _) =>
      if thresholdPermitsEntry value rule.clearValue then none
      else some (.hysteresisNotCleared, .hysteresisNotCleared, detail)

/-- The first preference of a policy. -/
def establish (inputs : EvaluationInputs) (ticket : EvaluationTicket) (best : CandidateEvaluation) :
    EvaluationTicket :=
  match inputs.policy.semantics.thresholds.findSome? (inputs.entryDefect best) with
  | some (reason, outcome, detail) => ticket.suppress reason outcome detail
  | none => { ticket.towards best with
      lifecycle := .eligible
      detail := "initial routing preference established from policy and current evidence" }

/-- The current preference is still a baseline for an ordinary adaptation. -/
def currentEligible (inputs : EvaluationInputs) (ranking : List CandidateEvaluation) : Bool :=
  inputs.currentBinding.isSome &&
    match ranking.find? fun ranked => ranked.path == inputs.preference.preferredPath with
    | some ranked => ranked.eligible
    | none => true

/-- The ticket that says why the current preference is no baseline. -/
def incumbentTicket (inputs : EvaluationInputs) (ticket : EvaluationTicket) : EvaluationTicket :=
  let generic := ticket.suppress .currentPreferenceIneligible .revalidationRequired
    (if inputs.currentBinding.isNone
      then "the current preferred path is no longer part of the candidate set"
      else "the current preferred path is no longer eligible")
  match ticket.ranking.find? fun ranked => ranked.path == inputs.preference.preferredPath with
  | none => generic
  | some ranked =>
    match ranked.rejection with
    | .staleEvidence => ticket.suppress .staleEvidence .staleEvidence
        "the current preferred path has no current evidence"
    | .insufficientSamples | .evidenceUnknown =>
      ticket.suppress ranked.rejection .insufficientEvidence
        "the current preferred path has insufficient evidence"
    | _ => generic

/-- The adaptation would restore the preference the current one displaced. -/
def reverse (inputs : EvaluationInputs) (best : CandidateEvaluation) : Bool :=
  inputs.preference.previousPath.valid && inputs.preference.previousPath == best.path

def holdDownGate (inputs : EvaluationInputs) (best : CandidateEvaluation)
    (ticket : EvaluationTicket) : Gate :=
  let (effective, extended) :=
    effectiveHoldDown inputs.policy.semantics inputs.timing.dampeningPenalty
  let deadline := inputs.timing.holdDownDeadline
  let elapsed := if inputs.now ≥ deadline then 0 else deadline - inputs.now
  let baseRemaining := if deadline > inputs.now then deadline - inputs.now else 0
  if inputs.timing.holdDownActive && effective != 0 && inputs.reverse best && elapsed != 0 then
    .error (ticket.suppress
      (if extended && baseRemaining == 0 then .dampeningExtendedHoldDown else .holdDownActive)
      .holdDownActive
      (Text.concat ["hold-down suppresses the reverse adaptation to ", best.path.text]))
  else .ok ticket

def cooldownGate (inputs : EvaluationInputs) (ticket : EvaluationTicket) : Gate :=
  if inputs.timing.cooldownActive && inputs.now < inputs.timing.cooldownDeadline then
    .error (ticket.suppress .cooldownActive .cooldownActive "cooldown suppresses the adaptation")
  else .ok ticket

/-- The values of the current and of the best candidate for a rule's metric. -/
def ruleValues (inputs : EvaluationInputs) (ticket : EvaluationTicket) (best : CandidateEvaluation)
    (kind : MetricKind) (missing : EvaluationTicket) (what : Text) :
    Except EvaluationTicket (MetricValue × MetricValue) :=
  match inputs.policy.semantics.findRequirement kind, inputs.currentBinding with
  | some requirement, some current =>
    match inputs.lookupMetric current.binding.path requirement,
      inputs.lookupMetric best.path requirement with
    | .ok (currentValue, _), .ok (candidateValue, _) => .ok (currentValue, candidateValue)
    | .error reason, _ | .ok _, .error reason =>
      .error (ticket.suppress reason reason.outcome
        (Text.concat [what, " rule lacks current evidence for ", kind.text]))
  | _, _ => .error missing

def thresholdGate (inputs : EvaluationInputs) (best : CandidateEvaluation)
    (ticket : EvaluationTicket) (rule : ThresholdRule) : Gate := do
  let (current, candidate) ← inputs.ruleValues ticket best rule.kind
    (ticket.suppress .hysteresisNotCleared .hysteresisNotCleared
      (Text.concat ["threshold rule cannot be evaluated for ", rule.kind.text])) "threshold"
  refuseIf (!thresholdPermitsDeparture current rule.switchValue)
    (ticket.suppress .belowThreshold .noChange (Text.concat
      ["current preference has not crossed the switch threshold for ", rule.kind.text]))
  refuseIf (!thresholdPermitsEntry candidate rule.clearValue)
    (ticket.suppress .hysteresisNotCleared .hysteresisNotCleared (Text.concat
      ["candidate has not cleared the hysteresis band for ", rule.kind.text]))
  return ticket

/-- A relative improvement rule; the ticket keeps the last observed and required improvement. -/
def improvementGate (inputs : EvaluationInputs) (best : CandidateEvaluation)
    (ticket : EvaluationTicket) (rule : ImprovementRule) : Gate := do
  let (current, candidate) ← inputs.ruleValues ticket best rule.kind
    (ticket.suppress .belowThreshold .noChange
      (Text.concat ["improvement rule cannot be evaluated for ", rule.kind.text])) "improvement"
  let improvement ← orRefuse (relativeImprovementBps current candidate)
    (ticket.suppress .belowThreshold .incompatibleMetric
      (Text.concat ["improvement comparison is not defined for ", rule.kind.text]))
  let reverse := inputs.reverse best
  let required := if reverse then rule.reverseImprovementBps else rule.switchImprovementBps
  let ticket := { ticket with
    improvementBps := some improvement, requiredImprovementBps := required }
  let reason : SuppressionReason := if reverse then .hysteresisNotCleared else .belowThreshold
  refuseIf (improvement < required)
    (ticket.suppress reason reason.outcome
      (Text.concat ["observed improvement ", natText improvement.toNat,
        " bps is below the required ", natText required.toNat, " bps",
        if reverse then " for a reverse adaptation" else []]))
  return ticket

def churnGate (inputs : EvaluationInputs) (ticket : EvaluationTicket) : Gate :=
  let churn := inputs.policy.semantics.churn
  let recent := recentCommits churn inputs.timing inputs.now
  if churn.enabled && recent ≥ churn.maxAdaptationsPerWindow.toNat then
    .error (ticket.suppress .churnLimitReached .churnLimitReached
      (Text.concat ["churn bound reached: ", natText recent,
        " adaptation(s) inside the declared window"]))
  else .ok ticket

/-- Everything an adaptation that is no emergency passes. -/
def ordinaryGates (inputs : EvaluationInputs) (best : CandidateEvaluation)
    (ticket : EvaluationTicket) : Gate := do
  let ticket ← inputs.holdDownGate best ticket
  let ticket ← inputs.cooldownGate ticket
  let ticket ← inputs.policy.semantics.thresholds.foldlM (inputs.thresholdGate best) ticket
  let ticket ← inputs.policy.semantics.improvements.foldlM (inputs.improvementGate best) ticket
  inputs.churnGate ticket

/-- The weights proposed for a multipath target. -/
def proposeWeights (inputs : EvaluationInputs) (best : CandidateEvaluation) :
    Option WeightProposal := do
  let _ ← inputs.policy.semantics.target.multipathSet
  let candidate ← inputs.candidates.find? fun candidate =>
    candidate.binding.path == best.path && candidate.binding.weighted.isSome
  let weighted ← candidate.binding.weighted
  let proposal : WeightProposal :=
    { set := weighted.set, baseGeneration := weighted.generation
      weights := inputs.candidates.map fun member =>
        { path := member.binding.path
          weightBps := if member.binding.path = best.path then basisPointsScale else 0 } }
  if proposal.wellFormed then return proposal else none

/-- An adaptation from an established preference to another best candidate. -/
def adapt (inputs : EvaluationInputs) (ticket : EvaluationTicket) (best : CandidateEvaluation) :
    EvaluationTicket :=
  let emergency := inputs.emergencyReason
  let eligible := inputs.currentEligible ticket.ranking
  let ticket := if eligible then ticket else inputs.incumbentTicket ticket
  let gated : Gate := match emergency with
    | some _ => .ok ticket
    | none => if eligible then inputs.ordinaryGates best ticket else .error ticket
  match gated with
  | .error suppressed => suppressed
  | .ok ticket => { ticket with
      weightProposal := inputs.proposeWeights best
      lifecycle := .eligible
      detail := match emergency with
        | some reason => Text.concat ["emergency override: ", reason]
        | none => Text.concat ["trigger satisfied for ", best.path.text] }

/-- The ticket before any verdict. -/
def blankTicket (inputs : EvaluationInputs) (dependencies : DependencySnapshot) :
    EvaluationTicket where
  dependencies := dependencies
  evaluatedAt := inputs.now
  currentPreference :=
    if inputs.preference.established then inputs.preference.preferredPath else default
  adaptationGeneration := inputs.preference.adaptationGeneration
  transitionGeneration := inputs.preference.transitionGeneration
  evidenceSnapshot := inputs.evidence.id
  ranking := inputs.rank

/-- `evaluate_inputs`. -/
def evaluate (inputs : EvaluationInputs) (dependencies : DependencySnapshot) : EvaluationTicket :=
  let ticket := inputs.blankTicket dependencies
  match ticket.ranking.find? (·.eligible) with
  | none => ticket.suppress .noEligibleAlternative .noEligibleCandidate
      ("no candidate satisfies path authority, multipath membership, scope and " ++
        "evidence requirements" : String)
  | some best =>
    let ticket := { ticket with emergency := inputs.emergencyReason.isSome }
    if !inputs.preference.established then inputs.establish ticket best
    else if best.path = inputs.preference.preferredPath then
      (ticket.towards best).suppress .meritNotEstablished .noChange
        "the current preference is already the best eligible candidate"
    else inputs.adapt (ticket.towards best) best

end EvaluationInputs

end AdaptiveRouting
