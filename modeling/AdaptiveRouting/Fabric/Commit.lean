import AdaptiveRouting.Fabric.Evaluate
import AdaptiveRouting.Fabric.Policy

/-!
# Two-phase evaluation, commit and rollback

Phase one copies its inputs with every generation and watermark it read and issues a ticket. Phase
two compares the ticket with the state, re-checks the timing gates and the target's authority, and
commits. A rollback restores the last known stable preference.
-/

namespace AdaptiveRouting

open Guard

namespace State

/-! ## Phase one -/

/-- The last valid route generation of the candidates, else the first candidate's. -/
def dependencyRoute (candidates : List CandidateRecord) : RouteGeneration :=
  candidates.foldl (fun generation candidate =>
    if candidate.binding.route.generation.valid then candidate.binding.route.generation
    else generation) ((candidates.head?.map (·.binding.route.generation)).getD {})

def buildDependencies (s : State) (now : Ticks) (record : PolicyRecord) (evaluation : EvaluationId) :
    DependencySnapshot where
  evaluation := evaluation
  policy := record.policy.id
  policyGeneration := record.policy.generation
  evidenceGeneration := s.evidenceGeneration
  evidenceWatermark := s.evidenceWatermark
  upstreamWatermark := s.upstreamWatermark
  epoch := s.epoch
  authorityGeneration := s.authorityGeneration
  routeGeneration := dependencyRoute record.candidates
  multipathSet := record.policy.semantics.target.multipathSet
  multipathSetGeneration :=
    ((record.candidates.head?.bind (·.binding.multipath)).map (·.generation)).getD {}
  candidatePathAuthority := record.candidates.map (·.binding.pathAuthority)
  candidatePathWatermarks := record.candidates.map (·.pathWatermark)
  candidates := record.candidates.map (·.binding.path)
  capturedAt := now

def copyInputs (s : State) (now : Ticks) (id : EvidenceSnapshotId) (record : PolicyRecord) :
    EvaluationInputs where
  policy := record.policy
  candidates := record.candidates
  preference := record.preference
  timing := record.timing
  evidence := s.captureEvidence now id record
  now := now

end State

/-- A ticket phase one refuses to evaluate. -/
def rejectedTicket (outcome : Outcome) (detail : Text) : EvaluationTicket :=
  { lifecycle := .rejected, outcome, detail }

/-- What `begin_evaluation` refuses; the record of the policy. -/
def beginChecks (limits : Limits) (e : Engine) (request : EvaluateRequest) :
    Except EvaluationTicket PolicyRecord := do
  let s := e.state
  refuseIf (!request.policy.valid) (rejectedTicket .malformedRequest "policy id is required")
  refuseIf (limits.maxSimultaneousEvaluations ≤ e.outstanding)
    (rejectedTicket .evaluationLimit "simultaneous evaluation limit reached")
  let record ← orRefuse s.policies[request.policy]?
    (rejectedTicket .notFound "policy does not exist")
  let _ ← (s.checkCaller request.context (some record.policy.semantics.target.route)
    record.policy.semantics.target.multipathSet).mapError fun (outcome, detail) =>
      rejectedTicket outcome detail
  refuseIf (record.policy.lifecycle != .active)
    (rejectedTicket (lifecycleOutcome record.policy.lifecycle)
      (Text.concat ["policy lifecycle is ", record.policy.lifecycle.text]))
  refuseIf (request.context.expectedPolicyGeneration.any (· != record.policy.generation))
    (rejectedTicket .stalePolicyGeneration "expected policy generation does not match")
  refuseIf (request.context.expectedEvidenceGeneration.any (· != s.evidenceGeneration))
    (rejectedTicket .staleEvidence "expected evidence generation does not match")
  return record

/-- Phase one. -/
def beginEvaluation (limits : Limits) (e : Engine) (now : Ticks) (request : EvaluateRequest) :
    Option (Engine × EvaluationTicket) :=
  match beginChecks limits e request with
  | .error ticket => some (e, ticket)
  | .ok record => do
    let (evaluation, ids) ← e.ids.mint .eval
    let (evidence, ids) ← ids.mint .evsnap
    let (decision, ids) ← ids.mint .decision
    let inputs := e.state.copyInputs now evidence record
    let ticket := inputs.evaluate (e.state.buildDependencies now record evaluation)
    return ({ e with ids, outstanding := e.outstanding + 1 }, { ticket with decision })

/-! ## Dependency drift -/

/-- One candidate against the dependencies recorded at its index. -/
def candidateDrift (snapshot : DependencySnapshot) (index : Nat) (candidate : CandidateRecord) :
    Option Outcome :=
  let authorityMoved := (snapshot.candidatePathAuthority[index]?).any fun recorded =>
    recorded.generation != candidate.binding.pathAuthority.generation ||
      recorded.legal != candidate.binding.pathAuthority.legal
  if snapshot.candidates[index]? ≠ some candidate.binding.path then some .revalidationRequired
  else if (snapshot.candidatePathWatermarks[index]?).any (· != candidate.pathWatermark) then
    if authorityMoved then some .stalePathAuthority
    else if candidate.binding.multipath.any fun m => !m.current ||
        !snapshot.multipathSetGeneration.valid || m.generation != snapshot.multipathSetGeneration then
      some .staleMultipathSet
    else if candidate.binding.route.generation ≠ snapshot.routeGeneration then some .staleRoute
    else some .stalePathAuthority
  else if authorityMoved then some .stalePathAuthority
  else none

/-- The first dependency that is no longer what the evaluation saw. -/
def dependencyDrift (candidates : List CandidateRecord) (snapshot : DependencySnapshot) :
    Option Outcome :=
  if candidates.length ≠ snapshot.candidates.length then some .revalidationRequired
  else candidates.zipIdx.findSome? fun (candidate, index) => candidateDrift snapshot index candidate

/-! ## Phase two: checks -/

/-- The fingerprint of a commit. -/
def fingerprintCommit (ticket : EvaluationTicket) : Text :=
  (((((({} : Digest).writeTag "commit-decision").writeString
    ticket.dependencies.policy.text).writeU64 ticket.dependencies.policyGeneration.value).writeU64
    ticket.dependencies.evidenceGeneration.value).writeString
    ticket.targetPreference.text).writeString ticket.detail |>.hex

namespace State

/-- What phase two compares before it looks at the attempt; the record of the policy. A ticket that
is not eligible is not compared with the evidence and the candidates. -/
def commitChecks (s : State) (request : CommitDecisionRequest) :
    Except OperationResult PolicyRecord := do
  let ticket := request.ticket
  let dependencies := ticket.dependencies
  let policy := dependencies.policy
  refuseIf (ticket.lifecycle == .rejected) (s.makeResult ticket.outcome ticket.detail default)
  refuseIf (!policy.valid) (s.makeResult .malformedRequest "evaluation ticket is malformed" default)
  let _ ← s.requireCaller request.context none none policy
  let record ← orRefuse s.policies[policy]? (s.makeResult .notFound "policy does not exist" policy)
  refuseIf (s.epoch != dependencies.epoch)
    (s.makeResult .staleEpoch "epoch advanced after the evaluation started" policy)
  refuseIf (s.authorityGeneration != dependencies.authorityGeneration)
    (s.makeResult .revalidationRequired
      "authority generation advanced after the evaluation started" policy)
  refuseIf (record.policy.lifecycle != .active)
    (s.makeResult (lifecycleOutcome record.policy.lifecycle)
      (Text.concat ["policy lifecycle is ", record.policy.lifecycle.text]) policy)
  refuseIf (record.policy.generation != dependencies.policyGeneration)
    (s.makeResult .stalePolicyGeneration "policy generation advanced after the evaluation started"
      policy)
  refuseIf (ticket.lifecycle == .eligible &&
      s.evidenceGeneration != dependencies.evidenceGeneration)
    (s.makeResult .staleEvidence "evidence generation advanced after the evaluation started" policy)
  refuseIf (ticket.lifecycle == .eligible && s.evidenceWatermark != dependencies.evidenceWatermark)
    (s.makeResult .staleEvidence "the evidence watermark advanced after the evaluation started"
      policy)
  refuseWith ((if ticket.lifecycle = .eligible then dependencyDrift record.candidates dependencies
    else none).map fun drift =>
      s.makeResult drift "an upstream dependency changed after the evaluation started" policy)
  s.refuseReplay request.context.attempt (fingerprintCommit ticket)
  return record

/-- The hold-down in force at a commit. -/
def commitHoldDown (semantics : PolicySemantics) (penalty : UInt32) : Ticks :=
  if semantics.dampening.enabled && penalty != 0 then
    min (semantics.holdDown.duration + penalty.toUInt64 * semantics.dampening.holdDownEscalationStep)
      semantics.dampening.maxEffectiveHoldDown
  else semantics.holdDown.duration

/-- The policies whose hold-down is running. -/
def pendingTransitions (s : State) (now : Ticks) : Nat :=
  s.policies.toList.countP fun entry =>
    entry.2.timing.holdDownActive && now < entry.2.timing.holdDownDeadline

/-- The re-checks of `verify_and_commit`: timing gates unless the ticket claims an emergency, the
target's authority, the pending bound and the generations. -/
def verifyCommit (s : State) (limits : Limits) (now : Ticks) (record : PolicyRecord)
    (ticket : EvaluationTicket) :
    Except (Outcome × Text) (CandidateRecord × AdaptationGeneration × TransitionGeneration) := do
  let semantics := record.policy.semantics
  let timing := record.timing
  let reverse := record.preference.previousPath.valid &&
    record.preference.previousPath == ticket.targetPreference
  refuseIf (!ticket.emergency && timing.holdDownActive && reverse &&
      commitHoldDown semantics timing.dampeningPenalty != 0 && now < timing.holdDownDeadline)
    (Outcome.holdDownActive, "hold-down became active before the commit")
  refuseIf (!ticket.emergency && timing.cooldownActive && now < timing.cooldownDeadline)
    (Outcome.cooldownActive, "cooldown became active before the commit")
  refuseIf (!ticket.emergency && semantics.churn.enabled &&
      semantics.churn.maxAdaptationsPerWindow.toNat ≤ recentCommits semantics.churn timing now)
    (Outcome.churnLimitReached, "churn bound reached before the commit")
  let target ← orRefuse (record.findCandidate ticket.targetPreference)
    (Outcome.revalidationRequired, "the target candidate disappeared before the commit")
  refuseIf (!target.binding.pathAuthority.legal)
    (Outcome.stalePathAuthority, "the target candidate is no longer authorized")
  refuseIf (ticket.targetPathAuthorityGeneration.valid &&
      target.binding.pathAuthority.generation != ticket.targetPathAuthorityGeneration)
    (Outcome.stalePathAuthority, "the target path authority generation moved before the commit")
  refuseIf (reaches (s.pendingTransitions now) limits.maxPendingTransitions)
    (Outcome.resourceLimit, "pending transition limit reached")
  let adaptation ← orRefuse record.preference.adaptationGeneration.next
    (Outcome.generationOverflow, "adaptation or transition generation is exhausted")
  let transition ← orRefuse record.preference.transitionGeneration.next
    (Outcome.generationOverflow, "adaptation or transition generation is exhausted")
  return (target, adaptation, transition)

end State

/-! ## Phase two: effect -/

/-- A commit's caller, as it is recorded. -/
def provenanceOf (s : State) (context : MutationContext) (generation : AdaptivePolicyGeneration)
    (cause : AdaptationCause) : AdaptationProvenance :=
  { publisher := context.publisher, workerBoot := context.workerBoot, epoch := s.epoch
    attempt := context.attempt, policyGeneration := generation, cause }

def historyEntry (decision : AdaptationDecision) (committedAt : Ticks) : AdaptationRecord :=
  { decision := decision.id, lifecycle := decision.lifecycle, outcome := decision.outcome
    suppression := decision.suppression, cause := decision.cause
    fromPath := decision.currentPreference, toPath := decision.targetPreference
    adaptationGeneration := decision.adaptationGeneration
    evidenceGeneration := decision.evidenceGeneration, epoch := decision.epoch, committedAt
    digest := decision.digest }

namespace PolicyRecord

def remember (r : PolicyRecord) (limits : Limits) (entry : AdaptationRecord) : PolicyRecord :=
  { r with history := keepLast limits.maxHistoryPerPolicy (r.history ++ [entry]) }

end PolicyRecord

namespace State

def journal (s : State) (limits : Limits) (decision : AdaptationDecision) : State :=
  { s with decisionJournal := keepLast limits.maxDecisionHistory (s.decisionJournal ++ [decision]) }

/-- The decision of an evaluation that found nothing to adapt. -/
def suppressedDecision (s : State) (record : PolicyRecord) (request : CommitDecisionRequest)
    (id : AdaptationDecisionId) : AdaptationDecision :=
  let ticket := request.ticket
  let preference := record.preference
  let decision : AdaptationDecision :=
    { id, policy := record.policy.id, policyGeneration := record.policy.generation
      lifecycle := .suppressed, cause := .triggerSatisfied, suppression := ticket.suppression
      outcome := ticket.outcome, epoch := s.epoch, authorityGeneration := s.authorityGeneration
      route := record.policy.semantics.target.route
      routeGeneration := preference.routeGeneration
      multipathSet := record.policy.semantics.target.multipathSet
      multipathSetGeneration := preference.multipathSetGeneration
      evidenceGeneration := s.evidenceGeneration, evidenceWatermark := s.evidenceWatermark
      upstreamWatermark := s.upstreamWatermark
      hadCurrentPreference := preference.established
      currentPreference := preference.preferredPath
      currentPreferenceAuthorityGeneration := preference.pathAuthorityGeneration
      targetPreference := ticket.targetPreference
      targetPreferenceAuthorityGeneration := ticket.targetPathAuthorityGeneration
      adaptationGeneration := preference.adaptationGeneration
      transitionGeneration := preference.transitionGeneration
      requiredImprovementBps := ticket.requiredImprovementBps
      improvementBps := ticket.improvementBps
      candidatesConsidered := ticket.ranking.length.toUInt32
      candidatesEligible := (ticket.ranking.countP (·.eligible)).toUInt32
      ranking := ticket.ranking, evaluatedAt := ticket.evaluatedAt
      provenance := provenanceOf s request.context record.policy.generation .triggerSatisfied }
  { decision with digest := decisionDigest decision }

/-- The preference a commit installs. -/
def committedPreference (s : State) (now : Ticks) (record : PolicyRecord) (ticket : EvaluationTicket)
    (context : MutationContext) (target : CandidateRecord) (adaptation : AdaptationGeneration)
    (transitionGeneration : TransitionGeneration) (transition : TransitionPlanId)
    (decision : AdaptationDecisionId) : RoutingPreference :=
  { record.preference with
    previousPath :=
      if record.preference.established then record.preference.preferredPath else default
    preferredPath := target.binding.path
    pathAuthorityGeneration := target.binding.pathAuthority.generation
    routeGeneration := target.binding.route.generation
    multipathSet := record.policy.semantics.target.multipathSet
    multipathSetGeneration := (target.binding.multipath.map (·.generation)).getD
      record.preference.multipathSetGeneration
    adaptationGeneration := adaptation
    transitionGeneration, transition
    weightProposal := ticket.weightProposal
    decision
    committedAt := now
    established := true
    provenance := provenanceOf s context record.policy.generation
      (if ticket.emergency then .emergencyOverride else .triggerSatisfied) }

end State

/-- A preference as a rollback anchor. -/
def anchor (preference : RoutingPreference) (now : Ticks) : StableState :=
  { established := true, path := preference.preferredPath
    pathAuthorityGeneration := preference.pathAuthorityGeneration
    routeGeneration := preference.routeGeneration
    multipathSetGeneration := preference.multipathSetGeneration
    adaptationGeneration := preference.adaptationGeneration, stabilizedAt := now }

/-- The timing after an adaptation: penalty, hold-down, cooldown and the churn window. -/
def armedTiming (limits : Limits) (semantics : PolicySemantics) (now : Ticks) (lockedPath : PathId)
    (timing : TimingState) : TimingState :=
  let penalty := if semantics.dampening.enabled
    then min semantics.dampening.maxPenalty
      (timing.dampeningPenalty + semantics.dampening.penaltyIncrement)
    else timing.dampeningPenalty
  let effective := if semantics.dampening.enabled
    then min (semantics.holdDown.duration +
      penalty.toUInt64 * semantics.dampening.holdDownEscalationStep)
      semantics.dampening.maxEffectiveHoldDown
    else semantics.holdDown.duration
  { timing with
    dampeningPenalty := penalty
    dampeningLastDecay := if semantics.dampening.enabled then now else timing.dampeningLastDecay
    holdDownActive := effective != 0
    holdDownDeadline := now + effective
    holdDownLockedPath := lockedPath
    cooldownActive := semantics.cooldown.duration != 0
    cooldownDeadline := now + semantics.cooldown.duration
    churnCommits := keepLast limits.maxAdaptationsPerWindow (timing.churnCommits ++ [now]) }

namespace State

/-- The decision of a commit, from the record before it and the preference it installs. -/
def committedDecision (s : State) (now : Ticks) (record : PolicyRecord) (ticket : EvaluationTicket)
    (preference : RoutingPreference) : AdaptationDecision :=
  let had := record.preference.established
  let superseded := record.preference.preferredPath
  let dependencies := ticket.dependencies
  let decision : AdaptationDecision :=
    { id := preference.decision, policy := record.policy.id
      policyGeneration := record.policy.generation, lifecycle := .committed
      cause := preference.provenance.cause, outcome := .decisionCommitted, epoch := s.epoch
      authorityGeneration := s.authorityGeneration, route := record.policy.semantics.target.route
      routeGeneration := preference.routeGeneration
      multipathSet := record.policy.semantics.target.multipathSet
      multipathSetGeneration := preference.multipathSetGeneration
      evidenceSnapshot := ticket.evidenceSnapshot
      evidenceGeneration := dependencies.evidenceGeneration
      evidenceWatermark := dependencies.evidenceWatermark
      upstreamWatermark := dependencies.upstreamWatermark
      hadCurrentPreference := had
      currentPreference := if had then superseded else default
      currentPreferenceAuthorityGeneration :=
        (dependencies.candidates.zip dependencies.candidatePathAuthority).foldl
          (fun generation entry => if entry.1 = superseded then entry.2.generation else generation)
          {}
      targetPreference := preference.preferredPath
      targetPreferenceAuthorityGeneration := preference.pathAuthorityGeneration
      adaptationGeneration := preference.adaptationGeneration
      transitionGeneration := preference.transitionGeneration
      targetScore := ticket.targetScore, improvementBps := ticket.improvementBps
      requiredImprovementBps := ticket.requiredImprovementBps
      candidatesConsidered := ticket.ranking.length.toUInt32
      candidatesEligible := (ticket.ranking.countP (·.eligible)).toUInt32
      ranking := ticket.ranking, evaluatedAt := ticket.evaluatedAt, committedAt := now
      provenance := preference.provenance }
  { decision with digest := decisionDigest decision }

/-- The record after a commit. Establishing the first preference arms no timing and leaves no
anchor. -/
def committedRecord (limits : Limits) (now : Ticks) (record : PolicyRecord)
    (preference : RoutingPreference) (decision : AdaptationDecision) : PolicyRecord :=
  ({ record with
    preference
    stable := if record.preference.established then anchor record.preference now else {}
    timing := if record.preference.established
      then armedTiming limits record.policy.semantics now preference.previousPath record.timing
      else record.timing } : PolicyRecord).remember limits (historyEntry decision now)

end State

/-- The identity a decision is recorded under: the ticket's, or a fresh one. -/
def decisionIdentity (ticket : EvaluationTicket) (ids : IdFactory) :
    Option (AdaptationDecisionId × IdFactory) :=
  if ticket.decision.valid then some (ticket.decision, ids) else ids.mint .decision

/-- One outstanding evaluation is settled. -/
def Engine.settled (e : Engine) : Engine :=
  if e.outstanding ≠ 0 then { e with outstanding := e.outstanding - 1 } else e

/-- Phase two on a ticket that is not eligible: the refusal to adapt is recorded. -/
def recordSuppression (limits : Limits) (e : Engine) (now : Ticks) (record : PolicyRecord)
    (request : CommitDecisionRequest) : Option (Engine × OperationResult) := do
  let ticket := request.ticket
  let s := e.state
  let (id, ids) ← decisionIdentity ticket e.ids
  let decision := s.suppressedDecision record request id
  let s := ((s.putRecord ticket.dependencies.policy
    (record.remember limits (historyEntry decision now))).journal limits decision).recordAttempt
    limits request.context.attempt (fingerprintCommit ticket) decision.outcome decision.digest
  return ({ e with state := s, ids },
    { s.makeResult decision.outcome (Text.concat [ticket.detail, " digest=", decision.digest])
        record.policy.id with
      decision := decision.id, suppression := decision.suppression })

/-- The commit of a verified ticket. -/
def installCommit (limits : Limits) (e : Engine) (now : Ticks) (record : PolicyRecord)
    (request : CommitDecisionRequest)
    (verified : CandidateRecord × AdaptationGeneration × TransitionGeneration) :
    Option (Engine × OperationResult) := do
  let ticket := request.ticket
  let s := e.state
  let (target, adaptation, transitionGeneration) := verified
  let (transition, ids) ← e.ids.mint .transition
  let (id, ids) ← decisionIdentity ticket ids
  let preference := s.committedPreference now record ticket request.context target adaptation
    transitionGeneration transition id
  let decision := s.committedDecision now record ticket preference
  let s := ((s.putRecord ticket.dependencies.policy
    (State.committedRecord limits now record preference decision)).journal limits decision).recordAttempt
    limits request.context.attempt (fingerprintCommit ticket) .decisionCommitted
    "decision committed"
  return ({ e with state := s, ids },
    { s.makeResult .decisionCommitted ticket.detail record.policy.id with
      decision := preference.decision, mutated := true })

/-- Phase two, before the outstanding evaluation is settled. -/
def commitTicket (limits : Limits) (e : Engine) (now : Ticks) (request : CommitDecisionRequest) :
    Option (Engine × OperationResult) :=
  let s := e.state
  let ticket := request.ticket
  match s.commitChecks request with
  | .error answer => some (e, answer)
  | .ok record =>
    if ticket.lifecycle ≠ .eligible then recordSuppression limits e now record request
    else if record.preference.established &&
        record.preference.preferredPath == ticket.targetPreference then
      let s := s.recordAttempt limits request.context.attempt (fingerprintCommit ticket) .noChange
        "the target preference is already current"
      some ({ e with state := s },
        { s.makeResult .noChange "the target preference is already current" record.policy.id with
          decision := record.preference.decision })
    else
      match s.verifyCommit limits now record ticket with
      | .error (outcome, detail) => some (e, s.makeResult outcome detail record.policy.id)
      | .ok verified => installCommit limits e now record request verified

/-- Phase two. -/
def commitEvaluation (limits : Limits) (e : Engine) (now : Ticks) (request : CommitDecisionRequest) :
    Option (Engine × OperationResult) :=
  (commitTicket limits e now request).map fun (e, result) => (e.settled, result)

/-- `evaluate`: both phases, with the clock readings of each. -/
def evaluate (limits : Limits) (e : Engine) (begun committed : Ticks) (request : EvaluateRequest) :
    Option (Engine × OperationResult) := do
  let (e, ticket) ← beginEvaluation limits e begun request
  if ticket.lifecycle = .rejected ∧ ticket.dependencies.policy.valid = false then
    return (e, OperationResult.make ticket.outcome ticket.detail)
  else if request.deferCommit then
    if ticket.lifecycle = .rejected then
      return (e, OperationResult.make ticket.outcome ticket.detail)
    else
      return (e, { OperationResult.make ticket.outcome ticket.detail with
        decision := ticket.decision, suppression := ticket.suppression })
  else commitEvaluation limits e committed { ticket, context := request.context }

/-! ## Rollback -/

def fingerprintRollback (request : RollbackRequest) : Text :=
  ((({} : Digest).writeTag "rollback").writeString request.policy.text).writeString
    request.reason |>.hex

namespace State

/-- What `rollback` refuses before it looks at the stable state; the record. -/
def rollbackChecks (s : State) (request : RollbackRequest) : Except OperationResult PolicyRecord := do
  refuseIf (!request.policy.valid)
    (s.makeResult .malformedRequest "policy id is required" request.policy)
  let record ← orRefuse s.policies[request.policy]?
    (s.makeResult .notFound "policy does not exist" request.policy)
  let _ ← s.requireCaller request.context (some record.policy.semantics.target.route)
    record.policy.semantics.target.multipathSet request.policy
  refuseIf (record.policy.lifecycle != .active)
    (s.makeResult (lifecycleOutcome record.policy.lifecycle) "rollback requires an active policy"
      request.policy)
  s.refuseReplay request.context.attempt (fingerprintRollback request)
  return record

/-- A refusal of the restore target: its outcome and text, and the text of the attempt when the
refusal is recorded as one. -/
structure RollbackRefusal where
  outcome : Outcome
  detail : Text
  recorded : Option Text := none

/-- The restore target is revalidated before the no-op is reported. -/
def verifyRollback (record : PolicyRecord) :
    Except RollbackRefusal (CandidateRecord × AdaptationGeneration × TransitionGeneration) := do
  refuseIf (!record.stable.established)
    { outcome := .rollbackRefused, detail := "there is no last known stable state to restore"
      recorded := some "no last known stable state" }
  let target ← orRefuse (record.findCandidate record.stable.path)
    { outcome := .rollbackRefused, detail := "the last known stable path is no longer a candidate"
      recorded := some "stable path is not a candidate" }
  refuseIf (!target.binding.pathAuthority.legal)
    { outcome := .stalePathAuthority, detail := "the last known stable path is no longer authorized"
      recorded := some "stable path is not authorized" }
  refuseIf (!target.binding.route.current)
    { outcome := .staleRoute, detail := "the last known stable path has a stale route" }
  refuseIf (!target.binding.available)
    { outcome := .withdrawnUpstream, detail := "the last known stable path is no longer available" }
  refuseIf (record.policy.semantics.target.multipathSet.isSome &&
      !target.binding.multipath.any fun m => m.current && m.contains record.stable.path)
    { outcome := .staleMultipathSet, detail := "the last known stable path left the multipath set" }
  refuseIf (record.preference.established && record.preference.preferredPath == record.stable.path)
    { outcome := .noChange
      detail := "the current preference is already the last known stable preference"
      recorded := some "already at the stable preference" }
  let adaptation ← orRefuse record.preference.adaptationGeneration.next
    { outcome := .generationOverflow, detail := "generation is exhausted" }
  let transition ← orRefuse record.preference.transitionGeneration.next
    { outcome := .generationOverflow, detail := "generation is exhausted" }
  return (target, adaptation, transition)

def rollbackDecision (s : State) (now : Ticks) (record : PolicyRecord) (request : RollbackRequest)
    (id : AdaptationDecisionId) (target : CandidateRecord) (adaptation : AdaptationGeneration)
    (transition : TransitionGeneration) : AdaptationDecision :=
  let decision : AdaptationDecision :=
    { id, policy := record.policy.id, policyGeneration := record.policy.generation
      lifecycle := .rolledBack, cause := .rollbackRequested, outcome := .decisionCommitted
      epoch := s.epoch, authorityGeneration := s.authorityGeneration
      route := record.policy.semantics.target.route
      routeGeneration := target.binding.route.generation
      multipathSet := record.policy.semantics.target.multipathSet
      evidenceGeneration := s.evidenceGeneration, evidenceWatermark := s.evidenceWatermark
      upstreamWatermark := s.upstreamWatermark, hadCurrentPreference := true
      currentPreference := record.preference.preferredPath
      currentPreferenceAuthorityGeneration := record.preference.pathAuthorityGeneration
      targetPreference := record.stable.path
      targetPreferenceAuthorityGeneration := target.binding.pathAuthority.generation
      adaptationGeneration := adaptation, transitionGeneration := transition
      committedAt := now, evaluatedAt := now
      provenance := provenanceOf s request.context record.policy.generation .rollbackRequested }
  { decision with digest := decisionDigest decision }

/-- The record after a rollback: the displaced preference becomes the anchor. -/
def rolledBackRecord (limits : Limits) (now : Ticks) (record : PolicyRecord)
    (target : CandidateRecord) (decision : AdaptationDecision) (transition : TransitionPlanId) :
    PolicyRecord :=
  let semantics := record.policy.semantics
  let displaced := record.preference.preferredPath
  ({ record with
    stable := anchor record.preference now
    preference := { record.preference with
      previousPath := displaced
      preferredPath := record.stable.path
      pathAuthorityGeneration := target.binding.pathAuthority.generation
      routeGeneration := target.binding.route.generation
      multipathSetGeneration := (target.binding.multipath.map (·.generation)).getD
        record.preference.multipathSetGeneration
      adaptationGeneration := decision.adaptationGeneration
      transitionGeneration := decision.transitionGeneration
      transition
      decision := decision.id
      provenance := decision.provenance
      committedAt := now }
    timing := { record.timing with
      holdDownActive := semantics.holdDown.duration != 0
      holdDownDeadline := now + semantics.holdDown.duration
      holdDownLockedPath := displaced
      cooldownActive := semantics.cooldown.duration != 0
      cooldownDeadline := now + semantics.cooldown.duration
      churnCommits := record.timing.churnCommits ++ [now] } } : PolicyRecord).remember limits
    (historyEntry decision now)

end State

def rollback (limits : Limits) (e : Engine) (now : Ticks) (request : RollbackRequest) :
    Option (Engine × OperationResult) :=
  let s := e.state
  let fingerprint := fingerprintRollback request
  match s.rollbackChecks request with
  | .error answer => some (e, answer)
  | .ok record =>
    match State.verifyRollback record with
    | .error refusal =>
      let s := match refusal.recorded with
        | some detail =>
          s.recordAttempt limits request.context.attempt fingerprint refusal.outcome detail
        | none => s
      some ({ e with state := s }, s.makeResult refusal.outcome refusal.detail request.policy)
    | .ok (target, adaptation, transitionGeneration) => do
      let (id, ids) ← e.ids.mint .decision
      let (transition, ids) ← ids.mint .transition
      let decision := s.rollbackDecision now record request id target adaptation transitionGeneration
      let s := ((s.putRecord request.policy
        (State.rolledBackRecord limits now record target decision transition)).journal limits
        decision).recordAttempt limits request.context.attempt fingerprint .decisionCommitted
        "rollback committed"
      return ({ e with state := s, ids },
        { s.makeResult .decisionCommitted "rolled back to the last known stable preference"
            request.policy with
          decision := decision.id, mutated := true })

end AdaptiveRouting
