import AdaptiveRouting.Policy
import AdaptiveRouting.Upstream

/-!
# Preferences, tickets and decisions

The desired routing preference, what a candidate was evaluated to, the two-phase evaluation ticket
with the dependencies it was computed from, decisions, and the requests of the engine's entry points.
-/

namespace AdaptiveRouting

/-! ## Weight proposals -/

structure PathWeight where
  path : PathId
  weightBps : UInt32 := 0
  deriving DecidableEq, Repr

structure WeightProposal where
  set : StrongId .weightedPathSetId
  baseGeneration : WeightPolicyGeneration
  weights : List PathWeight := []
  deriving DecidableEq, Repr

def WeightProposal.wellFormed (p : WeightProposal) : Bool :=
  p.set.valid && p.baseGeneration.valid && !p.weights.isEmpty &&
    p.weights.all fun weight => weight.path.valid && !(weight.weightBps > basisPointsScale)

/-! ## Preference -/

structure RoutingPreference where
  route : RouteId := default
  multipathSet : Option MultipathSetId := none
  multipathSetGeneration : MultipathSetGeneration := {}
  preferredPath : PathId := default
  pathAuthorityGeneration : PathAuthorityGeneration := {}
  previousPath : PathId := default
  routeGeneration : RouteGeneration := {}
  adaptationGeneration : AdaptationGeneration := {}
  transitionGeneration : TransitionGeneration := {}
  transition : TransitionPlanId := default
  weightProposal : Option WeightProposal := none
  decision : AdaptationDecisionId := default
  provenance : AdaptationProvenance := {}
  committedAt : Ticks := 0
  established : Bool := false
  deriving DecidableEq, Repr

/-- The last known stable preference, the anchor of a rollback. -/
structure StableState where
  established : Bool := false
  path : PathId := default
  pathAuthorityGeneration : PathAuthorityGeneration := {}
  routeGeneration : RouteGeneration := {}
  multipathSetGeneration : MultipathSetGeneration := {}
  adaptationGeneration : AdaptationGeneration := {}
  stabilizedAt : Ticks := 0
  deriving DecidableEq, Repr

/-! ## Evaluation -/

structure CandidateEvaluation where
  path : PathId
  eligible : Bool := false
  rejection : SuppressionReason := .none
  rejectionOutcome : Outcome := .noChange
  quality : EvidenceQuality := .estimated
  score : Option UInt64 := none
  metrics : List MetricValue := []
  priority : UInt32 := 0
  currentPreference : Bool := false
  previousPreference : Bool := false
  requiredImprovementBps : UInt32 := 0
  observedImprovementBps : Option UInt32 := none
  pathAuthorityGeneration : PathAuthorityGeneration := {}
  multipathSetGeneration : MultipathSetGeneration := {}
  routeGeneration : RouteGeneration := {}
  deriving DecidableEq, Repr

/-- Every generation, watermark and binding an evaluation read. -/
structure DependencySnapshot where
  evaluation : EvaluationId := default
  policy : AdaptivePolicyId := default
  policyGeneration : AdaptivePolicyGeneration := {}
  evidenceGeneration : EvidenceGeneration := {}
  evidenceWatermark : Watermark := {}
  upstreamWatermark : Watermark := {}
  epoch : CoordinatorEpoch := {}
  authorityGeneration : AdaptiveAuthorityGeneration := {}
  routeGeneration : RouteGeneration := {}
  multipathSet : Option MultipathSetId := none
  multipathSetGeneration : MultipathSetGeneration := {}
  candidatePathAuthority : List PathAuthorityBinding := []
  candidatePathWatermarks : List UInt64 := []
  candidates : List PathId := []
  capturedAt : Ticks := 0
  deriving DecidableEq, Repr

/-- The two-phase evaluation handle. -/
structure EvaluationTicket where
  dependencies : DependencySnapshot := {}
  lifecycle : DecisionLifecycle := .proposed
  decision : AdaptationDecisionId := default
  evidenceSnapshot : EvidenceSnapshotId := default
  outcome : Outcome := .noChange
  suppression : SuppressionReason := .none
  detail : Text := []
  currentPreference : PathId := default
  targetPreference : PathId := default
  targetPathAuthorityGeneration : PathAuthorityGeneration := {}
  adaptationGeneration : AdaptationGeneration := {}
  transitionGeneration : TransitionGeneration := {}
  targetScore : Option UInt64 := none
  improvementBps : Option UInt32 := none
  requiredImprovementBps : UInt32 := 0
  weightProposal : Option WeightProposal := none
  rollback : Bool := false
  emergency : Bool := false
  ranking : List CandidateEvaluation := []
  evaluatedAt : Ticks := 0
  deriving DecidableEq, Repr

/-! ## Decisions -/

structure AdaptationDecision where
  id : AdaptationDecisionId := default
  policy : AdaptivePolicyId := default
  policyGeneration : AdaptivePolicyGeneration := {}
  lifecycle : DecisionLifecycle := .proposed
  cause : AdaptationCause := .declared
  suppression : SuppressionReason := .none
  outcome : Outcome := .noChange
  epoch : CoordinatorEpoch := {}
  authorityGeneration : AdaptiveAuthorityGeneration := {}
  route : RouteId := default
  routeGeneration : RouteGeneration := {}
  multipathSet : Option MultipathSetId := none
  multipathSetGeneration : MultipathSetGeneration := {}
  evidenceSnapshot : EvidenceSnapshotId := default
  evidenceGeneration : EvidenceGeneration := {}
  evidenceWatermark : Watermark := {}
  upstreamWatermark : Watermark := {}
  hadCurrentPreference : Bool := false
  currentPreference : PathId := default
  currentPreferenceAuthorityGeneration : PathAuthorityGeneration := {}
  targetPreference : PathId := default
  targetPreferenceAuthorityGeneration : PathAuthorityGeneration := {}
  adaptationGeneration : AdaptationGeneration := {}
  transitionGeneration : TransitionGeneration := {}
  targetScore : Option UInt64 := none
  improvementBps : Option UInt32 := none
  requiredImprovementBps : UInt32 := 0
  candidatesConsidered : UInt32 := 0
  candidatesEligible : UInt32 := 0
  ranking : List CandidateEvaluation := []
  digest : Text := []
  evaluatedAt : Ticks := 0
  committedAt : Ticks := 0
  provenance : AdaptationProvenance := {}
  deriving DecidableEq, Repr

/-! ## Requests -/

structure CreatePolicyRequest where
  name : AdaptivePolicyName
  scope : PolicyScope
  semantics : PolicySemantics
  context : MutationContext

structure UpdatePolicyRequest where
  policy : AdaptivePolicyId
  update : PolicyUpdate
  context : MutationContext

structure PolicyLifecycleRequest where
  policy : AdaptivePolicyId
  event : PolicyEvent
  detail : Text := []
  context : MutationContext

/-- The arguments of `revoke_policy`. -/
structure RevokePolicyRequest where
  policy : AdaptivePolicyId
  reason : RevocationReason
  detail : Text := []
  context : MutationContext

structure PublishEvidenceRequest where
  publications : List EvidencePublication
  context : MutationContext

structure EvaluateRequest where
  policy : AdaptivePolicyId
  context : MutationContext
  deferCommit : Bool := false

structure CommitDecisionRequest where
  ticket : EvaluationTicket
  context : MutationContext

structure RollbackRequest where
  policy : AdaptivePolicyId
  reason : Text := []
  context : MutationContext

structure UpstreamNotifyRequest where
  notifications : List UpstreamNotification
  context : MutationContext

end AdaptiveRouting
