import AdaptiveRouting.Ids

/-!
# Outcomes

The structured answers of every entry point, the reasons a decision was suppressed for, and the
result record.
-/

namespace AdaptiveRouting

inductive Outcome
  | policyCreated | policyUpdated | decisionCommitted | idempotent | suppressed | noChange
  | staleEvidence | stalePathAuthority | staleMultipathSet | staleRoute | stalePolicyGeneration
  | staleEpoch | staleWorker | holdDownActive | cooldownActive | hysteresisNotCleared
  | insufficientEvidence | noEligibleCandidate | unauthorized | revalidationRequired | revoked
  | retired | resourceLimit | malformedRequest | attemptConflict | generationOverflow
  | incompatibleMetric | invalidHysteresis | churnLimitReached | rollbackRefused | notFound
  | alreadyExists | suspended | fencedWorker | unauthorizedScope | corruptStore | wireMalformed
  | wireIntegrity | sessionLimit | evaluationLimit | unsupportedVersion | policySuperseded
  | internalError | withdrawnUpstream | noCurrentPreference | decisionSuperseded
  deriving DecidableEq, Repr

namespace Outcome

/-- The enumeration's number. -/
def code (o : Outcome) : UInt16 := o.ctorIdx.toUInt16 + 1

def text : Outcome → Text
  | policyCreated => "POLICY_CREATED"
  | policyUpdated => "POLICY_UPDATED"
  | decisionCommitted => "DECISION_COMMITTED"
  | idempotent => "IDEMPOTENT"
  | suppressed => "SUPPRESSED"
  | noChange => "NO_CHANGE"
  | staleEvidence => "STALE_EVIDENCE"
  | stalePathAuthority => "STALE_PATH_AUTHORITY"
  | staleMultipathSet => "STALE_MULTIPATH_SET"
  | staleRoute => "STALE_ROUTE"
  | stalePolicyGeneration => "STALE_POLICY_GENERATION"
  | staleEpoch => "STALE_EPOCH"
  | staleWorker => "STALE_WORKER"
  | holdDownActive => "HOLD_DOWN_ACTIVE"
  | cooldownActive => "COOLDOWN_ACTIVE"
  | hysteresisNotCleared => "HYSTERESIS_NOT_CLEARED"
  | insufficientEvidence => "INSUFFICIENT_EVIDENCE"
  | noEligibleCandidate => "NO_ELIGIBLE_CANDIDATE"
  | unauthorized => "UNAUTHORIZED"
  | revalidationRequired => "REVALIDATION_REQUIRED"
  | revoked => "REVOKED"
  | retired => "RETIRED"
  | resourceLimit => "RESOURCE_LIMIT"
  | malformedRequest => "MALFORMED_REQUEST"
  | attemptConflict => "ATTEMPT_CONFLICT"
  | generationOverflow => "GENERATION_OVERFLOW"
  | incompatibleMetric => "INCOMPATIBLE_METRIC"
  | invalidHysteresis => "INVALID_HYSTERESIS"
  | churnLimitReached => "CHURN_LIMIT_REACHED"
  | rollbackRefused => "ROLLBACK_REFUSED"
  | notFound => "NOT_FOUND"
  | alreadyExists => "ALREADY_EXISTS"
  | suspended => "SUSPENDED"
  | fencedWorker => "FENCED_WORKER"
  | unauthorizedScope => "UNAUTHORIZED_SCOPE"
  | corruptStore => "CORRUPT_STORE"
  | wireMalformed => "WIRE_MALFORMED"
  | wireIntegrity => "WIRE_INTEGRITY"
  | sessionLimit => "SESSION_LIMIT"
  | evaluationLimit => "EVALUATION_LIMIT"
  | unsupportedVersion => "UNSUPPORTED_VERSION"
  | policySuperseded => "POLICY_SUPERSEDED"
  | internalError => "INTERNAL_ERROR"
  | withdrawnUpstream => "WITHDRAWN_UPSTREAM"
  | noCurrentPreference => "NO_CURRENT_PREFERENCE"
  | decisionSuperseded => "DECISION_SUPERSEDED"

/-- The request was applied. -/
def isSuccess : Outcome → Bool
  | policyCreated | policyUpdated | decisionCommitted | idempotent => true
  | _ => false

/-- The request was understood and refused. -/
def isRejection (o : Outcome) : Bool := !o.isSuccess

end Outcome

/-! ## Suppression reasons -/

inductive SuppressionReason
  | none | belowThreshold | hysteresisNotCleared | holdDownActive | cooldownActive
  | insufficientSamples | staleEvidence | noEligibleAlternative | policySuspended
  | revalidationRequired | churnLimitReached | currentPreferenceIneligible | noTriggerDeclared
  | meritNotEstablished | evidenceUnknown | dampeningExtendedHoldDown | policyNotActive
  | policyRevoked | policyRetired | upstreamDependencyStale | reverseRequirementNotMet
  deriving DecidableEq, Repr

namespace SuppressionReason

def code (r : SuppressionReason) : UInt8 := r.ctorIdx.toUInt8

/-- The outcome reported when a decision is suppressed for this reason. -/
def outcome : SuppressionReason → Outcome
  | none | belowThreshold | noTriggerDeclared | meritNotEstablished => .noChange
  | hysteresisNotCleared | reverseRequirementNotMet => .hysteresisNotCleared
  | holdDownActive | dampeningExtendedHoldDown => .holdDownActive
  | cooldownActive => .cooldownActive
  | insufficientSamples | evidenceUnknown => .insufficientEvidence
  | staleEvidence => .staleEvidence
  | noEligibleAlternative => .noEligibleCandidate
  | policySuspended | policyNotActive => .suspended
  | revalidationRequired | currentPreferenceIneligible | upstreamDependencyStale =>
    .revalidationRequired
  | churnLimitReached => .churnLimitReached
  | policyRevoked => .revoked
  | policyRetired => .retired

end SuppressionReason

/-! ## Results -/

/-- The result every mutating entry point returns. -/
structure OperationResult where
  outcome : Outcome := .malformedRequest
  detail : Text := []
  policy : AdaptivePolicyId := default
  policyGeneration : AdaptivePolicyGeneration := {}
  decision : AdaptationDecisionId := default
  adaptationGeneration : AdaptationGeneration := {}
  transitionGeneration : TransitionGeneration := {}
  evidenceGeneration : EvidenceGeneration := {}
  epoch : CoordinatorEpoch := {}
  suppression : SuppressionReason := .none
  mutated : Bool := false
  deriving DecidableEq, Repr

def OperationResult.make (outcome : Outcome) (detail : Text) : OperationResult :=
  { outcome, detail }

def OperationResult.accepted (r : OperationResult) : Bool := r.outcome.isSuccess

end AdaptiveRouting
