import AdaptiveRouting.Outcome

/-!
# Authority

The scope a publisher is registered with, its registration, fences, revocations, the provenance of a
change and the context every mutation carries.
-/

namespace AdaptiveRouting

/-- Sorting and looking for equal neighbours. -/
def hasDuplicates {α : Type} [DecidableEq α] (values : List α) : Bool := !decide values.Nodup

/-! ## Scope -/

structure AuthorityScope where
  fabric : FabricId
  nameSpace : RoutingNamespace
  routes : List RouteId := []
  multipathSets : List MultipathSetId := []
  deriving DecidableEq, Repr

namespace AuthorityScope

def wellFormed (s : AuthorityScope) : Bool :=
  s.fabric.valid && s.nameSpace.valid && !hasDuplicates s.routes && !hasDuplicates s.multipathSets

def coversNamespace (s : AuthorityScope) (fabric : FabricId) (nameSpace : RoutingNamespace) :
    Bool :=
  s.fabric == fabric && s.nameSpace == nameSpace

/-- An empty list authorizes every route of the namespace, another one the listed routes. -/
def coversRoute (s : AuthorityScope) (fabric : FabricId) (nameSpace : RoutingNamespace)
    (route : RouteId) : Bool :=
  s.coversNamespace fabric nameSpace && (s.routes.isEmpty || s.routes.contains route)

def coversMultipathSet (s : AuthorityScope) (fabric : FabricId) (nameSpace : RoutingNamespace)
    (set : MultipathSetId) : Bool :=
  s.coversNamespace fabric nameSpace && (s.multipathSets.isEmpty || s.multipathSets.contains set)

end AuthorityScope

/-! ## Registrations and fences -/

structure PublisherRegistration where
  publisher : PublisherId
  workerBoot : WorkerBootId
  scope : AuthorityScope
  epoch : CoordinatorEpoch
  authorityGeneration : AdaptiveAuthorityGeneration
  session : SessionId
  deriving DecidableEq, Repr

structure FenceRecord where
  publisher : PublisherId
  workerBoot : WorkerBootId
  epoch : CoordinatorEpoch
  cause : Text
  deriving DecidableEq, Repr

/-! ## Revocations -/

inductive RevocationReason
  | administrative | security | policyViolation | authorityRevoked | operatorRequest
  deriving DecidableEq, Repr

def RevocationReason.code (reason : RevocationReason) : UInt8 := reason.ctorIdx.toUInt8 + 1

def RevocationReason.text : RevocationReason → Text
  | .administrative => "ADMINISTRATIVE"
  | .security => "SECURITY"
  | .policyViolation => "POLICY_VIOLATION"
  | .authorityRevoked => "AUTHORITY_REVOKED"
  | .operatorRequest => "OPERATOR_REQUEST"

def validRevocationReason (raw : UInt8) : Bool := 1 ≤ raw && raw ≤ 5

structure RevocationRecord where
  policy : AdaptivePolicyId
  generation : AdaptivePolicyGeneration
  authorityGeneration : AdaptiveAuthorityGeneration
  epoch : CoordinatorEpoch
  publisher : PublisherId
  reason : RevocationReason := .administrative
  detail : Text := []
  deriving DecidableEq, Repr

def RevocationRecord.render (r : RevocationRecord) : Text :=
  Text.concat ["policy=", r.policy.text, " generation=", natText r.generation.value.toNat,
    " epoch=", natText r.epoch.value.toNat, " reason=", r.reason.text,
    " publisher=", r.publisher.text,
    if r.detail.isEmpty then [] else Text.concat [" detail=", r.detail]]

/-! ## Provenance -/

inductive AdaptationCause
  | declared | policyUpdated | evidenceObserved | triggerSatisfied | emergencyOverride
  | rollbackRequested | pathAuthorityInvalidated | multipathSetInvalidated | routeInvalidated
  | epochAdvance | recovered | revalidated | revoked | retired
  deriving DecidableEq, Repr

def AdaptationCause.code (cause : AdaptationCause) : UInt8 := cause.ctorIdx.toUInt8 + 1

def AdaptationCause.text : AdaptationCause → Text
  | .declared => "DECLARED"
  | .policyUpdated => "POLICY_UPDATED"
  | .evidenceObserved => "EVIDENCE_OBSERVED"
  | .triggerSatisfied => "TRIGGER_SATISFIED"
  | .emergencyOverride => "EMERGENCY_OVERRIDE"
  | .rollbackRequested => "ROLLBACK_REQUESTED"
  | .pathAuthorityInvalidated => "PATH_AUTHORITY_INVALIDATED"
  | .multipathSetInvalidated => "MULTIPATH_SET_INVALIDATED"
  | .routeInvalidated => "ROUTE_INVALIDATED"
  | .epochAdvance => "EPOCH_ADVANCE"
  | .recovered => "RECOVERED"
  | .revalidated => "REVALIDATED"
  | .revoked => "REVOKED"
  | .retired => "RETIRED"

structure AdaptationProvenance where
  publisher : PublisherId := default
  workerBoot : WorkerBootId := default
  epoch : CoordinatorEpoch := {}
  attempt : MutationAttemptId := default
  policyGeneration : AdaptivePolicyGeneration := {}
  cause : AdaptationCause := .declared
  deriving DecidableEq, Repr

def AdaptationProvenance.render (p : AdaptationProvenance) : Text :=
  Text.concat ["publisher=", p.publisher.text, " boot=", p.workerBoot.text, " epoch=",
    natText p.epoch.value.toNat, " cause=", p.cause.text,
    if p.attempt.valid then Text.concat [" attempt=", p.attempt.text] else [],
    if p.policyGeneration.valid
      then Text.concat [" policy_generation=", natText p.policyGeneration.value.toNat] else []]

structure UpstreamProvenance where
  publisher : PublisherId := default
  workerBoot : WorkerBootId := default
  epoch : CoordinatorEpoch := {}
  attempt : MutationAttemptId := default
  origin : Text := []
  deriving DecidableEq, Repr

def UpstreamProvenance.render (p : UpstreamProvenance) : Text :=
  Text.concat ["origin=", p.origin, " publisher=", p.publisher.text, " boot=", p.workerBoot.text,
    " epoch=", natText p.epoch.value.toNat,
    if p.attempt.valid then Text.concat [" attempt=", p.attempt.text] else []]

/-! ## Context -/

/-- The authority binding every mutation carries. -/
structure MutationContext where
  epoch : CoordinatorEpoch := {}
  publisher : PublisherId := default
  workerBoot : WorkerBootId := default
  session : SessionId := default
  attempt : MutationAttemptId := default
  expectedPolicyGeneration : Option AdaptivePolicyGeneration := none
  expectedEvidenceGeneration : Option EvidenceGeneration := none
  deriving DecidableEq, Repr

def MutationContext.hasCallerIdentity (c : MutationContext) : Bool :=
  c.epoch.valid && c.publisher.valid && c.workerBoot.valid && c.session.valid && c.attempt.valid

end AdaptiveRouting
