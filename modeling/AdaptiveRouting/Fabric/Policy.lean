import AdaptiveRouting.Fabric.Authority

/-!
# Policy operations

Creating, updating, transitioning and revoking a policy. Each is a sequence of refusals that leaves
the state alone, then the recognition of a replayed attempt, then the effect.
-/

namespace AdaptiveRouting

open Guard

/-- The outcome a defective semantics is refused with. -/
def semanticsOutcome (reason : Text) : Outcome :=
  if reason.find "hysteresis" || reason.find "threshold" then .invalidHysteresis
  else .malformedRequest

/-- `fingerprint_policy`. -/
def fingerprintPolicy (scope : PolicyScope) (semantics : PolicySemantics) : Text :=
  (((({} : Digest).writeTag "policy-payload").writeString scope.render).writeString
    semantics.render).hex

/-- A policy or update larger than a configured structural limit. -/
def exceedsStructure (limits : Limits) (scope : PolicyScope) (semantics : PolicySemantics) : Bool :=
  exceeds scope.routes.length limits.maxScopeRoutes ||
    exceeds scope.multipathSets.length limits.maxScopeMultipathSets ||
    exceeds semantics.thresholds.length limits.maxThresholdsPerPolicy ||
    exceeds semantics.evidence.length limits.maxEvidenceRequirementsPerPolicy ||
    exceeds semantics.objective.terms.length limits.maxObjectiveTerms

/-- The preference of a policy that has never adapted towards its target. -/
def freshPreference (target : PolicyTarget) : RoutingPreference where
  route := target.route
  multipathSet := target.multipathSet
  adaptationGeneration := .first
  transitionGeneration := .first

namespace State

/-! ## Create -/

/-- What `create_policy` refuses before it looks at the attempt; the fingerprint of the request. -/
def createChecks (s : State) (limits : Limits) (request : CreatePolicyRequest) :
    Except OperationResult Text := do
  refuseIf (!request.name.valid || !request.scope.wellFormed)
    (s.makeResult .malformedRequest "policy name and a fabric/namespace scope are required" default)
  request.semantics.check.mapError fun reason =>
    s.makeResult (semanticsOutcome reason) reason default
  let registration ← s.requireCaller request.context (some request.semantics.target.route)
    request.semantics.target.multipathSet default
  refuseIf (!registration.scope.coversRoute request.scope.fabric request.scope.nameSpace
      request.semantics.target.route)
    (s.makeResult .unauthorizedScope "policy scope is outside the registered authority scope"
      default)
  refuseIf (exceedsStructure limits request.scope request.semantics ||
      exceeds request.semantics.priorities.length limits.maxCandidatesPerPolicy)
    (s.makeResult .resourceLimit "policy exceeds a configured structural limit" default)
  refuseIf (request.semantics.churn.enabled &&
      exceeds request.semantics.churn.maxAdaptationsPerWindow.toNat limits.maxAdaptationsPerWindow)
    (s.makeResult .resourceLimit "churn bound exceeds the configured maximum" default)
  refuseIf (request.semantics.dampening.enabled &&
      exceeds request.semantics.dampening.maxPenalty.toNat limits.maxDampeningPenalty)
    (s.makeResult .resourceLimit "dampening penalty exceeds the configured maximum" default)
  let fingerprint := fingerprintPolicy request.scope request.semantics
  s.refuseReplay request.context.attempt fingerprint
  return fingerprint

/-- The record of a new policy. -/
def newRecord (s : State) (now : Ticks) (id : AdaptivePolicyId) (request : CreatePolicyRequest) :
    PolicyRecord where
  policy :=
    { id, name := request.name, scope := request.scope, semantics := request.semantics
      generation := .first, lifecycle := .declared, epoch := s.epoch
      owner := request.context.publisher, authorityGeneration := s.authorityGeneration
      declaredAt := now, updatedAt := now }
  preference := freshPreference request.semantics.target

/-- Adds a new policy to the table, the names and the indexes. -/
def addPolicy (s : State) (limits : Limits) (record : PolicyRecord) : State :=
  reindexPolicy { s with
    policies := s.policies.insertIfNew record.policy.id record
    policyNames := s.policyNames.insertIfNew record.policy.name record.policy.id }
    limits record.policy.id

end State

def createPolicy (limits : Limits) (e : Engine) (now : Ticks) (request : CreatePolicyRequest) :
    Option (Engine × OperationResult) :=
  let s := e.state
  match s.createChecks limits request with
  | .error answer => some (e, answer)
  | .ok fingerprint =>
    let refuse (outcome : Outcome) (detail : Text) : Option (Engine × OperationResult) :=
      let s := s.recordAttempt limits request.context.attempt fingerprint outcome detail
      some ({ e with state := s }, s.makeResult outcome detail default)
    if s.policyNames.contains request.name then refuse .alreadyExists "policy name already exists"
    else if reaches s.policies.size limits.maxPolicies then
      refuse .resourceLimit "policy limit reached"
    else do
      let (id, ids) ← e.ids.mint .policy
      let s := (s.addPolicy limits (s.newRecord now id request)).recordAttempt limits
        request.context.attempt fingerprint .policyCreated "policy created"
      return ({ e with state := s, ids },
        { s.makeResult .policyCreated "policy created" id with mutated := true })

namespace State

/-! ## Update -/

/-- What `update_policy` refuses; the record, the fingerprint and the next generation. -/
def updateChecks (s : State) (limits : Limits) (request : UpdatePolicyRequest) :
    Except OperationResult (PolicyRecord × Text × AdaptivePolicyGeneration) := do
  let scope := request.update.scope
  let semantics := request.update.semantics
  refuseIf (!request.policy.valid) (s.makeResult .malformedRequest "policy id is required" default)
  refuseIf (!scope.wellFormed)
    (s.makeResult .malformedRequest "policy update is malformed" request.policy)
  semantics.check.mapError fun reason =>
    s.makeResult (semanticsOutcome reason) reason request.policy
  let record ← orRefuse s.policies[request.policy]?
    (s.makeResult .notFound "policy does not exist" request.policy)
  let registration ← s.requireCaller request.context (some semantics.target.route)
    semantics.target.multipathSet request.policy
  refuseIf (!registration.scope.coversRoute scope.fabric scope.nameSpace semantics.target.route)
    (s.makeResult .unauthorizedScope "policy scope is outside the registered authority scope"
      request.policy)
  refuseIf record.policy.lifecycle.terminal
    (s.makeResult (lifecycleOutcome record.policy.lifecycle)
      "a terminal policy can never be updated" request.policy)
  refuseIf (request.context.expectedPolicyGeneration != some record.policy.generation)
    (s.makeResult .stalePolicyGeneration
      "expected policy generation does not match the current generation" request.policy)
  refuseIf (exceedsStructure limits scope semantics)
    (s.makeResult .resourceLimit "policy exceeds a configured structural limit" request.policy)
  let fingerprint := fingerprintPolicy scope semantics
  s.refuseReplay request.context.attempt fingerprint
  let generation ← orRefuse record.policy.generation.next
    (s.makeResult .generationOverflow "policy generation is exhausted" request.policy)
  return (record, fingerprint, generation)

/-- The updated record. Bindings, preference and timing belong to a target: another target discards
them. -/
def updatedRecord (s : State) (now : Ticks) (request : UpdatePolicyRequest)
    (generation : AdaptivePolicyGeneration) (record : PolicyRecord) : PolicyRecord :=
  let target := request.update.semantics.target
  let policy := { record.policy with
    scope := request.update.scope
    semantics := request.update.semantics
    generation
    updatedAt := now
    epoch := s.epoch }
  if record.policy.semantics.target = target then { record with policy }
  else
    { record with
      policy, candidates := [], preference := freshPreference target, stable := {}, timing := {} }

def updatePolicy (s : State) (limits : Limits) (now : Ticks) (request : UpdatePolicyRequest) :
    State × OperationResult :=
  match s.updateChecks limits request with
  | .error answer => (s, answer)
  | .ok (record, fingerprint, generation) =>
    let unindexed := s.unindexPolicy request.policy
    let updated := { unindexed with
      policies := unindexed.policies.insert request.policy
        (s.updatedRecord now request generation record) }
    let s := (updated.reindexPolicy limits request.policy).recordAttempt limits
      request.context.attempt fingerprint .policyUpdated "policy updated"
    (s, { s.makeResult .policyUpdated "policy updated" request.policy with mutated := true })

/-! ## Lifecycle -/

/-- What `transition_policy` refuses before the event's own check; the record and the next
lifecycle. -/
def transitionChecks (s : State) (request : PolicyLifecycleRequest) :
    Except OperationResult (PolicyRecord × PolicyLifecycle) := do
  refuseIf (!request.policy.valid || !validPolicyEvent request.event.code)
    (s.makeResult .malformedRequest "policy id and lifecycle event are required" request.policy)
  let record ← orRefuse s.policies[request.policy]?
    (s.makeResult .notFound "policy does not exist" request.policy)
  let _ ← s.requireCaller request.context (some record.policy.semantics.target.route)
    record.policy.semantics.target.multipathSet request.policy
  refuseIf record.policy.lifecycle.terminal
    (s.makeResult (lifecycleOutcome record.policy.lifecycle)
      "a terminal policy never accepts a further lifecycle event" request.policy)
  let next ← orRefuse (applyPolicyEvent record.policy.lifecycle request.event)
    (s.makeResult .malformedRequest
      (Text.concat ["lifecycle event ", request.event.text, " is not defined for state ",
        record.policy.lifecycle.text]) request.policy)
  return (record, next)

end State

/-- A binding revalidation accepts. -/
def CandidateRecord.usable (candidate : CandidateRecord) : Bool :=
  candidate.binding.pathAuthority.legal && candidate.binding.route.current &&
    candidate.binding.available

namespace State

/-- The request `revalidate` makes. -/
def revalidateRequest (policy : AdaptivePolicyId) (context : MutationContext) :
    PolicyLifecycleRequest :=
  { policy, event := .revalidate, detail := "operator requested revalidation", context }

/-- Writes a policy's record. -/
def putRecord (s : State) (policy : AdaptivePolicyId) (record : PolicyRecord) : State :=
  { s with policies := s.policies.insert policy record }

def transitionPolicy (s : State) (request : PolicyLifecycleRequest) : State × OperationResult :=
  match s.transitionChecks request with
  | .error answer => (s, answer)
  | .ok (record, next) =>
    if request.event = .revalidate && !record.candidates.any (·.usable) then
      let s := s.putRecord request.policy
        { record with policy := { record.policy with lifecycle := .revalidationRequired } }
      (s, s.makeResult .revalidationRequired "no candidate binding is currently legal and available"
        request.policy)
    else
      let s := s.putRecord request.policy
        { record with policy := { record.policy with lifecycle := next, epoch := s.epoch } }
      (s, { s.makeResult .policyUpdated (Text.concat ["policy lifecycle is now ", next.text])
              request.policy with mutated := true })

/-- `revalidate`: the `REVALIDATE` transition. -/
def revalidate (s : State) (policy : AdaptivePolicyId) (context : MutationContext) :
    State × OperationResult :=
  s.transitionPolicy (revalidateRequest policy context)

/-! ## Revocation -/

/-- What `revoke_policy` refuses; the record. -/
def revokeChecks (s : State) (limits : Limits) (request : RevokePolicyRequest) :
    Except OperationResult PolicyRecord := do
  refuseIf (!request.policy.valid || !validRevocationReason request.reason.code)
    (s.makeResult .malformedRequest "policy id and revocation reason are required" request.policy)
  let record ← orRefuse s.policies[request.policy]?
    (s.makeResult .notFound "policy does not exist" request.policy)
  let _ ← s.requireCaller request.context (some record.policy.semantics.target.route)
    record.policy.semantics.target.multipathSet request.policy
  refuseWith (s.revocations[request.policy]?.map fun existing =>
    if existing.reason = request.reason then
      s.makeResult .idempotent "policy is already revoked for the same reason" request.policy
    else s.makeResult .revoked "policy is already revoked for a different reason" request.policy)
  refuseIf record.policy.lifecycle.terminal
    (s.makeResult (lifecycleOutcome record.policy.lifecycle)
      "a retired or superseded policy cannot be revoked" request.policy)
  refuseIf (reaches s.revocations.size limits.maxRevocations)
    (s.makeResult .resourceLimit "revocation limit reached" request.policy)
  return record

def revokePolicy (s : State) (limits : Limits) (request : RevokePolicyRequest) :
    State × OperationResult :=
  match s.revokeChecks limits request with
  | .error answer => (s, answer)
  | .ok record =>
    let revocation : RevocationRecord :=
      { policy := request.policy, generation := record.policy.generation
        authorityGeneration := s.authorityGeneration, epoch := s.epoch
        publisher := request.context.publisher, reason := request.reason, detail := request.detail }
    let s := { s.putRecord request.policy { record with
        revocation := some revocation
        policy := { record.policy with lifecycle := .revoked, epoch := s.epoch } } with
      revocations := s.revocations.insertIfNew request.policy revocation }
    (s, { s.makeResult .policyUpdated (Text.concat ["policy revoked: ", revocation.render])
            request.policy with mutated := true })

end State

end AdaptiveRouting
