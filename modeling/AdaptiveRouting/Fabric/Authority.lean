import AdaptiveRouting.Lib.Guard
import AdaptiveRouting.State

/-!
# Authority, attempts, indexes and invalidation

The caller check every mutating entry point shares, the recognition of replayed attempts, the
reverse indexes, targeted path invalidation, and the authority operations themselves: registering
and fencing a publisher and advancing the epoch.
-/

namespace AdaptiveRouting

open Guard

/-! ## Results -/

def lifecycleOutcome : PolicyLifecycle → Outcome
  | .active => .noChange
  | .declared => .suspended
  | .suspended => .suspended
  | .revalidationRequired => .revalidationRequired
  | .revoked => .revoked
  | .superseded => .policySuperseded
  | .retired => .retired

namespace State

def makeResult (s : State) (outcome : Outcome) (detail : Text) (policy : AdaptivePolicyId) :
    OperationResult :=
  let result : OperationResult :=
    { outcome, detail, policy, epoch := s.epoch, evidenceGeneration := s.evidenceGeneration }
  match (if policy.valid then s.policies[policy]? else none) with
  | some record =>
    { result with
      policyGeneration := record.policy.generation
      adaptationGeneration := record.preference.adaptationGeneration
      transitionGeneration := record.preference.transitionGeneration }
  | none => result

/-! ## Caller authority -/

/-- Caller identity, epoch, worker authority and scope, in this order. The scope check names the
fabric and namespace of the registration itself. -/
def checkCaller (s : State) (context : MutationContext) (route : Option RouteId)
    (set : Option MultipathSetId) : Except (Outcome × Text) PublisherRegistration := do
  refuseIf (!context.hasCallerIdentity) (Outcome.unauthorized, "caller identity is incomplete")
  refuseIf (s.epoch != context.epoch)
    (Outcome.staleEpoch, Text.concat ["request epoch ", natText context.epoch.value.toNat,
      " is not the current epoch ", natText s.epoch.value.toNat])
  refuseIf (s.fencedBoots.contains context.workerBoot)
    (Outcome.fencedWorker,
      Text.concat ["worker boot ", context.workerBoot.text, " is permanently fenced"])
  let registration ← orRefuse s.registrations[context.publisher]?
    (Outcome.unauthorized, Text.concat ["publisher ", context.publisher.text, " is not registered"])
  refuseIf (registration.workerBoot != context.workerBoot)
    (Outcome.staleWorker, Text.concat ["worker boot ", context.workerBoot.text,
      " is not the live incarnation of ", context.publisher.text])
  refuseIf (registration.session != context.session)
    (Outcome.unauthorized, "session does not own this publisher registration")
  refuseIf (!registration.scope.wellFormed)
    (Outcome.unauthorizedScope, "registered authority scope is malformed")
  let fabric := registration.scope.fabric
  let nameSpace := registration.scope.nameSpace
  refuseIf (route.any fun route => !registration.scope.coversRoute fabric nameSpace route)
    (Outcome.unauthorizedScope,
      Text.concat ["authority scope does not cover route ", (route.getD default).text])
  refuseIf (set.any fun set => !registration.scope.coversMultipathSet fabric nameSpace set)
    (Outcome.unauthorizedScope,
      Text.concat ["authority scope does not cover multipath set ", (set.getD default).text])
  return registration

/-- The caller check of an entry point that answers about `policy`. -/
def requireCaller (s : State) (context : MutationContext) (route : Option RouteId)
    (set : Option MultipathSetId) (policy : AdaptivePolicyId) :
    Except OperationResult PublisherRegistration :=
  (s.checkCaller context route set).mapError fun (outcome, detail) =>
    s.makeResult outcome detail policy

/-! ## Attempts -/

/-- The answer to an attempt that was already applied, or cannot be: `none` when it is new. -/
def replayCheck (s : State) (attempt : MutationAttemptId) (fingerprint : Text) :
    Option OperationResult :=
  if !attempt.valid then
    some (s.makeResult .malformedRequest "mutation attempt id is invalid" default)
  else
    match s.attempts[attempt]? with
    | none => none
    | some record =>
      if record.fingerprint = fingerprint then
        some (s.makeResult .idempotent
          (Text.concat ["exact replay of ", record.outcome.text,
            if record.detail.isEmpty then [] else Text.concat [" ", record.detail]]) default)
      else
        some (s.makeResult .attemptConflict "attempt id reused with a different payload" default)

/-- An early return with the answer of `replayCheck`. -/
def refuseReplay (s : State) (attempt : MutationAttemptId) (fingerprint : Text) :
    Except OperationResult Unit :=
  refuseWith (s.replayCheck attempt fingerprint)

/-- Forgets the oldest attempts beyond the bound. -/
def pruneAttempts (s : State) (limits : Limits) : State :=
  let surplus := s.attemptOrder.length - limits.maxAttempts.toNat
  { s with
    attempts := (s.attemptOrder.take surplus).foldl (fun table oldest => table.erase oldest)
      s.attempts
    attemptOrder := s.attemptOrder.drop surplus }

def recordAttempt (s : State) (limits : Limits) (attempt : MutationAttemptId) (fingerprint : Text)
    (outcome : Outcome) (detail : Text) : State :=
  if !attempt.valid then s
  else
    let record : AttemptRecord := { attempt, fingerprint, outcome, detail }
    if s.attempts.contains attempt then { s with attempts := s.attempts.insert attempt record }
    else
      pruneAttempts { s with
        attempts := s.attempts.insert attempt record
        attemptOrder := s.attemptOrder ++ [attempt] } limits

/-! ## Reverse indexes -/

end State

namespace PolicyIndex

variable {d : IdDomain}

/-- `index[key].insert(policy)`. -/
def add (index : PolicyIndex d) (key : StrongId d) (policy : AdaptivePolicyId) : PolicyIndex d :=
  index.insert key ((index[key]?.getD {}).insert policy)

/-- Erases a policy under a key, and the key with its last policy. -/
def remove (index : PolicyIndex d) (key : StrongId d) (policy : AdaptivePolicyId) : PolicyIndex d :=
  match index[key]? with
  | none => index
  | some policies =>
    if (policies.erase policy).isEmpty then index.erase key
    else index.insert key (policies.erase policy)

end PolicyIndex

namespace State

/-- The sources that published evidence for a candidate of the record, in key order. -/
def evidenceSources (s : State) (record : PolicyRecord) : List EvidenceSourceId :=
  s.evidence.keys.flatMap fun key =>
    (record.candidates.filter fun candidate => key.path == candidate.binding.path).map fun _ =>
      key.source

def unindexPolicy (s : State) (policy : AdaptivePolicyId) : State :=
  match s.policies[policy]? with
  | none => s
  | some record =>
    { s with
      policiesByPath := record.candidates.foldl
        (fun index candidate => PolicyIndex.remove index candidate.binding.path policy)
        s.policiesByPath
      policiesByRoute := PolicyIndex.remove s.policiesByRoute record.policy.semantics.target.route policy
      policiesBySet := match record.policy.semantics.target.multipathSet with
        | some set => PolicyIndex.remove s.policiesBySet set policy
        | none => s.policiesBySet
      policiesBySource := (s.evidenceSources record).foldl
        (fun index source => PolicyIndex.remove index source policy) s.policiesBySource }

/-- Indexes the paths in order, up to the bound on indexed paths. -/
def indexPaths (bound : Nat) (policy : AdaptivePolicyId) (index : PolicyIndex .pathId) :
    List CandidateRecord → PolicyIndex .pathId
  | [] => index
  | candidate :: rest =>
    if bound ≤ index.size then index
    else indexPaths bound policy (PolicyIndex.add index candidate.binding.path policy) rest

def reindexPolicy (s : State) (limits : Limits) (policy : AdaptivePolicyId) : State :=
  match s.policies[policy]? with
  | none => s
  | some record =>
    { s with
      policiesByPath := indexPaths (limits.maxPoliciesPerPath * 16).toNat policy s.policiesByPath
        record.candidates
      policiesByRoute := PolicyIndex.add s.policiesByRoute record.policy.semantics.target.route policy
      policiesBySet := match record.policy.semantics.target.multipathSet with
        | some set => PolicyIndex.add s.policiesBySet set policy
        | none => s.policiesBySet
      policiesBySource := (s.evidenceSources record).foldl
        (fun index source => PolicyIndex.add index source policy) s.policiesBySource }

/-! ## Invalidation -/

/-- Advances the invalidation watermark of one candidate of one policy. -/
def bumpPath (s : State) (path : PathId) (policy : AdaptivePolicyId) : State :=
  { s with
    policies := s.policies.modify policy fun record =>
      record.modifyCandidate path fun candidate =>
        { candidate with pathWatermark := candidate.pathWatermark + 1 } }

/-- Only the policies the index lists for the path are touched. -/
def applyInvalidation (s : State) (path : PathId) : State :=
  let s := { s with upstreamWatermark := s.upstreamWatermark.next.getD s.upstreamWatermark }
  match s.policiesByPath[path]? with
  | none => s
  | some dependents => dependents.toList.foldl (fun s policy => s.bumpPath path policy) s

/-! ## Authority operations -/

/-- Fences a boot: its record, the fenced set and the live boots. -/
def fence (s : State) (publisher : PublisherId) (workerBoot : WorkerBootId) (cause : Text) : State :=
  { s with
    fences := s.fences ++ [{ publisher, workerBoot, epoch := s.epoch, cause }]
    fencedBoots := s.fencedBoots.insert workerBoot
    liveBoots := s.liveBoots.erase workerBoot }

/-- What `register_publisher` refuses. -/
def registerChecks (s : State) (limits : Limits) (publisher : PublisherId)
    (workerBoot : WorkerBootId) (scope : AuthorityScope) (session : SessionId) :
    Except OperationResult Unit := do
  refuseIf (!publisher.valid || !workerBoot.valid || !session.valid)
    (s.makeResult .malformedRequest "publisher, worker boot and session are required" default)
  refuseIf (!scope.wellFormed)
    (s.makeResult .malformedRequest "authority scope must name a fabric and a routing namespace"
      default)
  refuseIf (s.fencedBoots.contains workerBoot)
    (s.makeResult .fencedWorker
      (Text.concat ["worker boot ", workerBoot.text, " is permanently fenced"]) default)
  refuseIf (!s.registrations.contains publisher &&
      reaches s.registrations.size limits.maxPublishers)
    (s.makeResult .resourceLimit "publisher limit reached" default)

def registerPublisher (s : State) (limits : Limits) (publisher : PublisherId)
    (workerBoot : WorkerBootId) (scope : AuthorityScope) (session : SessionId) :
    State × OperationResult :=
  match s.registerChecks limits publisher workerBoot scope session with
  | .error answer => (s, answer)
  | .ok () =>
    let registration : PublisherRegistration :=
      { publisher, workerBoot, scope, epoch := s.epoch
        authorityGeneration := s.authorityGeneration, session }
    let install (s : State) : State × OperationResult :=
      let s := { s with
        registrations := s.registrations.insert publisher registration
        liveBoots := s.liveBoots.insert workerBoot publisher }
      (s, s.makeResult .policyUpdated "publisher registered" default)
    match s.registrations[publisher]? with
    | none => install s
    | some existing =>
      if existing.workerBoot = workerBoot then
        -- the same incarnation: its scope and session are refreshed
        let s := { s with
          registrations := s.registrations.insert publisher
            { existing with
              scope, session, epoch := s.epoch, authorityGeneration := s.authorityGeneration } }
        (s, s.makeResult .idempotent "publisher incarnation re-registered" default)
      else install (s.fence publisher existing.workerBoot "REINCARNATION")

def fencePublisher (s : State) (publisher : PublisherId) (workerBoot : WorkerBootId)
    (cause : Text) : State × OperationResult :=
  match s.registrations[publisher]? with
  | none =>
    (s, s.makeResult .notFound "no live registration for that publisher incarnation" default)
  | some existing =>
    if existing.workerBoot ≠ workerBoot then
      (s, s.makeResult .notFound "no live registration for that publisher incarnation" default)
    else
      let s := s.fence publisher workerBoot (if cause.isEmpty then "EXPLICIT" else cause)
      let s := { s with registrations := s.registrations.erase publisher }
      (s, s.makeResult .policyUpdated "publisher fenced" default)

/-- What an epoch advance does to a policy: the timing is disarmed, and a policy that is not
terminal must be revalidated. -/
def requireRevalidation (record : PolicyRecord) : PolicyRecord :=
  { record with
    timing := { record.timing with
      holdDownActive := false, holdDownDeadline := 0, cooldownActive := false
      cooldownDeadline := 0, churnCommits := [] }
    policy := if record.policy.lifecycle.terminal then record.policy
      else { record.policy with lifecycle := .revalidationRequired } }

/-- The fence of one live worker of the ending epoch. -/
def fenceLive (s : State) (entry : PublisherId × PublisherRegistration) : State :=
  { s with
    fences := s.fences ++ [{ publisher := entry.1, workerBoot := entry.2.workerBoot
                             epoch := s.epoch, cause := "EPOCH_ADVANCE" }]
    fencedBoots := s.fencedBoots.insert entry.2.workerBoot }

/-- Every live worker is fenced in the order of the publishers. -/
def fenceAll (s : State) : State :=
  { s.registrations.toList.foldl fenceLive s with registrations := {}, liveBoots := {} }

/-- The state a new epoch starts from. -/
def enterEpoch (s : State) : State :=
  { s.fenceAll with
    attempts := {}
    attemptOrder := []
    policies := s.policies.map fun _ record => requireRevalidation record }

def advanceEpoch (s : State) (reason : Text) : State × OperationResult :=
  match s.epoch.next with
  | none => (s, s.makeResult .generationOverflow "coordinator epoch is exhausted" default)
  | some next =>
    let s := { s with epoch := next }
    match s.authorityGeneration.next with
    | none => (s, s.makeResult .generationOverflow "authority generation is exhausted" default)
    | some authority =>
      let s := ({ s with authorityGeneration := authority } : State).enterEpoch
      (s, s.makeResult .policyUpdated
        (Text.concat ["epoch advanced to ", natText s.epoch.value.toNat, ": ", reason]) default)

end State

end AdaptiveRouting
