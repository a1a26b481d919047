import AdaptiveRouting.Fabric.Policy

/-!
# Upstream notifications

`apply_upstream` validates and applies a batch notification by notification: one notification either
is refused and changes nothing, or applies its event (`applyNotification`), and the batch stops at
the first refusal (`applyNotifications`).
-/

namespace AdaptiveRouting

open Guard

namespace State

/-- What one notification is refused for whatever its event; the record of its policy. -/
def notificationChecks (s : State) (context : MutationContext) (n : UpstreamNotification) :
    Except OperationResult PolicyRecord := do
  refuseIf (!n.policy.valid) (s.makeResult .malformedRequest "notification names no policy" default)
  let record ← orRefuse s.policies[n.policy]?
    (s.makeResult .notFound "notification names an unknown policy" n.policy)
  let target := record.policy.semantics.target
  refuseIf (!validUpstreamEvent n.event.code)
    (s.makeResult .malformedRequest "unknown upstream event" n.policy)
  refuseIf (!n.binding.wellFormed)
    (s.makeResult .malformedRequest "upstream binding is malformed" n.policy)
  refuseIf record.policy.lifecycle.terminal
    (s.makeResult (lifecycleOutcome record.policy.lifecycle)
      "a terminal policy accepts no upstream binding" n.policy)
  refuseIf (n.provenance.publisher.valid && n.provenance.publisher != context.publisher)
    (s.makeResult .unauthorized "upstream provenance names a different publisher" n.policy)
  refuseIf (n.provenance.workerBoot.valid && n.provenance.workerBoot != context.workerBoot)
    (s.makeResult .staleWorker "upstream provenance names a different worker incarnation" n.policy)
  refuseIf (n.provenance.epoch.valid && n.provenance.epoch != s.epoch)
    (s.makeResult .staleEpoch "upstream provenance carries a stale epoch" n.policy)
  let _ ← s.requireCaller context (some target.route) target.multipathSet n.policy
  refuseIf (match target.multipathSet, n.binding.multipath with
      | some set, some multipath => multipath.set != set
      | _, _ => false)
    (s.makeResult .malformedRequest "multipath binding names a different set than the policy target"
      n.policy)
  refuseIf (n.binding.route.route != target.route)
    (s.makeResult .malformedRequest "route binding names a different route than the policy target"
      n.policy)
  refuseIf (!record.policy.scope.coversRoute record.policy.scope.fabric record.policy.scope.nameSpace
      (some n.binding.route.site) n.binding.route.route)
    (s.makeResult .unauthorizedScope "candidate route is outside the policy scope" n.policy)
  refuseIf (!record.policy.scope.coversPathClass n.binding.pathClass)
    (s.makeResult .unauthorizedScope "candidate path class is outside the policy scope" n.policy)
  return record

end State

/-- `sort_candidates`. -/
def sortCandidates (candidates : List CandidateRecord) : List CandidateRecord :=
  candidates.insertionSort fun a b => (compare a.binding.path b.binding.path).isLE

/-- The expected previous path authority generation, when one is given, is the current one. -/
def UpstreamNotification.expectedMatches (n : UpstreamNotification)
    (current : PathAuthorityGeneration) : Bool :=
  n.expectedPreviousGeneration.all fun expected => expected == current.value

/-- The binding of an invalidated path. -/
def CandidateBinding.invalidated (c : CandidateBinding) (n : CandidateBinding) : CandidateBinding :=
  { c with
    pathAuthority := { c.pathAuthority with
      legal := false
      denialReason := if n.pathAuthority.denialReason.isEmpty then "invalidated upstream"
        else n.pathAuthority.denialReason
      generation := if n.pathAuthority.generation.valid then n.pathAuthority.generation
        else c.pathAuthority.generation } }

namespace State

/-- Edits the binding of a candidate of a policy. -/
def editBinding (s : State) (policy : AdaptivePolicyId) (record : PolicyRecord) (path : PathId)
    (f : CandidateBinding → CandidateBinding) : State :=
  s.putRecord policy (record.modifyCandidate path fun candidate =>
    { candidate with binding := f candidate.binding })

/-- A candidate that was not declared before. -/
def declareFresh (s : State) (limits : Limits) (record : PolicyRecord) (n : UpstreamNotification) :
    Except OperationResult State := do
  refuseIf (reaches record.candidates.length limits.maxCandidatesPerPolicy)
    (s.makeResult .resourceLimit "candidate limit reached for this policy" n.policy)
  refuseIf (exceeds (record.candidates.length + 1) limits.maxTotalCandidates)
    (s.makeResult .resourceLimit "total candidate limit reached" n.policy)
  refuseIf (!n.binding.pathAuthority.legal)
    (s.makeResult .malformedRequest
      "a candidate is declared only with a current legal path authority binding" n.policy)
  let fresh : CandidateRecord := { binding := n.binding }
  return (s.putRecord n.policy { record with
    candidates := sortCandidates (record.candidates ++ [fresh]) }).reindexPolicy limits n.policy

/-- The event of an accepted notification. -/
def applyEvent (s : State) (limits : Limits) (record : PolicyRecord) (n : UpstreamNotification) :
    Except OperationResult State :=
  let path := n.binding.path
  let edit := s.editBinding n.policy record path
  let undeclared := s.makeResult .notFound "candidate is not declared" n.policy
  match n.event with
  | .declareCandidate =>
    match record.findCandidate path with
    | none => s.declareFresh limits record n
    | some candidate => do
      refuseIf (!n.expectedMatches candidate.binding.pathAuthority.generation)
        (s.makeResult .stalePathAuthority
          "expected previous path authority generation does not match" n.policy)
      return edit fun _ => n.binding
  | .advancePathAuthority => do
    let candidate ← orRefuse (record.findCandidate path) undeclared
    refuseIf (!n.expectedMatches candidate.binding.pathAuthority.generation)
      (s.makeResult .stalePathAuthority
        "expected previous path authority generation does not match" n.policy)
    refuseIf (!decide (candidate.binding.pathAuthority.generation <
        n.binding.pathAuthority.generation))
      (s.makeResult .stalePathAuthority "path authority generation must advance" n.policy)
    return (edit fun c => { c with pathAuthority := n.binding.pathAuthority }).applyInvalidation path
  | .invalidatePath => return (edit fun c => c.invalidated n.binding).applyInvalidation path
  | .setMembership => do
    let _ ← orRefuse (record.findCandidate path) undeclared
    return (edit fun c => { c with multipath := n.binding.multipath }).applyInvalidation path
  | .invalidateMultipathSet =>
    return (edit fun c => { c with
      multipath := c.multipath.map fun multipath => { multipath with current := false } }
      ).applyInvalidation path
  | .advanceRoute => do
    let _ ← orRefuse (record.findCandidate path) undeclared
    return (edit fun c => { c with route := n.binding.route }).applyInvalidation path
  | .invalidateRoute =>
    return (edit fun c => { c with route := { c.route with current := false } }
      ).applyInvalidation path
  | .advanceWeightPolicy => do
    let _ ← orRefuse (record.findCandidate path) undeclared
    return edit fun c => { c with weighted := n.binding.weighted }
  | .markUnavailable => return (edit fun c => { c with available := false }).applyInvalidation path
  | .markAvailable => return (edit fun c => { c with available := true }).applyInvalidation path
  | .hardFailureSignal => return (edit fun c => { c with hardFailure := true }).applyInvalidation path
  | .clearHardFailureSignal => return edit fun c => { c with hardFailure := false }

def applyNotification (s : State) (limits : Limits) (context : MutationContext)
    (n : UpstreamNotification) : Except OperationResult State := do
  let record ← s.notificationChecks context n
  s.applyEvent limits record n

/-- The batch loop: the state reached, and the refusal that ended it early, if any. -/
def applyNotifications (limits : Limits) (context : MutationContext) (s : State) :
    List UpstreamNotification → State × Option OperationResult
  | [] => (s, none)
  | n :: rest =>
    match s.applyNotification limits context n with
    | .error answer => (s, some answer)
    | .ok s' => applyNotifications limits context s' rest

end State

/-- The fingerprint of an upstream batch. -/
def fingerprintUpstream (notifications : List UpstreamNotification) : Text :=
  (notifications.foldl (fun g n => g.writeString n.render)
    (({} : Digest).writeTag "upstream-batch")).hex

namespace State

/-- What `apply_upstream` refuses before it looks at a notification; the fingerprint. -/
def upstreamChecks (s : State) (limits : Limits) (request : UpstreamNotifyRequest) :
    Except OperationResult Text := do
  refuseIf request.notifications.isEmpty
    (s.makeResult .malformedRequest "no upstream notification supplied" default)
  refuseIf (exceeds request.notifications.length limits.maxBatchSize)
    (s.makeResult .resourceLimit "upstream batch exceeds the configured maximum" default)
  let fingerprint := fingerprintUpstream request.notifications
  s.refuseReplay request.context.attempt fingerprint
  return fingerprint

def applyUpstream (s : State) (limits : Limits) (request : UpstreamNotifyRequest) :
    State × OperationResult :=
  match s.upstreamChecks limits request with
  | .error answer => (s, answer)
  | .ok fingerprint =>
    match applyNotifications limits request.context s request.notifications with
    | (s, some answer) => (s, answer)
    | (s, none) =>
      let s := s.recordAttempt limits request.context.attempt fingerprint .policyUpdated
        "upstream bindings applied"
      let front := (request.notifications.head?.map (·.policy)).getD default
      (s, { s.makeResult .policyUpdated "upstream bindings applied" front with mutated := true })

end State

end AdaptiveRouting
