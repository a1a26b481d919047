import AdaptiveRouting.Fabric.Step

/-!
# Coordinator sessions

The coordinator dispatches the frames of a session to the entry points of the engine. A frame carries
what its payload decodes to. A session may only greet, leave and register until its registration was
accepted once. A session that ends without a goodbye is fenced.
-/

namespace AdaptiveRouting

/-! ## Messages -/

def wireProtocolVersion : UInt16 := 1

structure RegisterPublisherMessage where
  publisher : PublisherId
  workerBoot : WorkerBootId
  scope : AuthorityScope

structure FenceNoticeMessage where
  publisher : PublisherId
  workerBoot : WorkerBootId
  cause : Text := []

structure CreatePolicyMessage where
  name : AdaptivePolicyName
  scope : PolicyScope
  semantics : PolicySemantics

structure UpdatePolicyMessage where
  policy : AdaptivePolicyId
  scope : PolicyScope
  semantics : PolicySemantics

structure PolicyLifecycleMessage where
  policy : AdaptivePolicyId
  event : PolicyEvent := .activate
  detail : Text := []

structure RevokePolicyMessage where
  policy : AdaptivePolicyId
  reason : RevocationReason := .administrative
  detail : Text := []

structure EvaluateMessage where
  policy : AdaptivePolicyId
  deferCommit : Bool := false

structure RollbackMessage where
  policy : AdaptivePolicyId
  reason : Text := []

structure DiffRequestMessage where
  policy : AdaptivePolicyId
  before : SnapshotId
  after : SnapshotId

/-- A decoded frame: its message, with what the payload decodes to (`none` when it does not). -/
inductive Frame
  | hello (wireVersion : Option UInt16)
  | helloAck
  | registerPublisher (message : Option RegisterPublisherMessage)
  | fenceNotice (message : Option FenceNoticeMessage)
  | createPolicy (message : Option CreatePolicyMessage)
  | updatePolicy (message : Option UpdatePolicyMessage)
  | policyLifecycle (message : Option PolicyLifecycleMessage)
  | revokePolicy (message : Option RevokePolicyMessage)
  | upstreamNotify (notifications : Option (List UpstreamNotification))
  | publishEvidence (publications : Option (List EvidencePublication))
  | evaluate (message : Option EvaluateMessage)
  | commitDecision (ticket : Option EvaluationTicket)
  | revalidate (policy : Option AdaptivePolicyId)
  | rollback (message : Option RollbackMessage)
  | queryState (policy : Option AdaptivePolicyId)
  | snapshotRequest (policy : Option AdaptivePolicyId)
  | snapshotResponse
  | explainRequest (policy : Option AdaptivePolicyId)
  | diffRequest (message : Option DiffRequestMessage)
  | advanceEpoch (reason : Option Text)
  | result
  | error
  | bye

/-- The name of the frame's message. -/
def Frame.text : Frame → Text
  | .hello _ => "HELLO"
  | .helloAck => "HELLO_ACK"
  | .registerPublisher _ => "REGISTER_PUBLISHER"
  | .fenceNotice _ => "FENCE_NOTICE"
  | .createPolicy _ => "CREATE_POLICY"
  | .updatePolicy _ => "UPDATE_POLICY"
  | .policyLifecycle _ => "POLICY_LIFECYCLE"
  | .revokePolicy _ => "REVOKE_POLICY"
  | .upstreamNotify _ => "UPSTREAM_NOTIFY"
  | .publishEvidence _ => "PUBLISH_EVIDENCE"
  | .evaluate _ => "EVALUATE"
  | .commitDecision _ => "COMMIT_DECISION"
  | .revalidate _ => "REVALIDATE"
  | .rollback _ => "ROLLBACK"
  | .queryState _ => "QUERY_STATE"
  | .snapshotRequest _ => "SNAPSHOT_REQUEST"
  | .snapshotResponse => "SNAPSHOT_RESPONSE"
  | .explainRequest _ => "EXPLAIN_REQUEST"
  | .diffRequest _ => "DIFF_REQUEST"
  | .advanceEpoch _ => "ADVANCE_EPOCH"
  | .result => "RESULT"
  | .error => "ERROR"
  | .bye => "BYE"

/-! ## Sessions -/

structure Session where
  id : SessionId
  registered : Bool := false
  publisher : PublisherId := default
  workerBoot : WorkerBootId := default
  scope : AuthorityScope
  dispatched : UInt64 := 0

/-- What a handler reads before the entry point locks the engine: the epoch, and the clock, which is
read again for each sample of a batch. -/
structure Reading where
  epoch : CoordinatorEpoch
  begun : Ticks
  now : Ticks
  accepted : Nat → Ticks := fun _ => now

/-- What is left of a prefix: its allowed characters, from the first that may stand at an edge. -/
def sanitizePrefix (text : Text) : Text :=
  (text.filter idCharAllowed).dropWhile fun c => !idEdgeCharAllowed c

/-- `compose_identity`: the prefix is cut to the room the other parts leave, and the nonce is dropped
when they leave none. -/
def composeIdentity (d : IdDomain) (idPrefix kind nonce : Text) (counter : UInt64)
    (withNonce : Bool) : StrongId d :=
  let number := natText counter.toNat
  let clean := sanitizePrefix idPrefix
  let assemble (head : Text) (includeNonce : Bool) : Text :=
    Text.concat [head, if head.isEmpty then [] else "-", kind,
      if includeNonce then Text.concat ["-", nonce] else [], "-", number]
  let budget (includeNonce : Bool) : Nat :=
    d.maxLength -
      (kind.length + (if includeNonce then nonce.length + 1 else 0) + number.length + 2)
  let includeNonce := withNonce && budget true > 0
  let text := assemble (clean.take (budget includeNonce)) includeNonce
  ((StrongId.parse text).orElse fun _ => StrongId.parse (Text.concat [kind, "-", number])).getD default

/-- The identity of the session a coordinator accepts next. -/
def acceptedSession (idPrefix nonce : Text) (index : UInt64) : SessionId :=
  composeIdentity .sessionId idPrefix "session" nonce index true

/-- The attempt of the nth frame of a session. -/
def composeAttempt (session : SessionId) (sequence : UInt64) : MutationAttemptId :=
  let suffix : Text := Text.concat ["-", natText sequence.toNat]
  let text : Text := if session.valid then session.text else "anonymous"
  let room := IdDomain.maxLength .mutationAttemptId - suffix.length
  ((StrongId.parse (text.take room ++ suffix)).orElse fun _ =>
    StrongId.parse (Text.concat ["attempt-", natText sequence.toNat])).getD default

/-- The context of a session's mutation. -/
def makeContext (session : Session) (reading : Reading) (sequence : UInt64) : MutationContext :=
  { epoch := reading.epoch, publisher := session.publisher, workerBoot := session.workerBoot
    session := session.id, attempt := composeAttempt session.id sequence }

/-- What a session is answered. -/
inductive Reply
  | none
  | greeting
  | report
  | answer (answer : Answer)
  | error (outcome : Outcome) (detail : Text)

/-- What the session does after a frame. -/
inductive Disposition
  | proceed | close | protocolFailure
  deriving DecidableEq, Repr

/-- The engine and the session after a frame, the reply and the disposition. -/
structure Served where
  engine : Engine
  session : Session
  reply : Reply
  disposition : Disposition := .proceed

/-! ## Handlers -/

section
variable (config : EngineConfig) (e : Engine) (session : Session) (frame : Frame)

/-- A payload that does not decode. -/
def rejectPayload : Served :=
  { engine := e, session, reply := .error .malformedRequest
      (Text.concat ["the payload of ", frame.text, " could not be decoded"]) }

/-- A handler that makes one operation of its message and reports what it returns. -/
def serveOperation {α : Type} (message : Option α) (op : α → Op) : Option Served :=
  match message with
  | none => some (rejectPayload e session frame)
  | some message => (e.step config (op message)).map fun (e, answer) =>
      { engine := e, session, reply := .answer answer }

def handleHello (wireVersion : Option UInt16) : Served :=
  match wireVersion with
  | none => rejectPayload e session frame
  | some version =>
    if version ≠ wireProtocolVersion then
      { engine := e, session, disposition := .protocolFailure
        reply := .error .unsupportedVersion (Text.concat
          ["the peer announced wire protocol version ", natText version.toNat,
            ", this coordinator speaks ", natText wireProtocolVersion.toNat]) }
    else { engine := e, session, reply := .greeting }

def handleRegisterPublisher (message : Option RegisterPublisherMessage) : Served :=
  match message with
  | none => rejectPayload e session frame
  | some message =>
    if !message.scope.wellFormed then
      { engine := e, session, reply := .error .malformedRequest
          "the authority scope names neither a fabric nor a routing namespace" }
    else
      let after := e.state.registerPublisher config.limits message.publisher message.workerBoot
        message.scope session.id
      let session := if after.2.accepted then
          { session with
            registered := true, publisher := message.publisher, workerBoot := message.workerBoot
            scope := message.scope }
        else session
      { engine := { e with state := after.1 }, session, reply := .answer (.result after.2) }

def handleFenceNotice (message : Option FenceNoticeMessage) : Option Served :=
  serveOperation config e session frame message fun message =>
    .fencePublisher message.publisher message.workerBoot message.cause

variable (reading : Reading) (attempt : UInt64)

def handleCreatePolicy (message : Option CreatePolicyMessage) : Option Served :=
  serveOperation config e session frame message fun message =>
    .createPolicy reading.now
      { name := message.name, scope := message.scope, semantics := message.semantics
        context := makeContext session reading attempt }

def handleUpdatePolicy (message : Option UpdatePolicyMessage) : Option Served :=
  serveOperation config e session frame message fun message =>
    .updatePolicy reading.now
      { policy := message.policy
        update := { scope := message.scope, semantics := message.semantics }
        context := makeContext session reading attempt }

def handlePolicyLifecycle (message : Option PolicyLifecycleMessage) : Option Served :=
  serveOperation config e session frame message fun message =>
    .transitionPolicy
      { policy := message.policy, event := message.event, detail := message.detail
        context := makeContext session reading attempt }

def handleRevokePolicy (message : Option RevokePolicyMessage) : Option Served :=
  serveOperation config e session frame message fun message =>
    .revokePolicy
      { policy := message.policy, reason := message.reason, detail := message.detail
        context := makeContext session reading attempt }

def handleUpstreamNotify (notifications : Option (List UpstreamNotification)) : Option Served :=
  serveOperation config e session frame notifications fun notifications =>
    .applyUpstream { notifications, context := makeContext session reading attempt }

def handlePublishEvidence (publications : Option (List EvidencePublication)) : Option Served :=
  serveOperation config e session frame publications fun publications =>
    .publishEvidence reading.accepted { publications, context := makeContext session reading attempt }

/-- A deferred evaluation is phase one alone. -/
def handleEvaluate (message : Option EvaluateMessage) : Option Served :=
  serveOperation config e session frame message fun message =>
    let request : EvaluateRequest :=
      { policy := message.policy, context := makeContext session reading attempt
        deferCommit := message.deferCommit }
    if message.deferCommit then .beginEvaluation reading.begun request
    else .evaluate reading.begun reading.now request

def handleCommitDecision (ticket : Option EvaluationTicket) : Option Served :=
  serveOperation config e session frame ticket fun ticket =>
    .commitEvaluation reading.now { ticket, context := makeContext session reading attempt }

def handleRevalidate (policy : Option AdaptivePolicyId) : Option Served :=
  serveOperation config e session frame policy fun policy =>
    .revalidate policy (makeContext session reading attempt)

def handleRollback (message : Option RollbackMessage) : Option Served :=
  serveOperation config e session frame message fun message =>
    .rollback reading.now
      { policy := message.policy, reason := message.reason
        context := makeContext session reading attempt }

/-- A policy a request names that does not exist. -/
def unknownPolicy (policy : AdaptivePolicyId) : Served :=
  { engine := e, session, reply := .error .notFound
      (Text.concat ["policy ", policy.text, " does not exist"]) }

/-- A valid policy asks for that one, an invalid one for all. -/
def handleQueryState (policy : Option AdaptivePolicyId) : Served :=
  match policy with
  | none => rejectPayload e session frame
  | some policy =>
    if policy.valid && !e.state.policies.contains policy then unknownPolicy e session policy
    else { engine := e, session, reply := .report }

def handleSnapshotRequest (policy : Option AdaptivePolicyId) : Option Served :=
  match policy with
  | none => some (rejectPayload e session frame)
  | some policy =>
    if !policy.valid then
      some { engine := e, session
             reply := .error .malformedRequest "SNAPSHOT_REQUEST must name a policy" }
    else if !e.state.policies.contains policy then some (unknownPolicy e session policy)
    else (e.step config (.snapshot reading.now policy)).map fun (e, answer) =>
      { engine := e, session, reply := .answer answer }

def handleExplainRequest (policy : Option AdaptivePolicyId) : Served :=
  match policy with
  | none => rejectPayload e session frame
  | some _ => { engine := e, session, reply := .report }

def handleDiffRequest (message : Option DiffRequestMessage) : Served :=
  let missing (snapshot : SnapshotId) : Served :=
    { engine := e, session, reply := .error .notFound
        (Text.concat ["snapshot ", snapshot.text, " is not retained"]) }
  match message with
  | none => rejectPayload e session frame
  | some message =>
    if !e.state.snapshots.contains message.before then missing message.before
    else if !e.state.snapshots.contains message.after then missing message.after
    else { engine := e, session, reply := .report }

def handleAdvanceEpoch (reason : Option Text) : Option Served :=
  serveOperation config e session frame reason .advanceEpoch

end

/-! ## Dispatch -/

/-- What an unregistered session may send. -/
def Frame.open : Frame → Bool
  | .hello _ | .bye | .registerPublisher _ => true
  | _ => false

def dispatch (config : EngineConfig) (e : Engine) (session : Session) (frame : Frame)
    (reading : Reading) : Option Served :=
  let session := { session with dispatched := session.dispatched + 1 }
  let attempt := session.dispatched
  if !session.registered && !frame.open then
    some { engine := e, session, reply := .error .unauthorized
             (Text.concat ["session ", session.id.text, " must register a publisher before ",
               frame.text]) }
  else
    match frame with
    | .hello wireVersion => some (handleHello e session frame wireVersion)
    | .registerPublisher message => some (handleRegisterPublisher config e session frame message)
    | .fenceNotice message => handleFenceNotice config e session frame message
    | .createPolicy message => handleCreatePolicy config e session frame reading attempt message
    | .updatePolicy message => handleUpdatePolicy config e session frame reading attempt message
    | .policyLifecycle message =>
      handlePolicyLifecycle config e session frame reading attempt message
    | .revokePolicy message => handleRevokePolicy config e session frame reading attempt message
    | .upstreamNotify notifications =>
      handleUpstreamNotify config e session frame reading attempt notifications
    | .publishEvidence publications =>
      handlePublishEvidence config e session frame reading attempt publications
    | .evaluate message => handleEvaluate config e session frame reading attempt message
    | .commitDecision ticket => handleCommitDecision config e session frame reading attempt ticket
    | .revalidate policy => handleRevalidate config e session frame reading attempt policy
    | .rollback message => handleRollback config e session frame reading attempt message
    | .queryState policy => some (handleQueryState e session frame policy)
    | .snapshotRequest policy => handleSnapshotRequest config e session frame reading policy
    | .explainRequest policy => some (handleExplainRequest e session frame policy)
    | .diffRequest message => some (handleDiffRequest e session frame message)
    | .advanceEpoch reason => handleAdvanceEpoch config e session frame reason
    | .bye => some { engine := e, session, reply := .none, disposition := .close }
    | .helloAck | .result | .error | .snapshotResponse =>
      some { engine := e, session, disposition := .protocolFailure
             reply := .error .wireMalformed
               (Text.concat [frame.text, " is not accepted by the coordinator"]) }

/-- The end of a lost session: its incarnation is fenced, if it was registered. -/
def sessionLost (e : Engine) (session : Session) : Engine :=
  if session.registered then
    { e with state :=
        (e.state.fencePublisher session.publisher session.workerBoot "SESSION_LOST").1 }
  else e

/-- A frame and, when it breaks the protocol, the end of the session it brings about. -/
def receiveFrame (config : EngineConfig) (e : Engine) (session : Session) (frame : Frame)
    (reading : Reading) : Option Served :=
  (dispatch config e session frame reading).map fun served =>
    if served.disposition = .protocolFailure then
      { served with engine := sessionLost served.engine served.session }
    else served

end AdaptiveRouting
