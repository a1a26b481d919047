import AdaptiveRouting.Coordinator
import AdaptiveRouting.Diff
import AdaptiveRouting.Fabric.Topics
import AdaptiveRouting.Wire.Serve

/-!
# Responses

What the coordinator writes to the peer of a session: the message of each reply (`Reply.frames`), and
how it is encoded and sent. A response that cannot be written is followed by an error that says so.
-/

namespace AdaptiveRouting

open Wire

def productName : Text := "Adaptive Routing Fabric"

/-! ## Results -/

/-- What `respond_operation` reports of an operation. -/
def ResultMessage.ofOperation (epoch : CoordinatorEpoch) (reported : OperationResult) :
    ResultMessage where
  outcome := reported.outcome
  suppression := reported.suppression
  detail := reported.detail
  policy := reported.policy
  policyGeneration := reported.policyGeneration
  decision := reported.decision
  adaptationGeneration := reported.adaptationGeneration
  transitionGeneration := reported.transitionGeneration
  evidenceGeneration := reported.evidenceGeneration
  epoch := if reported.epoch.valid then reported.epoch else epoch
  rendered := reported.render

/-- What a deferred evaluation reports of its ticket. -/
def ResultMessage.ofTicket (epoch : CoordinatorEpoch) (policy : AdaptivePolicyId)
    (ticket : EvaluationTicket) : ResultMessage where
  outcome := ticket.outcome
  suppression := ticket.suppression
  detail := ticket.detail
  policy := policy
  decision := ticket.decision
  adaptationGeneration := ticket.adaptationGeneration
  transitionGeneration := ticket.transitionGeneration
  evidenceGeneration := ticket.dependencies.evidenceGeneration
  epoch := if ticket.dependencies.epoch.valid then ticket.dependencies.epoch else epoch
  rendered := ticket.dependencies.render

def renderPolicyLine (policy : AdaptivePolicy) : Text :=
  Text.concat [policy.id.text, " name=", policy.name.text, " lifecycle=", policy.lifecycle.text,
    " generation=", policy.generation.text, " epoch=", policy.epoch.text, " digest=",
    policySemanticDigest policy]

namespace State

variable (s : State)

/-- What `handle_query_state` reports; a limit of zero bounds nothing. -/
def queryReport (message : QueryStateMessage) : ResultMessage :=
  let policies := if message.policy.valid then (s.findPolicy message.policy).toList
    else s.listPolicies
  let ordered := policies.insertionSort fun a b => !(b.id < a.id : Bool)
  let emitted := if message.limit = 0 then ordered else ordered.take message.limit.toNat
  { outcome := .noChange, policy := message.policy, epoch := s.epoch
    detail := Text.concat ["policies=", natText emitted.length]
    rendered := emitted.foldl (fun rendered policy =>
      Text.concat [rendered, if rendered.isEmpty then [] else "\n", renderPolicyLine policy]) [] }

/-- What `handle_explain_request` reports. -/
def explainReport (limits : Limits) (now : Ticks) (evidence : EvidenceSnapshotId)
    (message : ExplainRequestMessage) : ResultMessage :=
  let explanation := s.explain limits now evidence message.topic message.policy
  { outcome := explanation.outcome, suppression := explanation.suppression
    policy := if explanation.policy.valid then explanation.policy else message.policy
    decision := explanation.decision, epoch := s.epoch, detail := explanation.topic.text
    rendered := explanation.render }

/-- What `handle_diff_request` reports of two retained snapshots. -/
def diffReport (message : DiffRequestMessage) (before after : AdaptationSnapshot) : ResultMessage :=
  let difference := computeDiff before after
  { outcome := .noChange
    policy := if difference.policy.valid then difference.policy else message.policy
    epoch := s.epoch
    detail := if difference.entries.isEmpty then "no differences" else "differences recorded"
    rendered := difference.render }

end State

/-- The report of a query, on the state that answers it. -/
def Wire.Frame.report (limits : Limits) (e : Engine) (now : Ticks) (request : Wire.Frame) :
    Option ResultMessage :=
  match request.header.messageId with
  | .queryState => (QueryStateMessage.decode request.payload).map e.state.queryReport
  | .explainRequest =>
    let evidence := ((e.ids.mint .evsnap).map (·.1)).getD default
    (ExplainRequestMessage.decode request.payload).map (e.state.explainReport limits now evidence)
  | .diffRequest => do
    let message ← DiffRequestMessage.decode request.payload
    let before ← e.state.findSnapshot message.before
    let after ← e.state.findSnapshot message.after
    return e.state.diffReport message before after
  | _ => none

/-! ## Frames -/

section
variable (epoch : CoordinatorEpoch) (sequence : UInt64)

/-- The frame `write_response` builds. -/
def responseFrame (id : MessageId) (payload : Text) : Wire.Frame where
  header := { messageId := id, sequence, epoch, payloadLength := payload.length.toUInt32 }
  payload := payload

def respondError (outcome : Outcome) (detail : Text) : List Wire.Frame :=
  [responseFrame epoch sequence .error (ErrorMessage.encode { outcome, detail })]

/-- A result, and what is sent when it cannot be. -/
def respond (message : ResultMessage) : List Wire.Frame :=
  responseFrame epoch sequence .result message.encode ::
    respondError epoch sequence .resourceLimit
      "the response could not be encoded or written to the peer"

/-- A snapshot, and what is sent when it cannot be. -/
def respondSnapshot (message : SnapshotResponseMessage) : List Wire.Frame :=
  responseFrame epoch sequence .snapshotResponse message.encode ::
    respondError epoch sequence .resourceLimit
      "the snapshot response could not be encoded or written to the peer"

end

def SnapshotResponseMessage.ofSnapshot (policy : AdaptivePolicyId) (snapshot : AdaptationSnapshot) :
    SnapshotResponseMessage where
  snapshot := snapshot.id
  policy := policy
  digest := if snapshot.digest.isEmpty then snapshotDigest snapshot else snapshot.digest
  rendered := snapshot.render

/-- The frames a handler tries to write for its reply, one after the other until one is written. -/
def Reply.frames (limits : Limits) (e : Engine) (now : Ticks) (request : Wire.Frame) :
    Reply → List Wire.Frame
  | .none => []
  | .greeting =>
    [responseFrame e.state.epoch request.header.sequence .helloAck (HelloMessage.encode
      { product := productName, epoch := e.state.epoch
        authorityGeneration := e.state.authorityGeneration })]
  | .report =>
    ((request.report limits e now).map (respond e.state.epoch request.header.sequence)).getD []
  | .answer (.result result) =>
    respond e.state.epoch request.header.sequence (.ofOperation e.state.epoch result)
  | .answer (.ticket ticket) =>
    ((EvaluateMessage.decode request.payload).map fun message =>
      respond e.state.epoch request.header.sequence
        (.ofTicket e.state.epoch message.policy ticket)).getD []
  | .answer (.view view) =>
    ((view.bind fun snapshot => (SnapshotRequestMessage.decode request.payload).map fun message =>
      respondSnapshot e.state.epoch request.header.sequence
        (.ofSnapshot message.policy snapshot))).getD []
  | .error outcome detail => respondError e.state.epoch request.header.sequence outcome detail

/-! ## Writing -/

/-- `send_all`: what of the bytes goes out when sending stops after so many of them, if it stops, and
whether that is all. -/
def sendAll (bytes : Text) : Option Nat → Text × Bool
  | none => (bytes, true)
  | some sent => (bytes.take sent, bytes.length ≤ sent)

/-- `write_response`. -/
def writeResponse (limits : Limits) (frame : Wire.Frame) (stop : Option Nat) : Text × Bool :=
  if frame.payload.length > 0xFFFFFFFF then ([], false)
  else match encodeFrame frame limits.maxFrameBytes with
    | none => ([], false)
    | some bytes => sendAll bytes stop

/-- What goes out of the frames a handler tries. -/
def writeFirst (limits : Limits) : List Wire.Frame → List (Option Nat) → Text
  | [], _ => []
  | frame :: rest, stops =>
    let written := writeResponse limits frame stops.head?.join
    if written.2 then written.1 else written.1 ++ writeFirst limits rest stops.tail

end AdaptiveRouting
