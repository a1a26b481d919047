import AdaptiveRouting.Wire.Respond

/-!
# The client

A client of the coordinator makes one request after the other: it writes a frame under its next
sequence number and reads frames until one answers (`submit`, `poll`). It does not look at the sequence
number of what it reads. A connection on which a response is overdue or cannot be decoded is abandoned.
-/

namespace AdaptiveRouting

open Wire

/-- The name of a message. -/
def Wire.MessageId.text : MessageId → Text
  | .hello => "HELLO"
  | .helloAck => "HELLO_ACK"
  | .registerPublisher => "REGISTER_PUBLISHER"
  | .fenceNotice => "FENCE_NOTICE"
  | .createPolicy => "CREATE_POLICY"
  | .updatePolicy => "UPDATE_POLICY"
  | .policyLifecycle => "POLICY_LIFECYCLE"
  | .revokePolicy => "REVOKE_POLICY"
  | .upstreamNotify => "UPSTREAM_NOTIFY"
  | .publishEvidence => "PUBLISH_EVIDENCE"
  | .evaluate => "EVALUATE"
  | .commitDecision => "COMMIT_DECISION"
  | .revalidate => "REVALIDATE"
  | .rollback => "ROLLBACK"
  | .queryState => "QUERY_STATE"
  | .snapshotRequest => "SNAPSHOT_REQUEST"
  | .snapshotResponse => "SNAPSHOT_RESPONSE"
  | .explainRequest => "EXPLAIN_REQUEST"
  | .diffRequest => "DIFF_REQUEST"
  | .advanceEpoch => "ADVANCE_EPOCH"
  | .result => "RESULT"
  | .error => "ERROR"
  | .bye => "BYE"

def Wire.FrameStatus.text : FrameStatus → Text
  | .incomplete => "INCOMPLETE"
  | .badMagic => "BAD_MAGIC"
  | .badVersion => "BAD_VERSION"
  | .badMessageId => "BAD_MESSAGE_ID"
  | .tooLarge => "TOO_LARGE"
  | .integrity => "INTEGRITY"
  | .malformed => "MALFORMED"

structure Endpoint where
  host : Text := "127.0.0.1"
  port : UInt16 := 0

def Endpoint.render (endpoint : Endpoint) : Text :=
  Text.concat [endpoint.host, ":", natText endpoint.port.toNat]

structure ClientConfig where
  endpoint : Endpoint := {}
  limits : Limits := {}
  ioBudget : Ticks := 30000000000

/-- A client with its socket open or not, and the bytes it has read of a frame that is not complete. -/
structure Client where
  connected : Bool := false
  sequence : UInt64 := 0
  epoch : CoordinatorEpoch := .first
  authorityGeneration : AdaptiveAuthorityGeneration := .first
  buffer : Text := []

/-- A request that waits for its response; a greeting is the one that takes an acknowledgement. -/
structure Call where
  request : Wire.Frame
  skipAck : Bool := true
  started : Ticks
  deadline : Ticks

namespace Client

variable (config : ClientConfig) (client : Client)

/-! ## Requests -/

def close : Client := { client with connected := false, buffer := [] }

def abandon : Client := { client with connected := false, buffer := [] }

/-- `connect`, once the socket is there. -/
def connect : Client := { client.close with connected := true }

def absorbEpoch (epoch : CoordinatorEpoch) : Client :=
  if epoch.valid then { client with epoch } else client

/-- The frame of the client's next request. -/
def frame (id : MessageId) (payload : Text) : Wire.Frame where
  header :=
    { messageId := id, sequence := client.sequence + 1, epoch := client.epoch
      payloadLength := payload.length.toUInt32 }
  payload := payload

/-- `write_frame`: what goes out of a frame, and why not all of it does. Sending stops after so many
bytes with an error, if it stops. -/
def writeFrame (frame : Wire.Frame) (stop : Option (Nat × Text)) : Text × Option Text :=
  if frame.payload.length > 0xFFFFFFFF then
    ([], some (Text.concat ["the payload of ", frame.header.messageId.text,
      " exceeds the wire length field"]))
  else
    let outgoing : Wire.Frame := { frame with header := { frame.header with
      wireVersion := wireProtocolVersion, flags := 0
      epoch := if frame.header.epoch.valid then frame.header.epoch else client.epoch
      payloadLength := frame.payload.length.toUInt32 } }
    match encodeFrame outgoing config.limits.maxFrameBytes with
    | none => ([], some (Text.concat [frame.header.messageId.text, " exceeds max_frame_bytes (",
        natText config.limits.maxFrameBytes.toNat, ")"]))
    | some bytes =>
      let sent := sendAll bytes (stop.map (·.1))
      (sent.1, if sent.2 then none else stop.map (·.2))

/-- What `transact` does before it waits: the client, the bytes that go out, and the call or the
error. -/
def submit (id : MessageId) (payload : Text) (skipAck : Bool) (now : Ticks)
    (stop : Option (Nat × Text)) : Client × Text × Except Text Call :=
  if !client.connected then
    (client, [], .error (Text.concat ["the client is not connected to ", config.endpoint.render]))
  else
    let request := client.frame id payload
    let written := client.writeFrame config request stop
    ({ client with sequence := client.sequence + 1 }, written.1, match written.2 with
      | some error => .error error
      | none => .ok { request, skipAck, started := now, deadline := saturatingAdd now config.ioBudget })

/-- What a greeting announces. -/
def greeting : HelloMessage where
  product := productName
  epoch := client.epoch
  authorityGeneration := client.authorityGeneration

/-! ## Responses -/

/-- What becomes of a call. -/
inductive Progress
  | waiting
  | returned (response : Wire.Frame)
  | failed (error : Text)

def timedOut : Text :=
  Text.concat ["timed out after ", natText (config.ioBudget.toNat / 1000000),
    " ms waiting for a response from ", config.endpoint.render]

/-- Whether a turn of the loop gets to the socket. -/
def reads (call : Call) (now : Ticks) : Bool :=
  match decodeFrame client.buffer config.limits.maxFrameBytes with
  | .error .incomplete => now < call.deadline
  | _ => false

/-- What the socket yields. `later` is the clock after a wait that stalled. -/
def receive (call : Call) (later : Ticks) : Received → Client × Progress
  | .data bytes => ({ client with buffer := client.buffer ++ bytes }, .waiting)
  | .stalled =>
    if later ≠ call.started then (client.abandon, .failed (timedOut config)) else (client, .waiting)
  | .closed => (client.abandon, .failed "the coordinator closed the connection")
  | .failed error => (client.abandon, .failed (Text.concat ["receive failed: ", error]))

/-- One turn of `read_frame`, and what `transact` makes of the frame it takes. -/
def poll (call : Call) (now later : Ticks) (received : Received) : Client × Progress :=
  match decodeFrame client.buffer config.limits.maxFrameBytes with
  | .ok (response, consumed) =>
    let client := { client with buffer := client.buffer.drop consumed }
    (client.absorbEpoch response.header.epoch,
      if call.skipAck && response.header.messageId == .helloAck then .waiting
      else .returned response)
  | .error .incomplete =>
    if now ≥ call.deadline then (client.abandon, .failed (timedOut config))
    else client.receive config call later received
  | .error status =>
    (client.abandon, .failed (Text.concat ["the coordinator sent an invalid frame (", status.text, ")"]))

/-- What `hello` makes of the response to a greeting. -/
def greeted (response : Wire.Frame) : Client × Except Text HelloMessage :=
  if response.header.messageId ≠ .helloAck then
    (client, .error (Text.concat ["expected HELLO_ACK but received ", response.header.messageId.text]))
  else match HelloMessage.decode response.payload with
    | none => (client, .error "the HELLO_ACK payload could not be decoded")
    | some acknowledgement =>
      if acknowledgement.wireVersion ≠ wireProtocolVersion then
        (client, .error (Text.concat ["the coordinator announced wire protocol version ",
          natText acknowledgement.wireVersion.toNat]))
      else
        let client := client.absorbEpoch acknowledgement.epoch
        (if acknowledgement.authorityGeneration.valid then
          { client with authorityGeneration := acknowledgement.authorityGeneration } else client,
          .ok acknowledgement)

end Client

end AdaptiveRouting
