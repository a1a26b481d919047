import AdaptiveRouting.Fabric.Load
import AdaptiveRouting.Transport

/-!
# Frames on the wire

A frame is a fixed header, a payload and an integrity trailer over both. `decodeFrame` takes a frame
off the front of a buffer, asks for more bytes or refuses what it sees; a session decodes and erases
in turns with what its socket yields (`Connection.iterate`).
-/

namespace AdaptiveRouting

open Codecs Guard

namespace Wire

/-! ## Messages -/

inductive MessageId
  | hello | helloAck | registerPublisher | fenceNotice | createPolicy | updatePolicy
  | policyLifecycle | revokePolicy | upstreamNotify | publishEvidence | evaluate | commitDecision
  | revalidate | rollback | queryState | snapshotRequest | snapshotResponse | explainRequest
  | diffRequest | advanceEpoch | result | error | bye
  deriving DecidableEq, Repr

def MessageId.code (id : MessageId) : UInt16 := id.ctorIdx.toUInt16 + 1

def messageIds : Enumeration UInt16 MessageId where
  values := (List.range 23).map .ofNat
  code := MessageId.code
  complete id := by cases id <;> decide
  distinct := by decide

/-- The message with this number, if `valid_message_id` holds of it. -/
def MessageId.parse (raw : UInt16) : Option MessageId :=
  messageIds.values.find? fun id => messageIds.code id = raw

/-! ## Frames -/

structure FrameHeader where
  wireVersion : UInt16 := wireProtocolVersion
  messageId : MessageId := .hello
  flags : UInt32 := 0
  payloadLength : UInt32 := 0
  sequence : UInt64 := 0
  epoch : CoordinatorEpoch := {}
  deriving DecidableEq, Repr

structure Frame where
  header : FrameHeader
  payload : Text := []
  deriving DecidableEq, Repr

def frameHeaderBytes : Nat := 32

def frameTrailerBytes : Nat := 8

def frameMagic : UInt32 := 0x31465241

/-- Why a buffer does not begin with a frame; `INCOMPLETE` asks for more bytes. -/
inductive FrameStatus
  | incomplete | badMagic | badVersion | badMessageId | tooLarge | integrity | malformed
  deriving DecidableEq, Repr

/-- The trailer, by the lanes of the store's. -/
def integrityOf (headerAndPayload : Text) : UInt64 :=
  let lanes := headerAndPayload.foldl integrityLanes (fnvOffsetA, fnvOffsetB)
  lanes.1 ^^^ lanes.2

/-- The bytes of a header, for a payload of this length. -/
def putHeader (header : FrameHeader) (payloadLength : UInt32) : Text :=
  putU32 frameMagic ++ putU16 header.wireVersion ++ putU16 header.messageId.code ++
    putU32 header.flags ++ putU32 payloadLength ++ putU64 header.sequence ++
    putGeneration header.epoch

def Frame.bytes (frame : Frame) : Text :=
  let bytes := putHeader frame.header frame.payload.length.toUInt32 ++ frame.payload
  bytes ++ putU64 (integrityOf bytes)

/-- `encode_frame`. Every message id of the model is a valid one. -/
def encodeFrame (frame : Frame) (maxFrameBytes : UInt64) : Option Text :=
  if frame.header.wireVersion ≠ wireProtocolVersion then none
  else if !frame.header.epoch.valid then none
  else if exceeds (frameHeaderBytes + frame.payload.length + frameTrailerBytes) maxFrameBytes then
    none
  else if frame.payload.length > 0xFFFFFFFF then none
  else some frame.bytes

section
variable (bytes : Text) (offset : Nat)

/-- The number in so many bytes at an offset, if they are there. -/
def readWord (width : Nat) : Option Nat :=
  if offset + width > bytes.length then none
  else some (number ((bytes.drop offset).take width))

def readU16 : Option UInt16 := (readWord bytes offset 2).map Nat.toUInt16

def readU32 : Option UInt32 := (readWord bytes offset 4).map Nat.toUInt32

def readU64 : Option UInt64 := (readWord bytes offset 8).map Nat.toUInt64

end

/-- The longest payload of a frame within the bound. -/
def maximumPayload (maxFrameBytes : UInt64) : Nat :=
  if maxFrameBytes.toNat > frameHeaderBytes + frameTrailerBytes then
    maxFrameBytes.toNat - (frameHeaderBytes + frameTrailerBytes)
  else 0

/-- `decode_frame`: the frame at the front of a buffer and the bytes it takes, or its status. -/
def decodeFrame (buffer : Text) (maxFrameBytes : UInt64) : Except FrameStatus (Frame × Nat) := do
  refuseIf (buffer.length < frameHeaderBytes) .incomplete
  let magic ← orRefuse (readU32 buffer 0) .malformed
  let version ← orRefuse (readU16 buffer 4) .malformed
  let rawId ← orRefuse (readU16 buffer 6) .malformed
  let flags ← orRefuse (readU32 buffer 8) .malformed
  let payloadLength ← orRefuse (readU32 buffer 12) .malformed
  let sequence ← orRefuse (readU64 buffer 16) .malformed
  let epochValue ← orRefuse (readU64 buffer 24) .malformed
  refuseIf (magic != frameMagic) .badMagic
  refuseIf (version != wireProtocolVersion) .badVersion
  let messageId ← orRefuse (MessageId.parse rawId) .badMessageId
  refuseIf (payloadLength.toNat > maximumPayload maxFrameBytes) .tooLarge
  let total := frameHeaderBytes + payloadLength.toNat + frameTrailerBytes
  refuseIf (buffer.length < total) .incomplete
  let expected := integrityOf (buffer.take (frameHeaderBytes + payloadLength.toNat))
  let stored ← orRefuse (readU64 buffer (frameHeaderBytes + payloadLength.toNat)) .malformed
  refuseIf (expected != stored) .integrity
  let epoch ← orRefuse (Generation.fromValue epochValue) .malformed
  return ({ header :=
              { wireVersion := version, messageId, flags, payloadLength, sequence, epoch }
            payload := (buffer.drop frameHeaderBytes).take payloadLength.toNat }, total)

/-! ## The loop of a session -/

/-- What the socket yields. -/
inductive Received
  | data (bytes : Text) | stalled | closed | failed (error : Text)
  deriving DecidableEq, Repr

/-- What one turn of the loop may look at: the running flag, the clock and the socket. -/
structure Turn where
  running : Bool := true
  now : Ticks
  received : Received := .stalled

inductive SessionEnd
  | cleanBye | lost | serverStopping
  deriving DecidableEq, Repr

def saturatingAdd (left right : Ticks) : Ticks :=
  if left > 0xFFFFFFFFFFFFFFFF - right then 0xFFFFFFFFFFFFFFFF else left + right

/-- `max_receive_stall_millis`, in ticks. -/
def stallBudget (limits : Limits) : Ticks := limits.maxReceiveStallMillis * 1000000

/-- A session's loop: what its handlers work on, the bytes that wait to be decoded, when a frame that
has started must be complete, and how it ended. `taken` and `dispatched` are the bytes taken off the
socket and the frames dispatched so far; nothing but the statements reads them. -/
structure Connection (σ : Type) where
  state : σ
  buffer : Text := []
  deadline : Option Ticks := none
  closing : Bool := false
  ended : Option SessionEnd := none
  taken : Text := []
  dispatched : List Frame := []

namespace Connection

variable {σ : Type}

/-- How a frame ends the loop. -/
def endOf : Disposition → Option SessionEnd
  | .proceed => none
  | .close => some .cleanBye
  | .protocolFailure => some .lost

def receive (c : Connection σ) : Received → Connection σ
  | .data bytes => { c with buffer := c.buffer ++ bytes, taken := c.taken ++ bytes }
  | .stalled => c
  | .closed => { c with closing := true }
  | .failed _ => { c with ended := some .lost }

/-- The buffer holds no complete frame. Only one that has started is timed. -/
def await (limits : Limits) (c : Connection σ) (turn : Turn) : Connection σ :=
  if c.closing then { c with ended := some .lost }
  else if c.buffer.isEmpty then receive { c with deadline := none } turn.received
  else match c.deadline with
    | none =>
      receive { c with deadline := some (saturatingAdd turn.now (stallBudget limits)) }
        turn.received
    | some deadline =>
      if turn.now ≥ deadline then { c with ended := some .lost } else receive c turn.received

/-- One turn of `run_session`. -/
def iterate (limits : Limits) (dispatch : σ → Frame → σ × Disposition) (c : Connection σ)
    (turn : Turn) : Connection σ :=
  if c.ended.isSome then c
  else if !turn.running then { c with ended := some .serverStopping }
  else match decodeFrame c.buffer limits.maxFrameBytes with
    | .ok (frame, consumed) =>
      let served := dispatch c.state frame
      { c with
        state := served.1, buffer := c.buffer.drop consumed, deadline := none
        ended := endOf served.2, dispatched := c.dispatched ++ [frame] }
    | .error .incomplete => await limits c turn
    | .error _ => { c with ended := some .lost }

def run (limits : Limits) (dispatch : σ → Frame → σ × Disposition) (c : Connection σ)
    (turns : List Turn) : Connection σ :=
  turns.foldl (iterate limits dispatch) c

end Connection

end Wire

end AdaptiveRouting
