import AdaptiveRouting.Wire.Client

/-!
# Exchanges

A client, the session that serves it and the bytes between them. The socket hands over what was sent in
pieces of any size; the two ends and the other sessions of the coordinator take turns in any order. The
lists of what was requested, served and returned are for the statements only.
-/

namespace AdaptiveRouting

open Wire

/-- A request as it was served: what the handler did, what was reported of it once the state was saved,
and the frame that was written. -/
structure Entry where
  request : Wire.Frame
  served : Served
  reported : Coordinator × Reply
  response : Option Wire.Frame

/-- What the thread of a session works on, with the bytes it has written that the client has yet to
read. -/
structure Host where
  coordinator : Coordinator
  session : Session
  downlink : Text := []
  log : List Entry := []

/-- What a dispatch meets: the clock, what keeps its save from being written, and where its writes stop
short. A save that is refused reports a failure. -/
structure Circumstance where
  begun : Ticks
  now : Ticks
  accepted : Nat → Ticks := fun _ => now
  saving : Saving
  stops : List (Option Nat) := []
  failing : ∀ refusal ∈ saving.refusal, refusal.1.isSuccess = false := by simp

namespace Host

/-- `dispatch` of a frame that came in, with its response; the process may end in it. -/
def dispatch (config : EngineConfig) (meets : Circumstance) (host : Host) (frame : Wire.Frame) :
    Host × Disposition :=
  match frame.serve config host.coordinator.engine host.session meets.begun meets.now
      meets.accepted with
  | none => (host, .protocolFailure)
  | some served =>
    let reported := { host.coordinator with engine := served.engine }.respond meets.saving served.reply
    let frames := reported.2.frames config.limits served.engine meets.now frame
    let response := frames.find? fun frame => (writeResponse config.limits frame none).2
    ({ coordinator := reported.1, session := served.session
       downlink := host.downlink ++ writeFirst config.limits frames meets.stops
       log := host.log ++ [{ request := frame, served, reported, response }] }, served.disposition)

end Host

structure Exchange where
  client : Client
  call : Option Call := none
  uplink : Text := []
  server : Connection Host
  requested : List Wire.Frame := []
  read : Nat := 0
  returned : List (Wire.Frame × Wire.Frame) := []

/-- The next thing that happens: the caller of the client, the client, the session or another session
of the coordinator does something. -/
inductive Exchange.Move
  | hello (now : Ticks) (stop : Option (Nat × Text))
  | request (id : MessageId) (payload : Text) (now : Ticks) (stop : Option (Nat × Text))
  | bye (stop : Option (Nat × Text))
  | close
  | poll (now later : Ticks) (received : Received)
  | turn (turn : Turn) (meets : Circumstance)
  | others (coordinator : Coordinator)

/-- Whether the socket can yield this, with these bytes on their way. -/
def Wire.Received.arrives (link : Text) : Received → Bool
  | .data bytes => bytes.isPrefixOf link
  | _ => true

/-- The bytes taken off the link. -/
def Wire.Received.bytes : Received → Text
  | .data bytes => bytes
  | _ => []

namespace Exchange

/-- A connection that was just made. -/
def start (client : Client) (coordinator : Coordinator) (session : Session) : Exchange where
  client := client.connect
  server := { state := { coordinator, session } }

section
variable (client : ClientConfig) (config : EngineConfig) (x : Exchange)

def submit (id : MessageId) (payload : Text) (skipAck : Bool) (now : Ticks)
    (stop : Option (Nat × Text)) : Exchange × Client.Progress :=
  let after := x.client.submit client id payload skipAck now stop
  let x := { x with client := after.1, uplink := x.uplink ++ after.2.1 }
  match after.2.2 with
  | .error error => (x, .failed error)
  | .ok call => ({ x with call := some call, requested := x.requested ++ [call.request] }, .waiting)

/-- `bye`: whatever becomes of the last frame, the socket is closed. -/
def leave (stop : Option (Nat × Text)) : Exchange :=
  if x.client.connected then
    let frame := x.client.frame .bye []
    let written := x.client.writeFrame client frame stop
    { x with
      client := { x.client with sequence := x.client.sequence + 1 }.close
      uplink := x.uplink ++ written.1
      requested := if written.2.isNone then x.requested ++ [frame] else x.requested }
  else { x with client := x.client.close }

/-- A call returns to its caller, or goes on. -/
def settle (call : Call) (after : Client × Client.Progress) : Exchange :=
  match after.2 with
  | .waiting => { x with client := after.1 }
  | .failed _ => { x with client := after.1, call := none }
  | .returned response =>
    { x with
      client := if call.skipAck then after.1 else (after.1.greeted response).1
      call := none, returned := x.returned ++ [(call.request, response)] }

def poll (call : Call) (now later : Ticks) (received : Received) : Exchange × Client.Progress :=
  let after := x.client.poll client call now later received
  let host := x.server.state
  let taken := if x.client.reads client call now then received.bytes else []
  let decoded := (decodeFrame x.client.buffer client.limits.maxFrameBytes).isOk
  let x := { x with
    server := { x.server with state := { host with downlink := host.downlink.drop taken.length } }
    read := if decoded then x.read + 1 else x.read }
  (x.settle call after, after.2)

def turn (turn : Turn) (meets : Circumstance) : Exchange :=
  let server := x.server.iterate config.limits (Host.dispatch config meets) turn
  { x with server, uplink := x.uplink.drop (server.taken.length - x.server.taken.length) }

/-- The exchange after a move, and what the caller of the client sees. A caller waits for its call. -/
def step : Move → Option (Exchange × Client.Progress)
  | .hello now stop =>
    if x.call.isSome then none
    else some (x.submit client .hello x.client.greeting.encode false now stop)
  | .request id payload now stop =>
    if x.call.isSome then none else some (x.submit client id payload true now stop)
  | .bye stop => if x.call.isSome then none else some (x.leave client stop, .waiting)
  | .close => if x.call.isSome then none else some ({ x with client := x.client.close }, .waiting)
  | .poll now later received => x.call.bind fun call =>
      if received.arrives x.server.state.downlink then some (x.poll client call now later received)
      else none
  | .turn turn meets =>
    if turn.received.arrives x.uplink then some (x.turn config turn meets, .waiting) else none
  | .others coordinator =>
    let host := x.server.state
    some ({ x with server := { x.server with state := { host with coordinator } } }, .waiting)

end

/-- No write of the move stops part-way. -/
def Move.whole : Move → Prop
  | .hello _ stop | .request _ _ _ stop | .bye stop => stop = none
  | .turn _ meets => ∀ stop ∈ meets.stops, stop = none
  | .close | .poll .. | .others _ => True

end Exchange

end AdaptiveRouting
