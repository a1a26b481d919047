import AdaptiveRouting.Fabric.Load
import AdaptiveRouting.Transport

/-!
# The coordinator and its store

A coordinator serves the frames of its sessions with one engine and saves the engine's durable state
in one store file. An operation that took effect is saved before it is answered. Sessions that run side
by side mutate the engine, encode its state and replace the file in steps of their own.
-/

namespace AdaptiveRouting

/-! ## Saving -/

/-- A save: the clock reading it encodes at, and what kept it from being written. -/
structure Saving where
  now : Ticks
  refusal : Option (Outcome × Text) := none

/-- The engine, the live sessions and the content of the store file. -/
structure Coordinator where
  engine : Engine
  sessions : List Session := []
  store : Option Text := none

namespace Coordinator

/-- `save`. -/
def save (c : Coordinator) (saving : Saving) : Coordinator :=
  if saving.refusal.isSome then c
  else { c with store := some (c.engine.state.encodeStore saving.now) }

/-- Whether an operation is saved before it is answered. -/
def durable (result : OperationResult) : Bool := result.accepted || result.mutated

/-- The result with the durability failure reported in it. -/
def reportRefusal (result : OperationResult) (refusal : Outcome × Text) : OperationResult :=
  let note := Text.concat ["store save failed: ", refusal.1.text, " ", refusal.2]
  { result with
    outcome := refusal.1, mutated := false
    detail := if result.detail.isEmpty then note else Text.concat [result.detail, "; ", note] }

/-- `respond_operation`: the coordinator and what the session is answered. -/
def respondOperation (c : Coordinator) (saving : Saving) (result : OperationResult) :
    Coordinator × OperationResult :=
  if durable result then (c.save saving, saving.refusal.elim result (reportRefusal result))
  else (c, result)

/-- A reply on its way to the session. -/
def respond (c : Coordinator) (saving : Saving) : Reply → Coordinator × Reply
  | .answer (.result result) =>
    ((c.respondOperation saving result).1, .answer (.result (c.respondOperation saving result).2))
  | reply => (c, reply)

/-! ## Sessions -/

/-- A session that ended without a goodbye: its incarnation is fenced, and the fence is saved. -/
def endSession (c : Coordinator) (session : Session) (saving : Saving) : Coordinator :=
  if session.registered then
    let fenced := c.engine.state.fencePublisher session.publisher session.workerBoot "SESSION_LOST"
    let c := { c with engine := { c.engine with state := fenced.1 } }
    if durable fenced.2 then c.save saving else c
  else c

/-- What happens to a coordinator. -/
inductive Event
  | accept (session : SessionId)
  | frame (index : Nat) (frame : Frame) (reading : Reading) (saving : Saving)
  | lost (index : Nat) (saving : Saving)

/-- The frame of a session: the coordinator when the response is sent, and the response. -/
def receive (config : EngineConfig) (c : Coordinator) (index : Nat) (session : Session)
    (frame : Frame) (reading : Reading) (saving : Saving) : Option (Coordinator × Reply) :=
  (dispatch config c.engine session frame reading).map fun served =>
    let c := { c with engine := served.engine, sessions := c.sessions.set index served.session }
    let responded := c.respond saving served.reply
    let ended := { responded.1 with sessions := responded.1.sessions.eraseIdx index }
    (match served.disposition with
      | .proceed => responded.1
      | .close => ended
      | .protocolFailure => ended.endSession served.session saving,
      responded.2)

def step (config : EngineConfig) (c : Coordinator) : Event → Option (Coordinator × Reply)
  | .accept session =>
    let scope : AuthorityScope := { fabric := default, nameSpace := default }
    some ({ c with sessions := c.sessions ++ [{ id := session, scope }] }, .none)
  | .frame index frame reading saving =>
    c.sessions[index]?.bind fun session => c.receive config index session frame reading saving
  | .lost index saving =>
    c.sessions[index]?.map fun session =>
      ({ c with sessions := c.sessions.eraseIdx index }.endSession session saving, .none)

/-- A new coordinator; a store that is there must load. -/
def start (config : EngineConfig) (nonce origin : Text) (now : Ticks) (store : Option Text) :
    Option Coordinator :=
  let engine := Engine.start config nonce
  match store with
  | none => some { engine }
  | some bytes =>
    let decoded := (decodeDurableState bytes).mapError StoreRefusal.text
    let loaded := engine.state.decodeStore config now decoded origin
    if loaded.2.accepted then some { engine := { engine with state := loaded.1 }, store } else none

end Coordinator

/-! ## Concurrent saves -/

/-- An operation that is to be saved: the engine it left, what it returned, and whether a session waits
for it. `version` counts the operations of the engine; nothing but the statements reads it. -/
structure Update where
  version : Nat
  after : Engine
  result : OperationResult
  awaited : Bool

/-- The state of an engine encoded at a clock reading. -/
structure Image where
  version : Nat
  source : Engine
  now : Ticks

def Image.bytes (image : Image) : Text := image.source.state.encodeStore image.now

/-- Where the thread of a session stands. -/
inductive Progress
  | ready
  | ending
  | applied (update : Update)
  | encoded (update : Update) (image : Image)
  | written (update : Update)
  | ended

/-- What the thread does when its operation is settled. -/
def Update.next (update : Update) : Progress := if update.awaited then .ready else .ended

structure Worker where
  session : Session
  progress : Progress := .ready

/-- A coordinator whose sessions run side by side. `store` is the image last written, `answered` lists
the operations whose sessions were told that they took effect. -/
structure Service where
  engine : Engine
  version : Nat := 0
  workers : List Worker := []
  store : Option Image := none
  answered : List Update := []

/-- The next thing a session does. A write can fail. -/
inductive Move
  | accept (session : SessionId)
  | frame (index : Nat) (frame : Frame) (reading : Reading)
  | lost (index : Nat)
  | encode (index : Nat) (now : Ticks)
  | replace (index : Nat)
  | refuse (index : Nat) (refusal : Outcome × Text)
  | respond (index : Nat)

namespace Service

def setProgress (c : Service) (index : Nat) (worker : Worker) (progress : Progress) : Service :=
  { c with workers := c.workers.set index { worker with progress } }

/-- An operation of the engine on its way to the store. -/
def apply (c : Service) (index : Nat) (worker : Worker) (engine : Engine)
    (result : OperationResult) (awaited : Bool) : Service :=
  let update : Update := { version := c.version + 1, after := engine, result, awaited }
  { c with engine, version := c.version + 1 }.setProgress index worker (.applied update)

/-- The operation is in the engine; it is encoded and written only when it took effect. -/
def serve (config : EngineConfig) (c : Service) (index : Nat) (worker : Worker) (frame : Frame)
    (reading : Reading) : Option (Service × Reply) :=
  (dispatch config c.engine worker.session frame reading).map fun served =>
    let worker := { worker with session := served.session }
    let answer (progress : Progress) : Service × Reply :=
      ({ c with engine := served.engine, version := c.version + 1 }.setProgress index worker progress,
        served.reply)
    match served.disposition with
    | .close => answer .ended
    | .protocolFailure => answer .ending
    | .proceed =>
      match served.reply with
      | .answer (.result result) =>
        if Coordinator.durable result then (c.apply index worker served.engine result true, .none)
        else answer .ready
      | _ => answer .ready

/-- The fence of a lost session. -/
def lose (c : Service) (index : Nat) (worker : Worker) : Service :=
  let session := worker.session
  if session.registered then
    let fenced := c.engine.state.fencePublisher session.publisher session.workerBoot "SESSION_LOST"
    let engine := { c.engine with state := fenced.1 }
    if Coordinator.durable fenced.2 then c.apply index worker engine fenced.2 false
    else { c with engine, version := c.version + 1 }.setProgress index worker .ended
  else c.setProgress index worker .ended

def advance (config : EngineConfig) (c : Service) (index : Nat) (worker : Worker) :
    Move → Option (Service × Reply)
  | .frame _ frame reading =>
    match worker.progress with
    | .ready => c.serve config index worker frame reading
    | _ => none
  | .lost _ =>
    match worker.progress with
    | .ready | .ending => some (c.lose index worker, .none)
    | _ => none
  | .encode _ now =>
    match worker.progress with
    | .applied update =>
      some (c.setProgress index worker
        (.encoded update { version := c.version, source := c.engine, now }), .none)
    | _ => none
  | .replace _ =>
    match worker.progress with
    | .encoded update image =>
      some ({ c with store := some image }.setProgress index worker (.written update), .none)
    | _ => none
  | .refuse _ refusal =>
    match worker.progress with
    | .encoded update _ =>
      some (c.setProgress index worker update.next, if update.awaited
        then .answer (.result (Coordinator.reportRefusal update.result refusal)) else .none)
    | _ => none
  | .respond _ =>
    match worker.progress with
    | .written update =>
      some ({ c with answered := if update.awaited then c.answered ++ [update] else c.answered
              }.setProgress index worker update.next,
        if update.awaited then .answer (.result update.result) else .none)
    | _ => none
  | .accept _ => none

def step (config : EngineConfig) (c : Service) (move : Move) : Option (Service × Reply) :=
  match move with
  | .accept session =>
    let scope : AuthorityScope := { fabric := default, nameSpace := default }
    some ({ c with workers := c.workers ++ [{ session := { id := session, scope } }] }, .none)
  | .frame index .. | .lost index | .encode index _ | .replace index | .refuse index _
  | .respond index => c.workers[index]?.bind fun worker => c.advance config index worker move

end Service

end AdaptiveRouting
