import AdaptiveRouting.Coordinator
import AdaptiveRouting.StoreFile

/-!
# A coordinator across its launches

The process of a coordinator is launched with what the store's path holds, serves its sessions, and may
end between any two steps. Its sessions save by the steps of `write_store_atomic`, so that the process can
end in the middle of a save.
-/

namespace AdaptiveRouting

/-- Which of the saves under way a step belongs to. -/
def FileEvent.place : FileEvent → Option Nat
  | .write index _ | .fail index _ | .flush index | .rename index .. | .remove index _ => some index
  | .begin .. | .crash => none

/-- A process and its files. `savers` are the sessions whose saves are under way, in the order of
`file.savers`. Nothing but the statements reads `found`, what the path held at the last launch, and the
`service` of a process that has ended. -/
structure Installation where
  running : Bool := false
  service : Option Service := none
  file : StoreFile := {}
  savers : List Nat := []
  found : Option Text := none

/-- What happens to it: a launch, a step of a session, the start of a session's save, a step of a save
that was started, or the end of the process. -/
inductive Incident
  | launch (nonce origin : Text) (now : Ticks)
  | serve (move : Move)
  | save (index : Nat) (granted : Bool)
  | file (event : FileEvent)
  | crash

namespace Installation

variable (maxStoreBytes : Nat) (config : EngineConfig) (d : Installation)

/-- The sessions of a process that runs. -/
def live : Option Service := if d.running then d.service else none

/-- A move of the sessions. -/
def move (move : Move) : Option (Installation × Reply) :=
  d.live.bind fun c => (c.step config move).map fun moved =>
    ({ d with service := some moved.1 }, moved.2)

/-- A save that failed. -/
def refuse (index : Nat) (detail : Text) : Option (Installation × Reply) :=
  d.move config (.refuse index
    (.internalError, Text.concat ["store could not be written: ", detail]))

/-- `save`, from the encoded state to the sibling that is opened for it. -/
def startSave (index : Nat) (image : Image) (granted : Bool) : Option (Installation × Reply) :=
  if index ∈ d.savers then none
  else if maxStoreBytes < image.bytes.length then
    d.move config (.refuse index
      (.resourceLimit, "durable state exceeds the configured store bound"))
  else
    (d.file.step (.begin image.bytes granted)).bind fun opened =>
      match opened.2 with
      | some (.error detail) => { d with file := opened.1 }.refuse config index detail
      | _ => some ({ d with file := opened.1, savers := d.savers ++ [index] }, .none)

/-- The next step of a save. -/
def goOn (place index : Nat) (event : FileEvent) : Option (Installation × Reply) :=
  (d.file.step event).bind fun written =>
    match written.2 with
    | none => some ({ d with file := written.1 }, .none)
    | some (.ok ()) =>
      { d with file := written.1, savers := d.savers.eraseIdx place }.move config (.replace index)
    | some (.error detail) =>
      { d with file := written.1, savers := d.savers.eraseIdx place }.refuse config index detail

def step (incident : Incident) : Option (Installation × Reply) :=
  match incident with
  | .launch nonce origin now =>
    if d.running then none
    else
      (Coordinator.start config nonce origin now d.file.disk.content).map fun started =>
        ({ d with running := true, service := some { engine := started.engine }
                  found := d.file.disk.content }, .none)
  | .serve move =>
    match move with
    | .replace _ | .refuse .. => none
    | _ => d.move config move
  | .save index granted =>
    (d.live.bind fun c => c.workers[index]?).bind fun worker =>
      match worker.progress with
      | .encoded _ image => d.startSave maxStoreBytes config index image granted
      | _ => none
  | .file event =>
    event.place.bind fun place => d.savers[place]?.bind fun index => d.goOn config place index event
  | .crash =>
    if d.running then
      (d.file.step .crash).map fun ended =>
        ({ d with running := false, file := ended.1, savers := [] }, .none)
    else none

end Installation

end AdaptiveRouting
