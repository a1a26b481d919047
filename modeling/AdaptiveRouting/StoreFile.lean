import AdaptiveRouting.Outcome

/-!
# The store file

`write_store_atomic` writes the bytes of a save to a sibling of the store and moves that file over the
store. The threads that save do so in steps of their own, any operation on the files may be refused, and
the process may end between any two steps.
-/

namespace AdaptiveRouting

/-! ## Files -/

/-- What the names of the store and of its sibling are bound to. A file keeps its bytes when it is
renamed, and whoever has it open goes on writing to it. -/
structure Disk where
  store : Option Nat := none
  temporary : Option Nat := none
  files : List Text := []

namespace Disk

variable (d : Disk)

/-- What a reader of the store finds. -/
def content : Option Text := d.store.bind fun file => d.files[file]?

/-- The sibling, opened anew and truncated. -/
def openTemporary : Disk × Nat :=
  match d.temporary with
  | some file => ({ d with files := d.files.set file [] }, file)
  | none => ({ d with temporary := some d.files.length, files := d.files ++ [[]] }, d.files.length)

/-- Bytes that reach a file at an offset; a gap in front of them reads as zeros. -/
def writeAt (file offset : Nat) (bytes : Text) : Disk :=
  { d with files := d.files.modify file fun old =>
      old.take offset ++ List.replicate (offset - old.length) 0 ++ bytes ++
        old.drop (offset + bytes.length) }

/-- The sibling moves over the store, if there is one and the move is granted. -/
def rename (granted : Bool) : Option Disk :=
  if granted then d.temporary.map fun file => { d with store := some file, temporary := none } else none

def removeStore (granted : Bool) : Disk := if granted then { d with store := none } else d

def removeTemporary (granted : Bool) : Disk := if granted then { d with temporary := none } else d

end Disk

/-! ## Saves -/

inductive SaveStage
  | writing (file written : Nat)
  | flushed
  /-- The first rename was refused. -/
  | refused
  /-- The store was removed, as far as it could be. -/
  | cleared
  deriving DecidableEq

/-- A thread in `write_store_atomic`. -/
structure Saver where
  bytes : Text
  stage : SaveStage
  deriving DecidableEq

/-- The files and the saves under way. What follows is for the statements only: the bytes of the last save
that reported success, those of the saves that were begun since, and whether a rename was refused since. -/
structure StoreFile where
  disk : Disk := {}
  savers : List Saver := []
  acknowledged : Option Text := none
  attempted : List Text := []
  refused : Bool := false

inductive FileEvent
  | begin (bytes : Text) (granted : Bool)
  | write (index count : Nat)
  | fail (index : Nat) (removed : Bool)
  | flush (index : Nat)
  | rename (index : Nat) (granted removed : Bool)
  | remove (index : Nat) (granted : Bool)
  | crash

namespace StoreFile

variable (s : StoreFile)

/-- A save that has come further. -/
def proceed (index : Nat) (saver : Saver) (stage : SaveStage) (disk : Disk) : StoreFile :=
  { s with disk, savers := s.savers.set index { saver with stage } }

/-- A save that returns without success. -/
def giveUp (index : Nat) (disk : Disk) : StoreFile :=
  { s with disk, savers := s.savers.eraseIdx index }

/-- A save that returns with success. -/
def acknowledge (index : Nat) (saver : Saver) (disk : Disk) : StoreFile :=
  { s with
    disk, savers := s.savers.eraseIdx index, acknowledged := some saver.bytes, attempted := []
    refused := false }

/-- A step of a save; what it returns, if it returns. -/
def advance (index : Nat) (saver : Saver) : FileEvent → Option (StoreFile × Option (Except Text Unit))
  | .write _ count =>
    match saver.stage with
    | .writing file written =>
      let bytes := (saver.bytes.drop written).take count
      some (s.proceed index saver (.writing file (written + bytes.length))
        (s.disk.writeAt file written bytes), none)
    | _ => none
  | .fail _ removed =>
    match saver.stage with
    | .writing .. => some (s.giveUp index (s.disk.removeTemporary removed),
        some (.error "could not write the temporary store"))
    | _ => none
  | .flush _ =>
    match saver.stage with
    | .writing _ written =>
      if written = saver.bytes.length then some (s.proceed index saver .flushed s.disk, none) else none
    | _ => none
  | .rename _ granted removed =>
    match saver.stage with
    | .flushed =>
      match s.disk.rename granted with
      | some disk => some (s.acknowledge index saver disk, some (.ok ()))
      | none => some ({ s.proceed index saver .refused s.disk with refused := true }, none)
    | .cleared =>
      match s.disk.rename granted with
      | some disk => some (s.acknowledge index saver disk, some (.ok ()))
      | none => some (s.giveUp index (s.disk.removeTemporary removed),
          some (.error "could not replace the store"))
    | _ => none
  | .remove _ granted =>
    match saver.stage with
    | .refused => some (s.proceed index saver .cleared (s.disk.removeStore granted), none)
    | _ => none
  | .begin .. | .crash => none

def step (event : FileEvent) : Option (StoreFile × Option (Except Text Unit)) :=
  match event with
  | .begin bytes granted =>
    if granted then
      let opened := s.disk.openTemporary
      some ({ s with
        disk := opened.1, savers := s.savers ++ [{ bytes, stage := .writing opened.2 0 }]
        attempted := s.attempted ++ [bytes] }, none)
    else some (s, some (.error "could not open the temporary store for writing"))
  | .crash => some ({ s with savers := [] }, none)
  | .write index _ | .fail index _ | .flush index | .rename index .. | .remove index _ =>
    s.savers[index]?.bind fun saver => s.advance index saver event

/-- No save begins while another is under way. -/
def Alone (s : StoreFile) : FileEvent → Prop
  | .begin .. => s.savers = []
  | _ => True

end StoreFile

end AdaptiveRouting
