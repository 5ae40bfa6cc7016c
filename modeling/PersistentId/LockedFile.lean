import PersistentId.Host
import PersistentId.Stream

/-!
# Locked files

A file that is locked while it is open: shared by readers, or held by one writer. The lock belongs
to the path, so that all locked files on one path see each other.

* `LockedFile.openAs` opens the file in the mode given, or in the one the file was last opened in;
* `LockedFile.close` writes out what waits and gives the lock back;
* `LockedFile.readAll`, `readLine` and `writeText` work on the open file, as its `Stream` does.
-/

namespace PersistentId

/-- A stream to the file at a place. -/
structure Connection where
  place : Path
  stream : Stream
  deriving DecidableEq, Inhabited

/-- A file that is locked while it is open. -/
structure LockedFile where
  name : String
  mode : Value := .str "r"
  connection : Option Connection := none
  /-- Whether the lock held is that of a writer. -/
  writing : Option Bool := none
  deriving DecidableEq, Inhabited

namespace LockedFile

/-- Actions on a locked file and its host. -/
abbrev Use (α : Type) := Action (LockedFile × Host) α

/-- Whether the file is open. -/
def isOpen (file : LockedFile) : Bool :=
  file.connection.isSome

/-- The marks of the modes of writing. -/
def writingMarks : List Char := ['a', 'w', '+']

/-- Whether a mode is one of writing. -/
def writesIn : Value → Except Fault Bool
  | .str mode => .ok (mode.toList.any writingMarks.contains)
  | .list items => .ok (writingMarks.any fun c => items.contains (.str c.toString))
  | .map entries => .ok (writingMarks.any fun c => Table.has entries (.str c.toString))
  | _ => .error .wrongType

/-- The place that the lock of the file belongs to. -/
def place (file : LockedFile) (host : Host) : Path :=
  host.files.resolve file.name

/-- Who holds the lock of the file. -/
def holding (file : LockedFile) (host : Host) : Holding :=
  host.holding (file.place host)

/-- Change the file. -/
def update (f : LockedFile → LockedFile) : Use Unit :=
  modify fun (file, host) => (f file, host)

/-- Put a value into a field of the file; what it is connected to cannot be set. -/
def assign (name : String) (v : Value) : Use Unit :=
  match name with
  | "mode" => update fun file => { file with mode := v }
  | "fo" => throw .missingPart
  | _ => pure ()

/-! ## Locks -/

/-- Take the lock of the file. -/
def acquire (writing : Bool) : Use Unit := do
  let (file, host) ← get
  let held := file.holding host
  if held.exclusive || (writing && held.shared) then throw .blocked
  let taken : Holding :=
    if writing then { held with exclusive := true } else { held with readers := held.readers + 1 }
  set (file, host.hold (file.place host) taken)

/-- Give the lock of the file back. -/
def release (writing : Bool) : Use Unit := do
  let (file, host) ← get
  let held := file.holding host
  let left : Holding :=
    if writing then { held with exclusive := false } else { held with readers := held.readers - 1 }
  set (file, host.hold (file.place host) left)

/-! ## Opening and closing -/

/-- How an access looks for its file. -/
def purposeOf (access : Access) : FileTree.Purpose :=
  if access.creates then .make else if access.makes then .findOrMake else .find

/-- Open the file itself for an access. Only a writer's lock goes with a file that cannot be
read. -/
def connect (writing : Bool) (access : Access) : Use Connection := do
  let (file, host) ← get
  let (place, old) ← Action.ofExcept (host.files.reach (purposeOf access) file.name)
  let data := if access.truncates then .empty else old.getD .empty
  set (file, { host with files := host.files.put place (.file data) })
  if !access.reads && !writing then throw (.file .lockRefused)
  let offset := if access.appends then data.size else 0
  pure { place, stream := { access, offset } }

/-- Open the file in a mode, once the lock is held. -/
def connectIn (writing : Bool) : Value → Use Connection
  | .str mode =>
    match Access.ofMode? mode with
    | some access => connect writing access
    | none => throw .unfitValue
  | _ => throw .wrongType

/-- Open the file, locked for what the mode needs. A mode that is given replaces the one before it;
if the file cannot be opened the lock is given back. -/
def openAs (mode : Value) : Use Unit := do
  let (file, _) ← get
  if file.isOpen then throw (.alreadyOpen file.name)
  let mode := mode.orElse file.mode
  update fun file => { file with mode }
  let writing ← Action.ofExcept (writesIn mode)
  update fun file => { file with writing := some writing }
  acquire writing
  match ← (connectIn writing mode).attempt with
  | .ok connection => update fun file => { file with connection := some connection }
  | .error fault =>
    release writing
    update fun file => { file with writing := none }
    throw fault

/-- An action on the stream to the file, for which the file has to be open. -/
def onStream {α : Type} (use : Stream.Use α) : Use α := do
  match (← get).1.connection with
  | none => throw .missingPart
  | some connection =>
    use.zoom (fun (_, host) => (connection.stream, host.files.dataAt connection.place))
      fun (stream, data) (file, host) =>
        ({ file with connection := some { connection with stream } },
          { host with files := host.files.put connection.place (.file data) })

/-- Close the file and give its lock back; a file that is not open stays as it is. -/
def close : Use Unit := do
  let (file, _) ← get
  if file.isOpen then
    onStream Stream.flush
    update fun file => { file with connection := none }
    release (file.writing.getD false)
    update fun file => { file with writing := none }

/-! ## Reading and writing -/

/-- An action on the stream to a text file that may be used as asked. -/
def onText {α : Type} (allows : Access → Bool) (use : Stream.Use α) : Use α :=
  onStream do
    let access := (← get).1.access
    if !allows access then throw (.file .notSupported)
    if access.bytes then throw .wrongType
    use

/-- The rest of the file. -/
def readAll : Use String :=
  onText (·.reads) Stream.readAll

/-- The next line of the file, with its ending. -/
def readLine : Use String :=
  onText (fun access => access.reads || !access.bytes) Stream.readLine

/-- Write a text to the file and count its characters. -/
def writeText (text : String) : Use Nat :=
  onText (·.writes) (Stream.write text)

/-- Use the file while it is open, and close it whatever happens. -/
def within {α : Type} (use : Use α) : Use α := do
  openAs .null
  let result ← use.attempt
  close
  Action.ofExcept result

end LockedFile

end PersistentId
