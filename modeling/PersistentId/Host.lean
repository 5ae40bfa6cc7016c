import PersistentId.Action
import PersistentId.FileTree
import PersistentId.Text.Utf8

/-!
# The host

What the library finds around itself: a tree of files, the locks held on them by this process, and
the journal. Actions on a host read and write files and make entries.
-/

namespace PersistentId

/-- Who holds the lock of a file inside this process: any number of readers, or one writer. -/
structure Holding where
  readers : Nat := 0
  exclusive : Bool := false
  deriving DecidableEq, Repr, Inhabited

/-- Whether readers share the lock. -/
def Holding.shared (holding : Holding) : Bool :=
  holding.readers != 0

/-- Files, locks and the journal. -/
structure Host where
  files : FileTree := {}
  locks : Table Path Holding := []
  journal : Journal := []
  deriving Inhabited

namespace Host

/-- The host with more entries in its journal. -/
def record (host : Host) (entries : Journal) : Host :=
  { host with journal := host.journal ++ entries }

/-- Make an entry. -/
def note (level : Level) (source message : String) : Action Host Unit :=
  modify (·.record [⟨level, source, message⟩])

/-- Take over a result and the entries made on the way to it. -/
def accept {α : Type} (result : Logged (Except Fault α)) : Action Host α :=
  Action.ofOutcome fun host => (result.value, host.record result.entries)

/-- The text of a file, with unified line endings. -/
def read (path : String) : Action Host String := do
  let data ← Action.ofExcept ((← get).files.contents path)
  match Text.decode? data with
  | some text => pure text
  | none => throw .undecodable

/-- Give a file a new text. -/
def write (path text : String) : Action Host Unit := do
  let host ← get
  let files ← Action.ofExcept (host.files.write path text.toUTF8)
  set { host with files }

/-- Add text to a file. -/
def append (path text : String) : Action Host Unit := do
  let host ← get
  let files ← Action.ofExcept (host.files.append path text.toUTF8)
  set { host with files }

/-- Who holds the lock of the file at a place. -/
def holding (host : Host) (place : Path) : Holding :=
  (Table.find? host.locks place).getD {}

/-- The host with the lock of a file held as given. -/
def hold (host : Host) (place : Path) (holding : Holding) : Host :=
  { host with locks := Table.put host.locks place holding }

end Host

end PersistentId
