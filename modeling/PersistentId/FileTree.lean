import PersistentId.Fault
import PersistentId.Text.Search
import PersistentId.Text.Utf8

/-!
# Files

A tree of directories and files as a value. Paths are written with slashes, from the root or from
the working directory. There are two ways to follow one:

* `FileTree.resolve` goes by the names alone and tells which place a path means;
* `FileTree.locate` walks through the tree, name by name, and tells what it finds or why it cannot
  go on: each name but the last has to be that of a directory, also where `..` leads back out of it.

What reading or writing a path reaches is said by `FileTree.reach`. A file holds bytes; the text of
one is what these encode.
-/

namespace PersistentId

/-- The names on the way from the root to a file. -/
abbrev Path := List String

/-- What can stand at a path. -/
inductive FileNode where
  | directory
  | file (data : ByteArray)
  deriving DecidableEq, Inhabited

/-- A tree of files. -/
structure FileTree where
  workingDirectory : Path := []
  nodes : Table Path FileNode := []
  deriving Inhabited

namespace FileTree

/-! ## Paths -/

/-- One step from a directory, `..` leading back. -/
def step (path : Path) (name : String) : Path :=
  if name = "" || name = "." then path
  else if name = ".." then path.dropLast
  else path ++ [name]

/-- The names in a written path. -/
def names (path : String) : List String :=
  (path.toList.splitOn '/').map String.ofList

/-- Where a written path starts. -/
def start (tree : FileTree) (path : String) : Path :=
  if Text.beginsWith "/" path then [] else tree.workingDirectory

/-- Where a written path leads by its names. -/
def resolve (tree : FileTree) (path : String) : Path :=
  (names path).foldl step (tree.start path)

/-- The path of a place. -/
def render (place : Path) : String :=
  "/" ++ "/".intercalate place

/-- A path inside a directory; one that starts at the root stands for itself. -/
def join (directory name : String) : String :=
  if Text.beginsWith "/" name then name
  else if directory = "" || Text.endsWith "/" directory then directory ++ name
  else directory ++ "/" ++ name

/-! ## What stands where -/

/-- The node at a place. -/
def node? (tree : FileTree) (place : Path) : Option FileNode :=
  if place = [] then some .directory else Table.find? tree.nodes place

/-- The number of bytes that a name can have at most. -/
def nameLimit : Nat := 255

/-- The number of bytes that a path can have at most. -/
def pathLimit : Nat := 4095

/-- The directory of a name in a directory, on the way along a path. -/
def enter (tree : FileTree) (path : String) (place : Path) (name : String) : Except Fault Path :=
  if name = "" || name = "." || name = ".." then .ok (step place name)
  else if nameLimit < name.utf8ByteSize then .error (.file .nameTooLong path)
  else match tree.node? (place ++ [name]) with
    | some .directory => .ok (place ++ [name])
    | some (.file _) => .error (.file .notDirectory path)
    | none => .error (.file .missing path)

/-- What a walk ends at. -/
inductive Goal where
  /-- A directory that is known to be there. -/
  | directory (place : Path)
  /-- A name in a directory, with what stands there; `slashed` if a slash follows it. -/
  | entry (place : Path) (node : Option FileNode) (slashed : Bool)
  deriving Inhabited

/-- The names of a path up to the last that is not empty, and whether slashes follow it. -/
def trimNames (path : String) : List String × Bool :=
  let all := names path
  let kept := (all.reverse.dropWhile (· = "")).reverse
  (kept, decide (kept.length < all.length))

/-- What a written path leads to. -/
def locate (tree : FileTree) (path : String) : Except Fault Goal := do
  if path.toList.contains '\x00' then throw .unfitValue
  if path = "" then throw (.file .missing path)
  if pathLimit < path.utf8ByteSize then throw (.file .nameTooLong path)
  let (kept, slashed) := trimNames path
  match kept.getLast? with
  | none => pure (.directory (tree.start path))
  | some last =>
    let place ← kept.dropLast.foldlM (tree.enter path) (tree.start path)
    if last = "." || last = ".." then return .directory (step place last)
    if nameLimit < last.utf8ByteSize then throw (.file .nameTooLong path)
    let place := place ++ [last]
    pure (.entry place (tree.node? place) slashed)

/-- The node that a written path leads to. -/
def find? (tree : FileTree) (path : String) : Option FileNode :=
  match tree.locate path with
  | .ok (.directory _) => some .directory
  | .ok (.entry _ (some (.file data)) slashed) => if slashed then none else some (.file data)
  | .ok (.entry _ node _) => node
  | .error _ => none

/-- Whether something stands at a path. -/
def present (tree : FileTree) (path : String) : Bool :=
  (tree.find? path).isSome

/-- Whether a directory stands at a path. -/
def isDirectory (tree : FileTree) (path : String) : Bool :=
  tree.find? path = some .directory

/-! ## Reading and writing -/

/-- How a file is looked for. -/
inductive Purpose where
  /-- The file has to be there. -/
  | find
  /-- The file is made if it is not there. -/
  | findOrMake
  /-- The file must not be there. -/
  | make
  deriving DecidableEq, Repr, Inhabited

/-- The fault of finding a directory in the place of a file. -/
def directoryFault (path : String) : Purpose → Fault
  | .make => .file .alreadyThere path
  | _ => .file .isDirectory path

/-- The file that a path leads to, with its bytes if it is there. -/
def reach (tree : FileTree) (purpose : Purpose) (path : String) :
    Except Fault (Path × Option ByteArray) := do
  match ← tree.locate path with
  | .directory _ => throw (directoryFault path purpose)
  | .entry place node slashed =>
    if slashed && purpose ≠ .find then throw (.file .isDirectory path)
    match node with
    | some .directory => throw (directoryFault path purpose)
    | some (.file data) =>
      if slashed then throw (.file .notDirectory path)
      if purpose = .make then throw (.file .alreadyThere path)
      pure (place, some data)
    | none => if purpose = .find then throw (.file .missing path) else pure (place, none)

/-- The bytes of the file at a path. -/
def contents (tree : FileTree) (path : String) : Except Fault ByteArray := do
  pure ((← tree.reach .find path).2.getD .empty)

/-- The bytes of the file at a place, none if there is no file. -/
def dataAt (tree : FileTree) (place : Path) : ByteArray :=
  match tree.node? place with
  | some (.file data) => data
  | _ => .empty

/-- The tree with the given node at a place. -/
def put (tree : FileTree) (place : Path) (node : FileNode) : FileTree :=
  { tree with nodes := Table.put tree.nodes place node }

/-- The tree with the file at a path holding the given bytes. -/
def write (tree : FileTree) (path : String) (data : ByteArray) : Except Fault FileTree := do
  let (place, _) ← tree.reach .findOrMake path
  pure (tree.put place (.file data))

/-- The tree with bytes added to the file at a path. -/
def append (tree : FileTree) (path : String) (data : ByteArray) : Except Fault FileTree := do
  let (place, old) ← tree.reach .findOrMake path
  pure (tree.put place (.file (old.getD .empty ++ data)))

/-! ## Laying out a tree -/

/-- The tree with a directory at a place and on the way to it. -/
def makeDirectories (tree : FileTree) (behind : Path) : Path → FileTree
  | [] => tree
  | name :: rest =>
    let here := behind ++ [name]
    let tree := match tree.node? here with
      | some _ => tree
      | none => tree.put here .directory
    makeDirectories tree here rest

/-- The tree with a directory at a path. -/
def makeDirectory (tree : FileTree) (path : String) : FileTree :=
  tree.makeDirectories [] (tree.resolve path)

/-- The tree with a file at a path, and directories on the way to it. -/
def makeFile (tree : FileTree) (path : String) (data : ByteArray) : FileTree :=
  let place := tree.resolve path
  (tree.makeDirectories [] place.dropLast).put place (.file data)

/-- The files below a directory, each with its path from there and its bytes, in order of the
paths. -/
def filesBelow (tree : FileTree) (directory : Path) : List (String × ByteArray) :=
  let found := tree.nodes.filterMap fun (path, node) =>
    match node, Text.stripStart? (render directory ++ "/") (render path) with
    | .file data, some rest => some (rest, data)
    | _, _ => none
  found.mergeSort fun a b => decide (a.1 ≤ b.1)

end FileTree

end PersistentId
