import PersistentId.Host
import PersistentId.Json.Printer
import PersistentId.Ledger.Line
import PersistentId.Ledger.Numbers

/-!
# The ledger of issued identifiers

A ledger records which identifiers are in local use, with the data each was reserved with, and
gives out sequence numbers. It may be stored in a directory: identifiers one line each, next
numbers in a document of their own.

* `reserve` takes an identifier once; a second time it is a conflict (`Fault.alreadyIssued`).
* Identifiers wait in `uncached` until `flush` adds them to the store and moves them to `cached`,
  one by one. A ledger that flushes on reserving does so at once.
* `reload` makes `cached` what the store says.
* `nextNumber` gives the next number of a scope, past every number that this ledger or the stored
  document has given out.

`Ledger.data?` is the view of a ledger: what is waiting comes before what is stored.
-/

namespace PersistentId

/-- The record of issued identifiers. -/
structure Ledger where
  name : Value := .null
  /-- The name that its entries in the journal bear. -/
  source : String := "PID.IssuedPIDRegistry"
  /-- Given if identifiers are stored as soon as they are reserved. -/
  flushOnReserve : Value := .bool true
  /-- Identifiers that the store has. -/
  cached : Table String Value := []
  /-- Identifiers that the store does not have yet. -/
  uncached : Table String Value := []
  /-- The first number of every sequence. -/
  start : Counter := .number 1
  /-- The next numbers of the scopes used so far. -/
  numbers : Table Key Int := []
  /-- The path of the store; an empty one is none. -/
  store : Option String := none
  /-- The path of the stored numbers; an empty one is none. -/
  numberStore : Option String := none
  deriving DecidableEq, Repr, Inhabited

namespace Ledger

/-- Actions on a ledger and its host. -/
abbrev Use (α : Type) := Action (Ledger × Host) α

/-! ## Views -/

/-- The data of an identifier, if it has been reserved. -/
def data? (ledger : Ledger) (key : String) : Option Value :=
  (Table.find? ledger.uncached key).or (Table.find? ledger.cached key)

/-- Whether an identifier has been reserved. -/
def registered (ledger : Ledger) (key : String) : Bool :=
  (ledger.data? key).isSome

/-- The reserved identifiers: those in the store, then those waiting. -/
def ids (ledger : Ledger) : List String :=
  let stored := Table.keys ledger.cached
  stored ++ (Table.keys ledger.uncached).filter fun key => !stored.contains key

/-- A lock that serializes the generation of identifiers within a scope. -/
structure ScopeLock where
  scope : Key
  deriving DecidableEq, Repr

/-- Two locks are the same if their scopes count as one. -/
instance : BEq ScopeLock := ⟨fun a b => a.scope == b.scope⟩

/-- The lock of a scope; each scope has one. -/
def lockFor (_ : Ledger) (scope : Value) : Except Fault ScopeLock :=
  ScopeLock.mk <$> scope.asKey

/-! ## The host's side -/

/-- An action on the host alone. -/
def onHost {α : Type} (act : Action Host α) : Use α :=
  act.zoom (·.2) fun host (ledger, _) => (ledger, host)

/-- Make an entry in the ledger's name. -/
def note (level : Level) (message : String) : Use Unit := do
  onHost (Host.note level (← get).1.source message)

/-- Change the ledger. -/
def update (f : Ledger → Ledger) : Use Unit :=
  modify fun (ledger, host) => (f ledger, host)

/-! ## The store -/

/-- Warn of each identifier whose data cannot be read. -/
def warnUnreadable (store : String) : List String → Use Unit
  | [] => pure ()
  | key :: keys => do
    note .warning (store ++ ": unparseable data for " ++ key)
    warnUnreadable store keys

/-- Load the identifiers that the store has. -/
def reload : Use Unit := do
  match (← get).1.store with
  | none => throw .wrongType
  | some store =>
    let text ← onHost (Host.read store)
    let rows := readStore text
    warnUnreadable store (unreadable rows)
    if let some flaw := rows.findSome? Row.depthFlaw? then throw (.tooDeep flaw.words)
    update fun ledger => { ledger with cached := tableOf rows }

/-- A path, if there is one that is not empty. -/
def placeAt (path : Option String) : Option String :=
  path.filter (· ≠ "")

/-- Add a line to the store, of an identifier and its data. If the data cannot be written, the store
has the start of the line. -/
def storeLine (store key : String) (data : Value) : Use Unit := do
  onHost (Host.append store (key ++ "\t"))
  let document ← Action.ofExcept (Json.write data)
  onHost (Host.append store (document ++ "\n"))

/-- Add the identifiers that are waiting to the store, one after the other. Each one that has its
line is not waiting any more. -/
def storeWaiting (store : String) : Table String Value → Use Unit
  | [] => pure ()
  | (key, data) :: rest => do
    storeLine store key data
    update fun ledger =>
      { ledger with cached := Table.put ledger.cached key data, uncached := rest }
    storeWaiting store rest

/-- Open the store and add the waiting identifiers to it. -/
def flush : Use Unit := do
  let ledger := (← get).1
  match placeAt ledger.store with
  | none => pure ()
  | some store =>
    if ledger.uncached.isEmpty then note .debug "No uncached identifiers detected"
    else
      onHost (Host.append store "")
      storeWaiting store ledger.uncached

/-! ## Reserving -/

/-- A pair that can be an entry of a table. -/
def pairOf (v : Value) : Except Fault (Key × Value) := do
  match ← v.asItems with
  | [key, v] => pure (← key.asKey, v)
  | _ => throw .unfitValue

/-- A value taken as a table: one already, or a list of pairs. -/
def tableFrom : Value → Except Fault (Table Key Value)
  | .map entries => .ok entries
  | v => do
    let items ← v.asItems
    pure (Table.ofPairs (← items.mapM pairOf))

/-- Record an identifier as in use, with its data. -/
def reserve (key : String) (data : Value) : Use Unit := do
  if (← get).1.registered key then throw (.alreadyIssued key)
  let entries ← Action.ofExcept (tableFrom (if data = .null then .map [] else data))
  update fun ledger => { ledger with uncached := Table.put ledger.uncached key (.map entries) }
  if (← get).1.flushOnReserve.truthy then flush

/-! ## Numbers -/

/-- The next number of a scope as far as this ledger knows. -/
def expected (ledger : Ledger) (scope : Key) : Counter :=
  match Table.find? ledger.numbers scope with
  | some n => .number n
  | none => ledger.start

/-- The stored numbers in a document, or a warning and none. -/
def numbersIn (path document : String) : Use (Table Key Counter) := do
  match readNumbers document with
  | .ok numbers => pure numbers
  | .error .unreadable =>
    note .warning (path ++ ": unparseable sequence data; restarting sequences")
    pure []
  | .error .notAnObject =>
    note .warning (path ++ ": sequence data is not an object; restarting sequences")
    pure []
  | .error (.tooDeep flaw) => throw (.tooDeep flaw.words)

/-- Give out the next number of a scope. -/
def nextNumber (scope : Value) : Use Counter := do
  let scope ← Action.ofExcept scope.asKey
  let ledger := (← get).1
  let own := ledger.expected scope
  let given ← match placeAt ledger.numberStore with
    | none => pure own
    | some path =>
      onHost (Host.append path "")
      let stored ← numbersIn path (← onHost (Host.read path))
      let given := Counter.max own ((Table.find? stored scope).getD ledger.start)
      let document := writeNumbers (Table.put stored scope (.number (given.toInt + 1)))
      onHost (Host.write path document.text)
      match document with
      | .whole _ => pure given
      | .cut _ fault => throw fault
  update fun ledger => { ledger with numbers := Table.put ledger.numbers scope (given.toInt + 1) }
  pure given

/-! ## Opening a ledger -/

/-- The parameter of a configuration, or what it is without being given. -/
def parameter (config : Table Key Value) (name : String) (otherwise : Value) : Value :=
  (Table.find? config name).getD otherwise

/-- A file name of the ledger by default: its own name comes first. -/
def defaultName (name : Value) (base : String) : Value :=
  .str (if name.truthy then name.text ++ "-" ++ base else base)

/-- A file in a directory. -/
def fileIn (directory : String) (name : Value) : Except Fault String :=
  (name.asTextOr Fault.notAFileName).map (FileTree.join directory)

/-- The directory that a ledger is to be stored in, if any. -/
def directoryOf (files : FileTree) (directory : Value) : Except Fault (Option String) :=
  if !directory.truthy then .ok none
  else match directory with
    | .str path => if files.isDirectory path then .ok (some path) else .error (.notADirectory path)
    | .int n =>
      if n < -2147483648 then .error (.beyondRange "fd is less than minimum")
      else if 2147483648 ≤ n then .error (.beyondRange "fd is greater than maximum")
      else .error (.notADirectory directory.text)
    | .bool _ => .error (.notADirectory directory.text)
    | v => .error (.notADirectoryPath v)

/-- The configuration of a ledger as a table. -/
def configOf (config : Value) : Except Fault (Table Key Value) :=
  if !config.truthy then .ok []
  else match config with
    | .map entries => .ok entries
    | other => .error (.ledgerConfigNotATable other.typeLabel)

/-- The name that the entries of a ledger bear. -/
def sourceOf (name : Value) : Except Fault String :=
  if name.truthy then name.asPiece.map ("PID.IssuedPIDRegistry:" ++ ·)
  else .ok "PID.IssuedPIDRegistry"

/-- A new ledger as configured, before its store is read. -/
def configured (files : FileTree) (directory config name : Value) : Except Fault Ledger := do
  let directory ← directoryOf files directory
  let config ← configOf config
  let source ← sourceOf name
  let start := parameter config "sequence_start" (.int 1)
  let start ← match Counter.ofValue? start with
    | some n => pure n
    | none => throw (.startNotANumber (← start.wording))
  let file (parameterName base : String) : Except Fault (Option String) := match directory with
    | none => .ok none
    | some dir => some <$> fileIn dir (parameter config parameterName (defaultName name base))
  pure {
    name
    source
    flushOnReserve := parameter config "cache_on_register" (.bool true)
    start
    store := ← file "id_store_file" "issued-pids.tsv"
    numberStore := ← file "sequence_file" "pid-sequences.json" }

/-- Read the store of a new ledger if it is there. -/
def restore : Use Unit := do
  let (ledger, host) ← get
  match ledger.store with
  | none => pure ()
  | some store =>
    if host.files.present store then
      reload
      if (← get).1.ids.isEmpty then note .warning "empty registry persistance restored"

/-- The ledger with a value in one of the fields that can be set. -/
def assign (ledger : Ledger) (name : String) (v : Value) : Ledger :=
  match name with
  | "name" => { ledger with name := v }
  | "cache_immediately" => { ledger with flushOnReserve := v }
  | "store" => { ledger with store := v.str? }
  | "seqstore" => { ledger with numberStore := v.str? }
  | _ => ledger

/-- A ledger stored in the given directory, or kept in memory alone if none is given. -/
def create (directory config name : Value) : Action Host Ledger := do
  let ledger ← Action.ofExcept (configured (← get).files directory config name)
  Action.ofOutcome fun host =>
    let (result, ledger, host) := restore.outcome (ledger, host)
    (result.map fun _ => ledger, host)

end Ledger

end PersistentId
