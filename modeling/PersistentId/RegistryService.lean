import PersistentId.Ledger
import PersistentId.Operand

/-!
# Registry services

A registry service keeps metadata for identifiers that are registered with it. This one is held in
memory: it records every call, and while it is `failing` every call is refused before anything
else happens.

Records are reserved first and made public later; the state of a record is its member `_status`.
Identifiers are given in their canonical form. An object without a valid identifier has none to
give, and the service files its record under that; whatever else can be a key is taken as it is.
-/

namespace PersistentId

/-- What a registry service can be asked to do. -/
inductive ServiceCall where
  | exists
  | reserve
  | getMetadata
  | update
  | publicize
  | delete
  deriving DecidableEq, Repr, Inhabited

/-- The name of a call. -/
def ServiceCall.name : ServiceCall → String
  | .exists => "exists"
  | .reserve => "reserve"
  | .getMetadata => "get_metadata"
  | .update => "update"
  | .publicize => "publicize"
  | .delete => "delete"

/-- The call of a name. -/
def ServiceCall.ofName? (name : String) : Option ServiceCall :=
  let calls : List ServiceCall := [.exists, .reserve, .getMetadata, .update, .publicize, .delete]
  calls.find? (·.name = name)

/-- Metadata of an identifier. -/
abbrev Metadata := Table Key Operand

namespace Metadata

/-- The metadata in a value that is taken as a table. -/
def ofValue (v : Value) : Except Fault Metadata :=
  (Ledger.tableFrom v).map fun entries => entries.map fun (name, v) => (name, .value v)

/-- The metadata as a value, for which they have to consist of values. -/
def toValue (metadata : Metadata) : Except Fault Value := do
  let entries ← metadata.mapM fun (name, x) => do
    match x with
    | .value v => pure (name, v)
    | _ => throw .wrongType
  pure (.map entries)

end Metadata

/-- A registry service with its records. -/
structure RegistryService where
  endpoint : Value := .str "https://registry.example.com/"
  /-- Given if every call is to be refused. -/
  failing : Value := .bool false
  records : Table Key Metadata := []
  /-- The calls made so far, in order. -/
  calls : List (ServiceCall × Value) := []
  /-- What the service answers to every reservation in place of its own message. -/
  fixedReply : Option Value := none
  deriving DecidableEq, Repr, Inhabited

namespace RegistryService

/-- Actions on a registry service. -/
abbrev Use (α : Type) := Action RegistryService α

/-- The member that holds the state of a record. -/
def statusKey : Key := .str "_status"

/-- The member that holds the address that an identifier resolves to. -/
def targetKey : Key := .str "_target"

/-- Record a call, and refuse it if the service is failing. The identifier has to be a key. -/
def enter (call : ServiceCall) (pid : Value) : Use Key := do
  modify fun service => { service with calls := service.calls ++ [(call, pid)] }
  if (← get).failing.truthy then throw (.serviceDown pid)
  Action.ofExcept pid.asKey

/-- The fault of a refusal; it has to be reported of a text. -/
def refusal (fault : Fault) : Fault :=
  if fault.report?.isSome then fault else .wrongType

/-- The record of an identifier. -/
def recordOf (pid : Key) : Use Metadata := do
  match Table.find? (← get).records pid with
  | some record => pure record
  | none => throw (refusal (.serviceUnknown (.ofKey pid)))

/-- Make a record what it is to be. -/
def setRecord (pid : Key) (record : Metadata) : Use Unit :=
  modify fun service => { service with records := Table.put service.records pid record }

/-- Whether an identifier has a record. -/
def isKnown (pid : Value) : Use Bool := do
  let key ← enter .exists pid
  pure (Table.has (← get).records key)

/-- Register an identifier that is not known yet, and answer with it. That the metadata cannot be
taken over shows only when they are needed. -/
def reserve (pid : Value) (metadata : Except Fault Metadata) : Use Value := do
  let key ← enter .reserve pid
  if Table.has (← get).records key then throw (refusal (.serviceConflict pid))
  let given ← Action.ofExcept metadata
  setRecord key <|
    if Table.has given statusKey then given else Table.put given statusKey (.ofText "reserved")
  let text ← Action.ofExcept pid.asPiece
  pure ((← get).fixedReply.getD (.str ("success: " ++ text)))

/-- The metadata of an identifier. -/
def metadata (pid : Value) : Use Metadata := do
  recordOf (← enter .getMetadata pid)

/-- Override metadata of an identifier. -/
def update (pid : Value) (metadata : Except Fault Metadata) : Use Unit := do
  let key ← enter .update pid
  let record ← recordOf key
  let changes ← Action.ofExcept metadata
  setRecord key (Table.putAll record changes)

/-- Make an identifier public with the given metadata, registering it if need be. -/
def publicize (pid : Value) (metadata : Except Fault Metadata) : Use Unit := do
  let key ← enter .publicize pid
  let record := (Table.find? (← get).records key).getD []
  setRecord key record
  let changes ← Action.ofExcept metadata
  setRecord key (Table.put (Table.putAll record changes) statusKey (.ofText "public"))

/-- Remove an identifier. -/
def delete (pid : Value) : Use Unit := do
  let key ← enter .delete pid
  let _ ← recordOf key
  modify fun service => { service with records := Table.remove service.records key }

/-- The record in an entry of a table. -/
def recordIn : Key × Value → Option (Key × Metadata)
  | (pid, .map data) => some (pid, data.map fun (name, v) => (name, .value v))
  | _ => none

/-- The call in an item of a list. -/
def callIn : Value → Option (ServiceCall × Value)
  | .list [.str name, pid] => (ServiceCall.ofName? name).map (·, pid)
  | _ => none

/-- The service with a value in one of the fields that can be set; the address is fixed. -/
def assign (service : RegistryService) (name : String) (v : Value) :
    Except Fault RegistryService :=
  match name, v with
  | "failing", v => .ok { service with failing := v }
  | "records", .map entries => .ok { service with records := entries.filterMap recordIn }
  | "calls", .list items => .ok { service with calls := items.filterMap callIn }
  | "endpoint", _ => .error .missingPart
  | _, _ => .ok service

end RegistryService

end PersistentId
