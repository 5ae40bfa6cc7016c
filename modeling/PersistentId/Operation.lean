import PersistentId.Dispatcher
import PersistentId.Provider.Lifecycle

/-!
# Operations by name

The things on a site have operations that are known by name and take operands; `call`, in the
namespace of each kind of thing, carries one out. An operation that the thing does not have is a
missing part (`Fault.missingPart`), and one that is not given as many operands as it takes is of the
wrong type (`Fault.wrongType`); see `misfit`.
-/

namespace PersistentId

/-- What an operation answers. -/
inductive Answer where
  | operand (x : Operand)
  | metadata (metadata : Metadata)
  deriving DecidableEq, Inhabited

namespace Answer

/-- An answer that is a value. -/
def value (v : Value) : Answer :=
  .operand (.value v)

/-- No answer. -/
def nothing : Answer :=
  value .null

/-- An answer that is an identifier. -/
def pid (pid : Identifier) : Answer :=
  .operand (.pid pid)

/-- The answer of a search for an identifier. -/
def ofPid? (found : Option Identifier) : Answer :=
  (found.map pid).getD nothing

/-- The answer of a search for a provider. -/
def ofProvider? (found : Option Provider) : Answer :=
  (found.map fun p => .operand (.provider p.id)).getD nothing

/-- An answer that is yes or no. -/
def ofBool (b : Bool) : Answer :=
  value (.bool b)

/-- An answer that is a text. -/
def ofText (s : String) : Answer :=
  value (.str s)

end Answer

/-- The fault of calling an operation that is none of the given ones, or is given operands that do
not go with its name. -/
def misfit (names : List String) (name : String) : Fault :=
  if names.contains name then .wrongType else .missingPart

/-! ## Identifiers and minters -/

/-- Call an operation of an identifier. -/
def Identifier.call (pid : Identifier) (name : String) (args : List Operand) :
    Except Fault Answer :=
  match name, args with
  | "as_string", [] => .ok (.ofText pid.toString)
  | "as_url", [] => .ok (.ofText pid.url)
  | "with_identifier", [localPart] => .pid <$> pid.withLocalPart localPart.plain
  | name, _ => .error (misfit ["as_string", "as_url", "with_identifier"] name)

/-- Call an operation of a minter. -/
def Minter.call (minter : Minter) (name : String) (args : List Operand) : Site.Use Answer :=
  match name, args with
  | "mint", [] => .ofText <$> minter.mint .null
  | "mint", [scope] => .ofText <$> minter.mint scope.plain
  | name, _ => throw (misfit ["mint"] name)

/-! ## Services -/

namespace LocalService

/-- The names of the operations. -/
def operations : List String :=
  ["cache_data", "reload_data", "get_data", "is_global_id_locally_unique", "iter", "next_sequence",
    "registered", "reserve", "lock_for"]

/-- Call an operation of a local service. Identifiers go by their form in messages. -/
def call (id : ServiceId) (name : String) (args : List Operand) : Site.Use Answer := do
  let service := (← get).services.get id
  match name, args with
  | "cache_data", [] =>
    Site.onLedger id Ledger.flush
    pure .nothing
  | "reload_data", [] =>
    Site.onLedger id Ledger.reload
    pure .nothing
  | "get_data", [pid] => pure (.value ((service.ledger.data? (← Site.textOf pid)).getD .null))
  | "is_global_id_locally_unique", [pid] => pure (.ofBool (service.isFree (← Site.textOf pid)))
  | "iter", [] => pure (.value (.list (service.ledger.ids.map .str)))
  | "next_sequence", [scope] =>
    pure (.value (← Site.onLedger id (Ledger.nextNumber scope.plain)).toValue)
  | "registered", [pid] => pure (.ofBool (service.ledger.registered (← Site.textOf pid)))
  | "reserve", [pid] => reserveFor pid (.value .null)
  | "reserve", [pid, data] => reserveFor pid data
  | name, _ => throw (misfit operations name)
where
  /-- Reserve what an operand stands for. -/
  reserveFor (pid data : Operand) : Site.Use Answer := do
    Site.onService id (reserve (← Site.textOf pid) data.plain)
    pure .nothing

end LocalService

namespace RegistryService

/-- The names of the operations. -/
def operations : List String :=
  ["exists", "reserve", "get_metadata", "update", "publicize", "delete"]

/-- Call an operation of a registry service. -/
def call (name : String) (args : List Operand) : Use Answer :=
  match name, args.map Operand.plain with
  | "exists", [pid] => .ofBool <$> isKnown pid
  | "reserve", [pid, data] =>
    .value <$> reserve pid (if data.truthy then Metadata.ofValue data else .ok [])
  | "get_metadata", [pid] => .metadata <$> metadata pid
  | "update", [pid, changes] => do
    update pid (Metadata.ofValue changes)
    pure .nothing
  | "publicize", [pid, changes] => do
    publicize pid (Metadata.ofValue changes)
    pure .nothing
  | "delete", [pid] => do
    delete pid
    pure .nothing
  | name, _ => throw (misfit operations name)

end RegistryService

/-! ## Objects -/

/-- Call an operation of an object. Only a dataset takes files. -/
def DigitalObject.call (id : ObjectId) (name : String) (args : List Operand) :
    Site.Use Answer := do
  let obj ← Site.object id
  let operations := ["is_dataset", "set_global_id"] ++ if obj.isDataset then ["add_file"] else []
  if !operations.contains name then throw .missingPart
  match name, args with
  | "add_file", [file] =>
    Site.addFile id file
    pure (.operand file)
  | "is_dataset", [] => pure (.ofBool obj.isDataset)
  | "set_global_id", [pid] =>
    Site.setPid id pid
    pure .nothing
  | _, _ => throw .wrongType

/-! ## Providers -/

namespace Provider

/-- The names of the operations. -/
def operations : List String :=
  ["already_registered", "already_registered_pid", "can_manage_pid", "create_identifier",
    "delete_identifier", "generate_datafile_identifier", "generate_dataset_identifier",
    "generate_identifier", "get_identifier", "get_identifier_metadata",
    "get_metadata_for_create_indicator", "get_metadata_for_target_url", "get_provider_information",
    "get_target_url", "is_global_id_unique", "modify_identifier_target_url", "parse_persistent_id",
    "parse_persistent_id_parts", "parse_protocol_identifier", "publicize_identifier",
    "register_when_published"]

/-- The answer of a parse. -/
def parsed (parse : Parsing (Option Identifier)) : Site.Use Answer :=
  .ofPid? <$> Site.accept parse.outcome

/-- Call an operation of a provider. -/
def call (p : Provider) (name : String) (args : List Operand) : Site.Use Answer := do
  match name, args with
  | "already_registered", [x] => .value <$> p.isObjectRegistered x
  | "already_registered_pid", [x, otherwise] => do
    let known ← p.isRegistered x (.bool false)
    pure (if p.kind.usesRegistry || known.truthy then .value known else .operand otherwise)
  | "can_manage_pid", [] => pure (.ofBool p.hasAuthority)
  | "can_manage_pid", [x] => .ofBool <$> Action.ofExcept (p.managesOperand x)
  | "create_identifier", [x] => .value <$> p.create x
  | "delete_identifier", [x] =>
    p.delete x
    pure .nothing
  | "generate_datafile_identifier", [x] => .ofText <$> p.generateForFile x
  | "generate_dataset_identifier", [x] => .ofText <$> p.generateForDataset x
  | "generate_identifier", [x] =>
    p.generate x
    pure (.operand x)
  | "get_identifier", [x] => do pure (.value (.ofText? (← pidOf x)))
  | "get_identifier_metadata", [x] => .metadata <$> p.heldMetadata x
  | "get_metadata_for_create_indicator", [x] => .metadata <$> p.metadataForCreation x
  | "get_metadata_for_target_url", [x] =>
    .metadata <$> Action.ofExcept (p.targetMetadata (← subject x))
  | "get_provider_information", [] =>
    pure (.value (.list (← Action.ofExcept p.information)))
  | "get_target_url", [x] => .ofText <$> Action.ofExcept (p.targetUrl (← subject x))
  | "is_global_id_unique", [x] => .ofBool <$> p.isUnique x
  | "modify_identifier_target_url", [x] => .ofText <$> p.modifyTarget x
  | "parse_persistent_id", [s] => parsed (p.parse s.plain)
  | "parse_persistent_id_parts", [protocol, authority, localPart] =>
    parsed (p.parseParts protocol.plain authority.plain localPart.plain)
  | "parse_protocol_identifier", [protocol, path] =>
    parsed (p.parsePathOf protocol.plain path.plain)
  | "publicize_identifier", [x] => .ofBool <$> p.publicize x
  | "register_when_published", [] => pure (.ofBool p.registersWhenPublished)
  | name, _ => throw (misfit operations name)

end Provider

/-! ## The choice of providers -/

/-- Call an operation of a context. -/
def Context.call (context : Context) (name : String) (args : List Operand) : Except Fault Answer :=
  match name, args with
  | "names", [] => .ok (.value (.list (context.names.map Value.ofKey)))
  | "get", [.value key] => do pure (.ofProvider? (context.provider? (← key.asKey)))
  | "get", [_] => .ok .nothing
  | name, _ => .error (misfit ["names", "get"] name)

namespace Dispatcher

/-- The names of the operations. -/
def operations : List String :=
  ["get_provider", "get_provider_for", "parse"]

/-- Answer that nobody is responsible for a protocol that is no value. -/
def refuse (protocol : Operand) : Site.Use Answer := do
  Site.note .warning Resolver.source ("Unknown protocol: " ++ (← Site.textOf protocol))
  pure .nothing

/-- Call an operation of a dispatcher on a context. -/
def call (dispatcher : Dispatcher) (context : Context) (name : String) (args : List Operand) :
    Site.Use Answer :=
  match name, args with
  | "get_provider", [] => choose .null
  | "get_provider", [.value protocol] => choose protocol
  | "get_provider", [protocol] => refuse protocol
  | "get_provider_for", [x] => .ofProvider? <$> dispatcher.providerOf context x
  | "parse", [s] => Provider.parsed (Dispatcher.parse context s.plain)
  | name, _ => throw (misfit operations name)
where
  /-- Choose a provider by protocol. -/
  choose (protocol : Value) : Site.Use Answer :=
    .ofProvider? <$> Site.accept (dispatcher.providerFor context protocol).outcome

/-- What a resolver finds in something that is no context: a table without the protocol has no
provider for it. -/
def searchIn (resolver : Resolver) : Operand → Except Fault Answer
  | .value (.map entries) =>
    if resolver ≠ .doi && Ledger.parameter entries resolver.protocol .null = .null then .ok .nothing
    else .error .missingPart
  | _ => .error .missingPart

/-- Call an operation of a dispatcher on something that is no context. -/
def callWithout (dispatcher : Dispatcher) (given : Operand) (name : String)
    (args : List Operand) : Site.Use Answer := do
  match name, args with
  | "get_provider", [.value .null] => throw .missingPart
  | "get_provider", [.value protocol] =>
    match ← Action.ofExcept (dispatcher.resolver? protocol) with
    | some resolver => Action.ofExcept (searchIn resolver given)
    | none => refuse (.value protocol)
  | "get_provider", [protocol] => refuse protocol
  | "get_provider", [] | "get_provider_for", [_] | "parse", [_] => throw .missingPart
  | name, _ => throw (misfit operations name)

end Dispatcher

end PersistentId
