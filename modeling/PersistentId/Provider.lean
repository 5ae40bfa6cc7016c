import PersistentId.Identifier.Parse
import PersistentId.Minter
import PersistentId.Text.Upper

/-!
# Providers

A provider manages the identifiers of one protocol. There are five kinds: local permanent links,
three kinds of DOIs and Handles. A provider that is given an authority and a shoulder makes new
identifiers under them.

* `ProviderKind` has what is fixed for each kind: protocol, names and resolver addresses.
* `Provider` adds what is configured. Authority, shoulder, style, separator and addresses are kept
  as they were configured; the operations on them say what they need.
* `Provider.canManage` decides which identifiers a provider is in charge of.
* `Provider.ofParts` checks the parts of a provider in a fixed order and puts them together.

The places for a local service and for a registry service hold what was put there, which need not be
one. A provider gets its number where it is kept.
-/

namespace PersistentId

/-! ## Kinds -/

/-- The kinds of providers. -/
inductive ProviderKind where
  /-- Local permanent links, resolved by the site itself. -/
  | perma
  /-- DOIs registered with DataCite. -/
  | dataCite
  /-- DOIs registered with EZID. -/
  | ezid
  /-- DOIs that are registered nowhere. -/
  | fake
  /-- Handles. -/
  | handle
  deriving DecidableEq, Repr, Inhabited

namespace ProviderKind

/-- All kinds. -/
def all : List ProviderKind :=
  [.perma, .dataCite, .ezid, .fake, .handle]

/-- The word for a kind in configurations. -/
def word : ProviderKind → String
  | .perma => "perma"
  | .dataCite => "datacite"
  | .ezid => "ezid"
  | .fake => "fake"
  | .handle => "handle"

/-- The kind that a word stands for. -/
def ofWord? (word : String) : Option ProviderKind :=
  all.find? (·.word = word)

/-- The name of a kind's class. -/
def className : ProviderKind → String
  | .perma => "PermaLinkPidProvider"
  | .dataCite => "DataCiteDOIProvider"
  | .ezid => "EZIdDOIProvider"
  | .fake => "FakeDOIProvider"
  | .handle => "HandlePidProvider"

/-- The kind of a class. -/
def ofClassName? (name : String) : Option ProviderKind :=
  all.find? (·.className = name)

/-- The classes that others complete. -/
def draftClasses : List String :=
  ["PidProvider", "AbstractPidProvider", "RegistryPidProvider"]

/-- The class that others take the grammar of DOIs from; it is made from nothing and is not much. -/
def grammarClass : String := "AbstractDOIProvider"

/-- The kind of a class that is to be made from so many parts, if there is such a class. -/
def ofClass? (name : String) (parts : Nat) : Option (Except Fault ProviderKind) :=
  if draftClasses.contains name then some (.error .wrongType)
  else if name = grammarClass then
    some (.error (if parts = 0 then .missingPart else .wrongType))
  else (ofClassName? name).map .ok

/-- The type that a provider states. -/
def typeName : ProviderKind → String
  | .perma => "perma"
  | .dataCite => "datacite"
  | .ezid => "ezid"
  | .fake => "FAKE"
  | .handle => "hdl"

/-- The name that a provider shows. -/
def displayName : ProviderKind → String
  | .perma => "PERMA"
  | .dataCite => "DataCite"
  | .ezid => "EZID"
  | .fake => "FAKE"
  | .handle => "HandleNet"

/-- The name that a provider is registered under. -/
def contextName : ProviderKind → String
  | .perma => permaProtocol
  | .dataCite => "DataCite"
  | .ezid => "EZID"
  | .fake => "FAKE"
  | .handle => handleProtocol

/-- The protocol of a kind. -/
def protocol : ProviderKind → String
  | .perma => permaProtocol
  | .dataCite | .ezid | .fake => doiProtocol
  | .handle => handleProtocol

/-- Whether a kind registers its identifiers with a service. -/
def usesRegistry : ProviderKind → Bool
  | .dataCite | .ezid | .handle => true
  | .perma | .fake => false

/-- The addresses under which identifiers of a kind are accepted as links. -/
def resolvers : ProviderKind → List String
  | .perma => []
  | .dataCite | .ezid | .fake =>
    [doiResolver, "http://doi.org/", "https://dx.doi.org/", "http://dx.doi.org/"]
  | .handle => [handleResolver, "http://hdl.handle.net/"]

end ProviderKind

/-- How identifiers of data files are formed. -/
inductive FileFormat where
  /-- They extend the identifier of the dataset. -/
  | dependent
  /-- They are formed like those of datasets. -/
  | independent
  deriving DecidableEq, Repr, Inhabited

namespace FileFormat

/-- The word for a format. -/
def word : FileFormat → String
  | .dependent => "DEPENDENT"
  | .independent => "INDEPENDENT"

/-- The format that a configured value stands for, in any case; none given is `dependent`. -/
def ofValue (v : Value) : Except Fault FileFormat :=
  match v.orElse (.str "DEPENDENT") with
  | .str s =>
    if Text.upper s = "DEPENDENT" then .ok .dependent
    else if Text.upper s = "INDEPENDENT" then .ok .independent
    else .error (.illegalFileFormat v.text)
  | v => .error (.lacks v "upper")

end FileFormat

/-! ## Lists of identifiers -/

/-- Whether a character separates the identifiers in a text that lists them. -/
def isListSeparator (c : Char) : Bool :=
  c = ',' || Text.isBlank c

/-- The identifier in an item of a list, blanks around it not counting. -/
def listedItem : Value → Except Fault (Option String)
  | .str s =>
    let s := Text.trim s
    .ok (if s.isEmpty then none else some s)
  | v => if v.truthy then .error (.lacks v "strip") else .ok none

/-- The identifiers that a configured list names: the pieces of a text, or what stands in a list. -/
def listedPids (v : Value) : Except Fault (List String) :=
  if !v.truthy then .ok []
  else match v with
    | .str s => .ok (Text.pieces isListSeparator s).eraseDups
    | v => do
      let found ← (← v.asItems).mapM listedItem
      pure (found.filterMap id).eraseDups

/-- Texts in order. -/
def sortTexts (texts : List String) : List String :=
  texts.mergeSort fun a b => decide (a ≤ b)

/-! ## Providers -/

/-- A provider of identifiers. -/
structure Provider where
  /-- The number that the provider is known by, once it has one. -/
  id : ProviderId := 0
  kind : ProviderKind
  authority : Value := .str ""
  shoulder : Value := .str ""
  style : Value := .str Minter.randomStyle
  fileFormat : FileFormat := .dependent
  /-- Identifiers managed whatever their authority and shoulder. -/
  managed : List String := []
  /-- Identifiers not managed even if their authority and shoulder fit. -/
  excluded : List String := []
  /-- The separator of local permanent links. -/
  permaSeparator : Value := .str ""
  /-- The address of the site's landing pages. -/
  siteUrl : Value := .str ""
  /-- The address that resolves local permanent links. -/
  baseUrl : String := ""
  /-- The configuration with the remaining parameters. -/
  config : Value := .map []
  /-- How many candidates are tried for a new identifier. -/
  maxAttempts : Value := .int 20
  minter : Minter
  /-- What stands in the place for a local service. -/
  service : Operand := .nothing
  /-- What stands in the place for a registry service. -/
  client : Operand := .nothing
  /-- The address that the registry service itself gives, if it is one. -/
  endpoint? : Option Value := none
  deriving DecidableEq, Repr, Inhabited

namespace Provider

/-- The protocol of a provider. -/
def protocol (p : Provider) : String :=
  p.kind.protocol

/-- The separator of a provider's identifiers. -/
def separator (p : Provider) : Value :=
  match p.kind with
  | .perma => p.permaSeparator
  | _ => .str "/"

/-- What makes links of a provider's identifiers. -/
def urlStart (p : Provider) : String :=
  match p.kind with
  | .perma => p.baseUrl ++ "/citation?persistentId=" ++ permaProtocol ++ ":"
  | .dataCite | .ezid | .fake => doiResolver
  | .handle => handleResolver

/-- The address of the registry service: as configured, or else as the service gives it. -/
def serviceUrl (p : Provider) : Except Fault Value := do
  let configured := Ledger.parameter (← p.config.asTable) "service_url" .null
  if configured.truthy then return configured
  match p.endpoint? with
  | some endpoint => pure (endpoint.orElse (.str ""))
  | none => throw .missingPart

/-- What a provider says of itself, its name first. -/
def information (p : Provider) : Except Fault (List Value) := do
  let name : Value := .str p.kind.displayName
  match p.kind with
  | .perma => pure [name, .str p.baseUrl]
  | .fake => pure [name, .str "https://dataverse.org"]
  | .dataCite | .ezid | .handle => pure [name, ← p.serviceUrl]

/-- The name of a provider, which is part of what it says of itself. -/
def name (p : Provider) : Except Fault String :=
  p.information.map fun _ => p.kind.displayName

/-- The form of a provider in messages. -/
def display (p : Provider) : Except Fault String := do
  pure (p.kind.className ++ "(" ++ p.protocol ++ ":" ++ (← p.authority.wording) ++
    (← p.separator.wording) ++ (← p.shoulder.wording) ++ ")")

/-- The name that a provider's entries in the journal bear. -/
def source (p : Provider) : String :=
  "PID.providers." ++ p.kind.className

/-- Whether identifiers must be registered when their objects are published. -/
def registersWhenPublished (p : Provider) : Bool :=
  p.kind.usesRegistry

/-- Whether a provider is in charge of an identifier: not if it is excluded, else if it is managed
by name or lies under the provider's authority and shoulder. -/
def canManage (p : Provider) (pid : Identifier) : Except Fault Bool := do
  if p.excluded.contains pid.toString then return false
  if p.managed.contains pid.toString then return true
  if pid.protocol = .str p.protocol ∧ p.authority = .str pid.authority then
    pure (Text.beginsWith (← p.shoulder.asTextOr Fault.notAStart) pid.localPart)
  else pure false

/-- Whether a provider is in charge of any authority. -/
def hasAuthority (p : Provider) : Bool :=
  p.authority.truthy

/-- Whether a provider is in charge of an identifier, or, if none is given, of any authority. -/
def managesOperand (p : Provider) (operand : Operand) : Except Fault Bool := do
  if operand.isNull then pure p.hasAuthority else p.canManage (← operand.asPid)

/-! ## Setting a provider up -/

/-- What a provider is built from. -/
structure Parts where
  authority : Value := .null
  shoulder : Value := .null
  style : Value := .null
  fileFormat : Value := .null
  managed : Value := .null
  excluded : Value := .null
  baseUrl : Value := .null
  separator : Value := .str ""
  client : Operand := .nothing
  service : Operand := .nothing
  /-- The configuration with the remaining parameters. -/
  config : Value := .null
  deriving DecidableEq, Repr, Inhabited

/-- The names of the parts that a provider of a kind is built from, in order. -/
def partNames (kind : ProviderKind) : List String :=
  ["authority", "shoulder", "id_gen_style", "datafile_pid_format", "managed_list",
    "excluded_list"] ++
    match kind with
    | .perma => ["base_url", "pidsvc", "config", "separator"]
    | .fake => ["pidsvc", "config"]
    | .dataCite | .ezid | .handle => ["client", "pidsvc", "config"]

/-- Parts given by position and by name, as a table. Authority and shoulder have to be among them,
and none may be given twice. -/
def bindParts (kind : ProviderKind) (positional : List Operand) (named : Table Key Operand) :
    Except Fault (Table Key Operand) :=
  let names : List Key := (partNames kind).map .str
  let given := names.zip positional ++ named
  let keys := Table.keys given
  let needed : List Key := [.str "authority", .str "shoulder"]
  if positional.length ≤ names.length && keys.all names.contains &&
      keys.eraseDups.length = keys.length && needed.all keys.contains
  then .ok given else .error .wrongType

/-- The parts in a table. -/
def Parts.ofTable (given : Table Key Operand) : Parts :=
  let operand (name : String) := (Table.find? given name).getD .nothing
  let part (name : String) := (operand name).plain
  { authority := part "authority"
    shoulder := part "shoulder"
    style := part "id_gen_style"
    fileFormat := part "datafile_pid_format"
    managed := part "managed_list"
    excluded := part "excluded_list"
    baseUrl := part "base_url"
    separator := part "separator"
    client := operand "client"
    service := operand "pidsvc"
    config := part "config" }

/-- The address without slashes at its end. -/
def address (v : Value) : Except Fault String :=
  (v.asText "rstrip").map (Text.dropTrailing (· = '/'))

/-- The address that an operand itself gives, if it is a registry service. -/
def endpointOf? (endpoint : RegistryId → Value) : Operand → Option Value
  | .registry id => some (endpoint id)
  | _ => none

/-- The provider that parts make, its minter drawing from the given source. -/
def ofParts (kind : ProviderKind) (parts : Parts) (source : SourceId)
    (endpoint : RegistryId → Value) : Except Fault Provider := do
  let style := parts.style.orElse (.str Minter.randomStyle)
  let fileFormat ← FileFormat.ofValue parts.fileFormat
  let managed ← listedPids parts.managed
  let excluded ← listedPids parts.excluded
  let config ← if parts.config = .null then pure [] else parts.config.asTable
  let siteUrl ← address (Ledger.parameter config "site_url" (.str ""))
  let minter ← Minter.forStyle style parts.service parts.config source
  if kind.usesRegistry && parts.client.isNull then throw (.clientMissing kind.className)
  let baseUrl ← if kind = .perma then address (parts.baseUrl.orElse (.str siteUrl)) else pure ""
  pure {
    kind
    authority := parts.authority.orElse (.str "")
    shoulder := parts.shoulder.orElse (.str "")
    style
    fileFormat
    managed
    excluded
    permaSeparator := parts.separator.orElse (.str "")
    siteUrl := .str siteUrl
    baseUrl
    config := .map config
    maxAttempts := Ledger.parameter config "max_generation_attempts" (.int 20)
    minter
    service := parts.service
    client := parts.client
    endpoint? := endpointOf? endpoint parts.client }

/-! ## Changing a provider -/

/-- The parts of a provider that are fixed once it is set up. -/
def fixedParts (p : Provider) : List String :=
  ["protocol", "authority", "shoulder", "identifier_generation_style", "datafile_pid_format",
    "provider_type", "name", "managed_set", "excluded_set", "separator", "url_prefix"] ++
    if p.kind = .perma then ["base_url"] else []

/-- The provider with something in one of the fields that can be set. -/
def assign (p : Provider) (field : String) (x : Operand) (endpoint : RegistryId → Value) :
    Except Fault Provider :=
  if p.fixedParts.contains field then .error .missingPart
  else match field with
    | "site_url" => .ok { p with siteUrl := x.plain }
    | "cfg" => .ok { p with config := x.plain }
    | "max_attempts" => .ok { p with maxAttempts := x.plain }
    | "client" => .ok { p with client := x, endpoint? := endpointOf? endpoint x }
    | "pidsvc" => .ok { p with service := x }
    | _ => .ok p

end Provider

end PersistentId
