import PersistentId.Config
import PersistentId.Provider.Setup

/-!
# Contexts

A context holds the providers of a site and the settings by which one is chosen among them. DOI
providers are known by the name of their service, the others by their protocol.

`Site.createProvider` sets up one provider from its configuration, parameters that are not given
coming from the settings, and `Site.createContext` all providers of a configuration, with the ledger
they share. The order of the checks is part of what these do, as the first fault found is the one
reported.
-/

namespace PersistentId

/-- Providers by name, and the settings. -/
structure Context where
  /-- The settings, unless something else has been put in their place. -/
  settings? : Option Settings := some {}
  providers : Table Key Provider := []
  deriving DecidableEq, Repr, Inhabited

namespace Context

/-- The provider of a name. -/
def provider? (context : Context) (name : Key) : Option Provider :=
  Table.find? context.providers name

/-- The names of the providers. -/
def names (context : Context) : List Key :=
  Table.keys context.providers

/-- The value of a setting as a text, or what it is by default. -/
def setting (context : Context) (key : SettingKey) (otherwise : Value) : Except Fault Value :=
  match context.settings? with
  | some settings => settings.lookup key.name otherwise
  | none => .error .missingPart

/-- The providers, without their names. -/
def all (context : Context) : List Provider :=
  context.providers.map (·.2)

end Context

namespace Provider.Parts

/-- The value of a parameter that a setting can stand in for. -/
def parameterOr (config : Config) (settings : Settings) (name : String) (key : SettingKey)
    (otherwise : Value) : Except Fault Value :=
  match Ledger.parameter config name .null with
  | .null => settings.lookup key.name otherwise
  | v => .ok v

/-- What a provider of a kind is built from according to its configuration. -/
def ofConfig (kind : ProviderKind) (config : Config) (settings : Settings)
    (service client : Operand) : Except Fault Parts := do
  let authority ← parameterOr config settings "authority" .authority (.str "")
  let shoulder ← parameterOr config settings "shoulder" .shoulder (.str "")
  let style ← parameterOr config settings "identifier_generation_style" .generationStyle .null
  let fileFormat ← parameterOr config settings "datafile_pid_format" .fileFormat .null
  if kind.usesRegistry && client.isNull then throw (.clientRequired kind.contextName)
  pure {
    authority
    shoulder
    style
    fileFormat
    managed := Ledger.parameter config "managed_list" .null
    excluded := Ledger.parameter config "excluded_list" .null
    baseUrl := Ledger.parameter config "base_url" .null
    separator := Ledger.parameter config "separator" (.str "")
    client := if kind.usesRegistry then client else .nothing
    service
    config := .map config }

end Provider.Parts

/-- The kind of provider that a configured type stands for. -/
def ProviderKind.ofKey (type : Key) : Except Fault ProviderKind :=
  match type.str?.bind ofWord? with
  | some kind => .ok kind
  | none => (Value.ofKey type).wording >>= fun name => .error (.unknownProviderType name)

namespace Config

/-- The parameters that providers take from the configuration as a whole. -/
def inheritedNames : List Key :=
  ["site_url", "max_generation_attempts", "random_template", "sequence_template"].map .str

/-- The inherited parameters that a configuration has. -/
def inherited (config : Config) : Config :=
  inheritedNames.filterMap fun name => (Table.find? config name).map (name, ·)

/-- The configurations of the providers, by type. -/
def providerEntries (config : Config) : Except Fault (List (Key × Value)) :=
  match Ledger.parameter config "providers" (.map []) with
  | .map entries => .ok entries
  | v => .error (.providersNotATable v.typeLabel)

end Config

namespace Site

/-- The name that entries about the setting up of providers bear. -/
def setupSource : String := "PID.factory"

/-- Set up the provider of a type. -/
def createProvider (type config : Value) (settings : Settings) (service client : Operand)
    (numbers : List Int) : Use Provider := do
  let kind ← Action.ofExcept (type.asKey >>= ProviderKind.ofKey)
  let config ← Action.ofExcept config.asTable
  let parts ← Action.ofExcept (Provider.Parts.ofConfig kind config settings service client)
  Provider.build kind parts numbers

/-- The local service of a configuration. -/
def createService (config : Config) : Use ServiceId := do
  let given := Ledger.parameter config "pid_registry" (.map [])
  let entries ← Action.ofExcept given.asTable
  let ledger ← onHost <| Ledger.create (Ledger.parameter entries "store_dir" .null) given
    (Ledger.parameter entries "name" .null)
  addService { ledger }

/-- The address of a registry service in memory by default. -/
def memoryEndpoint : Value := .str "https://registry.example.com/"

/-- The registry service for a provider: what is at hand as one, or one in memory where the
configuration asks for it. -/
def clientFor (kind : ProviderKind) (config : Value) (atHand : Operand) : Use Operand := do
  if !kind.usesRegistry || !atHand.isNull then return atHand
  let entries ← Action.ofExcept config.asTable
  if Ledger.parameter entries "client" .null = .str "sim" then
    let endpoint := Ledger.parameter entries "service_url" memoryEndpoint
    let id ← addRegistry { endpoint }
    note .warning setupSource
      ("Using simulated registry client for " ++ kind.contextName ++ " provider")
    pure (.registry id)
  else pure .nothing

/-- Set up the provider of one entry of a configuration, unless it lacks a registry service. -/
def createEntry (type : Key) (config : Value) (defaults : Config) (settings : Settings)
    (service : Operand) (clients : Table Key Operand) (numbers : List Int) :
    Use (Option (Key × Provider)) := do
  let kind ← Action.ofExcept (ProviderKind.ofKey type)
  let config := config.orElse (.map [])
  let client ← clientFor kind config ((Table.find? clients type).getD .nothing)
  if kind.usesRegistry && client.isNull then
    note .warning setupSource
      ("No registry client available for " ++ kind.contextName ++ " provider; skipping")
    return none
  let merged ← Action.ofExcept (Config.mergeWithin config (.map defaults))
  let provider ← createProvider (.ofKey type) merged settings service client numbers
  note .info setupSource ("Created " ++ kind.contextName ++ " PID provider")
  pure (some (.str kind.contextName, provider))

/-- Set up the providers of the entries of a configuration, in their order. -/
def createEntries (defaults : Config) (settings : Settings) (service : Operand)
    (clients : Table Key Operand) (numbers : List Int) (made : Table Key Provider) :
    List (Key × Value) → Use (Table Key Provider)
  | [] => pure made
  | (type, config) :: entries => do
    let made ← match ← createEntry type config defaults settings service clients numbers with
      | some (name, provider) => pure (Table.put made name provider)
      | none => pure made
    createEntries defaults settings service clients numbers made entries

/-- Set up all that a configuration asks for. A local service and registry services, by provider
type, may be at hand already; each provider draws the given random numbers. -/
def createContext (config : Value) (service : Operand) (clients : Table Key Operand)
    (numbers : List Int) : Use Context := do
  let config ← match config with
    | .null => pure []
    | v => Action.ofExcept v.asTable
  let settings ← Action.ofExcept (Settings.ofValue (Ledger.parameter config "settings" (.map [])))
  let service ← if service.isNull then .service <$> createService config else pure service
  let entries ← Action.ofExcept (Config.providerEntries config)
  let defaults := Config.inherited config
  let providers ← createEntries defaults settings service clients numbers [] entries
  pure { settings? := some settings, providers }

end Site

end PersistentId
