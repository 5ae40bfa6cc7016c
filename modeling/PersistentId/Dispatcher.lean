import PersistentId.Context
import PersistentId.Provider.Parse

/-!
# Choosing a provider

A dispatcher picks a provider of a context: by protocol (`Dispatcher.providerFor`), where the
setting for DOIs chooses among the providers of these, or for an identifier
(`Dispatcher.providerOf`), where a provider that is in charge of it comes first.

That no provider is found is noted in the journal and is not a fault.
-/

namespace PersistentId

/-- The ways to choose a provider. -/
inductive Resolver where
  | handle
  /-- The provider that the setting for DOIs names. -/
  | doi
  | perma
  deriving DecidableEq, Repr, Inhabited

namespace Resolver

/-- The protocol that a resolver is for. -/
def protocol : Resolver → String
  | .handle => handleProtocol
  | .doi => doiProtocol
  | .perma => permaProtocol

/-- The resolver for a protocol. -/
def ofProtocol? (protocol : String) : Option Resolver :=
  [handle, doi, perma].find? (·.protocol = protocol)

/-- The name that entries about the choice of providers bear. -/
def source : String := "PID.dispatch"

/-- The provider of DOIs in a context. -/
def doiProvider (context : Context) : Parsing (Option Provider) := do
  let name := (← Parsing.ofExcept (context.setting .doiProvider (.str ""))).text
  if name ∈ [ProviderKind.ezid, .dataCite, .fake].map (·.contextName) then
    match context.provider? (.str name) with
    | some provider => pure (some provider)
    | none =>
      Parsing.note .error source ("DOI provider " ++ name ++ " is not configured")
      pure none
  else
    Parsing.note .error source ("Unknown DOI provider: " ++ name)
    pure none

/-- The provider that a resolver chooses in a context. -/
def choose (resolver : Resolver) (context : Context) : Parsing (Option Provider) :=
  match resolver with
  | .handle | .perma => pure (context.provider? (.str resolver.protocol))
  | .doi => doiProvider context

end Resolver

/-- A choice of providers by protocol. -/
structure Dispatcher where
  resolvers : List Resolver := [.handle, .doi, .perma]
  deriving DecidableEq, Repr, Inhabited

namespace Dispatcher

/-- The protocols that a dispatcher knows. -/
def protocols (dispatcher : Dispatcher) : List String :=
  dispatcher.resolvers.map (·.protocol)

/-- The protocol asked for, by default the one in the settings. -/
def protocolAsked (context : Context) : Value → Except Fault Value
  | .null => context.setting .protocol (.str "")
  | v => .ok v

/-- The dispatcher that knows only the given protocols, in the order in which they are first
named. -/
def ofProtocols (protocols : List Value) : Except Fault Dispatcher := do
  let resolvers ← protocols.mapM fun protocol => do
    match (← protocol.asKey).str?.bind Resolver.ofProtocol? with
    | some resolver => pure resolver
    | none => throw .unknownKey
  pure ⟨resolvers.eraseDups⟩

/-- The resolver for a protocol, if the dispatcher has one. -/
def resolver? (dispatcher : Dispatcher) (protocol : Value) : Except Fault (Option Resolver) := do
  let protocol ← protocol.asKey
  pure (dispatcher.resolvers.find? fun resolver => Key.str resolver.protocol == protocol)

/-- The provider of a context for a protocol. -/
def providerFor (dispatcher : Dispatcher) (context : Context) (protocol : Value) :
    Parsing (Option Provider) := do
  let protocol ← Parsing.ofExcept (protocolAsked context protocol)
  match ← Parsing.ofExcept (dispatcher.resolver? protocol) with
  | none =>
    Parsing.note .warning Resolver.source ("Unknown protocol: " ++ protocol.text)
    pure none
  | some resolver =>
    match ← resolver.choose context with
    | some provider =>
      Parsing.note .debug Resolver.source ("get_provider returns " ++
        (← Parsing.ofExcept provider.name) ++ " for protocol " ++ protocol.text)
      pure (some provider)
    | none => pure none

/-- The first of several providers that is in charge of an operand with a protocol. -/
def inCharge? (protocol : Value) (operand : Operand) :
    List Provider → Except Fault (Option Provider)
  | [] => .ok none
  | provider :: providers => do
    if protocol = .str provider.protocol then
      if ← provider.canManage (← operand.asPid) then return some provider
    inCharge? protocol operand providers

/-- The protocol of an operand. -/
def protocolOf : Operand → Site.Use Value
  | .pid pid => pure pid.protocol
  | .object id => do pure (← Site.object id).protocol
  | .provider id => do pure (.str ((← get).providers.get id).protocol)
  | _ => throw .missingPart

/-- The provider of a context for an identifier. -/
def providerOf (dispatcher : Dispatcher) (context : Context) (operand : Operand) :
    Site.Use (Option Provider) := do
  let protocol ← protocolOf operand
  match ← Action.ofExcept (inCharge? protocol operand context.all) with
  | some provider => pure (some provider)
  | none => Site.accept (dispatcher.providerFor context protocol).outcome

/-- The identifier that a text stands for under the grammars of a context. -/
def parse (context : Context) (s : Value) : Parsing (Option Identifier) :=
  parseWith context.all s

end Dispatcher

end PersistentId
