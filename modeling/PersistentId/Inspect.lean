import PersistentId.Dispatcher
import PersistentId.LockedFile
import PersistentId.Provider.Lifecycle
import PersistentId.Subsystem

/-!
# Inspection

What can be seen of the things on a site, as tables of values. A view only looks: it changes nothing
and makes no entry in the journal. Some views fail, since a part of them is composed from configured
values that need not fit.

Sequence numbers are shown in the order of their scopes (`Ledger.numberView`), which has to exist:
texts can be put in order among each other, and so can numbers.
-/

namespace PersistentId

namespace Value

/-- Texts as a list. -/
def ofTexts (texts : List String) : Value :=
  .list (texts.map .str)

/-- A number of things. -/
def ofCount (n : Nat) : Value :=
  .int n

end Value

/-- The parts of an identifier, its canonical form and its link. -/
def Identifier.view (pid : Identifier) : Value :=
  .map
    [ ("protocol", pid.protocol), ("authority", .str pid.authority),
      ("identifier", .str pid.localPart), ("separator", pid.separator),
      ("url_prefix", pid.urlStart), ("provider_name", pid.provider),
      ("string", .str pid.toString), ("url", .str pid.url) ]

/-- What kind of minter it is, with its template and, where it draws numbers, their bound. -/
def Minter.view (minter : Minter) : Value :=
  let kind : Table Key Value :=
    [("kind", .str minter.label), ("template", minter.template)]
  .map <| kind ++
    match minter with
    | .random _ capacity upper _ => [("upper", upper), ("capacity", .ofCount capacity)]
    | .sequence .. => []

/-- The configuration of a provider and what follows from it. -/
def Provider.view (p : Provider) : Except Fault Value := do
  let information ← p.information
  let name ← p.name
  let entries : Table Key Value :=
    [ ("repr", .str (← p.display)), ("protocol", .str p.protocol), ("authority", p.authority),
      ("shoulder", p.shoulder), ("style", p.style), ("datafile_pid_format", .str p.fileFormat.word),
      ("separator", p.separator), ("url_prefix", .str p.urlStart), ("type", .str p.kind.typeName),
      ("name", .str name), ("info", .list information), ("site_url", p.siteUrl),
      ("max_attempts", p.maxAttempts), ("managed", .ofTexts (sortTexts p.managed)),
      ("excluded", .ofTexts (sortTexts p.excluded)),
      ("register_when_published", .bool p.registersWhenPublished),
      ("can_manage", .bool p.hasAuthority), ("minter", p.minter.view) ]
  let resolver : Table Key Value := if p.kind = .perma then [("base_url", .str p.baseUrl)] else []
  pure (.map (entries ++ resolver))

/-- What identifies a provider among others. -/
def Provider.card (p : Provider) : Except Fault Value := do
  pure (.map [("provider", .str (← p.display)), ("name", .str (← p.name))])

/-- An operand. An object shows the names that it goes by, of which the site knows none; a service
and what is none of the other things has nothing to show. -/
def Operand.view (site : Site) : Operand → Except Fault Value
  | .value v => .ok v
  | .pid p => .ok (.map [("gid", p.view)])
  | .object _ => .ok (.map [("$ref", .list [])])
  | .provider id => (site.providers.get id).card
  | .service _ | .registry _ | .other => .error .wrongType

/-- Metadata as a table. -/
def Metadata.view (metadata : Metadata) (site : Site) : Except Fault Value := do
  pure (.map (← metadata.mapM fun (name, x) => do pure (name, ← x.view site)))

/-- The fields of an object that concern its identifier, and that identifier. -/
def DigitalObject.view (obj : DigitalObject) : Except Fault Value := do
  let pid ← obj.pid?
  pure <| .map
    [ ("kind", .str obj.kind.label), ("protocol", obj.protocol), ("authority", obj.authority),
      ("identifier", obj.localPart), ("separator", obj.separator), ("provider_name", obj.provider),
      ("url_prefix", obj.urlStart), ("registered", obj.registered),
      ("global_id", (pid.map Identifier.view).getD .null), ("repr", .str (← obj.display)) ]

namespace Ledger

/-- Entries as a list of pairs. -/
def pairView {κ : Type} (key : κ → Value) (entries : List (κ × Value)) : Value :=
  .list (entries.map fun (k, v) => .list [key k, v])

/-- The next number of each scope in order of the scopes, if they have one. -/
def numberView (numbers : Table Key Int) : Except Fault Value :=
  let scopes := Table.keys numbers
  let comparable := scopes.all fun a => scopes.all fun b => (a.le? b).isSome
  if 1 < scopes.length && !comparable then .error .wrongType
  else
    let sorted := numbers.mergeSort fun a b => (a.1.le? b.1).getD true
    .ok (pairView Value.ofKey (sorted.map fun (scope, n) => (scope, .int n)))

/-- Where a ledger is stored, what it has issued and the numbers that come next. -/
def view (ledger : Ledger) : Except Fault Value := do
  let sequences ← numberView ledger.numbers
  pure <| .map
    [ ("store", .ofText? ledger.store), ("seqstore", .ofText? ledger.numberStore),
      ("cache_immediately", ledger.flushOnReserve), ("name", ledger.name),
      ("cached", pairView .str ledger.cached), ("uncached", pairView .str ledger.uncached),
      ("ids", .ofTexts ledger.ids), ("sequences", sequences) ]

end Ledger

/-- The records of a registry service and the calls made to it. -/
def RegistryService.view (service : RegistryService) (site : Site) : Except Fault Value := do
  let records ← service.records.mapM fun (pid, metadata) => do
    pure (Value.list [.ofKey pid, ← metadata.view site])
  pure <| .map
    [ ("endpoint", service.endpoint), ("failing", service.failing), ("records", .list records),
      ("calls", .list (service.calls.map fun (call, pid) => .list [.str call.name, pid])) ]

/-- The names of the providers of a context, in the context and of their own. -/
def Context.view (context : Context) : Except Fault Value := do
  let names ← context.all.mapM (·.name)
  pure (.map [("names", .list (context.names.map .ofKey)), ("providers", .ofTexts names)])

/-- The protocols of a dispatcher. -/
def Dispatcher.view (dispatcher : Dispatcher) : Value :=
  .map [("protocols", .ofTexts dispatcher.protocols)]

/-- Whether a locked file is open, and who holds its lock. -/
def LockedFile.view (file : LockedFile) (host : Host) : Value :=
  let holding := file.holding host
  .map
    [ ("open", .bool file.isOpen), ("mode", file.mode), ("readers", .ofCount holding.readers),
      ("exclusive", .bool holding.exclusive), ("shared", .bool holding.shared) ]

/-- The system and a part of it, with the source that the part's entries bear. -/
def Subsystem.view (part : Subsystem) : Except Fault Value := do
  pure <| .map
    [ ("system", .ofTexts [systemName, systemAbbreviation]),
      ("sub", .list [part.name, part.abbreviation]), ("logger", .str (← part.source)) ]

end PersistentId
