import PersistentId.DigitalObject
import PersistentId.Provider
import PersistentId.RegistryService
import PersistentId.Shelf

/-!
# The site

A site is everything that identifiers are managed on: its host, the local services that know which
identifiers are in use, the registry services, the providers, the objects, and the sources of random
numbers. Providers name the services they work with by number, so that several can share one.

`LocalService` is a ledger as providers see it. Others may be at work in the same namespace: a
crowded service calls no identifier free, and a contested one loses its next reservations.
-/

namespace PersistentId

/-- Others at work in the namespace of a ledger. -/
structure Rivals where
  /-- Whether every identifier counts as used by them. -/
  crowded : Bool := false
  /-- How many of the coming reservations go to them. -/
  contested : Nat := 0
  deriving DecidableEq, Repr, Inhabited

/-- A ledger in a namespace that others may use too. -/
structure LocalService where
  ledger : Ledger := {}
  rivals : Option Rivals := none
  deriving DecidableEq, Repr, Inhabited

namespace LocalService

/-- Whether an identifier is free in local use. -/
def isFree (service : LocalService) (key : String) : Bool :=
  !service.rivals.any (·.crowded) && !service.ledger.registered key

/-- The service behind a reservation that went to others, if it did. -/
def afterLoss? (service : LocalService) : Option LocalService :=
  match service.rivals with
  | some rivals =>
    if rivals.contested = 0 then none
    else some { service with rivals := some { rivals with contested := rivals.contested - 1 } }
  | none => none

/-- Reserve an identifier, unless others do so first. -/
def reserve (key : String) (data : Value) : Action (LocalService × Host) Unit := do
  let (service, host) ← get
  if let some service := service.afterLoss? then
    set (service, host)
    throw (.alreadyIssued key)
  (Ledger.reserve key data).zoom (fun (service, host) => (service.ledger, host))
    fun (ledger, host) (service, _) => ({ service with ledger }, host)

/-- The service with a value in one of the fields that can be set. Whether others use the namespace
is settled from the start, but not how. -/
def assign (service : LocalService) (name : String) (v : Value) : LocalService :=
  match name, service.rivals with
  | "crowded", some rivals => { service with rivals := some { rivals with crowded := v.truthy } }
  | "conflicts", some rivals =>
    { service with rivals := some { rivals with contested := (v.asInt.toOption.getD 0).toNat } }
  | name, _ => { service with ledger := service.ledger.assign name v }

end LocalService

/-- All that identifiers are managed on. -/
structure Site where
  host : Host := {}
  services : Shelf LocalService := {}
  registries : Shelf RegistryService := {}
  providers : Shelf Provider := {}
  objects : Shelf DigitalObject := {}
  /-- The numbers that each source will draw; a source that has run out draws zeros. -/
  sources : Shelf (List Int) := {}
  deriving Inhabited

namespace Site

/-- Actions on a site. -/
abbrev Use (α : Type) := Action Site α

/-! ## Parts of a site -/

/-- An action on the host. -/
def onHost {α : Type} (act : Action Host α) : Use α :=
  act.zoom (·.host) fun host site => { site with host }

/-- An action on a local service. -/
def onService {α : Type} (id : ServiceId) (act : Action (LocalService × Host) α) : Use α :=
  act.zoom (fun site => (site.services.get id, site.host)) fun (service, host) site =>
    { site with services := site.services.put id service, host }

/-- An action on the ledger of a local service. -/
def onLedger {α : Type} (id : ServiceId) (act : Ledger.Use α) : Use α :=
  onService id <| act.zoom (fun (service, host) => (service.ledger, host))
    fun (ledger, host) (service, _) => ({ service with ledger }, host)

/-- An action on a registry service. -/
def onRegistry {α : Type} (id : RegistryId) (act : RegistryService.Use α) : Use α :=
  act.zoom (·.registries.get id) fun service site =>
    { site with registries := site.registries.put id service }

/-- Make an entry in the journal. -/
def note (level : Level) (source message : String) : Use Unit :=
  onHost (Host.note level source message)

/-- Take over a result and the entries made on the way to it. -/
def accept {α : Type} (result : Logged (Except Fault α)) : Use α :=
  onHost (Host.accept result)

/-- An object. -/
def object (id : ObjectId) : Use DigitalObject := do
  pure ((← get).objects.get id)

/-- Change an object. -/
def change (id : ObjectId) (f : DigitalObject → DigitalObject) : Use Unit :=
  modify fun site => { site with objects := site.objects.put id (f (site.objects.get id)) }

/-! ## Random numbers -/

/-- Draw a number below a bound. -/
def draw (source : SourceId) (bound : Nat) : Use Nat := do
  let site ← get
  match site.sources.get source with
  | [] => pure 0
  | n :: rest =>
    set { site with sources := site.sources.put source rest }
    pure (n % (bound : Int)).toNat

/-! ## Operands -/

/-- The form of an operand in messages. -/
def textIn (site : Site) : Operand → Except Fault String
  | .value v => v.wording
  | .pid pid => .ok pid.toString
  | .object id => (site.objects.get id).display
  | .provider id => (site.providers.get id).display
  | .service _ | .registry _ | .other => .ok ""

/-- The form of an operand in messages. -/
def textOf (operand : Operand) : Use String := do
  Action.ofExcept ((← get).textIn operand)

/-! ## Objects -/

/-- Make a dataset the owner of an object. -/
def addFile (dataset : ObjectId) (file : Operand) : Use Unit := do
  if !(← object dataset).isDataset then throw .missingPart
  match file with
  | .object id => change id fun obj => { obj with owner? := some (.object dataset) }
  | .provider _ => pure ()
  | x => if !x.isOpen then throw x.assignmentFault
  match (← object dataset).files? with
  | some files => change dataset fun obj => { obj with files? := some (files ++ [file]) }
  | none => throw .missingPart

/-- Give an object the identifier of an operand, or clear the one it has. What a provider has of
an identifier is taken over before it is found that the rest is missing. -/
def setPid (id : ObjectId) : Operand → Use Unit
  | .value .null => change id (·.setPid none)
  | .pid pid => change id (·.setPid (some pid))
  | .object other => do
    let other ← object other
    change id (·.copyPid other)
  | .provider p => do
    let p := (← get).providers.get p
    change id fun obj => { obj with protocol := .str p.protocol, authority := p.authority }
    throw .missingPart
  | _ => throw .missingPart

/-- What a field of an object takes over from an operand: some hold the text of what is no
value. -/
def fieldOperand (field : String) (operand : Operand) : Use Operand := do
  match operand with
  | .value v => pure (.value v)
  | x => if DigitalObject.wordFields.contains field then .ofText <$> textOf x else pure x

/-- Put something into a field of an object. -/
def assign (id : ObjectId) (field : String) (operand : Operand) : Use Unit := do
  let x ← fieldOperand field operand
  let obj ← Action.ofExcept ((← object id).assign field x)
  change id fun _ => obj

/-- Put something into a field of a provider. -/
def assignToProvider (id : ProviderId) (field : String) (operand : Operand) : Use Unit := do
  let site ← get
  let endpoint (id : RegistryId) := (site.registries.get id).endpoint
  let p ← Action.ofExcept ((site.providers.get id).assign field operand endpoint)
  set { site with providers := site.providers.put id p }

/-! ## New parts -/

/-- Put up a local service. -/
def addService (service : LocalService) : Use ServiceId := do
  let (id, services) := (← get).services.add service
  modify fun site => { site with services }
  pure id

/-- Put up a registry service. -/
def addRegistry (service : RegistryService) : Use RegistryId := do
  let (id, registries) := (← get).registries.add service
  modify fun site => { site with registries }
  pure id

/-- Take in a provider, which is known by its new number from then on. -/
def addProvider (p : Provider) : Use ProviderId := do
  let (id, providers) := (← get).providers.add p
  modify fun site => { site with providers := providers.put id { p with id } }
  pure id

/-- Bring in an object. -/
def addObject (obj : DigitalObject) : Use ObjectId := do
  let (id, objects) := (← get).objects.add obj
  modify fun site => { site with objects }
  pure id

/-- Bring in a new object of a kind with the given fields. -/
def newObject (kind : ObjectKind) (fields : Table Key Operand) : Use ObjectId := do
  let fields ← fields.mapM fun (name, x) => do pure (name, ← fieldOperand name.text x)
  addObject (← Action.ofExcept (DigitalObject.create kind fields))

/-- Set up a source of random numbers. -/
def addSource (numbers : List Int) : Use SourceId := do
  let (id, sources) := (← get).sources.add numbers
  modify fun site => { site with sources }
  pure id

end Site

end PersistentId
