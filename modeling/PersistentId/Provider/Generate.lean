import PersistentId.Minter.Minting
import PersistentId.Provider.Metadata

/-!
# Generating identifiers

A new identifier is the first of a number of candidates that is free. A candidate is the shoulder,
or the local part of the owner and a slash, followed by what the minter makes.

* `isUnique` asks the local service and then the registry service; a registry service that cannot
  answer is taken to know nothing.
* `tryCandidates` tries candidates one after the other: one that is not free, or that others
  reserve first, is dropped.
* `generate` gives an object its identifier; if no candidate is free the fault is
  `Fault.noneFree`.
-/

namespace PersistentId.Provider

/-- The local service of a provider, if something is given as one, which it has to be then. -/
def localService? (p : Provider) : Except Fault (Option ServiceId) :=
  match p.service with
  | .service id => .ok (some id)
  | x => if x.truthy then .error .missingPart else .ok none

/-- Whether an operand is free in local use, where it goes by its form in messages; without a local
service it is. -/
def isLocallyFree (p : Provider) (operand : Operand) : Site.Use Bool := do
  match ← Action.ofExcept p.localService? with
  | some service =>
    let key ← Site.textOf operand
    pure (((← get).services.get service).isFree key)
  | none => pure true

/-- Ask the registry service of a provider. -/
def ask {α : Type} (p : Provider) (act : RegistryService.Use α) : Site.Use α :=
  match p.client with
  | .registry id => Site.onRegistry id act
  | _ => throw .missingPart

/-- Whether a registry service has a record of an identifier. -/
def isRemotelyKnown (p : Provider) (pid : Except Fault Identifier) : Site.Use Bool :=
  match p.client with
  | .registry id => do
    let pid ← Action.ofExcept pid
    Site.onRegistry id (RegistryService.isKnown (.str pid.toString))
  | _ => throw .missingPart

/-- Whether an identifier is registered: with the registry service, or, for a provider without one,
in local use, `otherwise` being the answer if it is not. -/
def isRegistered (p : Provider) (operand : Operand) (otherwise : Value) : Site.Use Value := do
  if p.kind.usesRegistry then
    pure (.bool (← p.isRemotelyKnown operand.asPid))
  else if ← p.isLocallyFree operand then pure otherwise
  else pure (.bool true)

/-- Whether an identifier is free, locally and as far as is known with the registry service. -/
def isUnique (p : Provider) (operand : Operand) : Site.Use Bool := do
  if !(← p.isLocallyFree operand) then return false
  match ← (p.isRegistered operand (.bool false)).attempt with
  | .ok known => pure (!known.truthy)
  | .error fault =>
    if !fault.fromService then throw fault
    p.note .info ("Unable to check registry for " ++ (← Site.textOf operand) ++
      " (assuming unique): " ++ fault.message)
    pure true

/-- Reserve an identifier with the local service, if there is one; false if others have it. -/
def reserve (p : Provider) (pid : Identifier) : Site.Use Bool := do
  match ← Action.ofExcept p.localService? with
  | none => pure true
  | some service =>
    let data : Value := .map [("provider", .str (← Action.ofExcept p.name))]
    match ← (Site.onService service (LocalService.reserve pid.toString data)).attempt with
    | .ok _ => pure true
    | .error (.alreadyIssued _) =>
      p.note .debug ("lost race to reserve identifier: " ++ pid.toString)
      pure false
    | .error fault => throw fault

/-- What new identifiers are formed with. -/
structure Scope where
  protocol : Value
  authority : Value
  /-- What the local part starts with. -/
  start : Value
  deriving DecidableEq, Repr, Inhabited

/-- The name of a scope. -/
def scopeName (p : Provider) (scope : Scope) : Except Fault String := do
  pure ((← scope.protocol.wording) ++ ":" ++ (← scope.authority.wording) ++
    (← p.separator.wording) ++ (← scope.start.wording))

/-- The candidate with a minted local part. -/
def candidate (p : Provider) (scope : Scope) (minted : String) : Except Fault Identifier := do
  let start ← scope.start.asPiece
  let name ← p.name
  Identifier.make scope.protocol scope.authority (.str (start ++ minted)) p.separator
    (.str p.urlStart) (.str name)

/-- Mint a candidate. -/
def nextCandidate (p : Provider) (scope : Scope) : Site.Use Identifier := do
  let minted ← p.minter.mint (.str (← Action.ofExcept (p.scopeName scope)))
  Action.ofExcept (p.candidate scope minted)

/-- Whether a candidate is free and could be reserved. -/
def claim (p : Provider) (pid : Identifier) : Site.Use Bool := do
  if ← p.isUnique (.pid pid) then p.reserve pid
  else
    p.note .debug ("generated identifier already in use: " ++ pid.toString)
    pure false

/-- The first of a number of candidates that can be claimed. -/
def tryCandidates (p : Provider) (scope : Scope) : Nat → Site.Use (Option Identifier)
  | 0 => pure none
  | attempts + 1 => do
    let pid ← p.nextCandidate scope
    if ← p.claim pid then pure (some pid) else tryCandidates p scope attempts

/-- The first candidate of a scope that can be claimed. -/
def claimUnder (p : Provider) (scope : Scope) : Site.Use Identifier := do
  let name ← Action.ofExcept (p.scopeName scope)
  let _ ← Action.ofExcept p.localService?
  let attempts ← Action.ofExcept p.maxAttempts.asInt
  match ← p.tryCandidates scope attempts.toNat with
  | some pid => pure pid
  | none => throw (if isShort attempts then .noneFree name attempts else .tooLong)

/-- Give an object the first candidate of a scope that can be claimed. -/
def generateUnder (p : Provider) (id : ObjectId) (scope : Scope) : Site.Use String := do
  let pid ← p.claimUnder scope
  Site.change id (·.setPid (some pid))
  pure pid.localPart

/-- Put protocol and authority of a new identifier into an object, before there is one. -/
def enterScope (id : ObjectId) (scope : Scope) : Site.Use Unit :=
  Site.change id fun obj => { obj with protocol := scope.protocol, authority := scope.authority }

/-- The scope under a provider's own authority and shoulder. -/
def ownScope (p : Provider) : Scope :=
  ⟨.str p.protocol, p.authority, p.shoulder⟩

/-- Give a dataset a new identifier. Something else that takes a protocol and an authority turns out
to be no object only when the identifier has been claimed. -/
def generateForDataset (p : Provider) (operand : Operand) : Site.Use String := do
  match operand with
  | .object id =>
    enterScope id p.ownScope
    p.generateUnder id p.ownScope
  | x =>
    if !x.isOpen then throw x.assignmentFault
    let _ ← p.claimUnder p.ownScope
    throw .missingPart

/-- The scope under an identifier with the given parts, if it has a local part. -/
def scopeUnder? (protocol authority localPart : Value) : Except Fault (Option Scope) := do
  if !localPart.truthy then return none
  pure (some ⟨protocol, authority, .str ((← localPart.asPiece) ++ "/")⟩)

/-- The scope under the identifier of an owner, if it has one. -/
def ownerScope? (site : Site) : Operand → Except Fault (Option Scope)
  | .value .null => .ok none
  | .object id =>
    let owner := site.objects.get id
    scopeUnder? owner.protocol owner.authority owner.localPart
  | .pid pid => scopeUnder? pid.protocol (.str pid.authority) (.str pid.localPart)
  | _ => .error .missingPart

/-- The scope for a data file: under its owner's identifier if those of data files depend on it. -/
def fileScope (p : Provider) (site : Site) (file : DigitalObject) : Except Fault Scope := do
  match file.owner? with
  | none => throw .missingPart
  | some owner =>
    if p.fileFormat = .independent then return p.ownScope
    pure ((← ownerScope? site owner).getD p.ownScope)

/-- Give a data file a new identifier, under that of its owner if it depends on it. -/
def generateForFile (p : Provider) (operand : Operand) : Site.Use String := do
  let id ← Action.ofExcept operand.asObject
  let site ← get
  let scope ← Action.ofExcept (p.fileScope site (site.objects.get id))
  enterScope id scope
  p.generateUnder id scope

/-- Give an object a new identifier. -/
def generate (p : Provider) (operand : Operand) : Site.Use Unit := do
  let _ ← if (← subject operand).isDataset then p.generateForDataset operand
    else p.generateForFile operand

end PersistentId.Provider
