import PersistentId.Copy
import PersistentId.Provider.Generate

/-!
# The life cycle of identifiers

Registering an object's identifier, changing its address, making it public and removing it. A
provider with a registry service does these there; one without keeps no record of its own, so that
they come down to what the object and the local service say.

A failure of the registry service is passed on, except by `publicize`, which answers that it has
not succeeded.
-/

namespace PersistentId.Provider

/-- The canonical form of an object's identifier. -/
def pidOf (operand : Operand) : Site.Use (Option String) := do
  Action.ofExcept (← subject operand).pidText?

/-- Whether the identifier of an object is registered. -/
def isObjectRegistered (p : Provider) (operand : Operand) : Site.Use Value := do
  if operand.isNull then
    p.note .error "Null DvObject sent to already_registered()"
    return .bool false
  match ← Action.ofExcept (← subject operand).pid? with
  | some pid => p.isRegistered (.pid pid) (.bool false)
  | none => pure (.bool false)

/-- Whether an answer of the registry service names an identifier. -/
def replyNames (reply : Value) (pid : Option String) : Except Fault Bool :=
  if !reply.truthy then .ok false
  else match reply, pid with
    | .str s, some pid => .ok (Text.occursIn pid s)
    | .list items, pid => .ok (items.contains (.ofText? pid))
    | .map entries, some pid => .ok (Table.has entries (.str pid))
    | .map entries, none => .ok (Table.has entries .null)
    | _, _ => .error .wrongType

/-- Reserve an object's identifier, and give the answer to that. A local service in the place of a
registry service reserves it too, without an answer. -/
def reserveWith (p : Provider) (operand : Operand) (pid : Value) : Site.Use Value := do
  match p.client with
  | .registry id =>
    let metadata ← p.metadataForCreation operand
    let copy ← (Site.copyMetadata metadata).attempt
    Site.onRegistry id (RegistryService.reserve pid copy)
  | .service id =>
    let data ← Action.ofExcept (← p.metadataForCreation operand).toValue
    Site.onService id (LocalService.reserve pid.text data)
    pure .null
  | _ => throw .missingPart

/-- Register the identifier of an object; the answer names it. -/
def create (p : Provider) (operand : Operand) : Site.Use Value := do
  let pid ← pidOf operand
  if p.kind.usesRegistry then
    p.note .debug ("creating identifier: " ++ (Value.ofText? pid).text)
    let reply ← p.reserveWith operand (.ofText? pid)
    if ← Action.ofExcept (replyNames reply pid) then pure reply
    else throw (.unexpectedReply pid reply.text)
  else match pid with
    | some pid => pure (.str pid)
    | none => throw .missingPart

/-- The metadata that are held for an object's identifier. -/
def heldMetadata (p : Provider) (operand : Operand) : Site.Use Metadata := do
  if !p.kind.usesRegistry then return []
  let pid ← pidOf operand
  match ← (p.ask (RegistryService.metadata (.ofText? pid))).attempt with
  | .ok metadata => pure metadata
  | .error (.serviceUnknown _) =>
    p.note .debug ("No metadata available for unregistered identifier: " ++
      (Value.ofText? pid).text)
    pure []
  | .error fault => throw fault

/-- Update the metadata that the registry service holds for an identifier. A table in place of the
service can be updated too, but not with these two. -/
def updateWith (p : Provider) (pid : Value) (metadata : Metadata) : Site.Use Unit :=
  match p.client with
  | .value (.map _) => throw .wrongType
  | _ => p.ask (RegistryService.update pid (.ok metadata))

/-- Make an object's identifier resolve to its present landing page. -/
def modifyTarget (p : Provider) (operand : Operand) : Site.Use String := do
  let obj ← subject operand
  if p.kind.usesRegistry then
    let pid ← pidOf operand
    p.note .debug ("modifying target URL for " ++ (Value.ofText? pid).text)
    let metadata ← Action.ofExcept (p.targetMetadata obj)
    p.updateWith (.ofText? pid) metadata
  Action.ofExcept (p.targetUrl obj)

/-- Remove the identifier of an object. -/
def delete (p : Provider) (operand : Operand) : Site.Use Unit := do
  if p.kind.usesRegistry then
    let pid ← pidOf operand
    p.note .info ("deleting identifier: " ++ (Value.ofText? pid).text)
    p.ask (RegistryService.delete (.ofText? pid))

/-- Make the identifier of an object public with the registry service. -/
def publicizeRemotely (p : Provider) (id : ObjectId) : Site.Use Bool := do
  let pid ← pidOf (.object id)
  let metadata := Table.put (← p.metadataForCreation (.object id)) RegistryService.statusKey
    (.ofText "public")
  let copy ← (Site.copyMetadata metadata).attempt
  match ← (p.ask (RegistryService.publicize (.ofText? pid) copy)).attempt with
  | .ok _ =>
    Site.change id fun obj => { obj with registered := .bool true }
    pure true
  | .error fault =>
    if fault.fromService then
      p.note .error ("Failed to publicize " ++ (Value.ofText? pid).text ++ ": " ++ fault.message)
      pure false
    else throw fault

/-- Make the identifier of an object public, generating one first if it has none. Without a registry
service an identifier is public by itself. -/
def publicize (p : Provider) (operand : Operand) : Site.Use Bool := do
  match operand with
  | .object id =>
    if (← Site.object id).lacksLocalPart then p.generate operand
    if p.kind.usesRegistry then p.publicizeRemotely id else pure true
  | .pid pid =>
    if p.kind.usesRegistry || pid.localPart.isEmpty then throw .missingPart else pure true
  | _ => throw .missingPart

end PersistentId.Provider
