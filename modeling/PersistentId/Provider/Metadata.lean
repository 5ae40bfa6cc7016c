import PersistentId.Provider.Parse
import PersistentId.Site

/-!
# Metadata of objects

What a provider tells a registry service about an object: creators, title, publisher, year, type,
state and the address of the landing page. A data file is described by its owner where it has one,
its own title apart, and whatever is not known is given as unavailable.
-/

namespace PersistentId.Provider

/-- What stands for metadata that are not known. -/
def unavailable : Operand := .ofText ":unav"

/-- The address of an object's landing page. -/
def targetUrl (p : Provider) (obj : DigitalObject) : Except Fault String := do
  let start ← p.siteUrl.asPiece
  let path ← obj.targetPath.asPiece
  pure (start ++ path ++ (← obj.pidText?).getD "")

/-- The object whose metadata describe an object: the owner of one that is no dataset, if it has
one, else the object itself. -/
def describedBy (site : Site) (obj : DigitalObject) : Except Fault DigitalObject :=
  match obj.isDataset, obj.owner? with
  | false, some (.object owner) => .ok (site.objects.get owner)
  | false, some owner => if owner.truthy then .error .missingPart else .ok obj
  | _, _ => .ok obj

/-- The creators of an object in one text. -/
def creators (authors : Operand) : Except Fault Operand := do
  let names ← (← authors.asItems).mapM Value.asPiece
  pure ((Operand.ofText ("; ".intercalate names)).orElse unavailable)

/-- The metadata of an object without its state and address. -/
def basicMetadata (site : Site) (obj : DigitalObject) : Except Fault Metadata := do
  let described ← describedBy site obj
  let creators ← creators described.authors
  let year ← site.textIn (described.publicationYear.orElse unavailable)
  pure
    [ ("datacite.creator", creators),
      ("datacite.title", (obj.title.orElse described.title).orElse unavailable),
      ("datacite.publisher", described.publisher.orElse unavailable),
      ("datacite.publicationyear", .ofText year) ]

/-- The metadata that an identifier is registered with, in the given state. -/
def registrationMetadata (p : Provider) (site : Site) (obj : DigitalObject) (status : String) :
    Except Fault Metadata := do
  let basic ← basicMetadata site obj
  let state : Metadata :=
    [ ("datacite.resourcetype", .ofText "Dataset"),
      (RegistryService.statusKey, .ofText status),
      (RegistryService.targetKey, .ofText (← p.targetUrl obj)) ]
  pure (basic ++ state)

/-- The metadata that change the address of an identifier. -/
def targetMetadata (p : Provider) (obj : DigitalObject) : Except Fault Metadata := do
  pure [(RegistryService.targetKey, .ofText (← p.targetUrl obj))]

/-- Make an entry in a provider's name. -/
def note (p : Provider) (level : Level) (message : String) : Site.Use Unit :=
  Site.note level p.source message

/-- The object that an operand is. -/
def subject (operand : Operand) : Site.Use DigitalObject := do
  Site.object (← Action.ofExcept operand.asObject)

/-- The metadata for reserving an object's identifier. -/
def metadataForCreation (p : Provider) (operand : Operand) : Site.Use Metadata := do
  if let .ok text := ← (Site.textOf operand).attempt then
    p.note .debug ("getting metadata for identifier creation: " ++ text)
  let obj ← subject operand
  Action.ofExcept (p.registrationMetadata (← get) obj "reserved")

end PersistentId.Provider
