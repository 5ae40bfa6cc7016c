import PersistentId.Operand

/-!
# Digital objects

What identifiers are given to: datasets, data files and other objects. An object holds the parts
of its identifier separately, any of which may be missing; `DigitalObject.pid?` is the identifier
that they make. A data file has a place for the dataset that owns it.

The fields hold what they are given (`DigitalObject.assign`); whether that fits shows only where
they are used.
-/

namespace PersistentId

/-- The kinds of objects. -/
inductive ObjectKind where
  | dataset
  | dataFile
  | other
  deriving DecidableEq, Repr, Inhabited

namespace ObjectKind

/-- The name of a kind in messages. -/
def label : ObjectKind → String
  | .dataset => "Dataset"
  | .dataFile => "DataFile"
  | .other => "DvObject"

/-- The path of the landing page, up to the identifier. -/
def targetPath : ObjectKind → String
  | .dataset => "/dataset.xhtml?persistentId="
  | .dataFile => "/file.xhtml?persistentId="
  | .other => "/dvn/?persistentId="

end ObjectKind

/-- An object that can be given an identifier. -/
structure DigitalObject where
  kind : ObjectKind := .other
  protocol : Value := .null
  authority : Value := .null
  localPart : Value := .null
  separator : Value := .str "/"
  provider : Value := .null
  urlStart : Value := .null
  title : Operand := .nothing
  authors : Operand := .value (.list [])
  publisher : Operand := .nothing
  publicationYear : Operand := .nothing
  /-- Whether the identifier has been made public. -/
  registered : Value := .bool false
  /-- The path of the landing page, if it is not that of the kind. -/
  targetPath? : Option Value := none
  /-- What stands in the place for the owner, if there is such a place. -/
  owner? : Option Operand := none
  /-- The data files of a dataset, unless something else has been put in their place. -/
  files? : Option (List Operand) := some []
  deriving DecidableEq, Repr, Inhabited

namespace DigitalObject

/-- Whether an object lacks a local part. -/
def lacksLocalPart (obj : DigitalObject) : Bool :=
  !obj.localPart.truthy

/-- The identifier that the parts of an object make, if they make one. -/
def pid? (obj : DigitalObject) : Except Fault (Option Identifier) := do
  if !(← wellFormed obj.protocol obj.authority obj.localPart) || obj.lacksLocalPart then
    return none
  some <$> Identifier.make obj.protocol obj.authority obj.localPart obj.separator obj.urlStart
    obj.provider

/-- The canonical form of an object's identifier. -/
def pidText? (obj : DigitalObject) : Except Fault (Option String) := do
  pure ((← obj.pid?).map (·.toString))

/-- The object with an identifier given to it, or with its parts cleared. -/
def setPid (obj : DigitalObject) : Option Identifier → DigitalObject
  | none => { obj with protocol := .null, authority := .null, localPart := .null }
  | some pid => { obj with
      protocol := pid.protocol
      authority := .str pid.authority
      localPart := .str pid.localPart
      separator := pid.separator
      urlStart := pid.urlStart
      provider := pid.provider }

/-- The object with the parts of another one's identifier. -/
def copyPid (obj other : DigitalObject) : DigitalObject :=
  { obj with
    protocol := other.protocol
    authority := other.authority
    localPart := other.localPart
    separator := other.separator
    urlStart := other.urlStart
    provider := other.provider }

/-- Whether an object is a dataset. -/
def isDataset (obj : DigitalObject) : Bool :=
  obj.kind = .dataset

/-- The path of an object's landing page, up to the identifier. -/
def targetPath (obj : DigitalObject) : Value :=
  obj.targetPath?.getD (.str obj.kind.targetPath)

/-- The form of an object in messages. -/
def display (obj : DigitalObject) : Except Fault String := do
  pure (obj.kind.label ++ "(" ++ (← obj.pidText?).getD "" ++ ")")

/-! ## Fields -/

/-- The fields that a new object can be given, besides an owner. -/
def fieldNames : List String :=
  ["protocol", "authority", "identifier", "title", "authors", "publisher", "publication_year"]

/-- The fields that show in the text of an identifier and put no demand on what they hold. -/
def wordFields : List String :=
  ["protocol", "separator", "provider_name", "url_prefix"]

/-- The object with something in one of its fields. A field that it does not have makes no
difference. -/
def assign (obj : DigitalObject) (name : String) (x : Operand) : Except Fault DigitalObject :=
  match name with
  | "protocol" => .ok { obj with protocol := x.plain }
  | "authority" => .ok { obj with authority := x.plain }
  | "identifier" => .ok { obj with localPart := x.plain }
  | "separator" => .ok { obj with separator := x.plain }
  | "provider_name" => .ok { obj with provider := x.plain }
  | "url_prefix" => .ok { obj with urlStart := x.plain }
  | "title" => .ok { obj with title := x }
  | "authors" => .ok { obj with authors := x }
  | "publisher" => .ok { obj with publisher := x }
  | "publication_year" => .ok { obj with publicationYear := x }
  | "identifier_registered" => .ok { obj with registered := x.plain }
  | "target_path" => .ok { obj with targetPath? := some x.plain }
  | "owner" => .ok { obj with owner? := some x }
  | "files" =>
    .ok { obj with files? := match x with
      | .value (.list items) => some (items.map .value)
      | _ => none }
  | "global_id" => .error .missingPart
  | _ => .ok obj

/-- The authors that a new object is given, as a list. -/
def listedAuthors (authors : Operand) : Except Fault Operand :=
  if authors.truthy then (fun items => .value (.list items)) <$> authors.asItems
  else .ok (.value (.list []))

/-- A new object of a kind with the given fields, an owner among them only if it is a data file. -/
def create (kind : ObjectKind) (fields : Table Key Operand) : Except Fault DigitalObject := do
  let known : List Key := (fieldNames ++ if kind = .dataFile then ["owner"] else []).map .str
  if !(Table.keys fields).all known.contains then throw .wrongType
  let start : DigitalObject :=
    { kind, owner? := if kind = .dataFile then some .nothing else none }
  let obj ← fields.foldlM (fun obj (name, x) => obj.assign name.text x) start
  pure { obj with authors := ← listedAuthors obj.authors }

/-- Clearing the identifier of an object leaves it without one. -/
@[simp]
theorem pid?_setPid_none (obj : DigitalObject) : (obj.setPid none).pid? = .ok none := rfl

end DigitalObject

end PersistentId
