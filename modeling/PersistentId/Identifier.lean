import PersistentId.Fault
import PersistentId.Text.Blank

/-!
# Identifiers

A persistent identifier has a protocol, an authority and an identifier local to that authority,
as in `doi:10.5072/FK2/BYM3IW`. It also carries what is needed to print it: the separator between
authority and local part, the address that makes it a link, and the provider it came from. These
do not count when identifiers are compared (`Identifier.SameAs`).

* `Part.clean` is the normal form of a part, without blanks, apostrophes and semicolons.
* `wellFormed` says which parts make an identifier: authority and local part in normal form and
  without a NUL behind their first character. Of the parts only these have to be texts.
* `Identifier.make` builds one, or fails with its parts.
* `Identifier.toString` is the canonical form, `Identifier.url` the link.
-/

namespace PersistentId

/-! ## Parts -/

namespace Part

/-- Whether a character has no place in an identifier. -/
def isForbidden (c : Char) : Bool :=
  Text.isBlank c || c = '\'' || c = ';'

/-- The characters of a part in normal form. -/
def cleanChars (cs : List Char) : List Char :=
  cs.filter fun c => !isForbidden c

/-- The normal form of a part. -/
def clean (s : String) : String :=
  String.ofList (cleanChars s.toList)

/-- Whether a NUL stands behind the first character while the first is none. -/
def hasTerminator (s : String) : Bool :=
  match s.toList with
  | [] => false
  | c :: cs => c != '\x00' && cs.contains '\x00'

/-- Whether a part is in normal form and without a terminator. -/
def isProper (s : String) : Bool :=
  s = clean s && !hasTerminator s

theorem clean_eq_self_iff {s : String} :
    clean s = s ↔ ∀ c ∈ s.toList, isForbidden c = false := by
  rw [clean, ← String.toList_inj, String.toList_ofList, cleanChars, List.filter_eq_self]
  simp

@[simp]
theorem clean_clean (s : String) : clean (clean s) = clean s := by
  simp [clean, cleanChars]

end Part

/-- The normal form of a part that may be missing. -/
def cleanPart : Value → Except Fault Value
  | .null => .ok .null
  | part => (part.asTextOr Fault.notMatchable).map fun s => .str (Part.clean s)

/-- Whether a part has a terminator; a missing one has none. -/
def partHasTerminator : Value → Except Fault Bool
  | .null => .ok false
  | part => (part.asText "find").map Part.hasTerminator

/-- Whether the given parts make an identifier. -/
def wellFormed (protocol authority identifier : Value) : Except Fault Bool := do
  if [protocol, authority, identifier].contains .null then return false
  if !Part.isProper (← authority.asTextOr Fault.notMatchable) then return false
  pure (Part.isProper (← identifier.asTextOr Fault.notMatchable))

/-- Whether an authority is one of DOIs. -/
def isDoiAuthority (authority : String) : Bool :=
  ['1', '0', '.'].isPrefixOf authority.toList

/-! ## Protocols -/

/-- The protocol of DOIs. -/
def doiProtocol : String := "doi"

/-- The protocol of Handles. -/
def handleProtocol : String := "hdl"

/-- The protocol of local permanent links. -/
def permaProtocol : String := "perma"

/-- The address that resolves DOIs. -/
def doiResolver : String := "https://doi.org/"

/-- The address that resolves Handles. -/
def handleResolver : String := "https://hdl.handle.net/"

/-- The addresses that resolve identifiers by default, by protocol. -/
def resolvers : Table Key String :=
  [(doiProtocol, doiResolver), (handleProtocol, handleResolver)]

/-- The address that resolves identifiers of a protocol by default. -/
def resolverOf (protocol : Value) : Except Fault String := do
  pure ((Table.find? resolvers (← protocol.asKey)).getD "")

/-! ## Identifiers -/

/-- A persistent identifier. -/
structure Identifier where
  protocol : Value
  authority : String
  /-- The part local to the authority. -/
  localPart : String
  /-- What stands between authority and local part. -/
  separator : Value := .str "/"
  /-- What makes the identifier a link. -/
  urlStart : Value := .str ""
  /-- The provider that the identifier came from. -/
  provider : Value := .null
  deriving DecidableEq, Repr, Inhabited

namespace Identifier

/-- The identifier with the given parts. Without a separator nothing stands between authority and
local part; without an address the protocol's resolver is used. -/
def make (protocol authority identifier separator urlStart provider : Value) :
    Except Fault Identifier := do
  if !(← wellFormed protocol authority identifier) then
    throw (.invalidParts protocol authority identifier)
  let separator := if separator = .null then .str "" else separator
  let urlStart ← if urlStart = .null then .str <$> resolverOf protocol else pure urlStart
  pure ⟨protocol, authority.text, identifier.text, separator, urlStart, provider⟩

/-- The part behind the protocol. -/
def path (pid : Identifier) : String :=
  pid.authority ++ pid.separator.text ++ pid.localPart

/-- The canonical form. -/
def toString (pid : Identifier) : String :=
  pid.protocol.text ++ ":" ++ pid.path

instance : ToString Identifier := ⟨toString⟩

/-- The link. -/
def url (pid : Identifier) : String :=
  pid.urlStart.text ++ pid.path

/-- The identifier with another local part. -/
def withLocalPart (pid : Identifier) (identifier : Value) : Except Fault Identifier :=
  make pid.protocol (.str pid.authority) identifier pid.separator pid.urlStart pid.provider

/-- Whether two identifiers are the same one. -/
def sameAs (pid other : Identifier) : Bool :=
  pid.protocol.agrees other.protocol && pid.authority = other.authority &&
    pid.localPart = other.localPart

/-- What identifiers are told apart by. -/
def key (pid : Identifier) : Except Fault (Key × String × String) := do
  pure (← pid.protocol.asKey, pid.authority, pid.localPart)

/-- How many different identifiers a list holds. -/
def countDistinct (pids : List Identifier) : Except Fault Nat := do
  pure (← pids.mapM key).eraseDups.length

/-- The form that names the type. -/
def display (pid : Identifier) : String :=
  "GlobalId(" ++ Text.quoted pid.toString ++ ")"

/-- The attempt to assign or delete a part. -/
def assign (_ : Identifier) : Except Fault Identifier :=
  .error .immutable

/-- The parts of an identifier that could be made are well formed. -/
theorem wellFormed_of_make {protocol authority identifier separator urlStart provider : Value}
    {pid : Identifier}
    (h : make protocol authority identifier separator urlStart provider = .ok pid) :
    wellFormed protocol authority identifier = .ok true := by
  unfold make at h
  cases hw : wellFormed protocol authority identifier with
  | error fault => simp [hw, bind, Except.bind] at h
  | ok fits =>
    cases fits with
    | true => rfl
    | false => simp [hw, bind, Except.bind, throw, throwThe, MonadExceptOf.throw] at h

end Identifier

end PersistentId
