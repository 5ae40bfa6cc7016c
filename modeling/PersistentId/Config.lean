import PersistentId.Value
import PersistentId.Fault
import PersistentId.Text.Blank

/-!
# Configurations

A configuration is a table of values. `Config.merge` puts one over another, table by table:
the keys of the defaults come first, in their order, and a value of the primary configuration wins
unless both are tables. `Config.mergeOver` is the same for values of any type: a list stands for
its items by position, and `Config.mergeWithin` sets a limit to the nesting. `Settings` are the part
that is looked up by name, a colon in front of a name not counting.
-/

namespace PersistentId

/-- A configuration. -/
abbrev Config := Table Key Value

namespace Config

mutual

/-- A value of the primary configuration over the default for the same key. -/
def mergeValue : Value → Option Value → Value
  | .map primary, some (.map defaults) => .map (merge primary defaults)
  | v, _ => v
termination_by structural v => v

/-- The entries of a primary configuration put into the defaults. -/
def merge : List (Key × Value) → List (Key × Value) → List (Key × Value)
  | [], defaults => defaults
  | (k, v) :: primary, defaults =>
    merge primary (Table.put defaults k (mergeValue v (Table.find? defaults k)))
termination_by structural v => v

end

@[simp]
theorem merge_nil (defaults : Config) : merge [] defaults = defaults := rfl

/-! ## Values of any type -/

/-- The place in a list that a value names, counted from either end. -/
def placeIn (length : Nat) : Value → Except Fault Nat
  | .int n =>
    let place := if n < 0 then n + length else n
    if 0 ≤ place ∧ place < length then .ok place.toNat else .error .outOfRange
  | .bool b => if b.toNat < length then .ok b.toNat else .error .outOfRange
  | v => .error (.notAPlace v)

/-- The item of a list at the place that a value names. -/
def itemAt (items : List Value) (key : Value) : Except Fault Value :=
  (placeIn items.length key).map fun place => items.getD place .null

/-- A table or list in which a key or place has the given value, put over the one it had. -/
def override (defaults key v : Value) : Except Fault Value :=
  match defaults with
  | .map entries => do
    let k ← key.asKey
    pure (.map (Table.put entries k (mergeValue v (Table.find? entries k))))
  | .list items => do
    let place ← placeIn items.length key
    let old := if items.any (Value.agrees key) then items[place]? else none
    pure (.list (items.set place (mergeValue v old)))
  | _ => .error .wrongType

/-- The items of a list, each over the default at the place it names itself. -/
def mergeItems (items : List Value) (defaults : Value) : List Value → Except Fault Value
  | [] => .ok defaults
  | key :: keys =>
    match defaults with
    | .map _ => do
      let _ ← key.asKey
      let v ← itemAt items key
      mergeItems items (← override defaults key v) keys
    | .list _ => do
      let v ← itemAt items key
      mergeItems items (← override defaults key v) keys
    | _ => .error .wrongType

/-- A value over another one that has its defaults. -/
def mergeOver (primary defaults : Value) : Except Fault Value :=
  match primary, defaults with
  | .map entries, .map defaults => .ok (.map (merge entries defaults))
  | .map entries, defaults =>
    entries.foldlM (fun defaults (k, v) => override defaults (.ofKey k) v) defaults
  | .list items, defaults => mergeItems items defaults items
  | .str s, defaults =>
    if s.isEmpty then .ok defaults
    else .error (.wrongType "string indices must be integers, not 'str'")
  | v, _ => .error (.notIterable v)

/-- What `mergeOver` gives for values that can be copied. -/
def mergeWithin (primary defaults : Value) : Except Fault Value :=
  if Value.copyLimit < max primary.depth defaults.depth then .error .tooDeep
  else mergeOver primary defaults

end Config

/-! ## Settings -/

/-- Settings by name. -/
structure Settings where
  values : Table Key Value := []
  deriving DecidableEq, Repr, Inhabited

namespace Settings

/-- The name of a setting without colons in front. -/
def bareName (name : String) : String :=
  Text.dropLeading (· = ':') name

/-- A setting by its bare name, which only a text can be. -/
def entry (k : Key) (v : Value) : Except Fault (Key × Value) :=
  match k with
  | .str name => .ok (bareName name, v)
  | k => .error (.lacks (.ofKey k) "lstrip")

/-- The settings in a value: a table, or nothing. -/
def ofValue : Value → Except Fault Settings
  | .null => .ok {}
  | .map entries => do
    let named ← entries.mapM fun (k, v) => entry k v
    pure ⟨Table.ofPairs named⟩
  | v => .error (.settingsNotATable v.typeLabel)

/-- The value of a setting as a text, or what it is by default. -/
def lookup (settings : Settings) (name : String) (otherwise : Value) : Except Fault Value :=
  match (Table.find? settings.values (bareName name)).getD .null with
  | .null => .ok otherwise
  | v => v.wording.map .str

/-- What `lookup` gives for a name that has to be a text. -/
def lookupNamed (settings : Settings) (name otherwise : Value) : Except Fault Value := do
  settings.lookup (← name.asText "lstrip") otherwise

end Settings

/-- The names of the settings in use. -/
inductive SettingKey where
  | protocol
  | doiProvider
  | authority
  | shoulder
  | generationStyle
  | fileFormat
  deriving DecidableEq, Repr, Inhabited

namespace SettingKey

/-- The name of a setting. -/
def name : SettingKey → String
  | .protocol => ":Protocol"
  | .doiProvider => ":DoiProvider"
  | .authority => ":Authority"
  | .shoulder => ":Shoulder"
  | .generationStyle => ":IdentifierGenerationStyle"
  | .fileFormat => ":DataFilePIDFormat"

end SettingKey

end PersistentId
