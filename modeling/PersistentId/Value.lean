import PersistentId.Key
import PersistentId.Table

/-!
# Configured values

What a configuration file, a setting or the data of a stored identifier can hold: nothing, a truth
value, a number, a text, a moment, a list or a table of values.

* `Value.agrees` is the comparison that a program makes: by number where there is one, tables
  whatever their order;
* `Value.truthy` is the test that optional parameters go by: nothing, false, zero and whatever is
  empty count as not given;
* `Value.text` is the form a value takes inside a message, `Value.literal` the form it has inside
  a list or a table, where texts are quoted;
* `Value.typeLabel` names the type of a value in messages.
-/

namespace PersistentId

/-- A configured value. -/
inductive Value where
  | null
  | bool (b : Bool)
  | int (n : Int)
  | float (x : Binary64)
  | str (s : String)
  | moment (m : Moment)
  | list (items : List Value)
  | map (entries : List (Key × Value))
  deriving Inhabited, Repr

namespace Value

/-! ## Equality -/

mutual

/-- Whether two values are the same, down to the order of their entries. -/
def same : Value → Value → Bool
  | .null, .null => true
  | .bool a, .bool b => a == b
  | .int a, .int b => a == b
  | .float a, .float b => a == b
  | .str a, .str b => a == b
  | .moment a, .moment b => a == b
  | .list a, .list b => sameItems a b
  | .map a, .map b => sameEntries a b
  | _, _ => false
termination_by structural v => v

/-- `same`, item by item. -/
def sameItems : List Value → List Value → Bool
  | [], [] => true
  | a :: as, b :: bs => same a b && sameItems as bs
  | _, _ => false
termination_by structural v => v

/-- `same`, entry by entry. -/
def sameEntries : List (Key × Value) → List (Key × Value) → Bool
  | [], [] => true
  | (k, a) :: as, (l, b) :: bs => decide (k = l) && (same a b && sameEntries as bs)
  | _, _ => false
termination_by structural v => v

end

mutual

theorem same_iff : ∀ a b : Value, same a b = true ↔ a = b
  | .null, b => by cases b <;> simp [same]
  | .bool x, b => by cases b <;> simp [same]
  | .int x, b => by cases b <;> simp [same]
  | .float x, b => by cases b <;> simp [same]
  | .str x, b => by cases b <;> simp [same]
  | .moment x, b => by cases b <;> simp [same]
  | .list xs, b => by cases b <;> simp [same, sameItems_iff xs]
  | .map xs, b => by cases b <;> simp [same, sameEntries_iff xs]

theorem sameItems_iff : ∀ a b : List Value, sameItems a b = true ↔ a = b
  | [], b => by cases b <;> simp [sameItems]
  | x :: xs, b => by cases b <;> simp [sameItems, same_iff x, sameItems_iff xs]

theorem sameEntries_iff : ∀ a b : List (Key × Value), sameEntries a b = true ↔ a = b
  | [], b => by cases b <;> simp [sameEntries]
  | (k, x) :: xs, b => by
    cases b <;> simp [sameEntries, same_iff x, sameEntries_iff xs, Prod.ext_iff, and_assoc]

end

instance : DecidableEq Value := fun a b => decidable_of_iff _ (same_iff a b)

/-- The key that a value makes in a table, if it can be one. -/
def key? : Value → Option Key
  | .null => some .null
  | .bool b => some (.bool b)
  | .int n => some (.int n)
  | .float x => some (.float x)
  | .str s => some (.str s)
  | .moment m => some (.moment m)
  | .list _ => none
  | .map _ => none

/-- A key as a value. -/
def ofKey : Key → Value
  | .null => .null
  | .bool b => .bool b
  | .int n => .int n
  | .float x => .float x
  | .moment m => .moment m
  | .str s => .str s

@[simp]
theorem key?_ofKey (key : Key) : key? (ofKey key) = some key := by
  cases key <;> rfl

mutual

/-- Whether two values count as equal. -/
def agrees : Value → Value → Bool
  | .list a, .list b => a.length == b.length && agreeingItems a b
  | .map a, .map b => a.length == b.length && agreeingEntries a b
  | a, b =>
    match a.key?, b.key? with
    | some k, some l => k == l
    | _, _ => false
termination_by structural v => v

/-- `agrees`, item by item. -/
def agreeingItems : List Value → List Value → Bool
  | a :: as, b :: bs => agrees a b && agreeingItems as bs
  | _, _ => true
termination_by structural v => v

/-- Whether a table has all of the given entries. -/
def agreeingEntries : List (Key × Value) → List (Key × Value) → Bool
  | [], _ => true
  | (k, a) :: as, bs =>
    match Table.find? bs k with
    | some b => agrees a b && agreeingEntries as bs
    | none => false
termination_by structural v => v

end

/-! ## Tests and views -/

/-- Whether a value counts as given. -/
def truthy : Value → Bool
  | .null => false
  | .bool b => b
  | .int n => n != 0
  | .float x => !x.isZero
  | .str s => s != ""
  | .moment _ => true
  | .list items => !items.isEmpty
  | .map entries => !entries.isEmpty

/-- The first of two values that counts as given, else the second. -/
def orElse (v w : Value) : Value :=
  if v.truthy then v else w

/-- The name of a value's type. -/
def typeName : Value → String
  | .null => "NoneType"
  | .bool _ => "bool"
  | .int _ => "int"
  | .float _ => "float"
  | .str _ => "str"
  | .moment m => m.typeName
  | .list _ => "list"
  | .map _ => "dict"

/-- The name of a value's type without the module it is from. -/
def shortTypeName : Value → String
  | .moment m => m.shortTypeName
  | v => v.typeName

/-- The name of a value's type as messages show it. -/
def typeLabel (v : Value) : String :=
  "<class '" ++ v.typeName ++ "'>"

/-- The text of a value that is one. -/
def str? : Value → Option String
  | .str s => some s
  | _ => none

/-- The entries of a value that is a table. -/
def map? : Value → Option (List (Key × Value))
  | .map entries => some entries
  | _ => none

/-- The entries of a table, none if the value is something else. -/
def entries (v : Value) : List (Key × Value) :=
  v.map?.getD []

/-- The items of a list, none if the value is something else. -/
def items : Value → List Value
  | .list items => items
  | _ => []

/-- Whether a value is a table with the given key. -/
def has (v : Value) (key : Key) : Bool :=
  Table.has v.entries key

/-- The value of a key in a table, null if it is missing. -/
def member (v : Value) (key : Key) : Value :=
  (Table.find? v.entries key).getD .null

/-- An optional text as a value. -/
def ofText? : Option String → Value
  | some s => .str s
  | none => .null

/-! ## Text -/

mutual

/-- The form of a value inside a list or a table. -/
def literal : Value → String
  | .null => "None"
  | .bool true => "True"
  | .bool false => "False"
  | .int n => toString n
  | .float x => x.text
  | .str s => Text.quoted s
  | .moment m => m.literal
  | .list items => "[" ++ ", ".intercalate (literals items) ++ "]"
  | .map entries => "\x7b" ++ ", ".intercalate (entryLiterals entries) ++ "\x7d"
termination_by structural v => v

/-- The literals of the items of a list. -/
def literals : List Value → List String
  | [] => []
  | v :: items => literal v :: literals items
termination_by structural v => v

/-- The literals of the entries of a table. -/
def entryLiterals : List (Key × Value) → List String
  | [] => []
  | (k, v) :: entries => (k.literal ++ ": " ++ literal v) :: entryLiterals entries
termination_by structural v => v

end

/-- The form of a value inside a message. -/
def text : Value → String
  | .str s => s
  | .moment m => m.text
  | v => v.literal

mutual

/-- Whether all whole numbers in a value are short enough to be written. -/
def isShort : Value → Bool
  | .int n => PersistentId.isShort n
  | .list items => areShort items
  | .map entries => entriesAreShort entries
  | _ => true
termination_by structural v => v

/-- `isShort` of all items of a list. -/
def areShort : List Value → Bool
  | [] => true
  | v :: items => isShort v && areShort items
termination_by structural v => v

/-- `isShort` of all entries of a table. -/
def entriesAreShort : List (Key × Value) → Bool
  | [] => true
  | (k, v) :: entries => k.isShort && (isShort v && entriesAreShort entries)
termination_by structural v => v

end

/-- How many lists and tables may stand inside each other in what is copied. Copying takes two calls
for each level: this is half of what the stack of a caller near its start has left of the 1000 calls
that the runtime allows. -/
def copyLimit : Nat := 490

mutual

/-- How many lists and tables stand inside each other in a value. -/
def depth : Value → Nat
  | .list items => depthOfItems items + 1
  | .map entries => depthOfEntries entries + 1
  | _ => 0
termination_by structural v => v

/-- The largest depth of the items of a list. -/
def depthOfItems : List Value → Nat
  | [] => 0
  | v :: items => max (depth v) (depthOfItems items)
termination_by structural v => v

/-- The largest depth of the entries of a table. -/
def depthOfEntries : List (Key × Value) → Nat
  | [] => 0
  | (_, v) :: entries => max (depth v) (depthOfEntries entries)
termination_by structural v => v

end

@[simp]
theorem text_str (s : String) : (Value.str s).text = s := rfl

end Value

end PersistentId
