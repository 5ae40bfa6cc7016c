import PersistentId.Number
import PersistentId.Moment
import PersistentId.Text.Quoted

/-!
# Keys

What an entry of a table can be known by: nothing, a truth value, a number, a moment or a text.

Keys are compared by number where they have one (`Key.normal`), so that `true`, `1` and `1.0` are
one key, and `==` is an equivalence that is coarser than equality. `Key.le?` puts numbers in order
among each other, and texts.
-/

namespace PersistentId

/-- The key of an entry. -/
inductive Key where
  | null
  | bool (b : Bool)
  | int (n : Int)
  | float (x : Binary64)
  | moment (m : Moment)
  | str (s : String)
  deriving DecidableEq, Repr, Inhabited

namespace Key

instance : Coe String Key := ⟨.str⟩

/-- The key that stands for all that count as the same: numbers without a fraction are whole
numbers, and truth values are one and zero. -/
def normal : Key → Key
  | .bool b => .int b.toNat
  | .float x =>
    match x.toInt? with
    | some n => .int n
    | none => .float x
  | key => key

instance : BEq Key := ⟨fun a b => decide (a.normal = b.normal)⟩

theorem beq_iff {a b : Key} : (a == b) = true ↔ a.normal = b.normal :=
  decide_eq_true_iff

instance : EquivBEq Key where
  rfl := beq_iff.2 rfl
  symm h := beq_iff.2 (beq_iff.1 h).symm
  trans h k := beq_iff.2 ((beq_iff.1 h).trans (beq_iff.1 k))

/-- The text of a key that is one. -/
def str? : Key → Option String
  | .str s => some s
  | _ => none

/-- The form of a key inside a table. -/
def literal : Key → String
  | .null => "None"
  | .bool true => "True"
  | .bool false => "False"
  | .int n => toString n
  | .float x => x.text
  | .moment m => m.literal
  | .str s => Text.quoted s

/-- Whether a key is no number too long to be written. -/
def isShort : Key → Bool
  | .int n => PersistentId.isShort n
  | _ => true

/-- The form of a key inside a message. -/
def text : Key → String
  | .str s => s
  | .moment m => m.text
  | key => key.literal

/-- The number that a key stands for, if it is one and finite, as a fraction with a positive
denominator. -/
def fraction? : Key → Option (Int × Nat)
  | .bool b => some (b.toNat, 1)
  | .int n => some (n, 1)
  | .float (.finite negative magnitude) =>
    some (if negative then -magnitude.units else magnitude.units, Nat.pow 2 Magnitude.unitPlaces)
  | _ => none

/-- Whether a key comes before another one or has its place, if the two can be put in order. -/
def le? (a b : Key) : Option Bool :=
  match a, b with
  | .str s, .str t => some (decide (s ≤ t))
  | a, b =>
    match a.fraction?, b.fraction? with
    | some (n, d), some (m, e) => some (decide (n * e ≤ m * d))
    | _, _ => none

/-- Texts are told apart as they are. -/
@[simp]
theorem beq_str (s t : String) : (Key.str s == Key.str t) = decide (s = t) := by
  simp [BEq.beq, normal]

end Key

end PersistentId
