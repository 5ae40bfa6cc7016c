import PersistentId.Json.Printer
import PersistentId.Json.Reader
import PersistentId.Text.Blank

/-!
# Sequence numbers

Each scope has its own sequence of numbers. The next number of each scope is kept in a document
with one member for each scope; `readNumbers` takes from such a document the members that are
numbers and `writeNumbers` writes it. A truth value counts as one or zero.
-/

namespace PersistentId

/-- A number in a sequence. -/
inductive Counter where
  | number (n : Int)
  /-- A truth value that stands for one or zero. -/
  | flag (b : Bool)
  deriving DecidableEq, Repr, Inhabited

namespace Counter

/-- The number that a counter stands for. -/
def toInt : Counter → Int
  | .number n => n
  | .flag b => if b then 1 else 0

/-- The counter as a value. -/
def toValue : Counter → Value
  | .number n => .int n
  | .flag b => .bool b

/-- The counter that a value holds. -/
def ofValue? : Value → Option Counter
  | .int n => some (.number n)
  | .bool b => some (.flag b)
  | _ => none

/-- The larger of two counters, the first if they stand for the same number. -/
def max (a b : Counter) : Counter :=
  if a.toInt < b.toInt then b else a

/-- Whether a counter is short enough to be written. -/
def isShort (counter : Counter) : Bool :=
  counter.toValue.isShort

theorem toInt_max (a b : Counter) : (max a b).toInt = Max.max a.toInt b.toInt := by
  rw [max]
  split <;> omega

end Counter

namespace Ledger

/-- Why a document holds no numbers. -/
inductive NumbersFault where
  | unreadable
  | notAnObject
  /-- There is too much inside each other in it. -/
  | tooDeep (flaw : Json.Flaw)
  deriving DecidableEq, Repr, Inhabited

/-- The next numbers in a document, nothing counting as an empty one. -/
def readNumbers (document : String) : Except NumbersFault (Table Key Counter) :=
  if (Text.trimChars document.toList).isEmpty then .ok []
  else match Json.read document with
    | .error .malformed => .error .unreadable
    | .error flaw => .error (.tooDeep flaw)
    | .ok (.map members) =>
      .ok (members.filterMap fun (scope, v) => (Counter.ofValue? v).map (scope, ·))
    | .ok _ => .error .notAnObject

/-- Next numbers as the members of a document. -/
def numberEntries (numbers : Table Key Counter) : List (Key × Value) :=
  numbers.map fun (scope, n) => (scope, n.toValue)

/-- The document of a table of next numbers, as far as it can be written. -/
def writeNumbers (numbers : Table Key Counter) : Json.Written :=
  Json.writeLayered (numberEntries numbers)

end Ledger

end PersistentId
