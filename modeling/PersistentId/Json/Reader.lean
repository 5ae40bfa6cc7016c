import PersistentId.Text.Units
import PersistentId.Value

/-!
# Reading JSON

A strict reader of JSON documents. Numbers have no leading zeros and whole ones at most `digitLimit`
digits, texts hold no raw control characters, lists and objects no trailing comma, and nothing but
white space follows the document. Beyond the standard it takes `NaN`, `Infinity` and `-Infinity`. Of
two members with one name the later wins. At most `depthLimit` lists and objects stand inside each
other.

The readers take the rest of the document and give back what they leave of it. `readValue` and its
companions count down a bound on the number of steps; `read` starts them with twice the length of
the document, which is enough, as of two steps one at least takes a character. They also know for
how many more lists and objects there is room.
-/

namespace PersistentId.Json

/-- Why a text is not read as a document. -/
inductive Flaw where
  | malformed
  /-- There is no room for another list. -/
  | deepList
  /-- There is no room for another object. -/
  | deepObject
  deriving DecidableEq, Repr, Inhabited

/-- The words for a flaw that is more than a wrong character. -/
def Flaw.words : Flaw → String
  | .malformed => ""
  | .deepList => deep "array"
  | .deepObject => deep "object"
where
  /-- The words for what is nested too deep. -/
  deep (kind : String) : String :=
    "maximum recursion depth exceeded while decoding a JSON " ++ kind ++ " from a unicode string"

/-- How many lists and objects may stand inside each other in what is read or written. Nothing in a
document says so: it is what the stack of a caller near its start has left of the 1000 calls that
the runtime allows. -/
def depthLimit : Nat := 988

/-- What a reader of a part has found, which has to be something. -/
def found {α : Type} : Option α → Except Flaw α
  | some a => .ok a
  | none => .error .malformed

/-! ## Numbers -/

/-- The number that decimal digits stand for. -/
def digitsValue (digits : List Char) : Nat :=
  digits.foldl (fun n c => 10 * n + (c.toNat - '0'.toNat)) 0

/-- Leading decimal digits and what follows them. -/
def spanDigits (s : List Char) : List Char × List Char :=
  (s.takeWhile Char.isDigit, s.dropWhile Char.isDigit)

/-- The whole part of a number: a zero, or digits that do not start with one. -/
def readWhole : List Char → Option (List Char × List Char)
  | '0' :: s => some (['0'], s)
  | s =>
    let (digits, rest) := spanDigits s
    if digits.isEmpty then none else some (digits, rest)

/-- The digits behind the point, if there are any. -/
def readFraction : List Char → List Char × List Char
  | '.' :: s =>
    let (digits, rest) := spanDigits s
    if digits.isEmpty then ([], '.' :: s) else (digits, rest)
  | s => ([], s)

/-- The exponent behind its mark, if it has digits. -/
def readSigned : List Char → Option (Int × List Char)
  | '-' :: s =>
    let (digits, rest) := spanDigits s
    if digits.isEmpty then none else some (-(digitsValue digits : Int), rest)
  | '+' :: s =>
    let (digits, rest) := spanDigits s
    if digits.isEmpty then none else some (digitsValue digits, rest)
  | s =>
    let (digits, rest) := spanDigits s
    if digits.isEmpty then none else some (digitsValue digits, rest)

/-- The exponent of a number, if it has one. -/
def readExponent : List Char → Option Int × List Char
  | 'e' :: s => match readSigned s with
    | some (n, rest) => (some n, rest)
    | none => (none, 'e' :: s)
  | 'E' :: s => match readSigned s with
    | some (n, rest) => (some n, rest)
    | none => (none, 'E' :: s)
  | s => (none, s)

/-- A number without its sign. -/
def readMagnitude (negative : Bool) (s : List Char) : Option (Value × List Char) := do
  let (whole, s) ← readWhole s
  let (fraction, s) := readFraction s
  let (exponent, s) := readExponent s
  if fraction.isEmpty && exponent.isNone then
    if digitLimit < whole.length then none
    else
      let n : Int := digitsValue whole
      some (.int (if negative then -n else n), s)
  else
    some (.float (.ofDecimal negative (digitsValue (whole ++ fraction))
      (exponent.getD 0 - fraction.length)), s)

/-- A number. -/
def readNumber : List Char → Option (Value × List Char)
  | '-' :: s => readMagnitude true s
  | s => readMagnitude false s

/-! ## Texts -/

/-- The character behind a backslash. -/
def escaped? : Char → Option Char
  | '"' => some '"'
  | '\\' => some '\\'
  | '/' => some '/'
  | 'b' => some '\x08'
  | 'f' => some '\x0c'
  | 'n' => some '\n'
  | 'r' => some '\r'
  | 't' => some '\t'
  | _ => none

/-- The code units of a text up to its closing quote. -/
def readUnits : List Char → Option (List Nat × List Char)
  | [] => none
  | '"' :: s => some ([], s)
  | '\\' :: 'u' :: a :: b :: c :: d :: s => do
    let unit ← Text.hexNumber? [a, b, c, d]
    let (units, rest) ← readUnits s
    some (unit :: units, rest)
  | '\\' :: e :: s => do
    let char ← escaped? e
    let (units, rest) ← readUnits s
    some (char.toNat :: units, rest)
  | c :: s =>
    if c.toNat < 32 then none
    else do
      let (units, rest) ← readUnits s
      some (c.toNat :: units, rest)

/-- A text behind its opening quote. -/
def readText (s : List Char) : Option (String × List Char) := do
  let (units, rest) ← readUnits s
  some (String.ofList (Text.joinUnits units), rest)

/-! ## Documents -/

/-- The white space of a document. -/
def isSpace (c : Char) : Bool :=
  c = ' ' || c = '\t' || c = '\n' || c = '\r'

/-- The rest of a document behind white space. -/
def skip (s : List Char) : List Char :=
  s.dropWhile isSpace

mutual

/-- A value. -/
def readValue : Nat → Nat → List Char → Except Flaw (Value × List Char)
  | 0, _, _ => .error .malformed
  | n + 1, room, s =>
    match s with
    | '"' :: s => (found (readText s)).map fun (t, rest) => (.str t, rest)
    | '{' :: s =>
      match room, skip s with
      | 0, _ => .error .deepObject
      | _, '}' :: rest => .ok (.map [], rest)
      | room + 1, s => (readMembers n room s).map fun (es, rest) => (.map (Table.ofPairs es), rest)
    | '[' :: s =>
      match room, skip s with
      | 0, _ => .error .deepList
      | _, ']' :: rest => .ok (.list [], rest)
      | room + 1, s => (readItems n room s).map fun (vs, rest) => (.list vs, rest)
    | 'n' :: 'u' :: 'l' :: 'l' :: rest => .ok (.null, rest)
    | 't' :: 'r' :: 'u' :: 'e' :: rest => .ok (.bool true, rest)
    | 'f' :: 'a' :: 'l' :: 's' :: 'e' :: rest => .ok (.bool false, rest)
    | 'N' :: 'a' :: 'N' :: rest => .ok (.float .undefined, rest)
    | 'I' :: 'n' :: 'f' :: 'i' :: 'n' :: 'i' :: 't' :: 'y' :: rest =>
      .ok (.float (.infinite false), rest)
    | '-' :: 'I' :: 'n' :: 'f' :: 'i' :: 'n' :: 'i' :: 't' :: 'y' :: rest =>
      .ok (.float (.infinite true), rest)
    | s => found (readNumber s)

/-- The items of a list up to its closing bracket. -/
def readItems : Nat → Nat → List Char → Except Flaw (List Value × List Char)
  | 0, _, _ => .error .malformed
  | n + 1, room, s => do
    let (v, s) ← readValue n room s
    match skip s with
    | ',' :: s =>
      let (vs, rest) ← readItems n room (skip s)
      pure (v :: vs, rest)
    | ']' :: rest => pure ([v], rest)
    | _ => throw .malformed

/-- The members of an object up to its closing brace. -/
def readMembers : Nat → Nat → List Char → Except Flaw (List (Key × Value) × List Char)
  | 0, _, _ => .error .malformed
  | n + 1, room, s => do
    match s with
    | '"' :: s =>
      let (name, s) ← found (readText s)
      match skip s with
      | ':' :: s =>
        let (v, s) ← readValue n room (skip s)
        match skip s with
        | ',' :: s =>
          let (es, rest) ← readMembers n room (skip s)
          pure ((.str name, v) :: es, rest)
        | '}' :: rest => pure ([(.str name, v)], rest)
        | _ => throw .malformed
      | _ => throw .malformed
    | _ => throw .malformed

end

/-- The value of a document. -/
def readChars (document : List Char) : Except Flaw Value := do
  let (v, rest) ← readValue (2 * document.length + 1) depthLimit (skip document)
  if (skip rest).isEmpty then pure v else throw .malformed

/-- The value of a document. -/
def read (document : String) : Except Flaw Value :=
  readChars document.toList

end PersistentId.Json
