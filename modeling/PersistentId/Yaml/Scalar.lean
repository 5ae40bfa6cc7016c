import PersistentId.Json.Reader
import PersistentId.Value
import PersistentId.Yaml.Token
import PersistentId.Yaml.Timestamp

/-!
# Scalars of YAML

What the text of a scalar stands for. `Scalar.kindOf` tells from its look what a plain scalar is,
and `Scalar.read` reads a scalar as what it is or is marked to be. The look is coarser than the
reading: `0x_` looks like a number and is none, and there is no thirteenth month.
-/

namespace PersistentId.Yaml

/-- What a scalar can be. -/
inductive ScalarKind where
  | null
  | bool
  | int
  | float
  | moment
  | str
  /-- The word for merging tables, which has no value of its own. -/
  | merge
  /-- The word for the value itself, which has no value of its own either. -/
  | itself
  deriving DecidableEq, Repr, Inhabited

namespace Scalar

/-! ## Words -/

/-- The words for nothing. -/
def nullWords : List String := ["", "~", "null", "Null", "NULL"]

/-- The words for true. -/
def trueWords : List String :=
  ["true", "True", "TRUE", "yes", "Yes", "YES", "on", "On", "ON"]

/-- The words for false. -/
def falseWords : List String :=
  ["false", "False", "FALSE", "no", "No", "NO", "off", "Off", "OFF"]

/-! ## Numbers -/

/-- The sign of a number and what stands behind it. -/
def splitSign : List Char → Bool × List Char
  | '-' :: cs => (true, cs)
  | '+' :: cs => (false, cs)
  | cs => (false, cs)

/-- The number that digits of a base stand for, if there are some. -/
def digitsOf? (base : Nat) (cs : List Char) : Option Nat :=
  if cs.isEmpty then none
  else cs.foldlM (fun n c => do
    let d ← Text.hexDigit? c
    if d < base then some (base * n + d) else none) 0

/-- Whether a text looks like digits of a base, underscores among them. -/
def looksLikeDigits (base : Nat) (cs : List Char) : Bool :=
  !cs.isEmpty && (cs.filter (· ≠ '_')).all fun c => (Text.hexDigit? c).any (· < base)

/-- Whether a character can stand among decimal digits. -/
def isDigitOrUnderscore (c : Char) : Bool :=
  c.isDigit || c = '_'

/-- Whether a text is a place of a number in sixties. -/
def isSixtieth : List Char → Bool
  | [d] => d.isDigit
  | [t, d] => '0' ≤ t && t ≤ '5' && d.isDigit
  | _ => false

/-- Whether a text looks like a number in sixties, its places separated by colons. -/
def looksLikeSixties (cs : List Char) : Bool :=
  match cs.splitOn ':' with
  | (c :: first) :: second :: rest =>
    c.isDigit && first.all isDigitOrUnderscore && (second :: rest).all isSixtieth
  | _ => false

/-- Whether a text without its sign looks like a whole number. -/
def looksWhole : List Char → Bool
  | ['0'] => true
  | '0' :: 'b' :: cs => looksLikeDigits 2 cs
  | '0' :: 'x' :: cs => looksLikeDigits 16 cs
  | '0' :: cs => looksLikeDigits 8 cs
  | c :: cs => c.isDigit && (cs.all isDigitOrUnderscore || looksLikeSixties (c :: cs))
  | [] => false

/-- Whether a text looks like an exponent, which needs its sign, or is empty. -/
def looksLikeExponent : List Char → Bool
  | [] => true
  | e :: sign :: d :: ds =>
    (e = 'e' || e = 'E') && (sign = '+' || sign = '-') && (d :: ds).all Char.isDigit
  | _ => false

/-- The words for what is beyond all numbers, without their sign. -/
def infiniteWords : List String := [".inf", ".Inf", ".INF"]

/-- The words for what is no number. -/
def undefinedWords : List String := [".nan", ".NaN", ".NAN"]

/-- Whether a text without its sign looks like a number with a point, which needs a digit before
it, or behind it if there is no sign. -/
def looksLikeFraction (signed : Bool) (cs : List Char) : Bool :=
  match cs.splitOnP (· = '.') with
  | [front, back] =>
    let exponent := back.dropWhile isDigitOrUnderscore
    match front, back with
    | [], c :: _ => !signed && c.isDigit && looksLikeExponent exponent
    | c :: rest, _ =>
      c.isDigit &&
        ((rest.all isDigitOrUnderscore && looksLikeExponent exponent) ||
          (looksLikeSixties front && exponent.isEmpty))
    | [], [] => false
  | _ => false

/-- The whole number in sixties with the given places. -/
def sixties? (places : List (List Char)) : Option Nat :=
  places.foldlM (fun n place => (digitsOf? 10 place).map (60 * n + ·)) 0

/-- The number that a text without sign and underscores stands for. -/
def whole? (cs : List Char) : Option Nat :=
  match cs with
  | ['0'] => some 0
  | '0' :: 'b' :: cs => digitsOf? 2 cs
  | '0' :: 'x' :: cs => digitsOf? 16 cs
  | '0' :: _ => digitsOf? 8 cs
  | _ => if digitLimit < cs.length then none else sixties? (cs.splitOn ':')

/-- The exponent that a text stands for. -/
def exponentOf (cs : List Char) : Int :=
  match cs with
  | _ :: '-' :: digits => -(Json.digitsValue digits : Int)
  | _ :: _ :: digits => Json.digitsValue digits
  | _ => 0

/-- Places of sixty added to `value` from the last one on, which counts `base`. A place and the sum
are none if they are beyond the largest magnitude; what a place counts has to be one. -/
def addSixties (value : Option Magnitude) (base : Nat) :
    List (Option Magnitude) → Except Flaw (Option Magnitude)
  | [] => .ok value
  | place :: places =>
    match Magnitude.round? base 1 with
    | none => .error (.beyondRange "int too large to convert to float")
    | some unit =>
      let counted := place.bind (·.mul? unit)
      addSixties (value.bind fun x => counted.bind x.add?) (60 * base) places

/-- The magnitude with a point that a text without sign and underscores stands for, which may have
places of sixty before the point. The text has to look like one or have no point. -/
def fraction (cs : List Char) : Except Flaw (Option Magnitude) :=
  let front := cs.takeWhile (· ≠ '.')
  let back := (cs.drop (front.length + 1)).takeWhile Char.isDigit
  let exponent := exponentOf (cs.drop (front.length + 1 + back.length))
  let last (n : Nat) : Option Magnitude :=
    Magnitude.ofDecimal? (n * Nat.pow 10 back.length + Json.digitsValue back)
      (exponent - back.length)
  if front.isEmpty then .ok (last 0)
  else match (front.splitOn ':').reverse.mapM (digitsOf? 10) with
    | some (n :: places) =>
      addSixties (some default) 1 (last n :: places.map (Magnitude.ofDecimal? · 0))
    | _ => .error .malformed

/-! ## What scalars stand for -/

/-- What a plain scalar looks like. -/
def kindOf (s : String) : ScalarKind :=
  let (_, cs) := splitSign s.toList
  let signed := decide (cs.length < s.length)
  if nullWords.contains s then .null
  else if trueWords.contains s || falseWords.contains s then .bool
  else if looksLikeFraction signed cs || infiniteWords.contains (String.ofList cs) ||
      undefinedWords.contains s then .float
  else if looksWhole cs then .int
  else if s = "<<" then .merge
  else if looksLikeMoment s.toList then .moment
  else if s = "=" then .itself
  else .str

/-- A whole number. -/
def readInt (s : String) : Except Flaw Value :=
  let (negative, cs) := splitSign (s.toList.filter (· ≠ '_'))
  if cs.isEmpty then .error .emptyNumber
  else match whole? cs with
    | some n => .ok (.int (if negative then -(n : Int) else n))
    | none => .error .malformed

/-- A number with a point. -/
def readFloat (s : String) : Except Flaw Value :=
  let (negative, cs) := splitSign (s.toList.filter (· ≠ '_'))
  if (s.toList.filter (· ≠ '_')).isEmpty then .error .emptyNumber
  else if infiniteWords.contains (String.ofList cs) then .ok (.float (.infinite negative))
  else if undefinedWords.contains (String.ofList cs) then .ok (.float .undefined)
  else (fraction cs).map fun magnitude => .float (.ofMagnitude? negative magnitude)

/-- A truth value. -/
def readBool (s : String) : Except Flaw Value :=
  let word := String.ofList (s.toList.map Char.toLower)
  if trueWords.contains word then .ok (.bool true)
  else if falseWords.contains word then .ok (.bool false)
  else .error (.unknownWord word)

/-- A scalar of a kind. -/
def read (s : String) : ScalarKind → Except Flaw Value
  | .null => .ok .null
  | .bool => readBool s
  | .int => readInt s
  | .float => readFloat s
  | .moment => (readMoment s.toList).map .moment
  | .str => .ok (.str s)
  | .merge | .itself => .error .malformed

end Scalar

end PersistentId.Yaml
