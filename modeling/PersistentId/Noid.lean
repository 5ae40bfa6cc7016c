import PersistentId.Fault
import PersistentId.Text.Search

/-!
# NOID templates

A template describes identifiers that are numbered: `[lead.]mask`, where the mask is a generator
(`r` random, `s` bounded sequence, `z` unbounded sequence), one letter for each place (`d` digit,
`e` extended digit) and possibly a final `k` that asks for a check character.

* `Template.parse` reads a template; one final line feed behind the mask is let through, as if it
  were one more place.
* `Template.capacity` is the product of the sizes of the counted places.
* `Template.render` writes the `n`-th identifier: places from the right in mixed radix, the check
  character last. Past its capacity only an unbounded template goes on, to the left, in the
  alphabet of its first place.
-/

namespace PersistentId.Noid

/-! ## Places -/

/-- A place of a mask. -/
inductive Place where
  | digit
  /-- A digit or one of the consonants in use. -/
  | extended
  deriving DecidableEq, Repr, Inhabited

/-- The extended digits in order. -/
def extendedDigits : List Char :=
  ['0', '1', '2', '3', '4', '5', '6', '7', '8', '9', 'b', 'c', 'd', 'f', 'g', 'h', 'j', 'k', 'm',
    'n', 'p', 'q', 'r', 's', 't', 'v', 'w', 'x', 'z']

namespace Place

/-- The characters that can stand at a place, in order. -/
def alphabet : Place → List Char
  | .digit => extendedDigits.take 10
  | .extended => extendedDigits

/-- How many characters can stand at a place. -/
def size (place : Place) : Nat :=
  place.alphabet.length

/-- The character for a number at a place. -/
def symbol (place : Place) (n : Nat) : Char :=
  place.alphabet.getD n '0'

/-- The place of a mask letter; every letter but `d` stands for an extended digit. -/
def ofLetter (c : Char) : Place :=
  if c = 'd' then .digit else .extended

theorem one_lt_size (place : Place) : 1 < place.size := by
  cases place <;> decide

end Place

/-! ## Templates -/

/-- Where the numbers of a template come from. -/
inductive Generator where
  | random
  | sequence
  | unbounded
  deriving DecidableEq, Repr, Inhabited

/-- The generator of a mask letter. -/
def Generator.ofLetter? : Char → Option Generator
  | 'r' => some .random
  | 's' => some .sequence
  | 'z' => some .unbounded
  | _ => none

/-- A template. -/
structure Template where
  /-- The template as it was written. -/
  text : String
  /-- What every identifier starts with. -/
  lead : List Char
  generator : Generator
  /-- The mask behind its generator. -/
  body : List Char
  deriving DecidableEq, Repr, Inhabited

/-- Whether a letter stands for a place. -/
def isPlaceLetter (c : Char) : Bool :=
  c = 'd' || c = 'e'

/-- Whether letters make the body of a mask: places, a check mark or not, a line feed or not. -/
def isBody (body : List Char) : Bool :=
  !(body.takeWhile isPlaceLetter).isEmpty &&
    [[], ['k'], ['\n'], ['k', '\n']].contains (body.dropWhile isPlaceLetter)

namespace Template

/-- The lead and the mask of a template: the mask stands behind the last point. -/
def split (text : List Char) : List Char × List Char :=
  (Text.cutLast '.' text).getD ([], text)

/-- The template that a text stands for. -/
def parse (text : String) : Except Fault Template :=
  let (lead, mask) := split text.toList
  match mask with
  | [] => .error (.illegalTemplate text)
  | c :: body =>
    match Generator.ofLetter? c with
    | some generator =>
      if isBody body then .ok ⟨text, lead, generator, body⟩ else .error (.illegalTemplate text)
    | none => .error (.illegalTemplate text)

/-- The template that a configured value stands for. -/
def ofValue : Value → Except Fault Template
  | .str text => parse text
  | v =>
    let pointed := match v with
      | .list items => some (items.contains (.str "."))
      | .map entries => some (Table.has entries ".")
      | _ => none
    match pointed with
    | some true => .error (.lacks v "rsplit")
    | some false => .error (.notMatchable v)
    | none => .error (.notSearchable v)

/-- The places that are written, check marks at the end not being places. -/
def places (template : Template) : List Place :=
  (Text.dropEnd (· = 'k') template.body).map Place.ofLetter

/-- Whether a check character is asked for. -/
def checked (template : Template) : Bool :=
  template.body.getLast? = some 'k'

/-- The number of identifiers that a template is drawn from. -/
def capacity (template : Template) : Nat :=
  ((template.body.filter isPlaceLetter).map fun c => (Place.ofLetter c).size).foldr (· * ·) 1

end Template

/-! ## Rendering -/

/-- A number written at the given places, and what is left of it. -/
def renderPlaces : List Place → Nat → Nat × List Char
  | [], n => (n, [])
  | place :: places, n =>
    let (n, cs) := renderPlaces places n
    (n / place.size, place.symbol (n % place.size) :: cs)

/-- A number written in front of `cs` with as many places as it takes, at most `fuel`. -/
def growLeft (place : Place) : Nat → Nat → List Char → List Char
  | 0, _, cs => cs
  | fuel + 1, n, cs =>
    if n = 0 then cs else growLeft place fuel (n / place.size) (place.symbol (n % place.size) :: cs)

/-- The weight of a character in the check sum. -/
def ordinal (c : Char) : Nat :=
  (extendedDigits.idxOf? c).getD 0

/-- The sum of the ordinals, each times its position. -/
def weightedSum (position : Nat) : List Char → Nat
  | [] => 0
  | c :: cs => position * ordinal c + weightedSum (position + 1) cs

/-- The part of an identifier that its check character is taken of: without a scheme of three
letters and the slashes behind it. -/
def checkedPart (cs : List Char) : List Char :=
  if cs[3]? = some ':' then (cs.drop 4).dropWhile (· = '/') else cs

/-- The check character of an identifier. -/
def checkCharacter (cs : List Char) : Char :=
  Place.extended.symbol (weightedSum 1 (checkedPart cs) % extendedDigits.length)

namespace Template

/-- The characters of the `n`-th identifier of a template before the check character. -/
def renderBody (template : Template) (n : Nat) : Except Fault (List Char) :=
  let (rest, cs) := renderPlaces template.places n
  if rest = 0 then .ok (template.lead ++ cs)
  else match template.generator, template.places with
    | .unbounded, place :: _ => .ok (template.lead ++ growLeft place (rest.log2 + 1) rest cs)
    | _, _ => .error (.templateExhausted template.text)

/-- The `n`-th identifier of a template. -/
def render (template : Template) (n : Int) : Except Fault String := do
  if n < 0 then throw (if isShort n then .negativeOrdinal n else .tooLong)
  let cs ← template.renderBody n.toNat
  pure (String.ofList (if template.checked then cs ++ [checkCharacter cs] else cs))

end Template

/-- The identifier of a configured template that has the given number. -/
def render (template n : Value) : Except Fault String := do
  let template ← Template.ofValue template
  template.render (← n.asInt)

end PersistentId.Noid
