import PersistentId.Json.Reader
import PersistentId.Moment
import PersistentId.Yaml.Character
import PersistentId.Yaml.Token

/-!
# Timestamps of YAML

Days such as `2020-02-29`, and times of days behind them. Without a time only days with all their
digits look like timestamps; with one, months, days and hours may be of one digit, the time may have
a fraction of seconds, and an offset from universal time may follow it.
-/

namespace PersistentId.Yaml

/-- The parts of a timestamp as they are written. -/
structure Timestamp where
  year : Nat
  month : Nat
  day : Nat
  time : Option ClockTime := none
  /-- Whether all digits of the day are written. -/
  full : Bool
  deriving DecidableEq, Repr, Inhabited

/-- A number of at least and at most so many digits, and what stands behind it. -/
def figures? (least most : Nat) (cs : List Char) : Option (List Char × List Char) :=
  let digits := cs.takeWhile Char.isDigit
  if least ≤ digits.length ∧ digits.length ≤ most then some (digits, cs.drop digits.length)
  else none

/-- A number behind a mark. -/
def markedFigures? (mark : Char) (least most : Nat) : List Char → Option (List Char × List Char)
  | c :: cs => if c = mark then figures? least most cs else none
  | [] => none

/-- A fraction of seconds, in millionths, and what stands behind it. -/
def readMillionths : List Char → Nat × List Char
  | '.' :: cs =>
    let digits := cs.takeWhile Char.isDigit
    let shown := digits.take 6
    (Json.digitsValue (shown ++ List.replicate (6 - shown.length) '0'), cs.drop digits.length)
  | cs => (0, cs)

/-- An offset from universal time at the end, in minutes. -/
def offset? (cs : List Char) : Option (Option Int) :=
  match cs.dropWhile isBlank with
  | [] => if cs.isEmpty then some none else none
  | ['Z'] => some (some 0)
  | sign :: cs => do
    if sign ≠ '+' ∧ sign ≠ '-' then none
    let (hours, cs) ← figures? 1 2 cs
    let minutes ←
      match cs with
      | [] => some []
      | cs => do
        let (minutes, cs) ← markedFigures? ':' 2 2 cs
        if cs.isEmpty then some minutes else none
    let amount : Int := 60 * Json.digitsValue hours + Json.digitsValue minutes
    some (some (if sign = '-' then -amount else amount))

/-- A time of a day, with what stands between it and the day. -/
def clockTime? (cs : List Char) : Option ClockTime := do
  let behind ←
    match cs with
    | c :: cs =>
      if c = 'T' ∨ c = 't' then some cs
      else if isBlank c then some (cs.dropWhile isBlank)
      else none
    | [] => none
  let (hour, cs) ← figures? 1 2 behind
  let (minute, cs) ← markedFigures? ':' 2 2 cs
  let (second, cs) ← markedFigures? ':' 2 2 cs
  let (microsecond, cs) := readMillionths cs
  let offset ← offset? cs
  some
    { hour := Json.digitsValue hour
      minute := Json.digitsValue minute
      second := Json.digitsValue second
      microsecond
      offset }

/-- The parts of a timestamp. -/
def timestamp? (cs : List Char) : Option Timestamp := do
  let (year, cs) ← figures? 4 4 cs
  let (month, cs) ← markedFigures? '-' 1 2 cs
  let (day, cs) ← markedFigures? '-' 1 2 cs
  let time ← if cs.isEmpty then some none else (clockTime? cs).map some
  some
    { year := Json.digitsValue year
      month := Json.digitsValue month
      day := Json.digitsValue day
      time
      full := month.length = 2 && day.length = 2 }

/-- Whether a plain scalar looks like a timestamp. -/
def looksLikeMoment (cs : List Char) : Bool :=
  (timestamp? cs).any fun t => t.full || t.time.isSome

/-- The moment that a timestamp stands for. -/
def readMoment (cs : List Char) : Except Flaw Moment :=
  match timestamp? cs with
  | none => .error .noMoment
  | some t =>
    match Moment.make? t.year t.month t.day t.time with
    | some moment => .ok moment
    | none => .error .malformed

end PersistentId.Yaml
