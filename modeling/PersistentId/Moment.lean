/-!
# Moments

A day, or a time of a day, as a configuration file can give it. `Moment.make?` lets only those
through that there are: the days of the proleptic Gregorian calendar in the years from 1 to 9999,
and times of less than 24 hours with an offset from universal time of less than a day.

`Moment.text` writes a moment with blanks between day and time, `Moment.literal` gives its parts.
-/

namespace PersistentId

/-- A time of a day. -/
structure ClockTime where
  hour : Nat
  minute : Nat
  second : Nat
  microsecond : Nat := 0
  /-- Minutes ahead of universal time, if it is known how many. -/
  offset : Option Int := none
  deriving DecidableEq, Repr, Inhabited

/-- A day, with a time or without. -/
structure Moment where
  year : Nat
  month : Nat
  day : Nat
  time : Option ClockTime := none
  deriving DecidableEq, Repr, Inhabited

namespace Moment

/-- Whether a year has a day more than usual. -/
def isLeap (year : Nat) : Bool :=
  year % 4 = 0 && (year % 100 ≠ 0 || year % 400 = 0)

/-- The number of days in a month. -/
def daysIn (year month : Nat) : Nat :=
  if month = 2 then if isLeap year then 29 else 28
  else if month ∈ [4, 6, 9, 11] then 30
  else 31

/-- Whether there is such a day. -/
def isDay (year month day : Nat) : Bool :=
  1 ≤ year && year ≤ 9999 && 1 ≤ month && month ≤ 12 && 1 ≤ day && day ≤ daysIn year month

/-- Whether there is such a time. -/
def isTime (time : ClockTime) : Bool :=
  time.hour < 24 && time.minute < 60 && time.second < 60 && time.microsecond < 1000000 &&
    time.offset.all fun minutes => minutes.natAbs < 24 * 60

/-- The moment of a day and a time, if there are such. -/
def make? (year month day : Nat) (time : Option ClockTime) : Option Moment :=
  if isDay year month day && time.all isTime then some ⟨year, month, day, time⟩ else none

/-! ## Text -/

/-- A number with zeros in front up to the given width. -/
def padded (width n : Nat) : String :=
  let digits := Nat.toDigits 10 n
  String.ofList (List.replicate (width - digits.length) '0' ++ digits)

/-- An offset from universal time with its sign. -/
def offsetText (minutes : Int) : String :=
  (if minutes < 0 then "-" else "+") ++ padded 2 (minutes.natAbs / 60) ++ ":" ++
    padded 2 (minutes.natAbs % 60)

/-- A time of a day, its fraction left out if it is zero. -/
def timeText (time : ClockTime) : String :=
  padded 2 time.hour ++ ":" ++ padded 2 time.minute ++ ":" ++ padded 2 time.second ++
    (if time.microsecond = 0 then "" else "." ++ padded 6 time.microsecond) ++
    (time.offset.map offsetText).getD ""

/-- The text of a moment in messages. -/
def text (moment : Moment) : String :=
  padded 4 moment.year ++ "-" ++ padded 2 moment.month ++ "-" ++ padded 2 moment.day ++
    match moment.time with
    | some time => " " ++ timeText time
    | none => ""

/-- The name of a moment's type without the module it is from. -/
def shortTypeName (moment : Moment) : String :=
  if moment.time.isSome then "datetime" else "date"

/-- The name of a moment's type. -/
def typeName (moment : Moment) : String :=
  "datetime." ++ moment.shortTypeName

/-- The parts of a time that its literal gives: a second or fraction of zero at the end is left
out. -/
def clockParts (time : ClockTime) : List Nat :=
  if time.microsecond ≠ 0 then [time.hour, time.minute, time.second, time.microsecond]
  else if time.second ≠ 0 then [time.hour, time.minute, time.second]
  else [time.hour, time.minute]

/-- An offset as a literal. -/
def offsetLiteral (minutes : Int) : String :=
  if minutes = 0 then "datetime.timezone.utc"
  else
    let parts := (if minutes < 0 then ["days=-1"] else []) ++
      [(if minutes < 0 then "seconds=" ++ toString ((24 * 60 + minutes) * 60)
        else "seconds=" ++ toString (minutes * 60))]
    "datetime.timezone(datetime.timedelta(" ++ ", ".intercalate parts ++ "))"

/-- The form of a moment inside a list or a table. -/
def literal (moment : Moment) : String :=
  let date := [moment.year, moment.month, moment.day]
  let parts := match moment.time with
    | some time => (date ++ clockParts time).map toString ++
        (time.offset.map fun minutes => "tzinfo=" ++ offsetLiteral minutes).toList
    | none => date.map toString
  moment.typeName ++ "(" ++ ", ".intercalate parts ++ ")"

end Moment

end PersistentId
