/-!
# Numbers

Whole numbers have no bound, but are read and written up to `digitLimit` digits only.

Numbers with a fraction or an exponent are binary numbers of 64 bits. A `Magnitude` is one of the
finite ones without its sign, in the one form it has: a significand of 53 bits, which has its full
length unless it stands at the lowest place. `Magnitude.round?` takes the nearest one to a quotient,
the one with an even significand of two, and none beyond the largest; `Magnitude.decimal` gives the
fewest decimal digits that are rounded back, the nearest of those.

`Binary64.text` writes a number with these digits, positionally while the leading one stands between
the fourth place behind the point and the sixteenth before it.
-/

namespace PersistentId

/-! ## Whole numbers -/

/-- The number of decimal digits up to which whole numbers are read and written. -/
def digitLimit : Nat := 4300

/-- Whether a whole number has few enough digits to be written. -/
def isShort (n : Int) : Bool :=
  n.natAbs < Nat.pow 10 digitLimit

/-- A quotient rounded to the nearest whole number, to the even one of two. -/
def roundedQuotient (a b : Nat) : Nat :=
  if b < 2 * (a % b) ∨ (b = 2 * (a % b) ∧ a / b % 2 = 1) then a / b + 1 else a / b

theorem div_le_roundedQuotient (a b : Nat) : a / b ≤ roundedQuotient a b := by
  unfold roundedQuotient
  split <;> omega

theorem roundedQuotient_le (a b : Nat) : roundedQuotient a b ≤ a / b + 1 := by
  unfold roundedQuotient
  split <;> omega

/-! ## Magnitudes -/

/-- The magnitude of a finite number, `significand · 2 ^ shift` units. -/
structure Magnitude where
  significand : Nat
  shift : Nat
  significand_lt : significand < Nat.pow 2 53
  /-- The significand has its full length, unless it stands at the lowest place. -/
  isFull : shift = 0 ∨ Nat.pow 2 52 ≤ significand
  shift_le : shift ≤ 2045
  deriving DecidableEq, Repr

namespace Magnitude

instance : Inhabited Magnitude := ⟨⟨0, 0, by decide, .inl rfl, by decide⟩⟩

/-- How many binary places behind the point the unit of magnitudes stands. -/
@[irreducible]
def unitPlaces : Nat := 1074

/-- The number of units of a magnitude. -/
def units (x : Magnitude) : Nat :=
  x.significand * Nat.pow 2 x.shift

/-- A significand of at most 53 bits at a place, one of `2 ^ 53` moved by a place, if the place is
not beyond the last one. -/
def fit? (significand shift : Nat) (hle : significand ≤ Nat.pow 2 53)
    (hfull : shift = 0 ∨ Nat.pow 2 52 ≤ significand) : Option Magnitude :=
  if hlt : significand < Nat.pow 2 53 then
    if hshift : shift ≤ 2045 then some ⟨significand, shift, hlt, hfull, hshift⟩ else none
  else
    if hshift : shift + 1 ≤ 2045 then
      have hhalf : significand / 2 < Nat.pow 2 53 ∧ Nat.pow 2 52 ≤ significand / 2 := by
        simp only [Nat.pow_eq] at hle hlt ⊢
        omega
      some ⟨significand / 2, shift + 1, hhalf.1, .inr hhalf.2, hshift⟩
    else none

/-- By how many places a number of units is too long for a significand. -/
def excess (units : Nat) : Nat :=
  units.log2 - 52

theorem lt_two_pow_excess (units : Nat) : units < Nat.pow 2 (53 + excess units) := by
  have hlt : units < 2 ^ (units.log2 + 1) := Nat.lt_log2_self
  refine Nat.lt_of_lt_of_le hlt (Nat.pow_le_pow_right (by decide) ?_)
  unfold excess
  omega

theorem two_pow_excess_le {units : Nat} (h : excess units ≠ 0) :
    Nat.pow 2 (52 + excess units) ≤ units := by
  have hlog : 52 + excess units = units.log2 := by
    unfold excess at h ⊢
    omega
  have hne : units ≠ 0 := by
    rintro rfl
    exact h rfl
  rw [hlog]
  exact Nat.log2_self_le hne

theorem roundedQuotient_excess_le (a d : Nat) :
    roundedQuotient a (d * Nat.pow 2 (excess (a / d))) ≤ Nat.pow 2 53 := by
  have hlt : a / d < 2 ^ excess (a / d) * 2 ^ 53 := by
    rw [← Nat.pow_add, Nat.add_comm]
    exact lt_two_pow_excess (a / d)
  refine Nat.le_trans (roundedQuotient_le _ _) ?_
  rw [← Nat.div_div_eq_div_mul]
  exact Nat.succ_le_of_lt (Nat.div_lt_of_lt_mul hlt)

theorem excess_eq_zero_or_le (a d : Nat) :
    excess (a / d) = 0 ∨
      Nat.pow 2 52 ≤ roundedQuotient a (d * Nat.pow 2 (excess (a / d))) := by
  by_cases h : excess (a / d) = 0
  · exact .inl h
  have hpos : 0 < 2 ^ excess (a / d) := Nat.pow_pos (by decide)
  have hle : 2 ^ 52 * 2 ^ excess (a / d) ≤ a / d := by
    rw [← Nat.pow_add]
    exact two_pow_excess_le h
  refine .inr (Nat.le_trans ?_ (div_le_roundedQuotient _ _))
  rw [← Nat.div_div_eq_div_mul]
  exact (Nat.le_div_iff_mul_le hpos).2 hle

/-- The magnitude nearest to a quotient, the one with an even significand of two; none if the
quotient is nearer to what would come after the largest one. -/
def round? (num den : Nat) : Option Magnitude :=
  let a := num * Nat.pow 2 unitPlaces
  fit? (roundedQuotient a (den * Nat.pow 2 (excess (a / den)))) (excess (a / den))
    (roundedQuotient_excess_le a den) (excess_eq_zero_or_le a den)

/-- The magnitude nearest to `digits · 10 ^ exponent`. What is below half of the smallest magnitude
or beyond the largest is seen from the place of its first digit. -/
def ofDecimal? (digits : Nat) (exponent : Int) : Option Magnitude :=
  let top : Int := (Nat.toDigits 10 digits).length + exponent
  if digits = 0 ∨ top < -323 then some default
  else if 309 < top then none
  else round? (digits * Nat.pow 10 exponent.toNat) (Nat.pow 10 (-exponent).toNat)

/-- The sum of two magnitudes, rounded. -/
def add? (x y : Magnitude) : Option Magnitude :=
  round? (x.units + y.units) (Nat.pow 2 unitPlaces)

/-- The product of two magnitudes, rounded. -/
def mul? (x y : Magnitude) : Option Magnitude :=
  round? (x.units * y.units) (Nat.pow 2 (unitPlaces + unitPlaces))

/-- The whole number that a magnitude is, if it has no fraction. -/
def toNat? (x : Magnitude) : Option Nat :=
  if x.units % Nat.pow 2 unitPlaces = 0 then some (x.units / Nat.pow 2 unitPlaces) else none

/-! ### Decimal digits -/

/-- All decimal digits of a magnitude, which end at the place of the unit. -/
def expansion (x : Magnitude) : Nat :=
  x.units * Nat.pow 5 unitPlaces

/-- The expansion of a magnitude without its last places, rounded down or up, the nearer one if it
is read back as the magnitude, else the other one if that is. -/
def approximation? (x : Magnitude) (places : Nat) : Option (Nat × Int) :=
  let below := x.expansion / Nat.pow 10 places
  let candidates :=
    if roundedQuotient x.expansion (Nat.pow 10 places) = below then [below, below + 1]
    else [below + 1, below]
  (candidates.map fun digits => (digits, (places : Int) - unitPlaces)).find? fun candidate =>
    ofDecimal? candidate.1 candidate.2 = some x

/-- Digits and exponent without zeros at the end of the digits, dropping at most `fuel` of them. -/
def dropZeros : Nat → Nat → Int → Nat × Int
  | 0, digits, exponent => (digits, exponent)
  | fuel + 1, digits, exponent =>
    if digits ≠ 0 ∧ digits % 10 = 0 then dropZeros fuel (digits / 10) (exponent + 1)
    else (digits, exponent)

/-- The fewest decimal digits, and the exponent of the last one, that are read back as a magnitude.
There are never more than seventeen; all of them are what is written if there were. -/
def decimal (x : Magnitude) : Nat × Int :=
  let length := (Nat.toDigits 10 x.expansion).length
  let found := ((List.range 17).findSome? fun n => x.approximation? (length - (n + 1))).getD
    (x.expansion, -(unitPlaces : Int))
  dropZeros length found.1 found.2

/-- Digits with the decimal point, `top` being the number of places before it. -/
def positional (digits : List Char) (top : Int) : List Char :=
  if top ≤ 0 then '0' :: '.' :: (List.replicate (-top).toNat '0' ++ digits)
  else if digits.length ≤ top.toNat then
    digits ++ List.replicate (top.toNat - digits.length) '0' ++ ['.', '0']
  else digits.take top.toNat ++ '.' :: digits.drop top.toNat

/-- Digits with an exponent of at least two figures. -/
def scientific (digits : List Char) (top : Int) : List Char :=
  let fraction := match digits with
    | [] => ['0']
    | [d] => [d]
    | d :: rest => d :: '.' :: rest
  let power := top - 1
  let figures := Nat.toDigits 10 power.natAbs
  fraction ++ 'e' :: (if power < 0 then '-' else '+') ::
    (List.replicate (2 - figures.length) '0' ++ figures)

/-- The form of `digits · 10 ^ exponent`. -/
def layout (digits : Nat) (exponent : Int) : List Char :=
  let figures := Nat.toDigits 10 digits
  let top : Int := figures.length + exponent
  if digits = 0 then ['0', '.', '0']
  else if -4 < top ∧ top ≤ 16 then positional figures top
  else scientific figures top

/-- The characters of a magnitude. -/
def characters (x : Magnitude) : List Char :=
  layout x.decimal.1 x.decimal.2

end Magnitude

/-! ## Numbers of 64 bits -/

/-- A binary number of 64 bits. -/
inductive Binary64 where
  | finite (negative : Bool) (magnitude : Magnitude)
  | infinite (negative : Bool)
  /-- Not a number. -/
  | undefined
  deriving DecidableEq, Repr, Inhabited

namespace Binary64

/-- The number of a sign and a magnitude, which is infinite if there is none. -/
def ofMagnitude? (negative : Bool) : Option Magnitude → Binary64
  | some magnitude => .finite negative magnitude
  | none => .infinite negative

/-- The number nearest to `±digits · 10 ^ exponent`. -/
def ofDecimal (negative : Bool) (digits : Nat) (exponent : Int) : Binary64 :=
  ofMagnitude? negative (Magnitude.ofDecimal? digits exponent)

/-- Whether the number is zero. -/
def isZero : Binary64 → Bool
  | .finite _ magnitude => magnitude.significand = 0
  | _ => false

/-- The whole number that a number is, if it has no fraction. -/
def toInt? : Binary64 → Option Int
  | .finite negative magnitude =>
    magnitude.toNat?.map fun n => if negative then -(n : Int) else n
  | _ => none

/-- The text of a finite number. -/
def finiteText (negative : Bool) (magnitude : Magnitude) : String :=
  String.ofList (if negative then '-' :: magnitude.characters else magnitude.characters)

/-- The text of a number in messages. -/
def text : Binary64 → String
  | .finite negative magnitude => finiteText negative magnitude
  | .infinite false => "inf"
  | .infinite true => "-inf"
  | .undefined => "nan"

/-- The text of a number in a stored document. -/
def documentText : Binary64 → String
  | .finite negative magnitude => finiteText negative magnitude
  | .infinite false => "Infinity"
  | .infinite true => "-Infinity"
  | .undefined => "NaN"

end Binary64

end PersistentId
