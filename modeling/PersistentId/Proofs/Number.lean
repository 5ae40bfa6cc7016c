import PersistentId.Number
import Mathlib.Algebra.Group.Nat.Defs

/-!
# Rounded magnitudes and their digits

What the nearest magnitude to a quotient depends on and what its digits are read back as.

* `Magnitude.round?_congr`: it depends on the quotient only, so that zeros at the end of the digits
  of a decimal make no difference (`Magnitude.ofDecimal?_mul_pow`);
* `Magnitude.round?_units`: a magnitude is the nearest one to itself;
* `Magnitude.ofDecimal?_decimal`: the digits that a magnitude is written with give it back, by the
  search for the fewest digits, or because all the digits stand for the magnitude itself.
-/

namespace PersistentId

theorem roundedQuotient_mul_left {c : Nat} (hc : 0 < c) (a b : Nat) :
    roundedQuotient (c * a) (c * b) = roundedQuotient a b := by
  have hlt : c * b < 2 * (c * (a % b)) ↔ b < 2 * (a % b) := by
    rw [Nat.mul_left_comm, Nat.mul_lt_mul_left hc]
  have heq : c * b = 2 * (c * (a % b)) ↔ b = 2 * (a % b) := by
    rw [Nat.mul_left_comm, Nat.mul_right_inj (Nat.ne_of_gt hc)]
  simp only [roundedQuotient, Nat.mul_div_mul_left _ _ hc, Nat.mul_mod_mul_left, hlt, heq]

/-- A multiple is divided without anything to round. -/
theorem roundedQuotient_mul_self (q : Nat) {b : Nat} (hb : 0 < b) :
    roundedQuotient (q * b) b = q := by
  have hmod : q * b % b = 0 := Nat.mul_mod_left q b
  have hdiv : q * b / b = q := Nat.mul_div_cancel q hb
  rw [roundedQuotient, hmod, hdiv, if_neg]
  omega

namespace Magnitude

/-! ## Powers -/

theorem units_eq (x : Magnitude) : x.units = x.significand * 2 ^ x.shift := rfl

theorem expansion_eq (x : Magnitude) : x.expansion = x.units * 5 ^ unitPlaces := rfl

theorem significand_lt_two_pow (x : Magnitude) : x.significand < 2 ^ 53 := x.significand_lt

theorem shift_eq_zero_or_two_pow_le (x : Magnitude) : x.shift = 0 ∨ 2 ^ 52 ≤ x.significand :=
  x.isFull

theorem ofDecimal?_eq (digits : Nat) (exponent : Int) :
    ofDecimal? digits exponent =
      if digits = 0 ∨ ((Nat.toDigits 10 digits).length : Int) + exponent < -323 then some default
      else if 309 < ((Nat.toDigits 10 digits).length : Int) + exponent then none
      else round? (digits * 10 ^ exponent.toNat) (10 ^ (-exponent).toNat) := rfl

/-! ## Rounding -/

theorem fit?_congr {m m' s s' : Nat} (hm : m = m') (hs : s = s') (hle : m ≤ 2 ^ 53)
    (hfull : s = 0 ∨ 2 ^ 52 ≤ m) (hle' : m' ≤ 2 ^ 53) (hfull' : s' = 0 ∨ 2 ^ 52 ≤ m') :
    fit? m s hle hfull = fit? m' s' hle' hfull' := by
  subst hm hs
  rfl

theorem round?_mul_left {c : Nat} (hc : 0 < c) (num den : Nat) :
    round? (c * num) (c * den) = round? num den := by
  have hexcess : excess (c * num * 2 ^ unitPlaces / (c * den)) =
      excess (num * 2 ^ unitPlaces / den) := by
    rw [Nat.mul_assoc, Nat.mul_div_mul_left _ _ hc]
  have hquotient : roundedQuotient (c * num * 2 ^ unitPlaces)
        (c * den * 2 ^ excess (c * num * 2 ^ unitPlaces / (c * den))) =
      roundedQuotient (num * 2 ^ unitPlaces)
        (den * 2 ^ excess (num * 2 ^ unitPlaces / den)) := by
    rw [hexcess, Nat.mul_assoc, Nat.mul_assoc, roundedQuotient_mul_left hc]
  exact fit?_congr hquotient hexcess (roundedQuotient_excess_le _ _) (excess_eq_zero_or_le _ _)
    (roundedQuotient_excess_le _ _) (excess_eq_zero_or_le _ _)

/-- **The nearest magnitude depends on the quotient only.** -/
theorem round?_congr {num den num' den' : Nat} (hden : 0 < den) (hden' : 0 < den')
    (h : num * den' = num' * den) : round? num den = round? num' den' :=
  calc round? num den
    _ = round? (den' * num) (den' * den) := (round?_mul_left hden' num den).symm
    _ = round? (den * num') (den * den') := by
      rw [Nat.mul_comm den' num, h, Nat.mul_comm num' den, Nat.mul_comm den' den]
    _ = round? num' den' := round?_mul_left hden num' den'

/-- The excess of a magnitude's units is the place of its significand. -/
theorem excess_units (x : Magnitude) : excess x.units = x.shift := by
  rw [excess, units_eq]
  have hlt := x.significand_lt_two_pow
  rcases x.shift_eq_zero_or_two_pow_le with hshift | hfull
  · rw [hshift, Nat.pow_zero, Nat.mul_one]
    have hlow : x.significand.log2 ≤ 52 := by
      by_cases hzero : x.significand = 0
      · simp [hzero]
      · exact Nat.le_of_lt_succ ((Nat.log2_lt hzero).2 hlt)
    omega
  · have hlog : (x.significand * 2 ^ x.shift).log2 = 52 + x.shift := by
      have hpos : 0 < 2 ^ x.shift := Nat.pow_pos (by decide)
      rw [Nat.log2_eq_iff (Nat.ne_of_gt (Nat.mul_pos (by omega) hpos)), Nat.pow_add,
        Nat.add_right_comm, Nat.pow_add]
      exact ⟨Nat.mul_le_mul_right _ hfull, Nat.mul_lt_mul_of_pos_right hlt hpos⟩
    omega

/-- **A magnitude is the nearest one to itself.** -/
theorem round?_units (x : Magnitude) : round? x.units (2 ^ unitPlaces) = some x := by
  have hpos : 0 < 2 ^ unitPlaces := Nat.pow_pos (by decide)
  have hexcess : excess (x.units * 2 ^ unitPlaces / 2 ^ unitPlaces) = x.shift := by
    rw [Nat.mul_div_cancel _ hpos, excess_units]
  have hsignificand : roundedQuotient (x.units * 2 ^ unitPlaces)
      (2 ^ unitPlaces * 2 ^ excess (x.units * 2 ^ unitPlaces / 2 ^ unitPlaces)) =
        x.significand := by
    rw [hexcess, units_eq, Nat.mul_assoc, Nat.mul_comm (2 ^ x.shift)]
    exact roundedQuotient_mul_self _ (Nat.mul_pos hpos (Nat.pow_pos (by decide)))
  have hfit : fit? x.significand x.shift (Nat.le_of_lt x.significand_lt) x.isFull = some x := by
    rw [fit?, dif_pos x.significand_lt, dif_pos x.shift_le]
  exact (fit?_congr hsignificand hexcess (roundedQuotient_excess_le _ _)
    (excess_eq_zero_or_le _ _) _ _).trans hfit

/-! ## Decimals -/

theorem length_toDigits_mul_pow {digits : Nat} (h : digits ≠ 0) (k : Nat) :
    (Nat.toDigits 10 (digits * 10 ^ k)).length = (Nat.toDigits 10 digits).length + k := by
  induction k with
  | zero => simp
  | succ k ih =>
    have hpos : 0 < digits * 10 ^ k := Nat.mul_pos (by omega) (Nat.pow_pos (by decide))
    have hstep : digits * 10 ^ (k + 1) = digits * 10 ^ k * 10 := by rw [Nat.pow_succ, Nat.mul_assoc]
    rw [hstep, Nat.toDigits_of_base_le (by decide) (by omega), Nat.mul_div_cancel _ (by decide)]
    simp only [List.length_append, List.length_singleton]
    omega

/-- Zeros at the end of the digits make no difference. -/
theorem ofDecimal?_mul_pow (digits k : Nat) (exponent : Int) :
    ofDecimal? (digits * 10 ^ k) (exponent - k) = ofDecimal? digits exponent := by
  by_cases hzero : digits = 0
  · simp [hzero, ofDecimal?]
  have hne : digits * 10 ^ k ≠ 0 :=
    Nat.mul_ne_zero hzero (Nat.ne_of_gt (Nat.pow_pos (by decide)))
  have htop : ((Nat.toDigits 10 (digits * 10 ^ k)).length : Int) + (exponent - k) =
      (Nat.toDigits 10 digits).length + exponent := by
    rw [length_toDigits_mul_pow hzero]
    omega
  have hround : round? (digits * 10 ^ k * 10 ^ (exponent - k).toNat)
      (10 ^ (-(exponent - k)).toNat) =
        round? (digits * 10 ^ exponent.toNat) (10 ^ (-exponent).toNat) := by
    refine round?_congr (Nat.pow_pos (by decide)) (Nat.pow_pos (by decide)) ?_
    -- both sides have the digits and as many factors of ten
    have hexp : k + (exponent - k).toNat + (-exponent).toNat =
        exponent.toNat + (-(exponent - k)).toNat := by omega
    rw [Nat.mul_assoc, Nat.mul_assoc, Nat.mul_assoc, ← Nat.pow_add, ← Nat.pow_add, ← Nat.pow_add,
      ← Nat.add_assoc, hexp]
  simp only [ofDecimal?_eq, hne, hzero, htop, hround]

theorem ofDecimal?_dropZeros (fuel digits : Nat) (exponent : Int) :
    ofDecimal? (dropZeros fuel digits exponent).1 (dropZeros fuel digits exponent).2 =
      ofDecimal? digits exponent := by
  induction fuel generalizing digits exponent with
  | zero => rfl
  | succ fuel ih =>
    rw [dropZeros]
    split
    · next h =>
      have hstep := ofDecimal?_mul_pow (digits / 10) 1 (exponent + 1)
      have hdigits : digits / 10 * 10 ^ 1 = digits := by omega
      have hexp : exponent + 1 - ((1 : Nat) : Int) = exponent := by omega
      rw [hdigits, hexp] at hstep
      rw [ih, hstep]
    · rfl

/-! ## The digits of a magnitude -/

theorem units_lt (x : Magnitude) : x.units < 2 ^ (unitPlaces + 1024) := by
  have hlast : 53 + 2045 = unitPlaces + 1024 := by decide +kernel
  have hshift : 53 + x.shift ≤ unitPlaces + 1024 := hlast ▸ Nat.add_le_add_left x.shift_le 53
  calc x.units
    _ < 2 ^ 53 * 2 ^ x.shift :=
      Nat.mul_lt_mul_of_pos_right x.significand_lt (Nat.pow_pos (by decide))
    _ = 2 ^ (53 + x.shift) := (Nat.pow_add ..).symm
    _ ≤ 2 ^ (unitPlaces + 1024) := Nat.pow_le_pow_right (by decide) hshift

/-- The first digit of a magnitude other than zero stands between the places of `10 ^ -324` and
`10 ^ 308`. -/
theorem length_expansion {x : Magnitude} (h : x.expansion ≠ 0) :
    unitPlaces ≤ (Nat.toDigits 10 x.expansion).length + 323 ∧
      (Nat.toDigits 10 x.expansion).length ≤ 309 + unitPlaces := by
  constructor
  · have hunits : x.units ≠ 0 := fun hzero => h (by rw [expansion, hzero, Nat.zero_mul])
    have hlow : 10 ^ (unitPlaces - 324) ≤ 5 ^ unitPlaces := by decide +kernel
    have hpos : 0 < unitPlaces - 324 := by decide +kernel
    have hle : 1 * 5 ^ unitPlaces ≤ x.expansion := Nat.mul_le_mul_right _ (by omega)
    refine Nat.le_of_not_lt fun hlength => ?_
    have hlt := (Nat.length_toDigits_le_iff (b := 10) (n := x.expansion) (by decide) hpos).1
      (by omega)
    omega
  · have hpos : 0 < 309 + unitPlaces := by omega
    have hhigh : 2 ^ (unitPlaces + 1024) * 5 ^ unitPlaces < 10 ^ (309 + unitPlaces) := by
      decide +kernel
    have hlt : x.expansion < 2 ^ (unitPlaces + 1024) * 5 ^ unitPlaces := by
      rw [expansion_eq, Nat.mul_lt_mul_right (Nat.pow_pos (by decide))]
      exact x.units_lt
    exact (Nat.length_toDigits_le_iff (by decide) hpos).2 (Nat.lt_trans hlt hhigh)

/-- All digits of a magnitude stand for the magnitude itself. -/
theorem ofDecimal?_expansion (x : Magnitude) :
    ofDecimal? x.expansion (-(unitPlaces : Int)) = some x := by
  by_cases hzero : x.expansion = 0
  · have hunits : x.units = 0 :=
      (Nat.mul_eq_zero.1 hzero).resolve_right (Nat.ne_of_gt (Nat.pow_pos (by decide)))
    have hround := x.round?_units
    rw [hunits] at hround
    rw [ofDecimal?, if_pos (.inl hzero), ← hround]
    decide +kernel
  obtain ⟨hlow, hhigh⟩ := length_expansion hzero
  have hdown : (-(unitPlaces : Int)).toNat = 0 := by omega
  have hup : (-(-(unitPlaces : Int))).toNat = unitPlaces := by omega
  rw [ofDecimal?_eq, if_neg (by omega), if_neg (by omega), hdown, hup, ← x.round?_units]
  refine round?_congr (Nat.pow_pos (by decide)) (Nat.pow_pos (by decide)) ?_
  have hten : 10 ^ unitPlaces = 5 ^ unitPlaces * 2 ^ unitPlaces := (Nat.mul_pow 5 2 unitPlaces)
  rw [hten, Nat.pow_zero, Nat.mul_one, expansion_eq, Nat.mul_assoc]

theorem ofDecimal?_of_approximation? {x : Magnitude} {places : Nat} {found : Nat × Int}
    (h : x.approximation? places = some found) : ofDecimal? found.1 found.2 = some x :=
  of_decide_eq_true (List.find?_some h :)

/-- **The digits that a magnitude is written with are read back as the magnitude.** -/
theorem ofDecimal?_decimal (x : Magnitude) : ofDecimal? x.decimal.1 x.decimal.2 = some x := by
  rw [decimal, ofDecimal?_dropZeros]
  cases hfound : (List.range 17).findSome? fun n =>
      x.approximation? ((Nat.toDigits 10 x.expansion).length - (n + 1)) with
  | none => exact x.ofDecimal?_expansion
  | some found =>
    obtain ⟨n, -, hn⟩ := List.exists_of_findSome?_eq_some hfound
    exact ofDecimal?_of_approximation? hn

end Magnitude

end PersistentId
