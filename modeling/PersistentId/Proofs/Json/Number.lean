import Mathlib.Algebra.Group.Nat.Defs
import Mathlib.Tactic.Set
import Mathlib.Tactic.SplitIfs
import PersistentId.Json.Printer
import PersistentId.Json.Reader
import PersistentId.Proofs.Number

/-!
# Written numbers

Numbers in documents and how the reader takes them: `readNumber_int` for whole numbers with few
enough digits, `readNumber_finiteText` for the numbers with a point that are finite. Both hold in
front of any text that does not go on as a number (`stops`).
-/

namespace PersistentId

/-! ## Digits -/

namespace Json

theorem digitsValue_eq_ofDigitChars (digits : List Char) :
    digitsValue digits = Nat.ofDigitChars 10 digits 0 := rfl

theorem digitsValue_toDigits (n : Nat) : digitsValue (Nat.toDigits 10 n) = n := by
  rw [digitsValue_eq_ofDigitChars, Nat.ofDigitChars_ten_toDigits]

theorem digitsValue_replicate_append (k : Nat) (digits : List Char) :
    digitsValue (List.replicate k '0' ++ digits) = digitsValue digits := by
  rw [digitsValue_eq_ofDigitChars, Nat.ofDigitChars_append, Nat.ofDigitChars_replicate_zero,
    Nat.mul_zero, digitsValue_eq_ofDigitChars]

theorem digitsValue_append_replicate (digits : List Char) (k : Nat) :
    digitsValue (digits ++ List.replicate k '0') = digitsValue digits * 10 ^ k := by
  rw [digitsValue_eq_ofDigitChars, Nat.ofDigitChars_append, Nat.ofDigitChars_replicate_zero,
    Nat.mul_comm, digitsValue_eq_ofDigitChars]

theorem isDigit_of_mem_toDigits {n : Nat} {c : Char} (h : c ∈ Nat.toDigits 10 n) :
    c.isDigit = true :=
  Nat.isDigit_of_mem_toDigits (by decide) (by decide) h

/-- The digits of a number that is not zero start with a digit that is not zero. -/
theorem toDigits_eq_cons {n : Nat} (h : n ≠ 0) :
    ∃ d digits, Nat.toDigits 10 n = d :: digits ∧ d ≠ '0' := by
  have hdigit : ∀ m < 10, m ≠ 0 → m.digitChar ≠ '0' := by decide
  induction n using Nat.strongRecOn with
  | ind n ih =>
    by_cases hn : n < 10
    · exact ⟨n.digitChar, [], Nat.toDigits_of_lt_base hn, hdigit n hn h⟩
    · obtain ⟨d, digits, hd, hne⟩ := ih (n / 10) (by omega) (by omega)
      exact ⟨d, digits ++ [(n % 10).digitChar],
        by rw [Nat.toDigits_of_base_le (by decide) (by omega), hd]; rfl, hne⟩

/-! ## Where a number ends -/

/-- Whether a text does not go on as a number that stands in front of it. -/
def stops : List Char → Bool
  | [] => true
  | c :: _ => !(c.isDigit || c = '.' || c = 'e' || c = 'E')

theorem spanDigits_append {digits rest : List Char} (hd : ∀ c ∈ digits, c.isDigit = true)
    (hr : ∀ c ∈ rest.head?, c.isDigit = false) : spanDigits (digits ++ rest) = (digits, rest) := by
  have htake : rest.takeWhile Char.isDigit = [] := by
    cases rest with
    | nil => rfl
    | cons c rest => simp [hr c rfl]
  have hdrop : rest.dropWhile Char.isDigit = rest := by
    cases rest with
    | nil => rfl
    | cons c rest => simp [hr c rfl]
  rw [spanDigits, List.takeWhile_append_of_pos hd, List.dropWhile_append_of_pos hd, htake, hdrop,
    List.append_nil]

theorem not_isDigit_of_stops {rest : List Char} (h : stops rest = true) :
    ∀ c ∈ rest.head?, c.isDigit = false := by
  intro c hc
  cases rest with
  | nil => cases hc
  | cons d rest =>
    cases hc
    simp only [stops, Bool.not_eq_true', Bool.or_eq_false_iff] at h
    exact h.1.1.1

theorem readFraction_of_stops {rest : List Char} (h : stops rest = true) :
    readFraction rest = ([], rest) := by
  unfold readFraction
  split
  · simp [stops] at h
  · rfl

theorem readExponent_of_stops {rest : List Char} (h : stops rest = true) :
    readExponent rest = (none, rest) := by
  unfold readExponent
  split
  · simp [stops] at h
  · simp [stops] at h
  · rfl

/-- A number without its sign starts with its whole part, which has no zero in front. -/
theorem readWhole_append {d : Char} (hd : d.isDigit = true) (digits rest : List Char)
    (hdigits : ∀ c ∈ digits, c.isDigit = true) (hz : d = '0' → digits = [])
    (hr : ∀ c ∈ rest.head?, c.isDigit = false) :
    readWhole (d :: digits ++ rest) = some (d :: digits, rest) := by
  by_cases h0 : d = '0'
  · subst h0
    rw [hz rfl]
    rfl
  · have hspan : spanDigits (d :: digits ++ rest) = (d :: digits, rest) := by
      refine spanDigits_append (fun c hc => ?_) hr
      rcases List.mem_cons.1 hc with rfl | hc
      · exact hd
      · exact hdigits c hc
    rw [List.cons_append] at hspan ⊢
    rw [readWhole]
    · rw [hspan]
      rfl
    · intro s h
      exact absurd (List.cons.inj h).1 h0

theorem readWhole_toDigits_append (n : Nat) {rest : List Char}
    (hr : ∀ c ∈ rest.head?, c.isDigit = false) :
    readWhole (Nat.toDigits 10 n ++ rest) = some (Nat.toDigits 10 n, rest) := by
  by_cases hn : n = 0
  · subst hn
    exact readWhole_append (d := '0') (by decide) [] rest (by simp) (by simp) hr
  · obtain ⟨d, digits, hd, h0⟩ := toDigits_eq_cons hn
    have hmem : ∀ c ∈ d :: digits, c.isDigit = true := fun c hc => isDigit_of_mem_toDigits (hd ▸ hc)
    rw [hd]
    exact readWhole_append (hmem d (by simp)) _ _ (fun c hc => hmem c (by simp [hc]))
      (fun h => absurd h h0) hr

/-! ## Whole numbers -/

theorem length_toDigits_of_isShort {n : Int} (h : isShort n = true) :
    (Nat.toDigits 10 n.natAbs).length ≤ digitLimit := by
  have hpositive : 0 < digitLimit := by decide
  rw [isShort, decide_eq_true_eq, Nat.pow_eq] at h
  -- the limit is not to be computed with
  generalize digitLimit = limit at h hpositive ⊢
  exact (Nat.length_toDigits_le_iff (by decide) hpositive).2 h

theorem readMagnitude_toDigits_append (negative : Bool) {m : Nat} {rest : List Char}
    (hm : (Nat.toDigits 10 m).length ≤ digitLimit) (hr : stops rest = true) :
    readMagnitude negative (Nat.toDigits 10 m ++ rest) =
      some (.int (if negative then -m else m), rest) := by
  simp only [readMagnitude, readWhole_toDigits_append m (not_isDigit_of_stops hr),
    readFraction_of_stops hr, readExponent_of_stops hr, digitsValue_toDigits, bind, Option.bind]
  simp [Nat.not_lt.2 hm]

theorem readNumber_of_readMagnitude {s : List Char} {found : Value × List Char}
    (h : readMagnitude false s = some found) : readNumber s = some found := by
  rw [readNumber]
  · exact h
  · rintro t rfl
    simp [readMagnitude, readWhole, spanDigits] at h

/-- **A whole number with few enough digits is read back.** -/
theorem readNumber_int {n : Int} {rest : List Char} (hn : isShort n = true)
    (hr : stops rest = true) :
    readNumber ((toString n).toList ++ rest) = some (.int n, rest) := by
  have hlen := length_toDigits_of_isShort hn
  rw [Int.toString_eq_repr, Int.repr_eq_if]
  split
  · next hpos =>
    have habs : n.toNat = n.natAbs := by omega
    have hn : (n.natAbs : Int) = n := by omega
    rw [Nat.toList_repr, habs]
    refine readNumber_of_readMagnitude ?_
    rw [readMagnitude_toDigits_append false hlen hr]
    simp [hn]
  · next hneg =>
    have habs : (-n).toNat = n.natAbs := by omega
    have hn : -(n.natAbs : Int) = n := by omega
    rw [String.toList_append, Nat.toList_repr, habs]
    show readMagnitude true (Nat.toDigits 10 n.natAbs ++ rest) = _
    rw [readMagnitude_toDigits_append true hlen hr, if_pos rfl, hn]

/-! ## Numbers with a fraction -/

open Magnitude

theorem readFraction_append {digits : List Char} (hne : digits ≠ []) (rest : List Char)
    (hd : ∀ c ∈ digits, c.isDigit = true) (hr : ∀ c ∈ rest.head?, c.isDigit = false) :
    readFraction ('.' :: (digits ++ rest)) = (digits, rest) := by
  simp only [readFraction, spanDigits_append hd hr]
  simp [hne]

theorem readExponent_append (negative : Bool) {digits rest : List Char} (hne : digits ≠ [])
    (hd : ∀ c ∈ digits, c.isDigit = true) (hr : ∀ c ∈ rest.head?, c.isDigit = false) :
    readExponent ('e' :: (if negative then '-' else '+') :: (digits ++ rest)) =
      (some (if negative then -(digitsValue digits : Int) else digitsValue digits), rest) := by
  cases negative <;> simp [readExponent, readSigned, spanDigits_append hd hr, hne]

/-- A number with a fraction or an exponent is rounded. -/
theorem readMagnitude_of_parts (negative : Bool) {s s₁ s₂ s₃ whole : List Char}
    (fraction : List Char) {exponent : Option Int} (hw : readWhole s = some (whole, s₁))
    (hf : readFraction s₁ = (fraction, s₂)) (he : readExponent s₂ = (exponent, s₃))
    (hparts : (fraction.isEmpty && exponent.isNone) = false) :
    readMagnitude negative s =
      some (.float (.ofDecimal negative (digitsValue (whole ++ fraction))
        (exponent.getD 0 - fraction.length)), s₃) := by
  simp only [readMagnitude, hw, hf, he, hparts, bind, Option.bind, Bool.false_eq_true, if_false]

theorem readMagnitude_point (negative : Bool) (d : Char) (whole fraction : List Char)
    {rest : List Char} (hd : d.isDigit = true) (hw : ∀ c ∈ whole, c.isDigit = true)
    (hz : d = '0' → whole = [])
    (hne : fraction ≠ []) (hf : ∀ c ∈ fraction, c.isDigit = true) (hr : stops rest = true) :
    readMagnitude negative (d :: whole ++ '.' :: (fraction ++ rest)) =
      some (.float (.ofDecimal negative (digitsValue (d :: whole ++ fraction))
        (-(fraction.length : Int))), rest) := by
  have hwhole := readWhole_append hd whole ('.' :: (fraction ++ rest)) hw hz (by simp)
  rw [readMagnitude_of_parts negative fraction hwhole
    (readFraction_append hne rest hf (not_isDigit_of_stops hr))
    (readExponent_of_stops hr) (by simp [hne])]
  simp

theorem readMagnitude_scientific (negative : Bool) {d : Char} {digits rest : List Char}
    (hd : d.isDigit = true) (hdigits : ∀ c ∈ digits, c.isDigit = true) (top : Int)
    (hr : stops rest = true) :
    readMagnitude negative (scientific (d :: digits) top ++ rest) =
      some (.float (.ofDecimal negative (digitsValue (d :: digits))
        (top - 1 - digits.length)), rest) := by
  set figures := Nat.toDigits 10 (top - 1).natAbs with hfigures
  set power := List.replicate (2 - figures.length) '0' ++ figures with hpower
  have hmem : ∀ c ∈ power, c.isDigit = true := by
    intro c hc
    rcases List.mem_append.1 hc with hc | hc
    · rw [List.eq_of_mem_replicate hc]
      decide
    · exact isDigit_of_mem_toDigits hc
  have hne : power ≠ [] := by simp [hpower, hfigures, Nat.toDigits_ne_nil]
  have hvalue : digitsValue power = (top - 1).natAbs := by
    rw [hpower, digitsValue_replicate_append, hfigures, digitsValue_toDigits]
  have hexp := readExponent_append (decide (top - 1 < 0)) hne hmem (not_isDigit_of_stops hr)
  have hsigned : (if decide (top - 1 < 0) = true then -(digitsValue power : Int)
      else digitsValue power) = top - 1 := by
    rw [hvalue]
    split
    · next hnegative =>
      rw [decide_eq_true_eq] at hnegative
      omega
    · next hpositive =>
      rw [decide_eq_true_eq] at hpositive
      omega
  rw [hsigned] at hexp
  simp only [decide_eq_true_eq] at hexp
  cases digits with
  | nil =>
    have hwhole := readWhole_append hd []
      ('e' :: (if top - 1 < 0 then '-' else '+') :: (power ++ rest)) (by simp) (by simp) (by simp)
    have := readMagnitude_of_parts negative [] hwhole rfl hexp rfl
    simpa [scientific, ← hfigures, ← hpower] using this
  | cons c digits =>
    have hwhole := readWhole_append hd [] ('.' :: (c :: digits ++
      'e' :: (if top - 1 < 0 then '-' else '+') :: (power ++ rest))) (by simp) (by simp) (by simp)
    have hfraction := readFraction_append (by simp)
      ('e' :: (if top - 1 < 0 then '-' else '+') :: (power ++ rest)) hdigits (by simp)
    have := readMagnitude_of_parts negative (c :: digits) hwhole hfraction hexp rfl
    simpa [scientific, ← hfigures, ← hpower] using this

/-- Digits with a point among them, before them or behind them. -/
theorem readMagnitude_positional (negative : Bool) {d : Char} {digits rest : List Char}
    (hd : ∀ c ∈ d :: digits, c.isDigit = true) (hz : d ≠ '0') (top : Int)
    (hr : stops rest = true) :
    ∃ k : Nat, readMagnitude negative (positional (d :: digits) top ++ rest) =
      some (.float (.ofDecimal negative (digitsValue (d :: digits) * 10 ^ k)
        (top - (d :: digits).length - k)), rest) := by
  have hzeros : ∀ k, ∀ c ∈ List.replicate k '0', c.isDigit = true := by
    intro k c hc
    rw [List.eq_of_mem_replicate hc]
    decide
  unfold positional
  split_ifs with h₁ h₂
  · have h := readMagnitude_point negative '0' []
      (List.replicate (-top).toNat '0' ++ d :: digits) (by decide) (by simp) (by simp)
      (by simp) (fun c hc => (List.mem_append.1 hc).elim (hzeros _ c) (hd c)) hr
    have hvalue : digitsValue (['0'] ++ (List.replicate (-top).toNat '0' ++ d :: digits)) =
        digitsValue (d :: digits) := digitsValue_replicate_append ((-top).toNat + 1) (d :: digits)
    have hexp : -((List.replicate (-top).toNat '0' ++ d :: digits).length : Int) =
        top - (d :: digits).length := by
      simp only [List.length_append, List.length_replicate]
      omega
    rw [hvalue, hexp] at h
    exact ⟨0, by simpa using h⟩
  · refine ⟨top.toNat - (d :: digits).length + 1, ?_⟩
    have h := readMagnitude_point negative d
      (digits ++ List.replicate (top.toNat - (d :: digits).length) '0') ['0'] (hd d (by simp))
      (fun c hc => (List.mem_append.1 hc).elim (fun hc => hd c (by simp [hc])) (hzeros _ c))
      (fun h => absurd h hz) (by simp) (by simp) hr
    have hvalue := digitsValue_append_replicate (d :: digits)
      (top.toNat - (d :: digits).length + 1)
    have hexp : top - (d :: digits).length -
        ((top.toNat - (d :: digits).length + 1 : Nat) : Int) = -1 := by omega
    rw [List.replicate_succ'] at hvalue
    rw [hexp, ← hvalue]
    simpa using h
  · obtain ⟨k, hk⟩ : ∃ k, top.toNat = k + 1 := ⟨top.toNat - 1, by omega⟩
    have hne : digits.drop k ≠ [] := by
      simp only [List.length_cons] at h₂
      simp only [ne_eq, List.drop_eq_nil_iff]
      omega
    have h := readMagnitude_point negative d (digits.take k) (digits.drop k) (hd d (by simp))
      (fun c hc => hd c (by simp [List.mem_of_mem_take hc])) (fun h => absurd h hz) hne
      (fun c hc => hd c (by simp [List.mem_of_mem_drop hc])) hr
    have hexp : -((digits.drop k).length : Int) = top - (d :: digits).length := by
      simp only [List.length_cons, List.length_drop] at h₂ ⊢
      omega
    have hdigits : d :: digits.take k ++ digits.drop k = d :: digits := by
      rw [List.cons_append, List.take_append_drop]
    rw [hdigits, hexp] at h
    exact ⟨0, by simpa [hk] using h⟩

/-- Whatever digits a magnitude is written with, they are read back as the number that they are
rounded to. -/
theorem readMagnitude_layout (negative : Bool) (digits : Nat) (exponent : Int) {rest : List Char}
    (hr : stops rest = true) :
    readMagnitude negative (layout digits exponent ++ rest) =
      some (.float (.ofDecimal negative digits exponent), rest) := by
  by_cases h0 : digits = 0
  · subst h0
    have h := readMagnitude_point negative '0' [] ['0'] (by decide) (by simp) (by simp) (by simp)
      (by simp) hr
    have hzero : Binary64.ofDecimal negative 0 (-1) = .ofDecimal negative 0 exponent := by
      simp [Binary64.ofDecimal, ofDecimal?]
    rw [layout, if_pos rfl, ← hzero]
    exact h
  · obtain ⟨d, more, hd, hz⟩ := toDigits_eq_cons h0
    have hmem : ∀ c ∈ d :: more, c.isDigit = true := fun c hc => isDigit_of_mem_toDigits (hd ▸ hc)
    have hvalue : digitsValue (d :: more) = digits := by rw [← hd, digitsValue_toDigits]
    rw [layout, if_neg h0, hd]
    split_ifs
    · obtain ⟨k, h⟩ := readMagnitude_positional negative hmem hz
        ((d :: more).length + exponent) hr
      have hexp : ((d :: more).length : Int) + exponent - (d :: more).length = exponent := by omega
      rw [hvalue, hexp, Binary64.ofDecimal, ofDecimal?_mul_pow] at h
      exact h
    · have h := readMagnitude_scientific negative (hmem d (by simp))
        (fun c hc => hmem c (List.mem_cons_of_mem d hc)) ((d :: more).length + exponent) hr
      have hexp : ((d :: more).length : Int) + exponent - 1 - more.length = exponent := by
        simp only [List.length_cons]
        omega
      rw [hvalue, hexp] at h
      exact h

theorem readNumber_signed {negative : Bool} {s rest : List Char} {v : Value}
    (h : readMagnitude negative (s ++ rest) = some (v, rest)) :
    readNumber ((if negative then '-' :: s else s) ++ rest) = some (v, rest) := by
  cases negative with
  | true => exact h
  | false => exact readNumber_of_readMagnitude h

/-- **A finite number with a fraction is read back.** -/
theorem readNumber_finiteText (negative : Bool) (x : Magnitude) {rest : List Char}
    (hr : stops rest = true) :
    readNumber ((Binary64.finiteText negative x).toList ++ rest) =
      some (.float (.finite negative x), rest) := by
  rw [Binary64.finiteText, String.toList_ofList]
  refine readNumber_signed ?_
  rw [characters, readMagnitude_layout negative _ _ hr, Binary64.ofDecimal, x.ofDecimal?_decimal,
    Binary64.ofMagnitude?]

end PersistentId.Json
