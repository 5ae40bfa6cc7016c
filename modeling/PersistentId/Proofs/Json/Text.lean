import Mathlib.Tactic.SplitIfs
import PersistentId.Json.Printer
import PersistentId.Json.Reader

/-!
# Written texts

A text between quotes consists of visible ASCII, whatever characters it has
(`isVisible_of_mem_writeText`), and the reader finds that text in it (`readText_writeText`). The
characters beyond ASCII go through code units: `unitsOf` has those of a character, and
`joinUnits_flatMap_unitsOf` puts them together again.
-/

namespace PersistentId

/-! ## Hexadecimal digits -/

namespace Text

/-- Whether a character is one of visible ASCII or the space. -/
def isVisible (c : Char) : Bool :=
  32 ≤ c.toNat && c.toNat < 127

theorem hexDigit?_digitChar {d : Nat} (h : d < 16) : hexDigit? (Nat.digitChar d) = some d := by
  revert d
  decide

theorem hexNumber?_append_singleton (digits : List Char) (c : Char) :
    hexNumber? (digits ++ [c]) =
      (hexNumber? digits).bind fun n => (hexDigit? c).map (16 * n + ·) := by
  simp only [hexNumber?, List.foldlM_append, List.foldlM_cons, List.foldlM_nil]
  cases List.foldlM (fun n c => (hexDigit? c).map (16 * n + ·)) 0 digits <;> simp

theorem hexNumber?_toDigits (n : Nat) : hexNumber? (Nat.toDigits 16 n) = some n := by
  induction n using Nat.strongRecOn with
  | ind n ih =>
    by_cases h : n < 16
    · rw [Nat.toDigits_of_lt_base h]
      simp [hexNumber?, hexDigit?_digitChar h]
    · rw [Nat.toDigits_of_base_le (by decide) (by omega), hexNumber?_append_singleton,
        ih (n / 16) (by omega), hexDigit?_digitChar (by omega)]
      simp only [Option.bind_some, Option.map_some, Option.some.injEq]
      omega

theorem hexNumber?_replicate_append (k : Nat) (digits : List Char) :
    hexNumber? (List.replicate k '0' ++ digits) = hexNumber? digits := by
  induction k with
  | zero => rfl
  | succ k ih =>
    rw [List.replicate_succ, List.cons_append, ← ih]
    rfl

theorem hexNumber?_hexadecimal (width n : Nat) : hexNumber? (hexadecimal width n) = some n := by
  rw [hexadecimal, hexNumber?_replicate_append, hexNumber?_toDigits]

theorem length_hexadecimal {n : Nat} (h : n < 0x10000) : (hexadecimal 4 n).length = 4 := by
  have hlen : (Nat.toDigits 16 n).length ≤ 4 :=
    (Nat.length_toDigits_le_iff (by decide) (by decide)).2 h
  simp only [hexadecimal, List.length_append, List.length_replicate]
  omega

theorem isVisible_of_mem_toDigits {base n : Nat} (hb : 1 < base) (hle : base ≤ 16) {c : Char}
    (h : c ∈ Nat.toDigits base n) : isVisible c = true := by
  have hdigit : ∀ d < 16, isVisible (Nat.digitChar d) = true := by decide
  induction n using Nat.strongRecOn with
  | ind n ih =>
    by_cases hn : n < base
    · rw [Nat.toDigits_of_lt_base hn, List.mem_singleton] at h
      exact h ▸ hdigit n (by omega)
    · have hmod := Nat.mod_lt n (show 0 < base by omega)
      rw [Nat.toDigits_of_base_le hb (by omega), List.mem_append, List.mem_singleton] at h
      rcases h with h | rfl
      · exact ih (n / base) (Nat.div_lt_self (by omega) hb) h
      · exact hdigit _ (by omega)

theorem isVisible_of_mem_hexadecimal {width n : Nat} {c : Char} (h : c ∈ hexadecimal width n) :
    isVisible c = true := by
  rw [hexadecimal, List.mem_append] at h
  rcases h with h | h
  · rw [List.eq_of_mem_replicate h]
    decide
  · exact isVisible_of_mem_toDigits (by decide) (by decide) h

/-! ## Code units -/

/-- The code units of a character: one, or the two halves of a pair. -/
def unitsOf (c : Char) : List Nat :=
  if c.toNat < 0x10000 then [c.toNat]
  else [0xD800 + (c.toNat - 0x10000) / 0x400, 0xDC00 + (c.toNat - 0x10000) % 0x400]

theorem ofUnit_toNat (c : Char) : ofUnit c.toNat = c := by
  have hv : c.toNat < 0xD800 ∨ 0xDFFF < c.toNat ∧ c.toNat < 0x110000 := c.valid
  rw [ofUnit, if_neg (by omega), Char.ofNat_toNat]

theorem joinUnits_cons {unit : Nat} (h : unit < 0xD800 ∨ 0xDBFF < unit) (units : List Nat) :
    joinUnits (unit :: units) = ofUnit unit :: joinUnits units := by
  cases units with
  | nil => rfl
  | cons low units => rw [joinUnits, if_neg (by omega)]

theorem joinUnits_unitsOf_append (c : Char) (units : List Nat) :
    joinUnits (unitsOf c ++ units) = c :: joinUnits units := by
  have hv : c.toNat < 0xD800 ∨ 0xDFFF < c.toNat ∧ c.toNat < 0x110000 := c.valid
  by_cases h : c.toNat < 0x10000
  · rw [unitsOf, if_pos h, List.singleton_append, joinUnits_cons (by omega), ofUnit_toNat]
  · rw [unitsOf, if_neg h, List.cons_append, List.singleton_append, joinUnits,
      if_pos (by omega)]
    have hn : 0x10000 + 0x400 * (0xD800 + (c.toNat - 0x10000) / 0x400 - 0xD800) +
        (0xDC00 + (c.toNat - 0x10000) % 0x400 - 0xDC00) = c.toNat := by omega
    rw [hn, Char.ofNat_toNat]

/-- The code units of a text make that text. -/
theorem joinUnits_flatMap_unitsOf (cs : List Char) : joinUnits (cs.flatMap unitsOf) = cs := by
  induction cs with
  | nil => rfl
  | cons c cs ih => rw [List.flatMap_cons, joinUnits_unitsOf_append, ih]

end Text

namespace Json

open Text

/-! ## Written characters -/

theorem isVisible_of_mem_unitEscape {unit : Nat} {c : Char} (h : c ∈ unitEscape unit) :
    isVisible c = true := by
  simp only [unitEscape, List.mem_cons] at h
  rcases h with rfl | rfl | h
  · decide
  · decide
  · exact isVisible_of_mem_hexadecimal h

/-- A character is written behind a backslash, as it is, or by its code units. -/
theorem writeChar_cases (c : Char) :
    (∃ e, writeChar c = ['\\', e] ∧ isVisible e = true ∧ e ≠ 'u' ∧ escaped? e = some c) ∨
      (writeChar c = [c] ∧ isVisible c = true ∧ c ≠ '"' ∧ c ≠ '\\') ∨
      writeChar c = (unitsOf c).flatMap unitEscape := by
  simp only [writeChar]
  split_ifs with h₁ h₂ h₃ h₄ h₅ h₆ h₇ h₈ h₉
  · exact .inl ⟨'"', rfl, by decide, by decide, by rw [h₁]; rfl⟩
  · exact .inl ⟨'\\', rfl, by decide, by decide, by rw [h₂]; rfl⟩
  · exact .inl ⟨'n', rfl, by decide, by decide, by rw [h₃]; rfl⟩
  · exact .inl ⟨'r', rfl, by decide, by decide, by rw [h₄]; rfl⟩
  · exact .inl ⟨'t', rfl, by decide, by decide, by rw [h₅]; rfl⟩
  · exact .inl ⟨'b', rfl, by decide, by decide, by rw [h₆]; rfl⟩
  · exact .inl ⟨'f', rfl, by decide, by decide, by rw [h₇]; rfl⟩
  · exact .inr (.inl ⟨rfl, by simpa [isVisible] using h₈, h₁, h₂⟩)
  · exact .inr (.inr (by simp [unitsOf, h₉]))
  · exact .inr (.inr (by simp [unitsOf, h₉]))

theorem isVisible_of_mem_writeChar {c d : Char} (h : d ∈ writeChar c) : isVisible d = true := by
  rcases writeChar_cases c with ⟨e, hw, he, -⟩ | ⟨hw, hc, -⟩ | hw
  · rw [hw, List.mem_cons, List.mem_singleton] at h
    rcases h with rfl | rfl
    · decide
    · exact he
  · rw [hw, List.mem_singleton] at h
    exact h ▸ hc
  · rw [hw, List.mem_flatMap] at h
    obtain ⟨unit, -, h⟩ := h
    exact isVisible_of_mem_unitEscape h

/-- A written text is visible. -/
theorem isVisible_of_mem_writeText {s : String} {c : Char} (h : c ∈ (writeText s).toList) :
    isVisible c = true := by
  simp only [writeText, String.toList_ofList, List.mem_cons, List.mem_append, List.mem_flatMap,
    List.not_mem_nil, or_false] at h
  rcases h with (rfl | ⟨d, -, h⟩) | rfl
  · decide
  · exact isVisible_of_mem_writeChar h
  · decide

/-! ## Reading them -/

theorem readUnits_unitEscape_append {unit : Nat} (h : unit < 0x10000) (s : List Char) :
    readUnits (unitEscape unit ++ s) =
      (readUnits s).map fun (units, rest) => (unit :: units, rest) := by
  have hlen := length_hexadecimal h
  have hnum := hexNumber?_hexadecimal 4 unit
  obtain ⟨a, b, c, d, hd⟩ : ∃ a b c d, hexadecimal 4 unit = [a, b, c, d] := by
    match hexadecimal 4 unit, hlen with
    | [a, b, c, d], _ => exact ⟨a, b, c, d, rfl⟩
  rw [hd] at hnum
  simp only [unitEscape, hd, List.cons_append, List.nil_append, readUnits, hnum, bind, Option.bind]
  cases readUnits s <;> rfl

theorem readUnits_flatMap_unitEscape_append {units : List Nat} (h : ∀ unit ∈ units, unit < 0x10000)
    (s : List Char) :
    readUnits (units.flatMap unitEscape ++ s) =
      (readUnits s).map fun (more, rest) => (units ++ more, rest) := by
  induction units with
  | nil => simp
  | cons unit units ih =>
    rw [List.flatMap_cons, List.append_assoc, readUnits_unitEscape_append (h unit (by simp)),
      ih fun u hu => h u (by simp [hu]), Option.map_map]
    rfl

theorem lt_of_mem_unitsOf {c : Char} {unit : Nat} (h : unit ∈ unitsOf c) : unit < 0x10000 := by
  have hv : c.toNat < 0xD800 ∨ 0xDFFF < c.toNat ∧ c.toNat < 0x110000 := c.valid
  unfold unitsOf at h
  split_ifs at h with hc
  · rw [List.mem_singleton] at h
    omega
  · rw [List.mem_cons, List.mem_singleton] at h
    omega

theorem readUnits_escape_append {c e : Char} (hu : e ≠ 'u') (he : escaped? e = some c)
    (s : List Char) :
    readUnits ('\\' :: e :: s) =
      (readUnits s).map fun (units, rest) => (c.toNat :: units, rest) := by
  rw [readUnits]
  · simp only [he, bind, Option.bind]
    cases readUnits s <;> rfl
  · intro a b c d t h
    exact absurd h hu

theorem readUnits_cons_of_isVisible {c : Char} (hc : isVisible c = true) (hq : c ≠ '"')
    (hb : c ≠ '\\') (s : List Char) :
    readUnits (c :: s) = (readUnits s).map fun (units, rest) => (c.toNat :: units, rest) := by
  simp only [isVisible, Bool.and_eq_true, decide_eq_true_eq] at hc
  rw [readUnits]
  · rw [if_neg (by omega)]
    cases readUnits s <;> rfl
  · exact hq
  · intro a b c d t h _
    exact absurd h hb
  · intro e t h _
    exact absurd h hb

theorem toNat_lt_of_escaped?_eq_some {e c : Char} (h : escaped? e = some c) :
    c.toNat < 0x10000 := by
  unfold escaped? at h
  split at h
  all_goals simp only [Option.some.injEq, reduceCtorEq] at h
  all_goals subst h; decide

theorem readUnits_writeChar_append (c : Char) (s : List Char) :
    readUnits (writeChar c ++ s) =
      (readUnits s).map fun (units, rest) => (unitsOf c ++ units, rest) := by
  rcases writeChar_cases c with ⟨e, hw, -, hu, he⟩ | ⟨hw, hc, hq, hb⟩ | hw
  · rw [hw, List.cons_append, List.singleton_append, readUnits_escape_append hu he, unitsOf,
      if_pos (toNat_lt_of_escaped?_eq_some he)]
    rfl
  · have hn : c.toNat < 0x10000 := by
      simp only [isVisible, Bool.and_eq_true, decide_eq_true_eq] at hc
      omega
    rw [hw, List.singleton_append, readUnits_cons_of_isVisible hc hq hb, unitsOf, if_pos hn]
    rfl
  · rw [hw, readUnits_flatMap_unitEscape_append fun _ => lt_of_mem_unitsOf]

theorem readUnits_flatMap_writeChar (cs rest : List Char) :
    readUnits (cs.flatMap writeChar ++ '"' :: rest) = some (cs.flatMap unitsOf, rest) := by
  induction cs with
  | nil => rfl
  | cons c cs ih =>
    rw [List.flatMap_cons, List.append_assoc, readUnits_writeChar_append, ih, List.flatMap_cons]
    rfl

/-- **A written text is read back**, whatever follows its closing quote. -/
theorem readText_writeText (s : String) (rest : List Char) :
    ∃ body, (writeText s).toList = '"' :: body ∧ readText (body ++ rest) = some (s, rest) := by
  refine ⟨s.toList.flatMap writeChar ++ ['"'], by simp [writeText], ?_⟩
  rw [List.append_assoc, List.singleton_append, readText, readUnits_flatMap_writeChar]
  simp only [bind, Option.bind, joinUnits_flatMap_unitsOf, String.ofList_toList]

end Json

end PersistentId
