import PersistentId.Proofs.Identifier
import PersistentId.Text.Upper

/-!
# Texts that can be part of an identifier

A text is plain if no character of it is forbidden in identifiers or a NUL. What is put behind a
proper part makes a proper part again if it is plain (`isProper_append`), and a plain text stays so
in upper case (`isPlain_upper`).
-/

namespace PersistentId

namespace Part

/-- Whether a character is neither forbidden in identifiers nor a NUL. -/
def isPlainChar (c : Char) : Bool :=
  !isForbidden c && c != '\x00'

/-- Whether all characters of a text are plain. -/
def isPlain (s : String) : Bool :=
  s.toList.all isPlainChar

@[simp]
theorem isPlain_append (s t : String) : isPlain (s ++ t) = (isPlain s && isPlain t) := by
  simp [isPlain]

/-- **A plain text behind a proper part makes a proper part.** -/
theorem isProper_append {start s : String} (hstart : isProper start = true)
    (hs : isPlain s = true) : isProper (start ++ s) = true := by
  rw [isProper_eq_true_iff, clean_eq_self_iff] at hstart ⊢
  obtain ⟨hclean, hterminator⟩ := hstart
  have hplain : ∀ c ∈ s.toList, isForbidden c = false ∧ c ≠ '\x00' := by
    simpa [isPlain, isPlainChar] using hs
  constructor
  · intro c hc
    rw [String.toList_append, List.mem_append] at hc
    exact hc.elim (hclean c) fun h => (hplain c h).1
  · have hnul : '\x00' ∉ s.toList := fun h => (hplain _ h).2 rfl
    rw [hasTerminator] at hterminator ⊢
    rw [String.toList_append]
    cases hchars : start.toList with
    | nil =>
      cases hrest : s.toList with
      | nil => rfl
      | cons c cs =>
        rw [hrest, List.mem_cons, not_or] at hnul
        simp [hnul.2]
    | cons c cs =>
      rw [hchars] at hterminator
      simpa [hnul] using hterminator

end Part

/-! ## Upper case -/

namespace Text

open PersistentId.Part

/-- What letters beyond ASCII are turned into, one by one and in runs, is plain. -/
theorem isPlainChar_of_expansions : ∀ e ∈ expansions, ∀ n ∈ e.2,
    isPlainChar (Char.ofNat n) = true := by
  decide +kernel

theorem isPlainChar_of_shifts : ∀ run ∈ shifts, ∀ i ∈ List.range (run.2.1 - run.1 + 1),
    isPlainChar (Char.ofNat (((run.1 + i : Nat) : Int) + run.2.2.2).toNat) = true := by
  decide +kernel

theorem isPlainChar_toUpper : ∀ n ∈ List.range 128, isPlainChar (Char.ofNat n) = true →
    isPlainChar (Char.ofNat n).toUpper = true := by
  decide +kernel

theorem isPlainChar_of_mem_upperChar {c d : Char} (hc : isPlainChar c = true)
    (hd : d ∈ upperChar c) : isPlainChar d = true := by
  unfold upperChar at hd
  split at hd
  · next hascii =>
    rw [List.mem_singleton.1 hd, ← Char.ofNat_toNat c]
    exact isPlainChar_toUpper _ (List.mem_range.2 hascii) (by rwa [Char.ofNat_toNat])
  · unfold upperBeyondAscii at hd
    dsimp only at hd
    split at hd
    · next codes hcodes =>
      obtain ⟨n, hn, rfl⟩ := List.mem_map.1 hd
      obtain ⟨_, _, hsplit, -⟩ := List.lookup_eq_some_iff.1 hcodes
      exact isPlainChar_of_expansions (c.toNat, codes) (by simp [hsplit]) n hn
    · split at hd
      · next first last step distance hrun =>
        have hwithin := List.find?_some hrun
        simp only [Bool.and_eq_true, decide_eq_true_eq] at hwithin
        obtain ⟨⟨hfirst, hlast⟩, -⟩ := hwithin
        have hmem : c.toNat - first ∈ List.range (last - first + 1) :=
          List.mem_range.2 (by omega)
        have htarget := isPlainChar_of_shifts _ (List.mem_of_find?_eq_some hrun) _ hmem
        rw [List.mem_singleton.1 hd]
        rwa [Nat.add_sub_cancel' hfirst] at htarget
      · rw [List.mem_singleton.1 hd]
        exact hc

/-- **A plain text is plain in upper case.** -/
theorem isPlain_upper {s : String} (h : isPlain s = true) : isPlain (upper s) = true := by
  rw [isPlain, List.all_eq_true] at h ⊢
  intro d hd
  rw [upper, String.toList_ofList] at hd
  obtain ⟨c, hc, hd⟩ := List.mem_flatMap.1 hd
  exact isPlainChar_of_mem_upperChar (h c hc) hd

end Text

end PersistentId
