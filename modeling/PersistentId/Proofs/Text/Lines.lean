import Mathlib.Data.List.TakeWhile
import PersistentId.Text.Lines
import PersistentId.Text.Search
import PersistentId.Text.Utf8

/-!
# Text added at the end

What a file says after text was added to it. A text is `ended` if it is empty or ends with a line
feed; the lines of what is added behind such a text are lines of their own (`lines_append`). Adding
the bytes of a text adds the text (`decode?_append`), as long as it cannot complete a line ending.
-/

namespace PersistentId.Text

/-! ## Lines -/

/-- Whether a text is empty or ends with a line feed. -/
def ended (s : List Char) : Bool :=
  s.isEmpty || s.getLast? = some '\n'

theorem ended_append_singleton (s : List Char) : ended (s ++ ['\n']) = true := by
  simp [ended]

theorem ended_append {s t : List Char} (hs : ended s = true) (ht : ended t = true) :
    ended (s ++ t) = true := by
  cases t with
  | nil => simpa using hs
  | cons c t => simpa [ended, List.getLast?_append] using ht

theorem linesFrom_append {s : List Char} (h : s.getLast? = some '\n') (line t : List Char) :
    linesFrom line (s ++ t) = linesFrom line s ++ linesFrom [] t := by
  induction s generalizing line with
  | nil => cases h
  | cons c s ih =>
    rw [List.cons_append, linesFrom, linesFrom]
    cases s with
    | nil =>
      obtain rfl : c = '\n' := by simpa using h
      simp [linesFrom]
    | cons d s =>
      rw [List.getLast?_cons_cons] at h
      split
      · rw [ih h, List.cons_append]
      · rw [ih h]

/-- What is added behind an ended text is lines of its own. -/
theorem lines_append {s : List Char} (h : ended s = true) (t : List Char) :
    lines (s ++ t) = lines s ++ lines t := by
  simp only [ended, Bool.or_eq_true, List.isEmpty_iff, decide_eq_true_eq] at h
  rcases h with rfl | h
  · rfl
  · exact linesFrom_append h [] t

theorem linesFrom_of_not_mem {s : List Char} (h : '\n' ∉ s) (line t : List Char) :
    linesFrom line (s ++ '\n' :: t) = (line.reverse ++ s) :: linesFrom [] t := by
  induction s generalizing line with
  | nil => simp [linesFrom]
  | cons c s ih =>
    obtain ⟨hc, hs⟩ := not_or.1 (fun hmem => h (List.mem_cons.2 hmem))
    rw [List.cons_append, linesFrom, if_neg (Ne.symm hc), ih hs]
    simp

theorem lines_of_not_mem {s : List Char} (h : '\n' ∉ s) (t : List Char) :
    lines (s ++ '\n' :: t) = s :: lines t :=
  linesFrom_of_not_mem h [] t

theorem linesFrom_eq_singleton {s : List Char} (h : '\n' ∉ s) {line : List Char}
    (hne : line.reverse ++ s ≠ []) : linesFrom line s = [line.reverse ++ s] := by
  induction s generalizing line with
  | nil =>
    rw [List.append_nil] at hne ⊢
    rw [linesFrom, if_neg (by simpa using hne)]
  | cons c s ih =>
    obtain ⟨hc, hs⟩ := not_or.1 (fun hmem => h (List.mem_cons.2 hmem))
    rw [linesFrom, if_neg (Ne.symm hc), ih hs (by simp)]
    simp

/-- A line without its ending is a line. -/
theorem lines_eq_singleton {s : List Char} (h : '\n' ∉ s) (hne : s ≠ []) : lines s = [s] :=
  linesFrom_eq_singleton h hne

/-! ## Trimming and cutting -/

/-- A text with no blank at either end is its own trimmed form. -/
theorem trimChars_eq_self {c d : Char} {s : List Char} (hc : isBlank c = false)
    (hd : isBlank d = false) : trimChars (c :: (s ++ [d])) = c :: (s ++ [d]) := by
  rw [trimChars, List.dropWhile_cons_of_neg (by simp [hc]), ← List.cons_append, dropEnd_concat,
    if_neg (by simp [hd])]

/-- A text that starts with no blank has something in it. -/
theorem trimChars_cons_ne_nil {c : Char} (hc : isBlank c = false) (s : List Char) :
    trimChars (c :: s) ≠ [] := by
  rw [trimChars, List.dropWhile_cons_of_neg (by simp [hc]), dropEnd, Ne, List.reverse_eq_nil_iff,
    List.dropWhile_eq_nil_iff]
  intro h
  exact Bool.eq_false_iff.1 hc (h c (by simp))

/-- Trimming a text that starts with no blank only takes away from its end. -/
theorem trimChars_cons_prefix {c : Char} (hc : isBlank c = false) (s : List Char) :
    trimChars (c :: s) <+: c :: s := by
  rw [trimChars, List.dropWhile_cons_of_neg (by simp [hc]), dropEnd, ← List.reverse_suffix,
    List.reverse_reverse]
  exact List.dropWhile_suffix _

theorem cut_eq_none {mark : Char} {s : List Char} (h : mark ∉ s) : cut [mark] s = none := by
  cases hcut : cut [mark] s with
  | none => rfl
  | some parts => exact absurd (eq_append_of_cut hcut ▸ by simp) h

theorem cut_of_not_mem {mark : Char} {s : List Char} (h : mark ∉ s) (t : List Char) :
    cut [mark] (s ++ mark :: t) = some (s, t) := by
  induction s with
  | nil => simp [cut, after?]
  | cons c s ih =>
    obtain ⟨hc, hs⟩ := not_or.1 (fun hmem => h (List.mem_cons.2 hmem))
    rw [List.cons_append, cut, after?, if_neg hc, ih hs]
    rfl

/-! ## Line endings -/

theorem unify_cons_of_ne {c : Char} (hc : c ≠ '\r') (s : List Char) :
    unify (c :: s) = c :: unify s := by
  rw [unify]
  · rw [if_neg hc]
  · intro t h _
    exact absurd h hc

theorem unify_return_cons {c : Char} (hc : c ≠ '\n') (s : List Char) :
    unify ('\r' :: c :: s) = '\n' :: unify (c :: s) := by
  rw [unify]
  · rfl
  · intro t _ h
    exact absurd (List.cons.inj h).1 hc

/-- Text that does not start with a line feed completes no line ending. -/
theorem unify_append {t : List Char} (ht : t.head? ≠ some '\n') (s : List Char) :
    unify (s ++ t) = unify s ++ unify t := by
  induction s using unify.induct with
  | case1 => rfl
  | case2 s ih => simp [unify, ih]
  | case3 c s hne ih =>
    by_cases hc : c = '\r'
    · subst hc
      cases s with
      | nil =>
        cases t with
        | nil => rfl
        | cons d t =>
          have hd : d ≠ '\n' := fun e => ht (e ▸ rfl)
          exact unify_return_cons hd t
      | cons d s =>
        have hd : d ≠ '\n' := fun e => hne s rfl (e ▸ rfl)
        rw [List.cons_append, List.cons_append, unify_return_cons hd, ← List.cons_append, ih,
          unify_return_cons hd, List.cons_append]
    · rw [List.cons_append, unify_cons_of_ne hc, ih, unify_cons_of_ne hc, List.cons_append]

/-! ## Bytes -/

theorem decode?_empty : decode? .empty = some "" := by
  decide

theorem fromUTF8?_toUTF8 (s : String) : String.fromUTF8? s.toUTF8 = some s := by
  simp [String.fromUTF8?, String.toUTF8, s.isValidUTF8, String.fromUTF8]

theorem toUTF8_of_fromUTF8?_eq_some {data : ByteArray} {s : String}
    (h : String.fromUTF8? data = some s) : s.toUTF8 = data := by
  unfold String.fromUTF8? at h
  split at h
  · cases h
    rfl
  · cases h

/-- **Adding the bytes of a text adds the text**, as long as it completes no line ending. -/
theorem decode?_append {data : ByteArray} {text s : String} (h : decode? data = some text)
    (hr : '\r' ∉ s.toList) (hn : s.toList.head? ≠ some '\n') :
    decode? (data ++ s.toUTF8) = some (text ++ s) := by
  obtain ⟨raw, hraw, rfl⟩ := Option.map_eq_some_iff.1 h
  have hbytes : data ++ s.toUTF8 = (raw ++ s).toUTF8 := by
    rw [← toUTF8_of_fromUTF8?_eq_some hraw]
    exact (String.toByteArray_append (s := raw) (t := s)).symm
  rw [hbytes, decode?, fromUTF8?_toUTF8, Option.map_some, String.toList_append,
    unify_append hn, unify_of_not_mem hr, String.ofList_append, String.ofList_toList]

end PersistentId.Text
