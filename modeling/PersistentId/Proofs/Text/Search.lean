import PersistentId.Proofs.Text.Lines
import PersistentId.Text.Search

/-!
# Texts that begin with others

A text begins with another one exactly if that is a prefix of it (`beginsWith_eq_true_iff`), and
what is left then is what follows (`stripStart?_eq_some_iff`). `dropStart` leaves a text that does
not begin so as it is; `dropStart_eq_iff` says which texts come to the same by that. Of two texts
that are `Apart` neither begins with the other, and so does nothing that goes on from it. A text
that is cut at a mark is what stands before the mark, the mark, and what stands behind it
(`eq_append_of_cutAt`), where the mark does not occur if it is the last one
(`eq_append_of_cutLast`).
-/

namespace PersistentId.Text

theorem eq_append_of_cutAt {mark s before rest : String}
    (h : cutAt mark s = some (before, rest)) : s = before ++ mark ++ rest := by
  obtain ⟨⟨b, r⟩, hcut, he⟩ := Option.map_eq_some_iff.1 h
  obtain ⟨rfl, rfl⟩ := Prod.mk.inj he
  rw [← String.toList_inj, eq_append_of_cut hcut]
  simp

theorem cutAt_append {mark : Char} {s : String} (h : mark ∉ s.toList) (t : String) :
    cutAt (String.ofList [mark]) (s ++ String.ofList [mark] ++ t) = some (s, t) := by
  have hcut := cut_of_not_mem h t.toList
  simp [cutAt, hcut]

/-- A mark that does not occur in a text does not occur in its end. -/
theorem cut_eq_none_of_append {mark s t : List Char} (h : cut mark (s ++ t) = none) :
    cut mark t = none := by
  induction s with
  | nil => exact h
  | cons c s ih =>
    rw [List.cons_append, cut] at h
    split at h
    · cases h
    · exact ih (Option.map_eq_none_iff.1 h)

/-- A mark is found wherever it stands. -/
theorem cut_ne_none_of_prefix {mark s : List Char} (h : mark <+: s) : cut mark s ≠ none := by
  obtain ⟨rest, rfl⟩ := h
  intro hnone
  have hafter := after?_append mark rest
  cases hs : mark ++ rest with
  | nil =>
    obtain ⟨rfl, rfl⟩ := List.append_eq_nil_iff.1 hs
    cases hnone
  | cons c s =>
    rw [hs] at hnone hafter
    rw [cut, hafter] at hnone
    cases hnone

theorem cutLast_eq_none_iff {mark : Char} {s : List Char} : cutLast mark s = none ↔ mark ∉ s := by
  induction s with
  | nil => simp [cutLast]
  | cons c s ih =>
    rw [cutLast, List.mem_cons, not_or, ← ih]
    cases cutLast mark s <;> simp [eq_comm]

/-- A mark with none behind it is the last one. -/
theorem cutLast_append {mark : Char} (s : List Char) {rest : List Char} (h : mark ∉ rest) :
    cutLast mark (s ++ mark :: rest) = some (s, rest) := by
  induction s with
  | nil => rw [List.nil_append, cutLast, cutLast_eq_none_iff.2 h, if_pos rfl]
  | cons c s ih => rw [List.cons_append, cutLast, ih]

theorem eq_append_of_cutLast {mark : Char} {s before rest : List Char}
    (h : cutLast mark s = some (before, rest)) : s = before ++ mark :: rest ∧ mark ∉ rest := by
  induction s generalizing before with
  | nil => cases h
  | cons c s ih =>
    rw [cutLast] at h
    cases hcut : cutLast mark s with
    | some found =>
      rw [hcut] at h
      cases h
      obtain ⟨heq, hrest⟩ := ih hcut
      exact ⟨congrArg (c :: ·) heq, hrest⟩
    | none =>
      rw [hcut] at h
      dsimp only at h
      split at h
      · next hmark =>
        cases h
        exact ⟨by rw [hmark]; rfl, cutLast_eq_none_iff.1 hcut⟩
      · cases h

/-- A text occurs in another one if it is somewhere inside. -/
theorem occursIn_eq_true_iff {part s : String} :
    occursIn part s = true ↔ part.toList <:+: s.toList := by
  rw [occursIn]
  constructor
  · intro h
    obtain ⟨⟨before, rest⟩, hcut⟩ := Option.isSome_iff_exists.1 h
    exact ⟨before, rest, (eq_append_of_cut hcut).symm⟩
  · rintro ⟨before, rest, hs⟩
    rw [Option.isSome_iff_ne_none, ← hs, List.append_assoc]
    exact fun hnone => cut_ne_none_of_prefix ⟨rest, rfl⟩ (cut_eq_none_of_append hnone)

/-- A text occurs in what ends with it. -/
theorem occursIn_append (start part : String) : occursIn part (start ++ part) = true :=
  occursIn_eq_true_iff.2 ⟨start.toList, [], by simp⟩

theorem beginsWith_eq_true_iff {start s : String} :
    beginsWith start s = true ↔ start.toList <+: s.toList := by
  rw [beginsWith, Option.isSome_iff_exists]
  simp only [after?_eq_some]
  exact exists_congr fun _ => eq_comm

theorem stripStart?_eq_some_iff {start s rest : String} :
    stripStart? start s = some rest ↔ s = start ++ rest := by
  rw [stripStart?, Option.map_eq_some_iff]
  constructor
  · rintro ⟨r, h, rfl⟩
    rw [← String.toList_inj, after?_eq_some.1 h]
    simp
  · rintro rfl
    exact ⟨rest.toList, by simp, by simp⟩

theorem stripStart?_eq_none_iff {start s : String} :
    stripStart? start s = none ↔ beginsWith start s = false := by
  simp [stripStart?, beginsWith]

@[simp]
theorem beginsWith_append (start rest : String) : beginsWith start (start ++ rest) = true :=
  beginsWith_eq_true_iff.2 ⟨rest.toList, String.toList_append.symm⟩

/-- A text goes on from one of several others, or begins with none of them. -/
theorem exists_append_or_forall_beginsWith (starts : List String) (s : String) :
    (∃ start ∈ starts, ∃ rest, s = start ++ rest) ∨
      ∀ start ∈ starts, beginsWith start s = false := by
  by_cases h : ∀ start ∈ starts, beginsWith start s = false
  · exact .inr h
  · obtain ⟨start, h⟩ := Classical.not_forall.1 h
    obtain ⟨hmem, h⟩ := Classical.not_imp.1 h
    obtain ⟨rest, hrest⟩ := Option.ne_none_iff_exists'.1 (mt stripStart?_eq_none_iff.1 h)
    exact .inl ⟨start, hmem, rest, stripStart?_eq_some_iff.1 hrest⟩

/-! ## Dropping a text in front -/

/-- A text without another one at its start, if that is there. -/
def dropStart (start s : String) : String :=
  (stripStart? start s).getD s

@[simp]
theorem dropStart_append (start rest : String) : dropStart start (start ++ rest) = rest := by
  rw [dropStart, stripStart?_eq_some_iff.2 rfl, Option.getD_some]

theorem dropStart_of_beginsWith_eq_false {start s : String} (h : beginsWith start s = false) :
    dropStart start s = s := by
  rw [dropStart, stripStart?_eq_none_iff.2 h, Option.getD_none]

/-- A text either does not begin with another one, and stays, or goes on from it. -/
theorem dropStart_cases (start s : String) :
    (beginsWith start s = false ∧ dropStart start s = s) ∨ s = start ++ dropStart start s := by
  cases h : stripStart? start s with
  | none =>
    have hnone := stripStart?_eq_none_iff.1 h
    exact .inl ⟨hnone, dropStart_of_beginsWith_eq_false hnone⟩
  | some rest =>
    rw [stripStart?_eq_some_iff.1 h, dropStart_append]
    exact .inr rfl

/-- **Two texts are the same without another one in front** only if they are the same, or if one of
them has it in front and is the other one but for that. -/
theorem dropStart_eq_iff {start s t : String} :
    dropStart start s = dropStart start t ↔
      s = t ∨ (beginsWith start s = false ∧ t = start ++ s) ∨
        (beginsWith start t = false ∧ s = start ++ t) := by
  constructor
  · intro h
    rcases dropStart_cases start s with ⟨hs, hkept⟩ | hs <;>
      rcases dropStart_cases start t with ⟨ht, hkept'⟩ | ht
    · exact .inl (hkept.symm.trans (h.trans hkept'))
    · exact .inr (.inl ⟨hs, by rw [ht, ← h, hkept]⟩)
    · exact .inr (.inr ⟨ht, by rw [hs, h, hkept']⟩)
    · exact .inl (by rw [hs, ht, h])
  · rintro (rfl | ⟨hs, rfl⟩ | ⟨ht, rfl⟩)
    · rfl
    · rw [dropStart_of_beginsWith_eq_false hs, dropStart_append]
    · rw [dropStart_of_beginsWith_eq_false ht, dropStart_append]

/-! ## Texts that are apart -/

/-- Neither of two texts begins with the other. -/
def Apart (s t : String) : Prop :=
  beginsWith s t = false ∧ beginsWith t s = false

instance (s t : String) : Decidable (Apart s t) := by
  unfold Apart
  infer_instance

theorem Apart.symm {s t : String} (h : Apart s t) : Apart t s :=
  ⟨h.2, h.1⟩

/-- No text begins with two that are apart. -/
theorem Apart.beginsWith_eq_false {s t u : String} (h : Apart s t) (ht : beginsWith t u = true) :
    beginsWith s u = false := by
  rw [Bool.eq_false_iff]
  intro hs
  rcases List.prefix_or_prefix_of_prefix (beginsWith_eq_true_iff.1 hs)
    (beginsWith_eq_true_iff.1 ht) with hst | hts
  · exact Bool.eq_false_iff.1 h.1 (beginsWith_eq_true_iff.2 hst)
  · exact Bool.eq_false_iff.1 h.2 (beginsWith_eq_true_iff.2 hts)

/-- What goes on from one of two texts that are apart does not begin with the other. -/
theorem Apart.beginsWith_append {s t : String} (h : Apart s t) (rest : String) :
    beginsWith s (t ++ rest) = false :=
  h.beginsWith_eq_false (Text.beginsWith_append t rest)

end PersistentId.Text
