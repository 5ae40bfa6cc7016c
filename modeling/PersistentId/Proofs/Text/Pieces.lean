import Mathlib.Data.List.TakeWhile
import PersistentId.Text.Blank
import PersistentId.Text.Search

/-!
# The pieces of a text

A text spells tokens if it is made of these, one behind the other, with separators between any two
of them and perhaps at its ends (`Spells`). Every text spells its pieces, and no others
(`spells_iff`), whatever the separators are; so its pieces are its maximal runs of other characters
(`mem_pieces_iff`).

A token is found again behind blanks, and before them, by trimming (`trim_padded`).
-/

namespace PersistentId.Text

variable {p : Char → Bool}

/-! ## Tokens and gaps -/

/-- All characters of a text are separators. -/
def IsGap (p : Char → Bool) (s : String) : Prop :=
  ∀ c ∈ s.toList, p c = true

/-- A text is not empty and has no separators in it. -/
structure IsToken (p : Char → Bool) (s : String) : Prop where
  ne_empty : s ≠ ""
  clear : ∀ c ∈ s.toList, p c = false

/-- A text goes on with a separator, if it goes on at all. -/
def Breaks (p : Char → Bool) (s : String) : Prop :=
  ∀ c ∈ s.toList.head?, p c = true

/-- A text ends in a separator, or is empty. -/
def BreaksOff (p : Char → Bool) (s : String) : Prop :=
  ∀ c ∈ s.toList.getLast?, p c = true

instance (s : String) : Decidable (IsGap p s) :=
  decidable_of_iff (s.toList.all p = true) List.all_eq_true

instance (s : String) : Decidable (IsToken p s) :=
  decidable_of_iff (s ≠ "" ∧ s.toList.any p = false)
    ⟨fun h => ⟨h.1, by simpa using h.2⟩, fun h => ⟨h.ne_empty, by simpa using h.clear⟩⟩

instance (s : String) : Decidable (Breaks p s) :=
  decidable_of_iff (s.toList.head?.all p = true) (Option.all_eq_true _ _)

/-- A text that spells tokens: each stands behind a gap, which is not empty between two of them. -/
inductive Spells (p : Char → Bool) : List String → String → Prop
  | gap {gap : String} (hgap : IsGap p gap) : Spells p [] gap
  | token {gap token rest : String} {tokens : List String} (hgap : IsGap p gap)
      (htoken : IsToken p token) (hbreaks : Breaks p rest) (hrest : Spells p tokens rest) :
      Spells p (token :: tokens) (gap ++ token ++ rest)

/-- A part of a text is a token that cannot be made longer on either side. -/
def IsPiece (p : Char → Bool) (s piece : String) : Prop :=
  IsToken p piece ∧ ∃ before after, s = before ++ piece ++ after ∧ BreaksOff p before ∧
    Breaks p after

/-! ## Pieces -/

theorem piecesFrom_gap {gap : List Char} (hgap : ∀ c ∈ gap, p c = true) (s : List Char) :
    piecesFrom p [] (gap ++ s) = piecesFrom p [] s := by
  induction gap with
  | nil => rfl
  | cons c gap ih =>
    obtain ⟨hc, hgap⟩ := List.forall_mem_cons.1 hgap
    rw [List.cons_append, piecesFrom, if_pos hc, if_pos List.isEmpty_nil, ih hgap]

theorem piecesFrom_clear {cs : List Char} (hcs : ∀ c ∈ cs, p c = false) (run s : List Char) :
    piecesFrom p run (cs ++ s) = piecesFrom p (cs.reverse ++ run) s := by
  induction cs generalizing run with
  | nil => rfl
  | cons c cs ih =>
    obtain ⟨hc, hcs⟩ := List.forall_mem_cons.1 hcs
    rw [List.cons_append, piecesFrom, if_neg (Bool.eq_false_iff.1 hc), ih hcs]
    simp

/-- The run under way ends where the text does, or at a separator. -/
theorem piecesFrom_breaks {run s : List Char} (hrun : run ≠ []) (hs : ∀ c ∈ s.head?, p c = true) :
    piecesFrom p run s = run.reverse :: piecesFrom p [] s := by
  have hrun : run.isEmpty = false := by simpa using hrun
  cases s with
  | nil => simp [piecesFrom, hrun]
  | cons c s =>
    have hc : p c = true := hs c rfl
    simp [piecesFrom, hc, hrun]

theorem pieces_gap {gap : String} (hgap : IsGap p gap) : pieces p gap = [] := by
  have h := piecesFrom_gap hgap []
  rw [List.append_nil] at h
  rw [pieces, h]
  rfl

theorem pieces_token {gap token rest : String} (hgap : IsGap p gap) (htoken : IsToken p token)
    (hbreaks : Breaks p rest) :
    pieces p (gap ++ token ++ rest) = token :: pieces p rest := by
  have hne : token.toList ≠ [] := by simpa using htoken.ne_empty
  have h := calc piecesFrom p [] (gap ++ token ++ rest).toList
      _ = piecesFrom p [] (gap.toList ++ (token.toList ++ rest.toList)) := by simp
      _ = piecesFrom p (token.toList.reverse ++ []) rest.toList := by
        rw [piecesFrom_gap hgap, piecesFrom_clear htoken.clear]
      _ = token.toList :: piecesFrom p [] rest.toList := by
        rw [piecesFrom_breaks (by simpa using hne) hbreaks]
        simp
  rw [pieces, h]
  simp [pieces]

/-- What is spelled is found again. -/
theorem Spells.pieces_eq {tokens : List String} {s : String} (h : Spells p tokens s) :
    pieces p s = tokens := by
  induction h with
  | gap hgap => exact pieces_gap hgap
  | token hgap htoken hbreaks _ ih => rw [pieces_token hgap htoken hbreaks, ih]

/-! ## Every text spells its pieces -/

/-- A text is a gap, or goes on with a token behind one. -/
theorem isGap_or_exists_token (s : String) :
    IsGap p s ∨ ∃ gap token rest, s = gap ++ token ++ rest ∧ IsGap p gap ∧ IsToken p token ∧
      Breaks p rest := by
  let clear := s.toList.dropWhile p
  have hsplit : s.toList = s.toList.takeWhile p ++ clear := (List.takeWhile_append_dropWhile).symm
  cases hclear : clear with
  | nil =>
    left
    intro c hc
    rw [hsplit, hclear, List.append_nil] at hc
    exact List.mem_takeWhile_imp hc
  | cons c cs =>
    right
    refine ⟨.ofList (s.toList.takeWhile p), .ofList (clear.takeWhile (!p ·)),
      .ofList (clear.dropWhile (!p ·)), ?_, fun c hc => ?_, ⟨?_, fun c hc => ?_⟩, fun c hc => ?_⟩
    · rw [← String.toList_inj]
      simp [← hsplit, clear]
    · rw [String.toList_ofList] at hc
      exact List.mem_takeWhile_imp hc
    · have hc : p c = false := by
        have := List.head?_dropWhile_not p s.toList
        rw [show s.toList.dropWhile p = c :: cs from hclear] at this
        simpa using this
      simp [hclear, hc]
    · rw [String.toList_ofList] at hc
      simpa using List.mem_takeWhile_imp hc
    · rw [String.toList_ofList] at hc
      have := List.head?_dropWhile_not (!p ·) clear
      rw [Option.mem_def.1 hc] at this
      simpa using this

theorem spells_pieces (s : String) : Spells p (pieces p s) s := by
  induction hn : s.length using Nat.strongRecOn generalizing s with
  | ind n ih =>
    rcases isGap_or_exists_token (p := p) s with
      hgap | ⟨gap, token, rest, rfl, hgap, htoken, hbreaks⟩
    · rw [pieces_gap hgap]
      exact .gap hgap
    · rw [pieces_token hgap htoken hbreaks]
      have hpos : token.length ≠ 0 := by simpa using htoken.ne_empty
      refine .token hgap htoken hbreaks (ih rest.length ?_ rest rfl)
      rw [← hn, String.length_append, String.length_append]
      omega

/-- **A text spells its pieces and no other tokens.** -/
theorem spells_iff {tokens : List String} {s : String} : Spells p tokens s ↔ pieces p s = tokens :=
  ⟨Spells.pieces_eq, fun h => h ▸ spells_pieces s⟩

/-! ## Pieces as maximal runs -/

theorem Spells.isPiece {tokens : List String} {s token : String} (h : Spells p tokens s)
    (hmem : token ∈ tokens) : IsPiece p s token := by
  induction h with
  | gap => cases hmem
  | @token gap first rest tokens hgap hfirst hbreaks hrest ih =>
    rcases List.mem_cons.1 hmem with rfl | hmem
    · refine ⟨hfirst, gap, rest, rfl, fun c hc => ?_, hbreaks⟩
      exact hgap c (List.mem_of_getLast? hc)
    · obtain ⟨htoken, before, after, rfl, hbefore, hafter⟩ := ih hmem
      refine ⟨htoken, gap ++ first ++ before, after, by simp [String.append_assoc], ?_, hafter⟩
      intro c hc
      -- what stands in front of a later token is not empty, or else the first one would not end
      cases hlast : before.toList.getLast? with
      | some d =>
        obtain rfl : d = c := by simpa [List.getLast?_append, hlast] using hc
        exact hbefore d hlast
      | none =>
        obtain rfl : before = "" := by simpa using hlast
        obtain ⟨d, ds, hd⟩ := List.exists_cons_of_ne_nil (l := token.toList)
          (by simpa using htoken.ne_empty)
        have hsep : p d = true := hbreaks d (by simp [hd])
        rw [htoken.clear d (by simp [hd])] at hsep
        cases hsep

theorem piecesFrom_append_cons {c : Char} (hc : p c = true) (run s t : List Char) :
    piecesFrom p run (s ++ c :: t) = piecesFrom p run s ++ piecesFrom p [] t := by
  induction s generalizing run with
  | nil => by_cases hrun : run.isEmpty <;> simp [piecesFrom, hc, hrun]
  | cons d s ih =>
    rw [List.cons_append, piecesFrom, piecesFrom]
    split
    · split
      · exact ih []
      · rw [ih [], List.cons_append]
    · exact ih (d :: run)

/-- What stands behind a separator has pieces of its own. -/
theorem mem_pieces_append {before rest piece : String} (hbefore : BreaksOff p before)
    (h : piece ∈ pieces p rest) : piece ∈ pieces p (before ++ rest) := by
  rcases List.eq_nil_or_concat before.toList with hnil | ⟨cs, c, hcs⟩
  · obtain rfl : before = "" := by simpa using hnil
    simpa using h
  · have hc : p c = true := hbefore c (by simp [hcs])
    rw [pieces, String.toList_append, hcs, List.concat_eq_append, List.append_assoc,
      List.singleton_append, piecesFrom_append_cons hc, List.map_append]
    exact List.mem_append_right _ h

/-- **The pieces of a text are its maximal runs of characters that are no separators.** -/
theorem mem_pieces_iff {s piece : String} : piece ∈ pieces p s ↔ IsPiece p s piece := by
  constructor
  · exact (spells_pieces s).isPiece
  · rintro ⟨htoken, before, after, rfl, hbefore, hafter⟩
    rw [String.append_assoc]
    refine mem_pieces_append hbefore ?_
    have hgap : IsGap p "" := by simp [IsGap]
    have h := pieces_token hgap htoken hafter
    rw [String.empty_append] at h
    rw [h]
    exact List.mem_cons_self

/-! ## Blanks around a token -/

theorem trim_gap {s : String} (hs : IsGap isBlank s) : trim s = "" := by
  have h : (s.toList ++ []).dropWhile isBlank = [] := List.dropWhile_append_of_pos hs
  rw [List.append_nil] at h
  rw [trim, trimChars, h]
  rfl

theorem dropEnd_append_gap {gap : List Char} (hgap : ∀ c ∈ gap, p c = true) (s : List Char) :
    dropEnd p (s ++ gap) = dropEnd p s := by
  have hback : ∀ c ∈ gap.reverse, p c = true := fun c hc => hgap c (List.mem_reverse.1 hc)
  rw [dropEnd, List.reverse_append, List.dropWhile_append_of_pos hback, dropEnd]

/-- Blanks on either side of a token do not count. -/
theorem trim_padded {before token after : String} (hbefore : IsGap isBlank before)
    (htoken : IsToken isBlank token) (hafter : IsGap isBlank after) :
    trim (before ++ token ++ after) = token := by
  obtain ⟨c, cs, hcs⟩ := List.exists_cons_of_ne_nil (l := token.toList)
    (by simpa using htoken.ne_empty)
  have hc : isBlank c = false := htoken.clear c (by simp [hcs])
  have hfront (rest : List Char) : (token.toList ++ rest).dropWhile isBlank =
      token.toList ++ rest := by
    rw [hcs, List.cons_append, List.dropWhile_cons_of_neg (by simp [hc])]
  calc trim (before ++ token ++ after)
      _ = .ofList (dropEnd isBlank ((token.toList ++ after.toList).dropWhile isBlank)) := by
        rw [trim, trimChars, String.append_assoc, String.toList_append,
          List.dropWhile_append_of_pos hbefore, String.toList_append]
      _ = .ofList (dropEnd isBlank (token.toList ++ [])) := by
        rw [hfront, dropEnd_append_gap hafter, List.append_nil]
      _ = trim token := by rw [← hfront, List.append_nil, trim, trimChars]
      _ = token := trim_of_clean htoken.clear

end PersistentId.Text
