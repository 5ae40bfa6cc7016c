import PersistentId.Proofs.Action
import PersistentId.Proofs.Json.Text

/-!
# Documents are visible

What is written on one line consists of visible ASCII and spaces, whatever the value
(`isVisible_of_mem_writeValue`). So it has no tab and no end of a line in it.
-/

namespace PersistentId.Json

open PersistentId.Action Text

theorem isVisible_of_mem_toString {n : Int} {c : Char} (h : c ∈ (toString n).toList) :
    isVisible c = true := by
  rw [Int.toString_eq_repr, Int.repr_eq_if] at h
  split at h
  · rw [Nat.toList_repr] at h
    exact isVisible_of_mem_toDigits (by decide) (by decide) h
  · rw [String.toList_append, List.mem_append, Nat.toList_repr] at h
    rcases h with h | h
    · exact List.all_eq_true.1 (by decide) c h
    · exact isVisible_of_mem_toDigits (by decide) (by decide) h

theorem isVisible_of_mem_positional {digits : List Char} (hd : ∀ c ∈ digits, isVisible c = true)
    {top : Int} {c : Char} (h : c ∈ Magnitude.positional digits top) : isVisible c = true := by
  have hzero : isVisible '0' = true := by decide
  have hpoint : isVisible '.' = true := by decide
  unfold Magnitude.positional at h
  split at h
  · simp only [List.mem_cons, List.mem_append, List.mem_replicate] at h
    rcases h with rfl | rfl | ⟨-, rfl⟩ | h
    · exact hzero
    · exact hpoint
    · exact hzero
    · exact hd c h
  · split at h
    · simp only [List.mem_append, List.mem_replicate, List.mem_cons, List.not_mem_nil,
        or_false] at h
      rcases h with (h | ⟨-, rfl⟩) | rfl | rfl
      · exact hd c h
      · exact hzero
      · exact hpoint
      · exact hzero
    · simp only [List.mem_append, List.mem_cons] at h
      rcases h with h | rfl | h
      · exact hd c (List.mem_of_mem_take h)
      · exact hpoint
      · exact hd c (List.mem_of_mem_drop h)

theorem isVisible_of_mem_scientific {digits : List Char} (hd : ∀ c ∈ digits, isVisible c = true)
    {top : Int} {c : Char} (h : c ∈ Magnitude.scientific digits top) : isVisible c = true := by
  simp only [Magnitude.scientific, List.mem_append, List.mem_cons, List.mem_replicate] at h
  rcases h with h | rfl | h | ⟨-, rfl⟩ | h
  · split at h
    · exact List.all_eq_true.1 (by decide) c h
    · exact hd c h
    · next d rest _ =>
      rcases List.mem_cons.1 h with rfl | h
      · exact hd c List.mem_cons_self
      · rcases List.mem_cons.1 h with rfl | h
        · decide
        · exact hd c (List.mem_cons_of_mem d h)
  · decide
  · split at h <;> rw [h] <;> decide
  · decide
  · exact isVisible_of_mem_toDigits (by decide) (by decide) h

theorem isVisible_of_mem_layout {digits : Nat} {exponent : Int} {c : Char}
    (h : c ∈ Magnitude.layout digits exponent) : isVisible c = true := by
  have hd : ∀ c ∈ Nat.toDigits 10 digits, isVisible c = true := fun c hc =>
    isVisible_of_mem_toDigits (by decide) (by decide) hc
  unfold Magnitude.layout at h
  dsimp only at h
  split at h
  · exact List.all_eq_true.1 (by decide) c h
  · split at h
    · exact isVisible_of_mem_positional hd h
    · exact isVisible_of_mem_scientific hd h

theorem isVisible_of_mem_finiteText {negative : Bool} {x : Magnitude} {c : Char}
    (h : c ∈ (Binary64.finiteText negative x).toList) : isVisible c = true := by
  rw [Binary64.finiteText, String.toList_ofList] at h
  split at h
  · rcases List.mem_cons.1 h with rfl | h
    · decide
    · exact isVisible_of_mem_layout h
  · exact isVisible_of_mem_layout h

theorem isVisible_of_mem_documentText {x : Binary64} {c : Char} (h : c ∈ x.documentText.toList) :
    isVisible c = true := by
  match x with
  | .finite negative magnitude => exact isVisible_of_mem_finiteText h
  | .infinite true | .infinite false | .undefined => exact List.all_eq_true.1 (by decide) c h

theorem isVisible_of_mem_writeInt {n : Int} {s : String} (h : writeInt n = .ok s) :
    ∀ c ∈ s.toList, isVisible c = true := by
  unfold writeInt at h
  split at h
  · cases h
    exact fun c hc => isVisible_of_mem_toString hc
  · cases h

theorem exists_of_mem_intercalate {separator : List Char} {parts : List (List Char)} {c : Char}
    (h : c ∈ List.intercalate separator parts) : c ∈ separator ∨ ∃ part ∈ parts, c ∈ part := by
  induction parts with
  | nil => simp at h
  | cons part parts ih =>
    cases parts with
    | nil =>
      rw [List.intercalate_singleton] at h
      exact .inr ⟨part, by simp, h⟩
    | cons next parts =>
      rw [List.intercalate_cons_cons, List.mem_append, List.mem_append] at h
      rcases h with (h | h) | h
      · exact .inr ⟨part, by simp, h⟩
      · exact .inl h
      · exact (ih h).imp_right fun ⟨p, hp, hc⟩ => ⟨p, List.mem_cons_of_mem _ hp, hc⟩

/-- Parts with visible text between them are visible together. -/
theorem isVisible_of_mem_intercalate {parts : List String}
    (h : ∀ part ∈ parts, ∀ c ∈ part.toList, isVisible c = true) {c : Char}
    (hc : c ∈ (", ".intercalate parts).toList) : isVisible c = true := by
  rw [String.toList_intercalate] at hc
  rcases exists_of_mem_intercalate hc with hc | ⟨part, hpart, hc⟩
  · exact List.all_eq_true.1 (by decide) c hc
  · obtain ⟨s, hs, rfl⟩ := List.mem_map.1 hpart
    exact h s hs c hc

mutual

/-- **A document on one line is visible**, whatever its value. -/
theorem isVisible_of_mem_writeValue : ∀ (v : Value) (room : Nat) (s : String),
    writeValue room v = .ok s → ∀ c ∈ s.toList, isVisible c = true
  | .null | .bool true | .bool false => by
    intro room s h
    rw [writeValue, Except.ok.injEq] at h
    subst h
    exact List.all_eq_true.1 (by decide)
  | .int n => by
    intro room s h
    rw [writeValue] at h
    exact isVisible_of_mem_writeInt h
  | .float x => by
    intro room s h c hc
    rw [writeValue, Except.ok.injEq] at h
    exact isVisible_of_mem_documentText (h ▸ hc)
  | .str t => by
    intro room s h c hc
    rw [writeValue, Except.ok.injEq] at h
    exact isVisible_of_mem_writeText (h ▸ hc)
  | .moment m => by
    intro room s h
    rw [writeValue] at h
    cases h
  | .list items => by
    intro room s h c hc
    cases room with
    | zero =>
      rw [writeValue] at h
      cases h
    | succ room =>
      rw [writeValue] at h
      obtain ⟨parts, hparts, h⟩ := exists_of_bind_eq_ok h
      rw [← Except.ok.inj h, String.toList_append, String.toList_append, List.mem_append,
        List.mem_append] at hc
      rcases hc with (hc | hc) | hc
      · exact List.all_eq_true.1 (by decide) c hc
      · exact isVisible_of_mem_intercalate (isVisible_of_mem_writeItems items room parts hparts) hc
      · exact List.all_eq_true.1 (by decide) c hc
  | .map entries => by
    intro room s h c hc
    cases room with
    | zero =>
      rw [writeValue] at h
      cases h
    | succ room =>
      rw [writeValue] at h
      obtain ⟨parts, hparts, h⟩ := exists_of_bind_eq_ok h
      rw [← Except.ok.inj h, String.toList_append, String.toList_append, List.mem_append,
        List.mem_append] at hc
      rcases hc with (hc | hc) | hc
      · exact List.all_eq_true.1 (by decide) c hc
      · exact isVisible_of_mem_intercalate
          (isVisible_of_mem_writeEntries entries room parts hparts) hc
      · exact List.all_eq_true.1 (by decide) c hc

theorem isVisible_of_mem_writeItems : ∀ (items : List Value) (room : Nat) (parts : List String),
    writeItems room items = .ok parts → ∀ part ∈ parts, ∀ c ∈ part.toList, isVisible c = true
  | [] => by
    intro room parts h
    rw [writeItems, Except.ok.injEq] at h
    subst h
    simp
  | v :: items => by
    intro room parts h
    rw [writeItems] at h
    obtain ⟨first, hfirst, h⟩ := exists_of_bind_eq_ok h
    obtain ⟨more, hmore, h⟩ := exists_of_bind_eq_ok h
    rw [← Except.ok.inj h]
    exact List.forall_mem_cons.2 ⟨isVisible_of_mem_writeValue v room first hfirst,
      isVisible_of_mem_writeItems items room more hmore⟩

theorem isVisible_of_mem_writeEntries : ∀ (entries : List (Key × Value)) (room : Nat)
    (parts : List String), writeEntries room entries = .ok parts →
      ∀ part ∈ parts, ∀ c ∈ part.toList, isVisible c = true
  | [] => by
    intro room parts h
    rw [writeEntries, Except.ok.injEq] at h
    subst h
    simp
  | (key, v) :: entries => by
    intro room parts h
    rw [writeEntries] at h
    obtain ⟨name, -, h⟩ := exists_of_bind_eq_ok h
    obtain ⟨first, hfirst, h⟩ := exists_of_bind_eq_ok h
    obtain ⟨more, hmore, h⟩ := exists_of_bind_eq_ok h
    rw [← Except.ok.inj h]
    refine List.forall_mem_cons.2
      ⟨fun c hc => ?_, isVisible_of_mem_writeEntries entries room more hmore⟩
    rw [String.toList_append, String.toList_append, List.mem_append, List.mem_append] at hc
    rcases hc with (hc | hc) | hc
    · exact isVisible_of_mem_writeText hc
    · exact List.all_eq_true.1 (by decide) c hc
    · exact isVisible_of_mem_writeValue v room first hfirst c hc

end

end PersistentId.Json
