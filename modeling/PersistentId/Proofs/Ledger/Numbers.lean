import Mathlib.Data.List.TakeDrop
import Mathlib.Data.List.TakeWhile
import PersistentId.Ledger.Numbers
import PersistentId.Proofs.Action
import PersistentId.Proofs.Json.RoundTrip
import PersistentId.Proofs.Json.Visible
import PersistentId.Proofs.Text.Lines

/-!
# Reading next numbers back

The next numbers that a document holds are a table whose keys are texts, no two of them the same
(`scoped_of_readNumbers`). If such a table is written as a whole document, that document holds the
table again (`readNumbers_writeNumbers`).
-/

namespace PersistentId

/-! ## Members of a document -/

namespace Table

theorem exists_of_mem_putAll {κ α : Type} [BEq κ] {t u : Table κ α} {p : κ × α}
    (h : p ∈ putAll t u) : ∃ q ∈ t ++ u, q.1 = p.1 := by
  induction u generalizing t with
  | nil => exact ⟨p, List.mem_append_left _ h, rfl⟩
  | cons r u ih =>
    obtain ⟨q, hq, he⟩ := ih h
    rcases List.mem_append.1 hq with hq | hq
    · rcases exists_of_mem_put hq with ⟨s, hs, hsq⟩ | hk
      · exact ⟨s, List.mem_append_left _ hs, hsq.trans he⟩
      · exact ⟨r, List.mem_append_right _ List.mem_cons_self, hk.symm.trans he⟩
    · exact ⟨q, List.mem_append_right _ (List.mem_cons_of_mem _ hq), he⟩

/-- Whether the keys of a table are different texts. -/
def Scoped {α : Type} (t : Table Key α) : Prop :=
  Distinct t ∧ ∀ p ∈ t, p.1.str?.isSome = true

theorem Scoped.put {α : Type} {t : Table Key α} (h : Scoped t) (name : String) (a : α) :
    Scoped (Table.put t (.str name) a) := by
  refine ⟨distinct_put h.1 _ a, fun p hp => ?_⟩
  rcases exists_of_mem_put hp with ⟨q, hq, he⟩ | he
  · exact he ▸ h.2 q hq
  · rw [he]
    rfl

theorem scoped_nil {α : Type} : Scoped ([] : Table Key α) :=
  ⟨List.Pairwise.nil, by simp⟩

end Table

namespace Json

open PersistentId.Action Table

theorem str?_of_readMembers {n room : Nat} {s rest : List Char} {es : List (Key × Value)}
    (h : readMembers n room s = .ok (es, rest)) : ∀ p ∈ es, p.1.str?.isSome = true := by
  induction n generalizing s es rest with
  | zero => simp [readMembers] at h
  | succ n ih =>
    unfold readMembers at h
    split at h
    · obtain ⟨⟨name, s₁⟩, -, h⟩ := exists_of_bind_eq_ok h
      dsimp only at h
      split at h
      · obtain ⟨⟨v, s₂⟩, -, h⟩ := exists_of_bind_eq_ok h
        dsimp only at h
        split at h
        · obtain ⟨⟨more, s₃⟩, hmore, h⟩ := exists_of_bind_eq_ok h
          cases h
          exact List.forall_mem_cons.2 ⟨rfl, ih hmore⟩
        · cases h
          simp [Key.str?]
        · cases h
      · cases h
    · cases h

theorem ne_map_of_readNumber {s rest : List Char} {v : Value}
    (h : readNumber s = some (v, rest)) (members : List (Key × Value)) : v ≠ .map members := by
  have hmagnitude : ∀ {negative s}, readMagnitude negative s = some (v, rest) →
      v ≠ .map members := by
    intro negative s h
    rintro rfl
    unfold readMagnitude at h
    cases hw : readWhole s with
    | none => simp [hw] at h
    | some whole =>
      simp only [hw, bind, Option.bind] at h
      split at h
      · split at h <;> cases h
      · cases h
  unfold readNumber at h
  split at h
  · exact hmagnitude h
  · exact hmagnitude h

theorem eq_some_of_found {α : Type} {result : Option α} {a : α} (h : found result = .ok a) :
    result = some a := by
  cases result with
  | none => cases h
  | some b => rw [Except.ok.inj h]

/-- The members of an object have different texts as their keys. -/
theorem scoped_of_readValue {n room : Nat} {s rest : List Char} {members : List (Key × Value)}
    (h : readValue n room s = .ok (.map members, rest)) : Scoped members := by
  cases n with
  | zero => simp [readValue] at h
  | succ n =>
    unfold readValue at h
    split at h
    case h_1 =>
      obtain ⟨_, -, h⟩ := exists_of_map_eq_ok h
      cases h
    case h_2 =>
      split at h
      · cases h
      · cases h
        exact scoped_nil
      · obtain ⟨⟨es, _⟩, hes, h⟩ := exists_of_map_eq_ok h
        cases h
        refine ⟨distinct_ofPairs es, fun p hp => ?_⟩
        obtain ⟨q, hq, he⟩ := exists_of_mem_putAll hp
        exact he ▸ str?_of_readMembers hes q hq
    case h_3 =>
      split at h
      · cases h
      · cases h
      · obtain ⟨_, -, h⟩ := exists_of_map_eq_ok h
        cases h
    case h_10 => exact absurd rfl (ne_map_of_readNumber (eq_some_of_found h) members)
    all_goals cases h

/-- The members of a document that is an object have different texts as their keys. -/
theorem scoped_of_read {document : String} {members : List (Key × Value)}
    (h : read document = .ok (.map members)) : Scoped members := by
  obtain ⟨⟨v, rest⟩, hread, h⟩ := exists_of_bind_eq_ok h
  dsimp only at h
  split at h
  · cases h
    exact scoped_of_readValue hread
  · cases h

end Json

namespace Ledger

open Table

/-! ## Reading -/

theorem scoped_filterMap {members : Table Key Value} (h : Scoped members) :
    Scoped (members.filterMap fun (scope, v) => (Counter.ofValue? v).map (scope, ·)) := by
  refine ⟨List.Pairwise.filterMap _ ?_ h.1, fun p hp => ?_⟩
  · rintro ⟨scope, v⟩ ⟨scope', v'⟩ hne p hp q hq
    obtain ⟨_, -, rfl⟩ := Option.map_eq_some_iff.1 hp
    obtain ⟨_, -, rfl⟩ := Option.map_eq_some_iff.1 hq
    exact hne
  · obtain ⟨⟨scope, v⟩, hmem, hp⟩ := List.mem_filterMap.1 hp
    obtain ⟨_, -, rfl⟩ := Option.map_eq_some_iff.1 hp
    exact h.2 _ hmem

/-- **The numbers in a document belong to different texts.** -/
theorem scoped_of_readNumbers {document : String} {numbers : Table Key Counter}
    (h : readNumbers document = .ok numbers) : Scoped numbers := by
  unfold readNumbers at h
  split at h
  · cases h
    exact scoped_nil
  · split at h
    · cases h
    · cases h
    · next members hread =>
      cases h
      exact scoped_filterMap (Json.scoped_of_read hread)
    · cases h

/-! ## Writing -/

theorem storable_toValue {counter : Counter} (h : counter.isShort = true) :
    counter.toValue.storable = true := by
  cases counter with
  | number n => exact h
  | flag b => rfl

theorem ofValue?_toValue (counter : Counter) : Counter.ofValue? counter.toValue = some counter := by
  cases counter <;> rfl

theorem has_numberEntries (numbers : Table Key Counter) (scope : Key) :
    has (numberEntries numbers) scope = has numbers scope := by
  induction numbers with
  | nil => rfl
  | cons p numbers ih =>
    simp only [has, numberEntries, List.map_cons, find?] at ih ⊢
    split
    · rfl
    · exact ih

theorem entriesAreStorable_numberEntries {numbers : Table Key Counter} (h : Scoped numbers)
    (hs : ∀ p ∈ numbers, p.2.isShort = true) :
    Value.entriesAreStorable (numberEntries numbers) = true := by
  induction numbers with
  | nil => rfl
  | cons p numbers ih =>
    obtain ⟨hne, hdistinct⟩ := List.pairwise_cons.1 h.1
    have hrest : Value.entriesAreStorable (numberEntries numbers) = true :=
      ih ⟨hdistinct, fun q hq => h.2 q (List.mem_cons_of_mem _ hq)⟩
        fun q hq => hs q (List.mem_cons_of_mem _ hq)
    have hnew : has numbers p.1 = false := has_eq_false_iff.2 fun q hq =>
      Bool.eq_false_iff.2 fun he => Bool.eq_false_iff.1 (hne q hq) (PartialEquivBEq.symm he)
    simp only [numberEntries, List.map_cons, Value.entriesAreStorable, Bool.and_eq_true,
      Bool.not_eq_true']
    exact ⟨⟨⟨h.2 p (by simp), (has_numberEntries numbers p.1).trans hnew⟩,
      storable_toValue (hs p (by simp))⟩, hrest⟩

theorem depthOfEntries_numberEntries (numbers : Table Key Counter) :
    Value.depthOfEntries (numberEntries numbers) = 0 := by
  induction numbers with
  | nil => rfl
  | cons p numbers ih =>
    obtain ⟨scope, n⟩ := p
    rw [numberEntries, List.map_cons, Value.depthOfEntries]
    rw [numberEntries] at ih
    rw [ih]
    cases n <;> rfl

theorem filterMap_numberEntries (numbers : Table Key Counter) :
    (numberEntries numbers).filterMap
      (fun (scope, v) => (Counter.ofValue? v).map (scope, ·)) = numbers := by
  rw [numberEntries, List.filterMap_map]
  refine Eq.trans (congrArg (List.filterMap · numbers) (funext fun p => ?_)) List.filterMap_some
  simp [ofValue?_toValue]

/-- Numbers that are short enough can be written. -/
theorem exists_writeNumbers {numbers : Table Key Counter} (h : Scoped numbers)
    (hs : ∀ p ∈ numbers, p.2.isShort = true) :
    ∃ document, writeNumbers numbers = .whole document := by
  obtain ⟨parts, hparts⟩ := Json.exists_writeEntries (numberEntries numbers) (Json.depthLimit - 1)
    (entriesAreStorable_numberEntries h hs)
    (by rw [depthOfEntries_numberEntries]; exact Nat.zero_le _)
  have hlayered := Json.writeLayered_eq (numberEntries numbers)
  rw [hparts] at hlayered
  exact hlayered

theorem writeValue_toValue (room : Nat) (counter : Counter) :
    (∃ part, Json.writeValue room counter.toValue = .ok part ∧ counter.isShort = true) ∨
      Json.writeValue room counter.toValue = .error .tooLong := by
  cases counter with
  | number n =>
    rw [Counter.toValue, Json.writeValue, Json.writeInt]
    split
    · next h => exact .inl ⟨_, rfl, h⟩
    · exact .inr rfl
  | flag b => cases b <;> exact .inl ⟨_, by rw [Counter.toValue, Json.writeValue], rfl⟩

/-- Numbers of texts can be written if they are short enough, and else are too long. -/
theorem writeEntries_numberEntries {numbers : Table Key Counter} (h : Scoped numbers)
    (room : Nat) :
    (∃ parts, Json.writeEntries room (numberEntries numbers) = .ok parts ∧
        ∀ p ∈ numbers, p.2.isShort = true) ∨
      Json.writeEntries room (numberEntries numbers) = .error .tooLong := by
  induction numbers with
  | nil => exact .inl ⟨[], by rw [numberEntries, List.map_nil, Json.writeEntries], by simp⟩
  | cons p numbers ih =>
    obtain ⟨key, counter⟩ := p
    have hkey := h.2 _ List.mem_cons_self
    obtain ⟨scope, rfl⟩ : ∃ scope, key = .str scope := by
      cases key with
      | str scope => exact ⟨scope, rfl⟩
      | _ => cases hkey
    have hrest : Scoped numbers :=
      ⟨(List.pairwise_cons.1 h.1).2, fun q hq => h.2 q (List.mem_cons_of_mem _ hq)⟩
    rw [numberEntries, List.map_cons, Json.writeEntries, ← numberEntries]
    rcases writeValue_toValue room counter with ⟨part, hpart, hshort⟩ | hlong
    · rcases ih hrest with ⟨parts, hparts, hall⟩ | hlong
      · exact .inl ⟨_, by rw [hpart, hparts]; rfl, List.forall_mem_cons.2 ⟨hshort, hall⟩⟩
      · exact .inr (by rw [hpart, hlong]; rfl)
    · exact .inr (by rw [hlong]; rfl)

/-- A document that is cut off has a number that is too long. -/
theorem eq_tooLong_of_writeNumbers {numbers : Table Key Counter} {start : String} {fault : Fault}
    (hn : Scoped numbers) (h : writeNumbers numbers = .cut start fault) : fault = .tooLong := by
  have hlayered := Json.writeLayered_eq (numberEntries numbers)
  rcases writeEntries_numberEntries hn (Json.depthLimit - 1) with ⟨parts, hparts, -⟩ | hlong
  · rw [hparts] at hlayered
    obtain ⟨text, hwhole⟩ := hlayered
    cases hwhole.symm.trans h
  · rw [hlong] at hlayered
    obtain ⟨_, hcut⟩ := hlayered
    cases hcut.symm.trans h
    rfl

theorem exists_of_writeNumbers {numbers : Table Key Counter} {document : String}
    (h : writeNumbers numbers = .whole document) : ∃ t, document.toList = '{' :: t := by
  cases numbers with
  | nil =>
    cases h
    exact ⟨['}'], rfl⟩
  | cons p numbers =>
    obtain ⟨parts, -, htext⟩ := Json.toList_of_writeLayered_eq_whole h
    exact ⟨_, htext⟩

theorem return_not_mem_writeNumbers {numbers : Table Key Counter} {document : String}
    (h : writeNumbers numbers = .whole document) : '\r' ∉ document.toList := by
  cases numbers with
  | nil =>
    cases h
    decide
  | cons p numbers =>
    obtain ⟨parts, hparts, htext⟩ := Json.toList_of_writeLayered_eq_whole h
    intro hmem
    rw [htext] at hmem
    simp only [List.mem_cons, List.mem_append, List.not_mem_nil, or_false] at hmem
    have hspread : '\r' ∈ Json.spread ['\n', ' ', ' '] parts := by simpa using hmem
    rcases Json.exists_of_mem_intercalate hspread with hmem | ⟨part, hpart, hmem⟩
    · revert hmem
      decide
    · obtain ⟨s, hs, rfl⟩ := List.mem_map.1 hpart
      have := Json.isVisible_of_mem_writeEntries _ _ parts hparts s hs _ hmem
      revert this
      decide

/-- **Numbers that were written as a whole are read back.** -/
theorem readNumbers_writeNumbers {numbers : Table Key Counter} {document : String}
    (hn : Scoped numbers) (h : writeNumbers numbers = .whole document) :
    readNumbers document = .ok numbers := by
  have hshort : ∀ p ∈ numbers, p.2.isShort = true := by
    obtain ⟨parts, hparts⟩ := Json.writeEntries_of_writeLayered_eq_whole h
    rcases writeEntries_numberEntries hn (Json.depthLimit - 1) with ⟨_, -, hall⟩ | hlong
    · exact hall
    · cases hparts.symm.trans hlong
  have hread := Json.read_writeLayered (entriesAreStorable_numberEntries hn hshort) h
  have hblank : (Text.trimChars document.toList).isEmpty = false := by
    obtain ⟨t, ht⟩ := exists_of_writeNumbers h
    rw [ht, List.isEmpty_eq_false_iff]
    exact Text.trimChars_cons_ne_nil (by decide) t
  rw [readNumbers, hblank, hread]
  exact congrArg Except.ok (filterMap_numberEntries numbers)

end Ledger

end PersistentId
