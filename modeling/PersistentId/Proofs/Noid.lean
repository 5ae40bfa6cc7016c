import Mathlib.Data.List.TakeWhile
import PersistentId.Noid
import PersistentId.Proofs.Action
import PersistentId.Text.Upper

/-!
# Rendered templates

A template that could be read has a place to write, so what it renders is never empty
(`render_ne_empty`), and neither is that in upper case (`upper_ne_empty`).
-/

namespace PersistentId

namespace Text

theorem upperChar_ne_nil (c : Char) : upperChar c ≠ [] := by
  unfold upperChar upperBeyondAscii
  split
  · simp
  · dsimp only
    split
    · next codes hcodes =>
      have hexpansions : ∀ e ∈ expansions, e.2 ≠ [] := by decide
      obtain ⟨_, _, hsplit, -⟩ := List.lookup_eq_some_iff.1 hcodes
      have := hexpansions (c.toNat, codes) (by simp [hsplit])
      simpa using this
    · split <;> simp

theorem upper_ne_empty {s : String} (h : s ≠ "") : upper s ≠ "" := by
  rw [upper, ne_eq, String.ofList_eq_empty_iff, List.flatMap_eq_nil_iff]
  intro hnil
  cases hs : s.toList with
  | nil => exact h (String.toList_eq_nil_iff.1 hs)
  | cons c cs => exact upperChar_ne_nil c (hnil c (by simp [hs]))

end Text

namespace Noid

open PersistentId.Action

theorem length_renderPlaces (places : List Place) (n : Nat) :
    (renderPlaces places n).2.length = places.length := by
  induction places generalizing n with
  | nil => rfl
  | cons place places ih => simp [renderPlaces, ih]

theorem growLeft_ne_nil (place : Place) (fuel n : Nat) {cs : List Char} (h : cs ≠ []) :
    growLeft place fuel n cs ≠ [] := by
  induction fuel generalizing n cs with
  | zero => exact h
  | succ fuel ih =>
    rw [growLeft]
    split
    · exact h
    · exact ih _ (by simp)

namespace Template

theorem isBody_of_ofValue {v : Value} {template : Template} (h : ofValue v = .ok template) :
    isBody template.body = true := by
  unfold ofValue at h
  split at h
  · unfold parse at h
    split at h
    split at h
    · cases h
    · split at h
      · split at h
        · next hbody =>
          cases h
          exact hbody
        · cases h
      · cases h
  · dsimp only at h
    split at h <;> cases h

/-- A template has a place to write. -/
theorem places_ne_nil {v : Value} {template : Template} (h : ofValue v = .ok template) :
    template.places ≠ [] := by
  have hbody := isBody_of_ofValue h
  simp only [isBody, Bool.and_eq_true, Bool.not_eq_true', List.isEmpty_eq_false_iff] at hbody
  obtain ⟨c, hc⟩ := List.exists_mem_of_ne_nil _ hbody.1
  have hletter : isPlaceLetter c = true := List.mem_takeWhile_imp hc
  rw [places, Ne, List.map_eq_nil_iff, Text.dropEnd, List.reverse_eq_nil_iff,
    List.dropWhile_eq_nil_iff]
  intro hall
  have hk := hall c (List.mem_reverse.2 ((List.takeWhile_sublist _).subset hc))
  rw [decide_eq_true_eq] at hk
  subst hk
  cases hletter

theorem renderBody_ne_nil {template : Template} (hp : template.places ≠ []) {n : Nat}
    {cs : List Char} (h : template.renderBody n = .ok cs) : cs ≠ [] := by
  have hwritten : (renderPlaces template.places n).2 ≠ [] := by
    rw [← List.length_pos_iff, length_renderPlaces, List.length_pos_iff]
    exact hp
  simp only [renderBody] at h
  split at h
  · cases h
    exact List.append_ne_nil_of_right_ne_nil _ hwritten
  · split at h
    · cases h
      exact List.append_ne_nil_of_right_ne_nil _ (growLeft_ne_nil _ _ _ hwritten)
    · cases h

end Template

/-- **What is rendered is not empty.** -/
theorem render_ne_empty {v n : Value} {s : String} (h : render v n = .ok s) : s ≠ "" := by
  obtain ⟨template, htemplate, h⟩ := exists_of_bind_eq_ok h
  obtain ⟨n, -, h⟩ := exists_of_bind_eq_ok h
  simp only [Template.render] at h
  by_cases hn : n < 0
  · rw [if_pos hn] at h
    obtain ⟨_, h, -⟩ := exists_of_bind_eq_ok h
    cases h
  · rw [if_neg hn] at h
    obtain ⟨cs, hcs, h⟩ := exists_of_bind_eq_ok h
    have hne := Template.renderBody_ne_nil (Template.places_ne_nil htemplate) hcs
    cases h
    rw [ne_eq, String.ofList_eq_empty_iff]
    split
    · simp
    · exact hne

end Noid

end PersistentId
