import PersistentId.Proofs.Minter
import PersistentId.Proofs.Noid.Mask

/-!
# Check characters of what is minted

A text `verifies` if its last character is the check character of what stands before it. What a
template with a check mark renders does (`exists_of_render_eq_ok`), and so does what is minted of it
as it is rendered.

A random minter puts what it has rendered into upper case, the check character included, which was
taken of the text as it stood before. `Minter.check_of_mint` says when the law survives: exactly if
the check character is a decimal digit and what stands before it has the same one in upper case.
In lower case again what was minted verifies, if the lead of the template is in lower case.
-/

namespace PersistentId

open PersistentId.Action

namespace Noid

variable {v : Value} {template : Template} {n : Int} {c : Char}

/-- Whether a text ends with the check character of what stands before it. -/
def verifies (s : String) : Bool :=
  s.toList.getLast? = some (checkCharacter s.toList.dropLast)

theorem verifies_append_singleton {s : String} :
    verifies (s ++ String.singleton c) = true ↔ c = checkCharacter s.toList := by
  simp [verifies]

/-! ## Rendered texts -/

/-- **What a template with a check mark renders ends with its check character.** In front of that
stand the lead and extended digits. -/
theorem exists_of_render_eq_ok {s : String} (h : render v (.int n) = .ok s)
    (htemplate : Template.ofValue v = .ok template) (hchecked : template.checked = true) :
    ∃ body : String, s = body ++ String.singleton (checkCharacter body.toList) ∧
      ∀ c ∈ body.toList, c ∈ template.lead ∨ c ∈ extendedDigits := by
  obtain ⟨ds, hds, hs⟩ := exists_digits_of_render h htemplate
  refine ⟨String.ofList (template.lead ++ ds), ?_, fun c hc => ?_⟩
  · rw [String.toList_ofList, hs, if_pos hchecked]
  · rw [String.toList_ofList, List.mem_append] at hc
    exact hc.imp_right (hds c)

/-! ## Upper case -/

theorem toUpper_mem_iff (h : c ∈ extendedDigits) :
    c.toUpper ∈ extendedDigits ↔ c.isDigit = true := by
  have hall : extendedDigits.all
      (fun c => decide (c.toUpper ∈ extendedDigits ↔ c.isDigit = true)) = true := by decide
  exact of_decide_eq_true (List.all_eq_true.1 hall c h)

theorem toUpper_of_isDigit (h : c ∈ extendedDigits) (hdigit : c.isDigit = true) :
    c.toUpper = c := by
  have hall : extendedDigits.all (fun c => decide (c.isDigit = true → c.toUpper = c)) = true := by
    decide
  exact of_decide_eq_true (List.all_eq_true.1 hall c h) hdigit

theorem upper_append_singleton (s : String) (h : c ∈ extendedDigits) :
    Text.upper (s ++ String.singleton c) = Text.upper s ++ String.singleton c.toUpper := by
  have hascii : extendedDigits.all (fun c => c.toNat < 128) = true := by decide
  have hc := of_decide_eq_true (List.all_eq_true.1 hascii c h)
  rw [Text.upper_append, String.append_right_inj, Text.upper, String.singleton_eq_ofList,
    String.toList_ofList, String.singleton_eq_ofList]
  simp [Text.upperChar_ascii hc]

/-- **In upper case a check character is one only if it is a digit** and the text before it has
it in upper case too. -/
theorem verifies_upper_iff {body : String} :
    verifies (Text.upper body ++ String.singleton (checkCharacter body.toList).toUpper) = true ↔
      (checkCharacter body.toList).isDigit = true ∧
        checkCharacter (Text.upper body).toList = checkCharacter body.toList := by
  have hmem := checkCharacter_mem body.toList
  rw [verifies_append_singleton]
  constructor
  · intro heq
    have hupper : (checkCharacter body.toList).toUpper ∈ extendedDigits := by
      rw [heq]
      exact checkCharacter_mem _
    have hdigit := (toUpper_mem_iff hmem).1 hupper
    exact ⟨hdigit, by rw [← heq, toUpper_of_isDigit hmem hdigit]⟩
  · rintro ⟨hdigit, heq⟩
    rw [toUpper_of_isDigit hmem hdigit, heq]

/-- A character in lower case, or one that has no case. -/
def isLowered (c : Char) : Bool :=
  decide (c.toNat < 128) && !c.isUpper

theorem isLowered_of_mem (h : c ∈ extendedDigits) : isLowered c = true := by
  have hall : extendedDigits.all isLowered = true := by decide
  exact List.all_eq_true.1 hall c h

theorem toLower_toUpper (h : isLowered c = true) : c.toUpper.toLower = c := by
  have hall : ∀ n < 128, (Char.ofNat n).isUpper = false →
      (Char.ofNat n).toUpper.toLower = Char.ofNat n := by
    decide
  rw [isLowered, Bool.and_eq_true, decide_eq_true_eq, Bool.not_eq_true'] at h
  have hback := hall c.toNat h.1
  rw [Char.ofNat_toNat] at hback
  exact hback h.2

theorem toLower_upper {s : String} (h : ∀ c ∈ s.toList, isLowered c = true) :
    (Text.upper s).toLower = s := by
  have hsame : s.toList.flatMap Text.upperChar = s.toList.map Char.toUpper := by
    rw [List.map_eq_flatMap]
    refine List.flatMap_congr fun c hc => Text.upperChar_ascii ?_
    have hlowered := h c hc
    rw [isLowered, Bool.and_eq_true] at hlowered
    exact of_decide_eq_true hlowered.1
  have hmap : (Text.upper s).toLower = (Text.upper s).map Char.toLower := rfl
  rw [hmap, ← String.toList_inj, String.toList_map, Text.upper, String.toList_ofList, hsame,
    List.map_map]
  exact (List.map_congr_left fun c hc => toLower_toUpper (h c hc)).trans (List.map_id _)

end Noid

namespace Minter

open Noid

variable {minter : Minter} {template : Template} {scope : Value} {s t : Site} {minted : String}

/-- Whether a minter puts what it has rendered into upper case. -/
def capitalizes : Minter → Bool
  | .random _ _ upper _ => upper.truthy
  | .sequence .. => false

/-- What is minted has been rendered of some number. -/
theorem exists_render_of_mint (h : (minter.mint scope).outcome s = (.ok minted, t)) :
    ∃ n written, Noid.render minter.template (.int n) = .ok written ∧
      minted = if minter.capitalizes then Text.upper written else written := by
  cases minter with
  | random template capacity upper source =>
    obtain ⟨n, u, -, h⟩ := exists_of_outcome_bind h
    obtain ⟨written, hwritten, h⟩ := exists_of_outcome_ofExcept_bind h
    rw [outcome_pure] at h
    obtain ⟨hminted, -⟩ := Prod.mk.inj h
    exact ⟨n, written, hwritten, (Except.ok.inj hminted).symm⟩
  | sequence template service =>
    obtain ⟨n, u, -, h⟩ := exists_of_outcome_bind h
    rw [outcome_ofExcept] at h
    exact ⟨n.toInt, minted, (Prod.mk.inj h).1, rfl⟩

/-- **When what is minted ends with its check character**: always, if it is minted as it is
rendered, and in upper case exactly if the check character is a decimal digit and is still that of
the text before it. -/
theorem check_of_mint (h : (minter.mint scope).outcome s = (.ok minted, t))
    (htemplate : Template.ofValue minter.template = .ok template)
    (hchecked : template.checked = true) :
    ∃ (n : Int) (body : String), Noid.render minter.template (.int n) =
        .ok (body ++ String.singleton (checkCharacter body.toList)) ∧
      (minter.capitalizes = false →
        minted = body ++ String.singleton (checkCharacter body.toList) ∧ verifies minted = true) ∧
      (minter.capitalizes = true →
        minted = Text.upper body ++ String.singleton (checkCharacter body.toList).toUpper ∧
        (verifies minted = true ↔ (checkCharacter body.toList).isDigit = true ∧
          checkCharacter (Text.upper body).toList = checkCharacter body.toList) ∧
        ((∀ c ∈ template.lead, isLowered c = true) → verifies minted.toLower = true)) := by
  obtain ⟨n, written, hwritten, hminted⟩ := exists_render_of_mint h
  obtain ⟨body, rfl, hbody⟩ := exists_of_render_eq_ok hwritten htemplate hchecked
  have hmem := checkCharacter_mem body.toList
  refine ⟨n, body, hwritten, fun hcase => ?_, fun hcase => ?_⟩
  · rw [hcase, if_neg Bool.false_ne_true] at hminted
    exact ⟨hminted, by rw [hminted]; exact verifies_append_singleton.2 rfl⟩
  · rw [hcase, if_pos rfl] at hminted
    refine ⟨hminted.trans (upper_append_singleton body hmem), ?_, fun hlead => ?_⟩
    · rw [hminted, upper_append_singleton body hmem]
      exact verifies_upper_iff
    · have hlowered : ∀ c ∈ (body ++ String.singleton (checkCharacter body.toList)).toList,
          isLowered c = true := by
        intro c hc
        rw [String.toList_append, String.toList_singleton, List.mem_append,
          List.mem_singleton] at hc
        rcases hc with hc | rfl
        · exact (hbody c hc).elim (hlead c) isLowered_of_mem
        · exact isLowered_of_mem hmem
      rw [hminted, toLower_upper hlowered]
      exact verifies_append_singleton.2 rfl

/-- A random minter of two digits and a check character. -/
def stamping : Minter :=
  .random (.str "rddk") 100 (.bool true) 0

/-- A site where it draws the number 55. -/
def drawing : Site where
  sources := Shelf.put {} 0 [55]

theorem ofValue_stamping :
    Template.ofValue stamping.template = .ok ⟨"rddk", [], .random, ['d', 'd', 'k']⟩ := rfl

theorem mint_stamping : (stamping.mint .null).outcome drawing =
    (.ok "55H", ((stamping.mint .null).outcome drawing).2) := by
  have hminted : ((stamping.mint .null).outcome drawing).1 = .ok "55H" := by decide +kernel
  exact outcome_eq_of_fst hminted

/-- The check character of 55 is a letter, so what is minted verifies in lower case only. -/
theorem check_of_mint_stamping :
    (∃ t, (stamping.mint .null).outcome drawing = (.ok "55H", t)) ∧
      verifies "55H" = false ∧ verifies "55H".toLower = true := by
  obtain ⟨n, body, -, -, hcheck⟩ := check_of_mint mint_stamping ofValue_stamping rfl
  obtain ⟨-, -, hlower⟩ := hcheck rfl
  exact ⟨⟨_, mint_stamping⟩, by decide +kernel, hlower nofun⟩

/-- What is minted in upper case need not end with its check character. -/
theorem not_forall_verifies_of_mint :
    ¬ ∀ (minter : Minter) (template : Template) (scope : Value) (s t : Site) (minted : String),
      (minter.mint scope).outcome s = (.ok minted, t) →
      Template.ofValue minter.template = .ok template → template.checked = true →
      verifies minted = true := by
  intro h
  have hverifies := h _ _ _ _ _ _ mint_stamping ofValue_stamping rfl
  revert hverifies
  decide +kernel

end Minter

end PersistentId
