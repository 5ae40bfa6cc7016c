import PersistentId.Proofs.Identifier.Plain
import PersistentId.Proofs.Noid

/-!
# Templates that are not exhausted

The places of a mask hold as many numbers as the product of their sizes says (`room`), and the
capacity of a template is no more than that (`capacity_le_room`), whatever ends the mask. So a
number below the capacity is always rendered, as is any number by an unbounded template
(`exists_of_render`). What is rendered is the lead of the template with extended digits behind it,
which is plain if the lead is.
-/

namespace PersistentId.Noid

open PersistentId.Action

/-! ## Extended digits -/

theorem symbol_mem (place : Place) (n : Nat) : place.symbol n ∈ extendedDigits := by
  have hsub : ∀ c ∈ place.alphabet, c ∈ extendedDigits := by
    cases place
    · exact fun c hc => (List.take_sublist _ _).subset hc
    · exact fun c hc => hc
  rw [Place.symbol, List.getD_eq_getElem?_getD]
  cases hfound : place.alphabet[n]? with
  | none => decide
  | some c => exact hsub c (List.mem_of_getElem? hfound)

theorem mem_of_renderPlaces {places : List Place} {n : Nat} {c : Char}
    (h : c ∈ (renderPlaces places n).2) : c ∈ extendedDigits := by
  induction places generalizing n with
  | nil => cases h
  | cons place places ih =>
    rcases List.mem_cons.1 h with rfl | h
    · exact symbol_mem ..
    · exact ih h

theorem mem_of_growLeft {place : Place} {fuel n : Nat} {cs : List Char} {c : Char}
    (hcs : ∀ c ∈ cs, c ∈ extendedDigits) (h : c ∈ growLeft place fuel n cs) :
    c ∈ extendedDigits := by
  induction fuel generalizing n cs with
  | zero => exact hcs c h
  | succ fuel ih =>
    rw [growLeft] at h
    split at h
    · exact hcs c h
    · exact ih (List.forall_mem_cons.2 ⟨symbol_mem .., hcs⟩) h

theorem checkCharacter_mem (cs : List Char) : checkCharacter cs ∈ extendedDigits :=
  symbol_mem ..

theorem isPlain_of_extendedDigits {cs : List Char} (h : ∀ c ∈ cs, c ∈ extendedDigits) :
    Part.isPlain (String.ofList cs) = true := by
  have hplain : extendedDigits.all Part.isPlainChar = true := by decide
  rw [List.all_eq_true] at hplain
  rw [Part.isPlain, String.toList_ofList, List.all_eq_true]
  exact fun c hc => hplain c (h c hc)

/-! ## Room -/

/-- How many numbers can be written at the given places. -/
def room (places : List Place) : Nat :=
  (places.map Place.size).foldr (· * ·) 1

@[simp]
theorem room_cons (place : Place) (places : List Place) :
    room (place :: places) = place.size * room places := rfl

theorem room_pos (places : List Place) : 0 < room places := by
  induction places with
  | nil => exact Nat.one_pos
  | cons place places ih => exact Nat.mul_pos (Nat.lt_of_succ_lt place.one_lt_size) ih

/-- What is left of a number is how often it exceeds the room. -/
theorem fst_renderPlaces (places : List Place) (n : Nat) :
    (renderPlaces places n).1 = n / room places := by
  induction places with
  | nil => exact (Nat.div_one n).symm
  | cons place places ih =>
    show (renderPlaces places n).1 / place.size = n / room (place :: places)
    rw [ih, Nat.div_div_eq_div_mul, room_cons, Nat.mul_comm]

/-- Leaving letters out takes no room away that the others have. -/
theorem room_filter_le (p : Char → Bool) (letters : List Char) :
    room ((letters.filter p).map Place.ofLetter) ≤ room (letters.map Place.ofLetter) := by
  induction letters with
  | nil => exact Nat.le_refl _
  | cons c letters ih =>
    rw [List.filter_cons, List.map_cons, room_cons]
    split
    · rw [List.map_cons, room_cons]
      exact Nat.mul_le_mul_left _ ih
    · exact ih.trans (Nat.le_mul_of_pos_left _ (Nat.lt_of_succ_lt (Place.one_lt_size _)))

theorem filter_dropWhile_of_not {p q : Char → Bool} (h : ∀ c, q c = true → p c = false)
    (cs : List Char) : (cs.dropWhile q).filter p = cs.filter p := by
  induction cs with
  | nil => rfl
  | cons c cs ih =>
    rw [List.dropWhile_cons]
    split
    · next hc => rw [ih, List.filter_cons, h c hc, if_neg Bool.false_ne_true]
    · rfl

theorem filter_dropEnd_of_not {p q : Char → Bool} (h : ∀ c, q c = true → p c = false)
    (cs : List Char) : (Text.dropEnd q cs).filter p = cs.filter p := by
  rw [Text.dropEnd, List.filter_reverse, filter_dropWhile_of_not h, List.filter_reverse,
    List.reverse_reverse]

/-- A check mark is no place. -/
theorem filter_dropEnd_mark (cs : List Char) :
    (Text.dropEnd (· = 'k') cs).filter isPlaceLetter = cs.filter isPlaceLetter := by
  refine filter_dropEnd_of_not (fun c hc => ?_) cs
  rw [of_decide_eq_true hc]
  rfl

namespace Template

variable {template : Template} {text : String} {n : Nat}

theorem capacity_eq_room (template : Template) :
    template.capacity = room ((template.body.filter isPlaceLetter).map Place.ofLetter) := by
  rw [capacity, room, List.map_map]
  rfl

theorem capacity_pos (template : Template) : 0 < template.capacity :=
  template.capacity_eq_room ▸ room_pos _

/-- **A template is drawn from no more numbers than there is room for.** -/
theorem capacity_le_room (template : Template) : template.capacity ≤ room template.places := by
  rw [capacity_eq_room, ← filter_dropEnd_mark]
  exact room_filter_le ..

/-- A number that a template renders: below its capacity, or any if it is unbounded. -/
def Holds (template : Template) (n : Nat) : Prop :=
  n < template.capacity ∨ template.generator = .unbounded

theorem exists_of_renderBody (hp : template.places ≠ []) (h : template.Holds n) :
    ∃ cs, template.renderBody n = .ok (template.lead ++ cs) ∧ ∀ c ∈ cs, c ∈ extendedDigits := by
  by_cases hrest : (renderPlaces template.places n).1 = 0
  · refine ⟨(renderPlaces template.places n).2, ?_, fun c hc => mem_of_renderPlaces hc⟩
    rw [renderBody]
    exact if_pos hrest
  · have hunbounded : template.generator = .unbounded := by
      refine h.resolve_left fun hlt => hrest ?_
      rw [fst_renderPlaces]
      exact Nat.div_eq_of_lt (hlt.trans_le template.capacity_le_room)
    obtain ⟨place, places, hplaces⟩ := List.exists_cons_of_ne_nil hp
    refine ⟨growLeft place ((renderPlaces template.places n).1.log2 + 1)
      (renderPlaces template.places n).1 (renderPlaces template.places n).2, ?_,
      fun c hc => mem_of_growLeft (fun d hd => mem_of_renderPlaces hd) hc⟩
    rw [hplaces] at hrest
    simp only [renderBody, hunbounded, hplaces, if_neg hrest]

end Template

/-- **A number that a template holds is rendered**, the lead with extended digits behind it. -/
theorem exists_of_render {template : Template} {text : String} {n : Int}
    (htemplate : Template.parse text = .ok template) (hn : 0 ≤ n) (h : template.Holds n.toNat) :
    ∃ cs, render (.str text) (.int n) = .ok (String.ofList template.lead ++ String.ofList cs) ∧
      ∀ c ∈ cs, c ∈ extendedDigits := by
  have hvalue : Template.ofValue (.str text) = .ok template := htemplate
  obtain ⟨cs, hcs, hdigits⟩ := Template.exists_of_renderBody (Template.places_ne_nil hvalue) h
  have hint : (Value.int n).asInt = .ok n := rfl
  rw [render, hvalue, ok_bind, hint, ok_bind, Template.render, if_neg (Int.not_lt.2 hn), hcs]
  cases template.checked with
  | true =>
    refine ⟨cs ++ [checkCharacter (template.lead ++ cs)], ?_, ?_⟩
    · rw [← String.ofList_append, ← List.append_assoc]
      rfl
    · intro c hc
      rcases List.mem_append.1 hc with hc | hc
      · exact hdigits c hc
      · rw [List.mem_singleton.1 hc]
        exact checkCharacter_mem _
  | false =>
    refine ⟨cs, ?_, hdigits⟩
    rw [← String.ofList_append]
    rfl

/-! ## What was rendered -/

theorem exists_of_renderBody_eq_ok {template : Template} {k : Nat} {cs : List Char}
    (h : template.renderBody k = .ok cs) :
    ∃ ds, cs = template.lead ++ ds ∧ ∀ d ∈ ds, d ∈ extendedDigits := by
  simp only [Template.renderBody] at h
  split at h
  · cases h
    exact ⟨_, rfl, fun d hd => mem_of_renderPlaces hd⟩
  · split at h
    · cases h
      exact ⟨_, rfl, fun d hd => mem_of_growLeft (fun _ he => mem_of_renderPlaces he) hd⟩
    · cases h

/-- **What was rendered is the lead of the template with extended digits behind it**, and the check
character of all that behind it if there is a check mark. -/
theorem exists_digits_of_render {v : Value} {template : Template} {n : Int} {s : String}
    (h : render v (.int n) = .ok s) (htemplate : Template.ofValue v = .ok template) :
    ∃ ds, (∀ d ∈ ds, d ∈ extendedDigits) ∧ s = String.ofList (template.lead ++ ds) ++
      if template.checked then String.singleton (checkCharacter (template.lead ++ ds)) else "" := by
  have hint : (Value.int n).asInt = .ok n := rfl
  rw [render, htemplate, ok_bind, hint, ok_bind, Template.render] at h
  by_cases hn : n < 0
  · rw [if_pos hn] at h
    obtain ⟨_, h, -⟩ := exists_of_bind_eq_ok h
    cases h
  · rw [if_neg hn] at h
    obtain ⟨cs, hcs, h⟩ := exists_of_bind_eq_ok h
    obtain ⟨ds, rfl, hds⟩ := exists_of_renderBody_eq_ok hcs
    refine ⟨ds, hds, (Except.ok.inj h).symm.trans ?_⟩
    split
    · rw [String.singleton_eq_ofList, String.ofList_append]
    · rw [String.append_empty]

/-- What was rendered is plain if the lead of the template is. -/
theorem isPlain_of_render {template : Template} {text s : String} {n : Int}
    (h : render (.str text) (.int n) = .ok s) (htemplate : Template.parse text = .ok template)
    (hlead : Part.isPlain (String.ofList template.lead) = true) : Part.isPlain s = true := by
  have hvalue : Template.ofValue (.str text) = .ok template := htemplate
  obtain ⟨ds, hds, rfl⟩ := exists_digits_of_render h hvalue
  have hbody : Part.isPlain (String.ofList (template.lead ++ ds)) = true := by
    rw [String.ofList_append, Part.isPlain_append, hlead, isPlain_of_extendedDigits hds]
    rfl
  rw [Part.isPlain_append, hbody, Bool.true_and]
  split
  · rw [String.singleton_eq_ofList]
    refine isPlain_of_extendedDigits fun c hc => ?_
    rw [List.mem_singleton.1 hc]
    exact checkCharacter_mem _
  · rfl

end PersistentId.Noid
