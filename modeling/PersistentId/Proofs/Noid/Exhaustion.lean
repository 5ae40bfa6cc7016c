import PersistentId.Proofs.Noid.Mask

/-!
# Where a template is exhausted

A line feed behind a mask is let through, and then it is written as one more place, and so is a
check mark in front of it. This is the one thing by which a template has room for more numbers than
it is drawn from; `Template.overrun` says for how many times as many (`room_places`,
`overrun_eq_one_iff`).

Every template that can be read renders what some mask renders (`exists_renders`). So it renders all
numbers that there is room for, different ones differently (`eq_of_render_eq`), and no other,
unless it is unbounded (`render_eq_error_iff`, `exists_render_eq_ok_iff`).
-/

namespace PersistentId.Noid

open PersistentId.Action

variable {text : String} {template : Template} {n : Nat}

/-! ## Room -/

theorem room_append (places more : List Place) :
    room (places ++ more) = room places * room more := by
  induction places with
  | nil => exact (Nat.one_mul _).symm
  | cons place places ih => rw [List.cons_append, room_cons, ih, room_cons, Nat.mul_assoc]

/-- How many times over a template has room for the numbers that it is drawn from: a line feed at
its end is one more place, and so is a check mark in front of that. -/
def Template.overrun (template : Template) : Nat :=
  match template.body.dropWhile isPlaceLetter with
  | ['\n'] => 29
  | ['k', '\n'] => 29 * 29
  | _ => 1

/-- A body is the letters of places with one of four ends. -/
theorem exists_letters_of_isBody {body : List Char} (h : isBody body = true) :
    ∃ letters tail, body = letters ++ tail ∧ body.dropWhile isPlaceLetter = tail ∧
      (∀ c ∈ letters, isPlaceLetter c = true) ∧
      (tail = [] ∨ tail = ['k'] ∨ tail = ['\n'] ∨ tail = ['k', '\n']) := by
  rw [isBody, Bool.and_eq_true] at h
  refine ⟨body.takeWhile isPlaceLetter, _, List.takeWhile_append_dropWhile.symm, rfl,
    fun c hc => List.mem_takeWhile_imp hc, ?_⟩
  simpa using h.2

/-- **A template has room for so many times its capacity.** -/
theorem room_places (h : isBody template.body = true) :
    room template.places = template.capacity * template.overrun := by
  obtain ⟨letters, tail, hbody, htail, hletters, hcases⟩ := exists_letters_of_isBody h
  have hcapacity : template.capacity = room (letters.map Place.ofLetter) := by
    have hfilter : tail.filter isPlaceLetter = [] := by
      rcases hcases with rfl | rfl | rfl | rfl <;> rfl
    rw [Template.capacity_eq_room, hbody, List.filter_append, hfilter, List.append_nil,
      List.filter_eq_self.2 hletters]
  have hkept := Mask.dropEnd_of_letters hletters
  have hfeed (start : List Char) :
      Text.dropEnd (· = 'k') (start ++ ['\n']) = start ++ ['\n'] := by
    rw [Text.dropEnd_concat]
    rfl
  rw [hcapacity, Template.places, Template.overrun, htail, hbody]
  rcases hcases with rfl | rfl | rfl | rfl
  · rw [List.append_nil, hkept, Nat.mul_one]
  · rw [Text.dropEnd_concat, if_pos (by rfl), hkept]
    exact (Nat.mul_one _).symm
  · rw [hfeed, List.map_append, room_append]
    rfl
  · have hsplit : letters ++ ['k', '\n'] = letters ++ ['k'] ++ ['\n'] := by simp
    rw [hsplit, hfeed, List.map_append, List.map_append, room_append, room_append, Nat.mul_assoc]
    rfl

/-- There is just room for the capacity unless a line feed ends the template. -/
theorem overrun_eq_one_iff (h : Template.parse text = .ok template) :
    template.overrun = 1 ↔ text.toList.getLast? ≠ some '\n' := by
  obtain ⟨-, -, hbody⟩ := Mask.split_of_parse h
  obtain ⟨letters, tail, hsplit, htail, hletters, hcases⟩ := exists_letters_of_isBody hbody
  rw [Mask.getLast?_of_parse h, Template.overrun, htail]
  rcases hcases with rfl | rfl | rfl | rfl
  · rw [List.append_nil] at hsplit
    refine iff_of_true rfl fun hlast => ?_
    have hletter := hletters _ (hsplit ▸ List.mem_of_getLast? hlast)
    cases hletter
  all_goals
    rw [hsplit, List.getLast?_append_of_ne_nil _ (List.cons_ne_nil _ _)]
    decide

/-! ## Rendering -/

/-- **What a template renders is rendered by a mask**, which has no line feed. -/
theorem exists_renders (h : Template.parse text = .ok template) :
    ∃ m : Mask, m.Renders template := by
  have hvalue : Template.ofValue (.str text) = .ok template := h
  obtain ⟨first, others, hplaces⟩ :=
    List.exists_cons_of_ne_nil (Template.places_ne_nil hvalue)
  exact ⟨⟨some (String.ofList template.lead), template.generator, first, others, template.checked⟩,
    by simp [Mask.lead], rfl, hplaces, rfl⟩

namespace Mask

variable {m : Mask}

/-- The numbers of the mask are those that there is room for. -/
theorem Renders.mem_numbers_iff (hm : m.Renders template) :
    n ∈ m.numbers ↔ n < room template.places ∨ template.generator = .unbounded := by
  rw [hm.places, hm.generator, ← capacity_eq_room]
  rfl

/-- A bounded template renders no number that it has no room for. -/
theorem Renders.render_eq_error (hm : m.Renders template) (h : Template.parse text = .ok template)
    (hn : n ∉ m.numbers) : render (.str text) (.int n) = .error (.templateExhausted text) := by
  rw [hm.mem_numbers_iff, not_or, Nat.not_lt] at hn
  obtain ⟨hroom, hbounded⟩ := hn
  have hrest : ¬ n / room template.places = 0 := by
    rw [Nat.div_eq_zero_iff_lt (room_pos _)]
    omega
  have hbody : template.renderBody n = .error (.templateExhausted text) := by
    simp only [Template.renderBody, fst_renderPlaces, if_neg hrest]
    split
    · next hunbounded _ => exact absurd hunbounded hbounded
    · rw [(split_of_parse h).1]
  have hint : (Value.int n).asInt = .ok (n : Int) := rfl
  have hvalue : Template.ofValue (.str text) = .ok template := h
  rw [render, hvalue, ok_bind, hint, ok_bind, Template.render,
    if_neg (Int.not_lt.2 (Int.natCast_nonneg n)), Int.toNat_natCast, hbody]
  rfl

end Mask

/-- **A template is exhausted from its room on, unless it is unbounded.** -/
theorem render_eq_error_iff (h : Template.parse text = .ok template) :
    render (.str text) (.int n) = .error (.templateExhausted text) ↔
      template.generator ≠ .unbounded ∧ template.capacity * template.overrun ≤ n := by
  obtain ⟨m, hm⟩ := exists_renders h
  have hnumbers := hm.mem_numbers_iff (n := n)
  rw [← room_places (Mask.split_of_parse h).2.2]
  by_cases hn : n ∈ m.numbers
  · refine iff_of_false (fun he => ?_) fun ⟨hbounded, hroom⟩ => ?_
    · rw [hm.render_eq h hn] at he
      cases he
    · exact (hnumbers.1 hn).elim (Nat.not_lt.2 hroom) hbounded
  · refine iff_of_true (hm.render_eq_error h hn) ?_
    rw [hnumbers, not_or, Nat.not_lt] at hn
    exact hn.symm

/-- Every other number is rendered. -/
theorem exists_render_eq_ok_iff (h : Template.parse text = .ok template) :
    (∃ s, render (.str text) (.int n) = .ok s) ↔
      template.generator = .unbounded ∨ n < template.capacity * template.overrun := by
  obtain ⟨m, hm⟩ := exists_renders h
  rw [← room_places (Mask.split_of_parse h).2.2, or_comm, ← hm.mem_numbers_iff]
  refine ⟨fun ⟨s, hs⟩ => ?_, fun hn => ⟨_, hm.render_eq h hn⟩⟩
  by_contra hn
  rw [hm.render_eq_error h hn] at hs
  cases hs

/-- No two numbers are rendered alike, also in upper case. -/
theorem eq_of_render_eq {k : Nat} {s : String} (h : Template.parse text = .ok template)
    {f : String → String} (hf : f = id ∨ f = Text.upper)
    (hk : (render (.str text) (.int k)).map f = .ok s)
    (hn : (render (.str text) (.int n)).map f = .ok s) : k = n := by
  obtain ⟨m, hm⟩ := exists_renders h
  have hnumbers : ∀ {i : Nat}, (render (.str text) (.int i)).map f = .ok s →
      i ∈ m.numbers ∧ (render (.str m.text) (.int i)).map f = .ok s := by
    intro i hi
    obtain ⟨w, hw, -⟩ := exists_of_map_eq_ok hi
    have hmem : i ∈ m.numbers := by
      by_contra hout
      rw [hm.render_eq_error h hout] at hw
      cases hw
    exact ⟨hmem, by rw [Mask.render_eq hmem, ← hm.render_eq h hmem, hi]⟩
  obtain ⟨hkmem, hk⟩ := hnumbers hk
  obtain ⟨hnmem, hn⟩ := hnumbers hn
  rcases hf with rfl | rfl
  · have hid : ∀ r : Except Fault String, r.map id = r := fun r => by cases r <;> rfl
    rw [hid] at hk hn
    exact m.injOn_render hkmem hnmem (hk.trans hn.symm)
  · exact m.injOn_upper_render hkmem hnmem (hk.trans hn.symm)

end PersistentId.Noid
