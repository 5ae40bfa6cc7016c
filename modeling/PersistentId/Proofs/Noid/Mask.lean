import Mathlib.Data.List.DropRight
import Mathlib.Data.Set.Function
import PersistentId.Proofs.Noid.Spelling
import PersistentId.Proofs.Text.Search

/-!
# Rendering is a bijection

A `Mask` is a template by its parts: what stands before the last point, the generator, the places,
of which there is at least one, and whether a check mark follows. These are the templates that do
not end with a line feed (`Mask.parse_text`, `Mask.exists_of_parse`).

A mask has `numbers`, those below its capacity or all of them if it is unbounded, and `words`: the
lead, one character for each place and the check character if it is asked for, where an unbounded
mask has further characters of its first place in front. Rendering makes one word of every number,
different ones of different numbers, and all of them (`bijOn_render`). They can be told apart in
upper case as well, because the lead is the same in all and no two extended digits have the same
upper case.
-/

namespace PersistentId.Noid

open PersistentId.Action

/-! ## Masks -/

/-- The letter of a place in a mask. -/
def Place.letter : Place → Char
  | .digit => 'd'
  | .extended => 'e'

@[simp]
theorem Place.ofLetter_letter (place : Place) : ofLetter place.letter = place := by
  cases place <;> rfl

theorem Place.letter_ofLetter {c : Char} (h : isPlaceLetter c = true) :
    (ofLetter c).letter = c := by
  rw [isPlaceLetter, Bool.or_eq_true, decide_eq_true_eq, decide_eq_true_eq] at h
  rcases h with rfl | rfl <;> rfl

theorem isPlaceLetter_letter (place : Place) : isPlaceLetter place.letter = true := by
  cases place <;> rfl

/-- The letter of a generator in a mask. -/
def Generator.letter : Generator → Char
  | .random => 'r'
  | .sequence => 's'
  | .unbounded => 'z'

theorem Generator.ofLetter?_eq_some_iff {c : Char} {generator : Generator} :
    ofLetter? c = some generator ↔ c = generator.letter := by
  constructor
  · unfold ofLetter?
    split
    all_goals
      intro h
      cases h
      try rfl
  · rintro rfl
    cases generator <;> rfl

/-- A template that ends with its places or a check mark. -/
structure Mask where
  /-- What stands before the last point, if there is one. -/
  lead? : Option String := none
  generator : Generator
  first : Place
  others : List Place := []
  checked : Bool := false
  deriving DecidableEq, Repr

namespace Mask

variable {m : Mask} {n : Nat} {cs ds : List Char}

def places (m : Mask) : List Place :=
  m.first :: m.others

/-- What every word of a mask begins with. -/
def lead (m : Mask) : List Char :=
  (m.lead?.getD "").toList

/-- The letters behind the generator. -/
def body (m : Mask) : List Char :=
  m.places.map Place.letter ++ if m.checked then ['k'] else []

/-- The template as it is written. -/
def text (m : Mask) : String :=
  m.lead?.elim "" (· ++ ".") ++ String.ofList (m.generator.letter :: m.body)

/-- The template that is read. -/
def template (m : Mask) : Template :=
  ⟨m.text, m.lead, m.generator, m.body⟩

theorem isPlaceLetter_of_mem (places : List Place) :
    ∀ c ∈ places.map Place.letter, isPlaceLetter c = true := by
  intro c hc
  obtain ⟨place, -, rfl⟩ := List.mem_map.1 hc
  exact isPlaceLetter_letter place

theorem isBody_body (m : Mask) : isBody m.body = true := by
  have hletters := isPlaceLetter_of_mem m.places
  rw [isBody, body, List.takeWhile_append_of_pos hletters, List.dropWhile_append_of_pos hletters]
  cases m.checked <;> rfl

/-- No point stands in a mask. -/
theorem point_notMem (m : Mask) : '.' ∉ m.generator.letter :: m.body := by
  rw [List.mem_cons, body, List.mem_append, not_or, not_or]
  refine ⟨?_, fun h => ?_, ?_⟩
  · cases m.generator <;> decide
  · exact absurd (isPlaceLetter_of_mem m.places _ h) (by decide)
  · cases m.checked <;> decide

theorem split_text (m : Mask) :
    Template.split m.text.toList = (m.lead, m.generator.letter :: m.body) := by
  have hpoint := m.point_notMem
  rw [Template.split, text, lead]
  cases m.lead? with
  | none => simp [Text.cutLast_eq_none_iff.2 hpoint]
  | some lead => simp [Text.cutLast_append lead.toList hpoint]

/-- **A mask is read as the template with its parts.** -/
theorem parse_text (m : Mask) : Template.parse m.text = .ok m.template := by
  rw [Template.parse, m.split_text]
  simp only [Generator.ofLetter?_eq_some_iff.2 rfl, m.isBody_body, if_true]
  rfl

/-- There is no check mark among the letters of places. -/
theorem dropEnd_of_letters {letters : List Char} (h : ∀ c ∈ letters, isPlaceLetter c = true) :
    Text.dropEnd (· = 'k') letters = letters := by
  refine List.rdropWhile_eq_self_iff.2 fun hne hk => ?_
  have hletter := h _ (List.getLast_mem hne)
  rw [of_decide_eq_true hk] at hletter
  cases hletter

/-- The check mark is no place. -/
theorem dropEnd_body (m : Mask) : Text.dropEnd (· = 'k') m.body = m.places.map Place.letter := by
  have hkept := dropEnd_of_letters (isPlaceLetter_of_mem m.places)
  rw [body]
  cases m.checked with
  | true => rw [if_pos rfl, Text.dropEnd_concat, if_pos (by rfl), hkept]
  | false => rw [if_neg Bool.false_ne_true, List.append_nil, hkept]

@[simp]
theorem places_template (m : Mask) : m.template.places = m.places := by
  rw [Template.places, template, dropEnd_body, List.map_map]
  exact (List.map_congr_left fun place _ => place.ofLetter_letter).trans (List.map_id _)

@[simp]
theorem checked_template (m : Mask) : m.template.checked = m.checked := by
  rw [Template.checked, template, body]
  cases m.checked with
  | true => simp
  | false =>
    rw [if_neg Bool.false_ne_true, List.append_nil, decide_eq_false_iff_not]
    intro hk
    have hletter := isPlaceLetter_of_mem m.places _ (List.mem_of_getLast? hk)
    cases hletter

theorem exists_of_isBody {body : List Char} (h : isBody body = true)
    (hfeed : body.getLast? ≠ some '\n') : ∃ (first : Place) (others : List Place) (checked : Bool),
      body = (first :: others).map Place.letter ++ if checked then ['k'] else [] := by
  rw [isBody, Bool.and_eq_true, Bool.not_eq_true', List.isEmpty_eq_false_iff] at h
  obtain ⟨hne, htail⟩ := h
  have hsplit := List.takeWhile_append_dropWhile (p := isPlaceLetter) (l := body)
  have hletters : ((body.takeWhile isPlaceLetter).map Place.ofLetter).map Place.letter =
      body.takeWhile isPlaceLetter := by
    rw [List.map_map]
    refine (List.map_congr_left fun c hc => ?_).trans (List.map_id _)
    exact Place.letter_ofLetter (List.mem_takeWhile_imp hc)
  obtain ⟨first, others, hplaces⟩ :=
    List.exists_cons_of_ne_nil (fun h => hne (List.map_eq_nil_iff.1 h))
  rw [hplaces] at hletters
  simp only [List.contains_iff_mem, List.mem_cons, List.not_mem_nil, or_false] at htail
  rcases htail with htail | htail | htail | htail
  · exact ⟨first, others, false, hsplit.symm.trans (by rw [hletters, htail]; rfl)⟩
  · exact ⟨first, others, true, hsplit.symm.trans (by rw [hletters, htail]; rfl)⟩
  all_goals
    rw [← hsplit, htail] at hfeed
    simp at hfeed

/-- The mask stands behind the last point, or is the whole template. -/
theorem exists_of_split {text : String} {lead mask : List Char}
    (h : Template.split text.toList = (lead, mask)) :
    ∃ lead? : Option String, text = lead?.elim "" (· ++ ".") ++ String.ofList mask := by
  rw [Template.split] at h
  cases hcut : Text.cutLast '.' text.toList with
  | none =>
    rw [hcut, Option.getD_none] at h
    obtain ⟨-, rfl⟩ := Prod.mk.inj h
    exact ⟨none, by simp⟩
  | some found =>
    rw [hcut, Option.getD_some] at h
    rw [h] at hcut
    refine ⟨some (String.ofList lead), ?_⟩
    rw [← String.toList_inj, (Text.eq_append_of_cutLast hcut).1]
    simp

/-- A template that is read consists of what stands before the last point, the letter of its
generator and its body. -/
theorem split_of_parse {text : String} {template : Template}
    (h : Template.parse text = .ok template) :
    template.text = text ∧
      Template.split text.toList =
        (template.lead, template.generator.letter :: template.body) ∧
      isBody template.body = true := by
  rcases hsplit : Template.split text.toList with ⟨lead, mask⟩
  rw [Template.parse, hsplit] at h
  cases mask with
  | nil => cases h
  | cons c body =>
    dsimp only at h
    split at h
    · next generator hgenerator =>
      split at h
      · next hbody =>
        cases h
        obtain rfl := Generator.ofLetter?_eq_some_iff.1 hgenerator
        exact ⟨rfl, rfl, hbody⟩
      · cases h
    · cases h

/-- A template ends as its body does. -/
theorem getLast?_of_parse {text : String} {template : Template}
    (h : Template.parse text = .ok template) :
    text.toList.getLast? = template.body.getLast? := by
  obtain ⟨-, hsplit, hbody⟩ := split_of_parse h
  obtain ⟨lead?, htext⟩ := exists_of_split hsplit
  have hne : template.body ≠ [] := by
    intro hnil
    rw [hnil] at hbody
    cases hbody
  rw [htext, String.toList_append, String.toList_ofList,
    List.getLast?_append_of_ne_nil _ (List.cons_ne_nil _ _), ← List.singleton_append,
    List.getLast?_append_of_ne_nil _ hne]

/-- **Every template that can be read and does not end with a line feed is a mask.** -/
theorem exists_of_parse {text : String} {template : Template}
    (h : Template.parse text = .ok template) (hfeed : text.toList.getLast? ≠ some '\n') :
    ∃ m : Mask, m.text = text := by
  obtain ⟨-, hsplit, hbody⟩ := split_of_parse h
  obtain ⟨lead?, htext⟩ := exists_of_split hsplit
  rw [getLast?_of_parse h] at hfeed
  obtain ⟨first, others, checked, hletters⟩ := exists_of_isBody hbody hfeed
  refine ⟨⟨lead?, template.generator, first, others, checked⟩, htext.symm ▸ ?_⟩
  rw [hletters]
  rfl

/-! ## Numbers and words -/

/-- The product of the sizes of the places. -/
def capacity (m : Mask) : Nat :=
  10 ^ m.places.count .digit * 29 ^ m.places.count .extended

/-- The numbers that a mask is for. -/
def numbers (m : Mask) : Set Nat :=
  {n | n < m.capacity ∨ m.generator = .unbounded}

/-- What is written with the check character behind it, if the mask asks for it. -/
def ending (m : Mask) (cs : List Char) : List Char :=
  if m.checked then cs ++ [checkCharacter cs] else cs

/-- The texts of the form of a mask: the lead, one character for each place, and the check
character. An unbounded mask has any number of further characters of its first place in front, the
first of which is no zero. -/
def words (m : Mask) : Set String :=
  {s | ∃ more cs, IsNumeral m.first more ∧ (m.generator ≠ .unbounded → more = []) ∧
    Spelled cs m.places ∧ s = String.ofList (m.ending (m.lead ++ (more ++ cs)))}

theorem room_eq (places : List Place) :
    room places = 10 ^ places.count .digit * 29 ^ places.count .extended := by
  induction places with
  | nil => rfl
  | cons place places ih =>
    rw [room_cons, ih]
    cases place with
    | digit =>
      rw [List.count_cons_self, List.count_cons_of_ne (by decide), Nat.pow_succ]
      show 10 * _ = _
      ring
    | extended =>
      rw [List.count_cons_self, List.count_cons_of_ne (by decide), Nat.pow_succ]
      show 29 * _ = _
      ring

theorem capacity_eq_room (m : Mask) : m.capacity = room m.places :=
  (room_eq m.places).symm

/-- A template is drawn from as many numbers as its mask has room for. -/
theorem capacity_template (m : Mask) : m.template.capacity = m.capacity := by
  have hletters : m.body.filter isPlaceLetter = Text.dropEnd (· = 'k') m.body := by
    rw [← filter_dropEnd_mark, dropEnd_body]
    exact List.filter_eq_self.2 (isPlaceLetter_of_mem m.places)
  calc m.template.capacity
      = room ((m.body.filter isPlaceLetter).map Place.ofLetter) := m.template.capacity_eq_room
    _ = room m.template.places := by rw [hletters]; rfl
    _ = m.capacity := by rw [places_template, capacity_eq_room]

/-! ## Rendering -/

/-- What stands between the lead and the check character for a number. -/
def digits (m : Mask) (n : Nat) : List Char :=
  numeral m.first (n / room m.places) ++ (renderPlaces m.places n).2

/-- A template is rendered like a mask: it has the same places between the same lead and the check
character, if there is one. -/
structure Renders (m : Mask) (template : Template) : Prop where
  lead : template.lead = m.lead
  generator : template.generator = m.generator
  places : template.places = m.places
  checked : template.checked = m.checked

theorem renders_template (m : Mask) : m.Renders m.template where
  lead := rfl
  generator := rfl
  places := m.places_template
  checked := m.checked_template

/-- **Rendering writes the digits of a number** between the lead and the check character. -/
theorem Renders.render_eq {text : String} {template : Template} (hm : m.Renders template)
    (h : Template.parse text = .ok template) (hn : n ∈ m.numbers) :
    render (.str text) (.int n) = .ok (String.ofList (m.ending (m.lead ++ m.digits n))) := by
  have hbody : template.renderBody n = .ok (m.lead ++ m.digits n) := by
    simp only [Template.renderBody, hm.places, hm.lead, hm.generator, fst_renderPlaces, digits]
    split
    · next hrest => rw [hrest, numeral_zero, List.nil_append]
    · next hrest =>
      have hunbounded : m.generator = .unbounded := by
        refine hn.resolve_left fun hlt => hrest ?_
        rw [capacity_eq_room] at hlt
        exact Nat.div_eq_of_lt hlt
      simp only [hunbounded, growLeft_eq _ Nat.lt_log2_self]
      rfl
  have hint : (Value.int n).asInt = .ok (n : Int) := rfl
  have hvalue : Template.ofValue (.str text) = .ok template := h
  rw [render, hvalue, ok_bind, hint, ok_bind, Template.render,
    if_neg (Int.not_lt.2 (Int.natCast_nonneg n)), Int.toNat_natCast, hbody, hm.checked]
  rfl

theorem render_eq (hn : n ∈ m.numbers) :
    render (.str m.text) (.int n) = .ok (String.ofList (m.ending (m.lead ++ m.digits n))) :=
  m.renders_template.render_eq m.parse_text hn

theorem digits_injective (m : Mask) : Function.Injective m.digits := by
  intro k n h
  have hlength : (renderPlaces m.places k).2.length = (renderPlaces m.places n).2.length := by
    rw [length_renderPlaces, length_renderPlaces]
  obtain ⟨hmore, hplaces⟩ := List.append_inj' h hlength
  rw [← spelledNumber_renderPlaces m.places k, ← spelledNumber_renderPlaces m.places n, hplaces,
    numeral_injective _ hmore]

theorem ending_injective (m : Mask) : Function.Injective m.ending := by
  intro cs ds h
  rw [ending, ending] at h
  split at h
  · exact (List.append_inj' h rfl).1
  · exact h

theorem mapsTo_render (m : Mask) :
    Set.MapsTo (fun n : Nat => render (.str m.text) (.int n)) m.numbers (.ok '' m.words) := by
  intro n hn
  refine ⟨_, ⟨numeral m.first (n / room m.places), (renderPlaces m.places n).2,
    isNumeral_numeral .., fun hbounded => ?_, spelled_renderPlaces .., rfl⟩, (render_eq hn).symm⟩
  have hlt := hn.resolve_right hbounded
  rw [capacity_eq_room] at hlt
  rw [Nat.div_eq_of_lt hlt, numeral_zero]

theorem injOn_render (m : Mask) :
    Set.InjOn (fun n : Nat => render (.str m.text) (.int n)) m.numbers := by
  intro k hk n hn h
  simp only [render_eq hk, render_eq hn, Except.ok.injEq, String.ofList_inj] at h
  exact m.digits_injective (List.append_cancel_left (m.ending_injective h))

theorem surjOn_render (m : Mask) :
    Set.SurjOn (fun n : Nat => render (.str m.text) (.int n)) m.numbers (.ok '' m.words) := by
  rintro _ ⟨_, ⟨more, cs, hmore, hbounded, hcs, rfl⟩, rfl⟩
  obtain ⟨k, rfl⟩ := exists_numeral_eq hmore
  have hplaces := renderPlaces_add_spelledNumber hcs k
  have hlt := spelledNumber_lt hcs
  have hquotient : (room m.places * k + spelledNumber m.places cs) / room m.places = k := by
    rw [← fst_renderPlaces, hplaces]
  have hn : room m.places * k + spelledNumber m.places cs ∈ m.numbers := by
    by_cases hg : m.generator = .unbounded
    · exact .inr hg
    · left
      have hk : k = 0 := numeral_injective m.first ((hbounded hg).trans (numeral_zero _).symm)
      rw [capacity_eq_room, hk]
      omega
  refine ⟨_, hn, ?_⟩
  dsimp only
  rw [render_eq hn, digits, hplaces, hquotient]

/-! ## Upper case -/

theorem upper_ofList (h : ∀ c ∈ cs, c ∈ extendedDigits) :
    Text.upper (String.ofList cs) = String.ofList (cs.map Char.toUpper) := by
  have hascii : extendedDigits.all (fun c => c.toNat < 128) = true := by decide
  rw [Text.upper, String.toList_ofList, List.map_eq_flatMap]
  congr 1
  exact List.flatMap_congr fun c hc =>
    Text.upperChar_ascii (of_decide_eq_true (List.all_eq_true.1 hascii c (h c hc)))

/-- No two extended digits have the same upper case. -/
theorem eq_of_upper_eq {start : String} (hcs : ∀ c ∈ cs, c ∈ extendedDigits)
    (hds : ∀ c ∈ ds, c ∈ extendedDigits)
    (h : Text.upper (start ++ String.ofList cs) = Text.upper (start ++ String.ofList ds)) :
    cs = ds := by
  have hlower : extendedDigits.all (fun c => c.toUpper.toLower = c) = true := by decide
  have hback : ∀ es : List Char, (∀ c ∈ es, c ∈ extendedDigits) →
      (es.map Char.toUpper).map Char.toLower = es := by
    intro es hes
    have hsame : ∀ c ∈ es, (Char.toLower ∘ Char.toUpper) c = id c := fun c hc =>
      of_decide_eq_true (List.all_eq_true.1 hlower c (hes c hc))
    rw [List.map_map, List.map_congr_left hsame, List.map_id]
  rw [Text.upper_append, Text.upper_append, String.append_right_inj, upper_ofList hcs,
    upper_ofList hds, String.ofList_inj] at h
  rw [← hback cs hcs, ← hback ds hds, h]

theorem injOn_upper_render (m : Mask) :
    Set.InjOn (fun n : Nat => (render (.str m.text) (.int n)).map Text.upper) m.numbers := by
  have hexists : ∀ n ∈ m.numbers, ∃ cs, render (.str m.text) (.int n) =
      .ok (String.ofList m.lead ++ String.ofList cs) ∧ ∀ c ∈ cs, c ∈ extendedDigits := by
    intro n hn
    refine exists_of_render m.parse_text (Int.natCast_nonneg n) ?_
    rw [Template.Holds, capacity_template]
    exact hn
  intro k hk n hn h
  obtain ⟨cs, hcs, hdigits⟩ := hexists k hk
  obtain ⟨ds, hds, hdigits'⟩ := hexists n hn
  dsimp only at h
  rw [hcs, hds] at h
  have hsame : cs = ds := eq_of_upper_eq hdigits hdigits' (Except.ok.inj h)
  refine m.injOn_render hk hn ?_
  dsimp only
  rw [hcs, hds, hsame]

end Mask

/-! ## Decimal numerals -/

theorem numeral_append_symbol (n : Nat) :
    numeral .digit (n / 10) ++ [Place.digit.symbol (n % 10)] = Nat.toDigits 10 n := by
  have hdigit : ∀ i < 10, Place.digit.symbol i = i.digitChar := by decide
  -- on the number without its last digit
  induction n using Nat.strong_induction_on with
  | _ n ih =>
    rw [hdigit _ (Nat.mod_lt n (by decide))]
    by_cases h : n < 10
    · rw [Nat.toDigits_of_lt_base h, Nat.div_eq_of_lt h, numeral_zero, Nat.mod_eq_of_lt h]
      rfl
    · have hpos : 0 < n / 10 := Nat.div_pos (by omega) (by decide)
      rw [Nat.toDigits_of_base_le (by decide) (by omega), numeral_of_pos _ hpos,
        ← ih (n / 10) (by omega)]
      rfl

/-- The template for decimal numerals. -/
def decimal : Mask :=
  { generator := .unbounded, first := .digit }

theorem render_zd (n : Nat) : render (.str "zd") (.int n) = .ok (toString n) := by
  have hdecimal : decimal.text = "zd" := by decide
  have hrender := decimal.render_eq (n := n) (.inr rfl)
  have hdigits : decimal.ending (decimal.lead ++ decimal.digits n) = Nat.toDigits 10 n :=
    numeral_append_symbol n
  rw [hdecimal, hdigits] at hrender
  exact hrender

/-- **Rendering is a bijection.** It takes the numbers of a mask to its words, one to one and onto,
and no two of the words have the same upper case. The template `zd` writes a number as its decimal
numeral. -/
theorem bijOn_render :
    (∀ m : Mask,
      Set.BijOn (fun n : Nat => render (.str m.text) (.int n)) m.numbers (.ok '' m.words) ∧
      Set.InjOn (fun n : Nat => (render (.str m.text) (.int n)).map Text.upper) m.numbers) ∧
    ∀ n : Nat, render (.str "zd") (.int n) = .ok (toString n) :=
  ⟨fun m => ⟨⟨m.mapsTo_render, m.injOn_render, m.surjOn_render⟩, m.injOn_upper_render⟩, render_zd⟩

end PersistentId.Noid
