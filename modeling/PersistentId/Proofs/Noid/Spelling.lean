import Mathlib.Data.List.Forall2
import Mathlib.Data.Nat.Digits.Lemmas
import PersistentId.Proofs.Noid.Room

/-!
# Numbers at places

The places of a mask are those of a number in mixed radix. What `renderPlaces` makes of a number is
how often the number exceeds the room, and one character of its alphabet for each place (`Spelled`);
`spelledNumber` reads the characters back, so that from both of them the number can be told, and
both can be anything (`renderPlaces_add_spelledNumber`, `spelledNumber_renderPlaces`).

What `growLeft` puts in front is the `numeral` of a number at the first place: the characters of its
`Nat.digits`, the first of which is not zero. Every such text is the numeral of just one number
(`exists_numeral_eq`, `numeral_injective`).
-/

namespace PersistentId.Noid

variable {place : Place} {places : List Place} {c : Char} {cs : List Char} {n k : Nat}

/-! ## Characters -/

theorem symbol_mem_alphabet (h : n < place.size) : place.symbol n ∈ place.alphabet := by
  rw [Place.symbol, ← List.getElem_eq_getD (h := h)]
  exact List.getElem_mem h

theorem ordinal_lt_size (h : c ∈ place.alphabet) : ordinal c < place.size := by
  have hall : place.alphabet.all (fun c => ordinal c < place.size) = true := by
    cases place <;> decide
  exact of_decide_eq_true (List.all_eq_true.1 hall c h)

theorem symbol_ordinal (h : c ∈ place.alphabet) : place.symbol (ordinal c) = c := by
  have hall : place.alphabet.all (fun c => place.symbol (ordinal c) = c) = true := by
    cases place <;> decide
  exact of_decide_eq_true (List.all_eq_true.1 hall c h)

theorem ordinal_symbol (h : n < place.size) : ordinal (place.symbol n) = n := by
  have hall : ∀ place : Place, ∀ n < place.size, ordinal (place.symbol n) = n := by
    rintro (_ | _) <;> decide
  exact hall place n h

theorem mod_size_lt (place : Place) (n : Nat) : n % place.size < place.size :=
  Nat.mod_lt n (Nat.lt_of_succ_lt place.one_lt_size)

/-! ## Places -/

/-- There is one character for each place, of its alphabet. -/
abbrev Spelled (cs : List Char) (places : List Place) : Prop :=
  List.Forall₂ (fun c (place : Place) => c ∈ place.alphabet) cs places

/-- The number that characters stand for at places. -/
def spelledNumber : List Place → List Char → Nat
  | _ :: places, c :: cs => ordinal c * room places + spelledNumber places cs
  | _, _ => 0

theorem spelled_renderPlaces (places : List Place) (n : Nat) :
    Spelled (renderPlaces places n).2 places := by
  induction places with
  | nil => exact .nil
  | cons place places ih => exact .cons (symbol_mem_alphabet (mod_size_lt place _)) ih

/-- The characters stand for what the number exceeds a multiple of the room by. -/
theorem spelledNumber_renderPlaces (places : List Place) (n : Nat) :
    room places * (n / room places) + spelledNumber places (renderPlaces places n).2 = n := by
  rw [← fst_renderPlaces]
  induction places with
  | nil => simp [room, spelledNumber, renderPlaces]
  | cons place places ih =>
    simp only [renderPlaces, spelledNumber, room_cons, ordinal_symbol (mod_size_lt place _)]
    calc place.size * room places * ((renderPlaces places n).1 / place.size) +
          ((renderPlaces places n).1 % place.size * room places +
            spelledNumber places (renderPlaces places n).2)
        = room places * (place.size * ((renderPlaces places n).1 / place.size) +
            (renderPlaces places n).1 % place.size) +
            spelledNumber places (renderPlaces places n).2 := by ring
      _ = n := by rw [Nat.div_add_mod, ih]

/-- **Whatever characters stand at the places are written for some number**, the number of times
that it exceeds the room being any. -/
theorem renderPlaces_add_spelledNumber (h : Spelled cs places) (k : Nat) :
    renderPlaces places (room places * k + spelledNumber places cs) = (k, cs) := by
  induction h generalizing k with
  | nil => simp [room, spelledNumber, renderPlaces]
  | @cons c place cs places hc _ ih =>
    have hsplit : room (place :: places) * k + spelledNumber (place :: places) (c :: cs) =
        room places * (place.size * k + ordinal c) + spelledNumber places cs := by
      rw [room_cons, spelledNumber]
      ring
    have hlt := ordinal_lt_size hc
    rw [hsplit, renderPlaces, ih]
    dsimp only
    rw [Nat.mul_add_mod, Nat.mod_eq_of_lt hlt, Nat.mul_add_div (by omega), Nat.div_eq_of_lt hlt,
      Nat.add_zero, symbol_ordinal hc]

theorem spelledNumber_lt (h : Spelled cs places) : spelledNumber places cs < room places := by
  have hrendered := congrArg Prod.fst (renderPlaces_add_spelledNumber h 0)
  rw [Nat.mul_zero, Nat.zero_add, fst_renderPlaces] at hrendered
  exact (Nat.div_eq_zero_iff_lt (room_pos places)).1 hrendered

/-! ## Growing to the left -/

/-- The characters of a place for a number, as many as it takes and none for zero. -/
def numeral (place : Place) (n : Nat) : List Char :=
  ((Nat.digits place.size n).map place.symbol).reverse

@[simp]
theorem numeral_zero (place : Place) : numeral place 0 = [] := by
  rw [numeral, Nat.digits_zero]
  rfl

theorem numeral_of_pos (place : Place) (h : 0 < n) :
    numeral place n = numeral place (n / place.size) ++ [place.symbol (n % place.size)] := by
  rw [numeral, Nat.digits_def' place.one_lt_size h, List.map_cons, List.reverse_cons]
  rfl

/-- With fuel for as many binary digits the whole numeral is put in front. -/
theorem growLeft_eq (place : Place) {fuel n : Nat} (h : n < 2 ^ fuel) (cs : List Char) :
    growLeft place fuel n cs = numeral place n ++ cs := by
  induction fuel generalizing n cs with
  | zero =>
    obtain rfl : n = 0 := by omega
    rw [numeral_zero]
    rfl
  | succ fuel ih =>
    rw [growLeft]
    split
    · next hzero => rw [hzero, numeral_zero, List.nil_append]
    · next hne =>
      have hhalf : n / place.size ≤ n / 2 := Nat.div_le_div_left place.one_lt_size Nat.two_pos
      have hdiv : n / place.size < 2 ^ fuel := by omega
      rw [ih hdiv, numeral_of_pos place (Nat.pos_of_ne_zero hne), List.append_assoc]
      rfl

/-- Characters of a place the first of which is not zero. -/
structure IsNumeral (place : Place) (cs : List Char) : Prop where
  mem : ∀ c ∈ cs, c ∈ place.alphabet
  head : cs.head? ≠ some '0'

/-- The ordinals of a numeral are the digits of its number. -/
theorem map_ordinal_numeral (place : Place) (n : Nat) :
    (numeral place n).reverse.map ordinal = Nat.digits place.size n := by
  rw [numeral, List.reverse_reverse, List.map_map]
  calc (Nat.digits place.size n).map (ordinal ∘ place.symbol)
      = (Nat.digits place.size n).map id := List.map_congr_left fun digit hdigit =>
        ordinal_symbol (Nat.digits_lt_base place.one_lt_size hdigit)
    _ = Nat.digits place.size n := List.map_id _

theorem numeral_injective (place : Place) : Function.Injective (numeral place) := by
  intro m n h
  apply (Nat.digits.injective place.size)
  rw [← map_ordinal_numeral, ← map_ordinal_numeral, h]

theorem isNumeral_numeral (place : Place) (n : Nat) : IsNumeral place (numeral place n) where
  mem c hc := by
    obtain ⟨digit, hdigit, rfl⟩ := List.mem_map.1 (List.mem_reverse.1 hc)
    exact symbol_mem_alphabet (Nat.digits_lt_base place.one_lt_size hdigit)
  head := by
    intro h
    have hlast : (Nat.digits place.size n).getLast? = some 0 := by
      rw [← map_ordinal_numeral, List.getLast?_map, List.getLast?_reverse, h]
      rfl
    have hne : n ≠ 0 := by
      rintro rfl
      rw [numeral_zero] at h
      cases h
    rw [List.getLast?_eq_some_getLast (Nat.digits_ne_nil_iff_ne_zero.2 hne)] at hlast
    exact Nat.getLast_digit_ne_zero place.size hne (Option.some.inj hlast)

/-- **Every text of characters of a place that does not begin with zero is a numeral.** -/
theorem exists_numeral_eq (h : IsNumeral place cs) : ∃ n, numeral place n = cs := by
  have hlt : ∀ digit ∈ cs.reverse.map ordinal, digit < place.size := by
    intro digit hdigit
    obtain ⟨c, hc, rfl⟩ := List.mem_map.1 hdigit
    exact ordinal_lt_size (h.mem c (List.mem_reverse.1 hc))
  have hlast : ∀ hne : cs.reverse.map ordinal ≠ [], (cs.reverse.map ordinal).getLast hne ≠ 0 := by
    intro hne hzero
    have hsome := List.getLast?_eq_some_getLast hne
    rw [hzero, List.getLast?_map, List.getLast?_reverse, Option.map_eq_some_iff] at hsome
    obtain ⟨c, hc, hzero⟩ := hsome
    refine h.head (hc.trans ?_)
    rw [← symbol_ordinal (h.mem c (List.mem_of_head? hc)), hzero]
    cases place <;> rfl
  refine ⟨Nat.ofDigits place.size (cs.reverse.map ordinal), ?_⟩
  rw [numeral, Nat.digits_ofDigits _ place.one_lt_size _ hlt hlast, List.map_map,
    List.map_reverse, List.reverse_reverse]
  calc cs.map (place.symbol ∘ ordinal)
      = cs.map id := List.map_congr_left fun c hc => symbol_ordinal (h.mem c hc)
    _ = cs := List.map_id _

end PersistentId.Noid
