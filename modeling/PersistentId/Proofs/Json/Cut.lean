import PersistentId.Proofs.Json.RoundTrip

/-!
# Documents that are cut off

The reader goes from left to right, so what it has found out before the end of a text does not
change when the text goes on. What it reads in a text `Settles` what it reads in the longer one: a
nesting that is too deep stays too deep, and a part with something behind it that ends a number
(`endsNumber`) is the same part, with more behind it. From this follows for the beginning of a
document that can be read: if it cannot be read itself, then only because something is missing
(`eq_malformed_of_readChars_append`).
-/

namespace PersistentId.Json

/-! ## Where a part ends -/

/-- Whether what follows a number shows that it has ended. -/
def endsNumber : List Char → Bool
  | [] => false
  | c :: s => stops (c :: s)

variable {s rest : List Char}

theorem ne_nil_of_endsNumber (h : endsNumber rest = true) : rest ≠ [] := by
  rintro rfl
  cases h

/-- What follows a number that may go on is not white space. -/
theorem skip_of_not_endsNumber (h : endsNumber rest = false) : skip rest = rest := by
  cases rest with
  | nil => rfl
  | cons c s =>
    refine skip_cons (Bool.eq_false_iff.2 fun hc => ?_) s
    simp only [isSpace, Bool.or_eq_true, decide_eq_true_eq] at hc
    rcases hc with ((rfl | rfl) | rfl) | rfl <;> simp [endsNumber, stops] at h

theorem skip_append_of_ne_nil (h : skip s ≠ []) (more : List Char) :
    skip (s ++ more) = skip s ++ more := by
  rw [skip, List.dropWhile_append, if_neg (by simpa [skip] using h), skip]

/-- A text is white space, or what stands behind the white space stands there in the longer text. -/
theorem skip_cases (s more : List Char) :
    skip s = [] ∨ ∃ c u, skip s = c :: u ∧ skip (s ++ more) = c :: (u ++ more) := by
  cases hs : skip s with
  | nil => exact .inl rfl
  | cons c u => exact .inr ⟨c, u, rfl, by rw [skip_append_of_ne_nil (by simp [hs]), hs]; rfl⟩

/-! ## Texts and numbers -/

theorem readUnits_append {units : List Nat} (h : readUnits s = some (units, rest))
    (more : List Char) : readUnits (s ++ more) = some (units, rest ++ more) := by
  induction s using readUnits.induct generalizing units with
  | case1 => cases h
  | case2 s =>
    cases h
    rfl
  | case3 a b c d s ih =>
    simp only [readUnits, Option.bind_eq_bind, Option.bind_eq_some_iff] at h
    obtain ⟨unit, hunit, ⟨found, rest'⟩, hread, hout⟩ := h
    cases hout
    simp only [List.cons_append, readUnits, hunit, ih hread, Option.bind_eq_bind, Option.bind_some]
  | case4 e s hne ih =>
    rw [readUnits.eq_4 _ _ hne] at h
    simp only [Option.bind_eq_bind, Option.bind_eq_some_iff] at h
    obtain ⟨char, hchar, ⟨found, rest'⟩, hread, hout⟩ := h
    cases hout
    have hu : e ≠ 'u' := by
      rintro rfl
      cases hchar
    rw [List.cons_append, List.cons_append, readUnits.eq_4 _ _ fun _ _ _ _ _ he _ => hu he]
    simp only [hchar, ih hread, Option.bind_eq_bind, Option.bind_some]
  | case5 c s hq hu he hc =>
    rw [readUnits.eq_5 _ _ hq hu he, if_pos hc] at h
    cases h
  | case6 c s hq hu he hc ih =>
    rw [readUnits.eq_5 _ _ hq hu he, if_neg hc] at h
    simp only [Option.bind_eq_bind, Option.bind_eq_some_iff] at h
    obtain ⟨⟨found, rest'⟩, hread, hout⟩ := h
    cases hout
    -- a backslash has nothing behind it here, and then there is no closing quote
    have hslash : c ≠ '\\' := fun e => by
      cases s with
      | nil => cases hread
      | cons d s => exact he d s e rfl
    rw [List.cons_append, readUnits.eq_5 _ _ hq (fun _ _ _ _ _ e _ => hslash e)
      (fun _ _ e _ => hslash e), if_neg hc]
    simp only [ih hread, Option.bind_eq_bind, Option.bind_some]

theorem readText_append {text : String} (h : readText s = some (text, rest)) (more : List Char) :
    readText (s ++ more) = some (text, rest ++ more) := by
  simp only [readText, Option.bind_eq_bind, Option.bind_eq_some_iff] at h ⊢
  obtain ⟨⟨units, rest'⟩, hread, hout⟩ := h
  cases hout
  exact ⟨_, readUnits_append hread more, rfl⟩

theorem spanDigits_append_of_ne_nil {digits : List Char} (h : spanDigits s = (digits, rest))
    (hne : rest ≠ []) (more : List Char) : spanDigits (s ++ more) = (digits, rest ++ more) := by
  obtain ⟨rfl, rfl⟩ := Prod.mk.inj h
  have hend : ¬ (List.dropWhile Char.isDigit s).isEmpty = true := by simpa using hne
  have htake : (List.takeWhile Char.isDigit s).length ≠ s.length := fun hlen => by
    have := congrArg List.length (List.takeWhile_append_dropWhile (p := Char.isDigit) (l := s))
    rw [List.length_append, hlen] at this
    exact hne (List.length_eq_zero_iff.1 (by omega))
  rw [spanDigits, List.takeWhile_append, if_neg htake, List.dropWhile_append, if_neg hend]

theorem readWhole_append_of_ne_nil {digits : List Char} (h : readWhole s = some (digits, rest))
    (hne : rest ≠ []) (more : List Char) :
    readWhole (s ++ more) = some (digits, rest ++ more) := by
  unfold readWhole at h
  split at h
  · cases h
    rfl
  · next hzero =>
    cases hspan : spanDigits s with
    | mk digits' rest' =>
      simp only [hspan] at h
      split at h
      · cases h
      · next hdigits =>
        cases h
        rw [readWhole]
        · rw [spanDigits_append_of_ne_nil hspan hne more]
          simp only [hdigits]
          rfl
        · intro t ht
          cases s with
          | nil =>
            cases hspan
            exact hdigits rfl
          | cons c s =>
            obtain ⟨rfl, -⟩ := List.cons.inj ht
            exact hzero s rfl

theorem readFraction_append_of_ne_nil {digits : List Char} (h : readFraction s = (digits, rest))
    (hne : rest ≠ []) (hpoint : rest.head? ≠ some '.') (more : List Char) :
    readFraction (s ++ more) = (digits, rest ++ more) := by
  unfold readFraction at h
  split at h
  · next s =>
    cases hspan : spanDigits s with
    | mk digits' rest' =>
      simp only [hspan] at h
      split at h
      · cases h
        exact absurd rfl hpoint
      · next hdigits =>
        cases h
        rw [List.cons_append, readFraction, spanDigits_append_of_ne_nil hspan hne more]
        simp only [hdigits]
        rfl
  · cases h
    cases s with
    | nil => exact absurd rfl hne
    | cons c s =>
      rw [List.cons_append, readFraction]
      rintro t ⟨⟩
      exact hpoint rfl

/-- A text that starts with a digit starts with no sign. -/
theorem ne_cons_of_spanDigits {digits : List Char} (h : spanDigits s = (digits, rest))
    (hne : digits.isEmpty = false) {sign : Char} (hsign : sign.isDigit = false)
    (more t : List Char) : s ++ more ≠ sign :: t := by
  rintro heq
  obtain ⟨rfl, -⟩ := Prod.mk.inj h
  cases s with
  | nil => cases hne
  | cons c s =>
    obtain ⟨rfl, -⟩ := List.cons.inj heq
    simp [hsign] at hne

theorem readSigned_append_of_ne_nil {n : Int} (h : readSigned s = some (n, rest))
    (hne : rest ≠ []) (more : List Char) : readSigned (s ++ more) = some (n, rest ++ more) := by
  unfold readSigned at h
  split at h
  all_goals
    generalize hspan : spanDigits _ = span at h
    obtain ⟨digits, rest'⟩ := span
    cases hdigits : digits.isEmpty <;> simp only [hdigits] at h <;> cases h
    have hmore := spanDigits_append_of_ne_nil hspan hne more
  · simp [readSigned, hmore, hdigits]
  · simp [readSigned, hmore, hdigits]
  · rw [readSigned, hmore]
    · simp [hdigits]
    · exact fun t => ne_cons_of_spanDigits hspan hdigits (by decide) more t
    · exact fun t => ne_cons_of_spanDigits hspan hdigits (by decide) more t

theorem readExponent_append_of_endsNumber {n : Option Int} (h : readExponent s = (n, rest))
    (hend : endsNumber rest = true) (more : List Char) :
    readExponent (s ++ more) = (n, rest ++ more) := by
  have hne := ne_nil_of_endsNumber hend
  unfold readExponent at h
  split at h
  · split at h
    · next hread =>
      cases h
      simp [readExponent, readSigned_append_of_ne_nil hread hne more]
    · cases h
      simp [endsNumber, stops] at hend
  · split at h
    · next hread =>
      cases h
      simp [readExponent, readSigned_append_of_ne_nil hread hne more]
    · cases h
      simp [endsNumber, stops] at hend
  · next hlower hupper =>
    cases h
    cases s with
    | nil => exact absurd rfl hne
    | cons c s =>
      rw [List.cons_append, readExponent]
      · rintro t ⟨⟩
        exact hlower s rfl
      · rintro t ⟨⟩
        exact hupper s rfl

theorem readMagnitude_append {negative : Bool} {v : Value}
    (h : readMagnitude negative s = some (v, rest)) (hend : endsNumber rest = true)
    (more : List Char) : readMagnitude negative (s ++ more) = some (v, rest ++ more) := by
  obtain ⟨⟨whole, s₁⟩, hwhole, h⟩ := Option.bind_eq_some_iff.1 h
  dsimp only at h
  generalize hfraction : readFraction s₁ = fraction at h
  obtain ⟨fraction, s₂⟩ := fraction
  dsimp only at h
  generalize hexponent : readExponent s₂ = exponent at h
  obtain ⟨exponent, s₃⟩ := exponent
  obtain rfl : s₃ = rest := by
    dsimp only at h
    split_ifs at h <;> cases h <;> rfl
  -- what is left in the end neither is nothing nor starts with a point
  have hs₂ : s₂ ≠ [] ∧ s₂.head? ≠ some '.' := by
    constructor
    · rintro rfl
      cases hexponent
      cases hend
    · intro hpoint
      obtain ⟨t, rfl⟩ := List.head?_eq_some_iff.1 hpoint
      cases hexponent
      simp [endsNumber, stops] at hend
  have hs₁ : s₁ ≠ [] := by
    rintro rfl
    cases hfraction
    exact hs₂.1 rfl
  simp only [readMagnitude, readWhole_append_of_ne_nil hwhole hs₁ more,
    readFraction_append_of_ne_nil hfraction hs₂.1 hs₂.2 more,
    readExponent_append_of_endsNumber hexponent hend more, Option.bind_eq_bind, Option.bind_some]
  split_ifs at h ⊢ <;> cases h <;> rfl

theorem readNumber_append {v : Value} (h : readNumber s = some (v, rest))
    (hend : endsNumber rest = true) (more : List Char) :
    readNumber (s ++ more) = some (v, rest ++ more) := by
  unfold readNumber at h
  split at h
  · exact readMagnitude_append h hend more
  · refine readNumber_of_readMagnitude (readMagnitude_append h hend more)

/-! ## What is settled -/

/-- What is read in a text settles what is read in the text with more behind it: a nesting that is
too deep, and a part behind which something shows that it has ended. -/
structure Settles {α : Type} (more : List Char) (short long : Except Flaw (α × List Char)) :
    Prop where
  ok : ∀ a rest, short = .ok (a, rest) → endsNumber rest = true → long = .ok (a, rest ++ more)
  error : ∀ flaw, short = .error flaw → flaw ≠ .malformed → long = .error flaw

namespace Settles

variable {α β : Type} {more : List Char} {short long : Except Flaw (α × List Char)}

theorem malformed (long : Except Flaw (α × List Char)) : Settles more (.error .malformed) long := by
  refine ⟨fun _ _ h => ?_, fun flaw h hne => ?_⟩
  · cases h
  · cases h
    exact absurd rfl hne

theorem of_error (flaw : Flaw) : Settles (α := α) more (.error flaw) (.error flaw) := by
  refine ⟨fun _ _ h => ?_, fun _ h _ => h⟩
  cases h

theorem of_ok (a : α) (rest : List Char) :
    Settles more (.ok (a, rest)) (.ok (a, rest ++ more)) := by
  refine ⟨fun _ _ h _ => ?_, fun _ h => ?_⟩
  · cases h
    rfl
  · cases h

/-- Nothing is settled by a part that may go on. -/
theorem of_not_endsNumber {rest : List Char} (h : endsNumber rest = false) (a : α)
    (long : Except Flaw (α × List Char)) : Settles more (.ok (a, rest)) long := by
  refine ⟨fun _ _ he hend => ?_, fun _ he => ?_⟩
  · cases he
    rw [h] at hend
    cases hend
  · cases he

theorem of_found {short long : Option (α × List Char)}
    (h : ∀ a rest, short = some (a, rest) → endsNumber rest = true →
      long = some (a, rest ++ more)) : Settles more (found short) (found long) := by
  cases hshort : short with
  | none => exact malformed _
  | some part =>
    obtain ⟨a, rest⟩ := part
    cases hend : endsNumber rest with
    | false => exact of_not_endsNumber hend a _
    | true =>
      rw [h a rest hshort hend]
      exact of_ok a rest

theorem map (h : Settles more short long) (f : α → β) :
    Settles more (short.map fun (a, rest) => (f a, rest))
      (long.map fun (a, rest) => (f a, rest)) := by
  cases short with
  | error flaw =>
    by_cases hflaw : flaw = .malformed
    · rw [hflaw]
      exact malformed _
    · rw [h.error flaw rfl hflaw]
      exact of_error flaw
  | ok part =>
    obtain ⟨a, rest⟩ := part
    cases hend : endsNumber rest with
    | false => exact of_not_endsNumber hend _ _
    | true =>
      rw [h.ok a rest rfl hend]
      exact of_ok _ _

theorem bind (h : Settles more short long)
    {next next' : α × List Char → Except Flaw (β × List Char)}
    (hends : ∀ a rest, endsNumber rest = true → Settles more (next (a, rest))
      (next' (a, rest ++ more)))
    (hopen : ∀ a rest long, endsNumber rest = false → Settles more (next (a, rest)) long) :
    Settles more (short >>= next) (long >>= next') := by
  cases short with
  | error flaw =>
    by_cases hflaw : flaw = .malformed
    · rw [hflaw]
      exact malformed _
    · rw [h.error flaw rfl hflaw]
      exact of_error flaw
  | ok part =>
    obtain ⟨a, rest⟩ := part
    cases hend : endsNumber rest with
    | false => exact hopen a rest _ hend
    | true =>
      rw [h.ok a rest rfl hend]
      exact hends a rest hend

end Settles

/-! ## Values -/

theorem readItems_nil (n room : Nat) : readItems n room [] = .error .malformed := by
  cases n with
  | zero => rfl
  | succ n => cases n <;> rfl

theorem readMembers_nil (n room : Nat) : readMembers n room [] = .error .malformed := by
  cases n <;> rfl

theorem readValue_nil (n room : Nat) : readValue n room [] = .error .malformed := by
  cases n <;> rfl

/-- White space in front changes nothing, as nothing is read where nothing else is there. -/
theorem Settles.skip {α : Type} {more : List Char}
    {read read' : List Char → Except Flaw (α × List Char)}
    (h : ∀ s, Settles more (read s) (read' (s ++ more))) (hnil : read [] = .error .malformed)
    (s : List Char) : Settles more (read (skip s)) (read' (skip (s ++ more))) := by
  by_cases hs : Json.skip s = []
  · rw [hs, hnil]
    exact malformed _
  · rw [skip_append_of_ne_nil hs]
    exact h _

/-- A part and what stands behind it and its white space are settled if both are, as nothing is read
behind a part that may go on. -/
theorem Settles.bind_skip {α β : Type} {more : List Char}
    {short long : Except Flaw (α × List Char)} (h : Settles more short long)
    {next next' : α → List Char → Except Flaw (β × List Char)}
    (hnext : ∀ a s, Settles more (next a s) (next' a (s ++ more)))
    (hopen : ∀ a s, endsNumber s = false → next a s = .error .malformed) :
    Settles more
      (do
        let (a, s) ← short
        next a (Json.skip s))
      (do
        let (a, s) ← long
        next' a (Json.skip s)) := by
  refine h.bind (fun a rest _ => skip (hnext a) (hopen a [] rfl) rest) fun a rest long hend => ?_
  dsimp only
  rw [skip_of_not_endsNumber hend, hopen a rest hend]
  exact malformed _

theorem readValue_object {n room : Nat} {s : List Char} (h : (skip s).head? ≠ some '}') :
    readValue (n + 1) (room + 1) ('{' :: s) =
      (readMembers n room (skip s)).map fun (es, rest) => (.map (Table.ofPairs es), rest) := by
  simp only [readValue]
  split
  · next heq => cases heq
  · next heq _ => exact absurd (congrArg List.head? heq) h
  · next heq _ => rw [← Nat.succ.inj heq]

theorem readValue_array {n room : Nat} {s : List Char} (h : (skip s).head? ≠ some ']') :
    readValue (n + 1) (room + 1) ('[' :: s) =
      (readItems n room (skip s)).map fun (vs, rest) => (.list vs, rest) := by
  simp only [readValue]
  split
  · next heq => cases heq
  · next heq _ => exact absurd (congrArg List.head? heq) h
  · next heq _ => rw [← Nat.succ.inj heq]

/-- The items from behind a value on. -/
def itemsBehind (n room : Nat) (v : Value) : List Char → Except Flaw (List Value × List Char)
  | ',' :: s => (readItems n room (skip s)).map fun (vs, rest) => (v :: vs, rest)
  | ']' :: rest => .ok ([v], rest)
  | _ => .error .malformed

theorem readItems_succ (n room : Nat) (s : List Char) :
    readItems (n + 1) room s = (do
      let (v, s) ← readValue n room s
      itemsBehind n room v (skip s)) := by
  rw [readItems]
  rfl

theorem itemsBehind_of_not_endsNumber (n room : Nat) (v : Value) (s : List Char)
    (h : endsNumber s = false) : itemsBehind n room v s = .error .malformed := by
  unfold itemsBehind
  split
  · cases h
  · cases h
  · rfl

/-- The members from behind a value on, the one with this value among them. -/
def membersBehind (n room : Nat) (name : String) (v : Value) :
    List Char → Except Flaw (List (Key × Value) × List Char)
  | ',' :: s => (readMembers n room (skip s)).map fun (es, rest) => ((.str name, v) :: es, rest)
  | '}' :: rest => .ok ([(.str name, v)], rest)
  | _ => .error .malformed

theorem membersBehind_of_not_endsNumber (n room : Nat) (name : String) (v : Value) (s : List Char)
    (h : endsNumber s = false) : membersBehind n room name v s = .error .malformed := by
  unfold membersBehind
  split
  · cases h
  · cases h
  · rfl

/-- The members from behind a name on, the one with this name among them. -/
def membersNamed (n room : Nat) (name : String) :
    List Char → Except Flaw (List (Key × Value) × List Char)
  | ':' :: s => do
    let (v, s) ← readValue n room (skip s)
    membersBehind n room name v (skip s)
  | _ => .error .malformed

theorem readMembers_quote (n room : Nat) (s : List Char) :
    readMembers (n + 1) room ('"' :: s) = (do
      let (name, s) ← found (readText s)
      membersNamed n room name (skip s)) := by
  rw [readMembers]
  rfl

theorem membersNamed_of_not_endsNumber (n room : Nat) (name : String) (s : List Char)
    (h : endsNumber s = false) : membersNamed n room name s = .error .malformed := by
  unfold membersNamed
  split
  · cases h
  · rfl

section

variable {more : List Char} {n n' : Nat}

theorem settles_object
    (h : ∀ room s, Settles more (readMembers n room s) (readMembers n' room (s ++ more)))
    (room : Nat) (s : List Char) : Settles more (readValue (n + 1) room ('{' :: s))
      (readValue (n' + 1) room ('{' :: (s ++ more))) := by
  cases room with
  | zero =>
    simp only [readValue]
    exact .of_error _
  | succ room =>
    rcases skip_cases s more with hs | ⟨c, u, hs, hskip⟩
    · rw [readValue_object (by simp [hs]), hs, readMembers_nil]
      exact .malformed _
    · by_cases hc : c = '}'
      · subst hc
        simp only [readValue, hs, hskip]
        exact .of_ok _ _
      · rw [readValue_object (by simp [hs, hc]), readValue_object (by simp [hskip, hc]), hskip, hs]
        exact (h room (c :: u)).map fun es => Value.map (Table.ofPairs es)

theorem settles_array
    (h : ∀ room s, Settles more (readItems n room s) (readItems n' room (s ++ more)))
    (room : Nat) (s : List Char) : Settles more (readValue (n + 1) room ('[' :: s))
      (readValue (n' + 1) room ('[' :: (s ++ more))) := by
  cases room with
  | zero =>
    simp only [readValue]
    exact .of_error _
  | succ room =>
    rcases skip_cases s more with hs | ⟨c, u, hs, hskip⟩
    · rw [readValue_array (by simp [hs]), hs, readItems_nil]
      exact .malformed _
    · by_cases hc : c = ']'
      · subst hc
        simp only [readValue, hs, hskip]
        exact .of_ok _ _
      · rw [readValue_array (by simp [hs, hc]), readValue_array (by simp [hskip, hc]), hskip, hs]
        exact (h room (c :: u)).map Value.list

/-- A value is settled if the items and the members in it are. -/
theorem settles_value
    (hitems : ∀ room s, Settles more (readItems n room s) (readItems n' room (s ++ more)))
    (hmembers : ∀ room s, Settles more (readMembers n room s) (readMembers n' room (s ++ more)))
    (room : Nat) (s : List Char) :
    Settles more (readValue (n + 1) room s) (readValue (n' + 1) room (s ++ more)) := by
  rw [readValue.eq_def (n + 1)]
  dsimp only
  split
  · rw [List.cons_append, readValue]
    exact (Settles.of_found fun a rest h _ => readText_append h more).map _
  · exact settles_object hmembers room _
  · exact settles_array hitems room _
  · exact .of_ok _ _
  · exact .of_ok _ _
  · exact .of_ok _ _
  · exact .of_ok _ _
  · exact .of_ok _ _
  · exact .of_ok _ _
  · cases hread : readNumber s with
    | none => exact .malformed _
    | some part =>
      obtain ⟨v, rest⟩ := part
      cases hend : endsNumber rest with
      | false => exact .of_not_endsNumber hend _ _
      | true =>
        rw [readValue_of_readNumber (readNumber_append hread hend more)]
        exact .of_ok _ _

theorem settles_itemsBehind
    (hitems : ∀ room s, Settles more (readItems n room s) (readItems n' room (s ++ more)))
    (room : Nat) (v : Value) (s : List Char) :
    Settles more (itemsBehind n room v s) (itemsBehind n' room v (s ++ more)) := by
  rw [itemsBehind.eq_def n]
  split
  · exact (Settles.skip (hitems room) (readItems_nil n room) _).map fun vs => v :: vs
  · exact .of_ok _ _
  · exact .malformed _

theorem settles_membersBehind
    (hmembers : ∀ room s, Settles more (readMembers n room s) (readMembers n' room (s ++ more)))
    (room : Nat) (name : String) (v : Value) (s : List Char) :
    Settles more (membersBehind n room name v s) (membersBehind n' room name v (s ++ more)) := by
  rw [membersBehind.eq_def n]
  split
  · exact (Settles.skip (hmembers room) (readMembers_nil n room) _).map
      fun es => (.str name, v) :: es
  · exact .of_ok _ _
  · exact .malformed _

theorem settles_membersNamed
    (hvalue : ∀ room s, Settles more (readValue n room s) (readValue n' room (s ++ more)))
    (hmembers : ∀ room s, Settles more (readMembers n room s) (readMembers n' room (s ++ more)))
    (room : Nat) (name : String) (s : List Char) :
    Settles more (membersNamed n room name s) (membersNamed n' room name (s ++ more)) := by
  rw [membersNamed.eq_def n]
  split
  · exact (Settles.skip (hvalue room) (readValue_nil n room) _).bind_skip
      (settles_membersBehind hmembers room name) (membersBehind_of_not_endsNumber n room name)
  · exact .malformed _

/-- The items from a value on are settled if that and the items behind it are. -/
theorem settles_items
    (hvalue : ∀ room s, Settles more (readValue n room s) (readValue n' room (s ++ more)))
    (hitems : ∀ room s, Settles more (readItems n room s) (readItems n' room (s ++ more)))
    (room : Nat) (s : List Char) :
    Settles more (readItems (n + 1) room s) (readItems (n' + 1) room (s ++ more)) := by
  rw [readItems_succ, readItems_succ]
  exact (hvalue room s).bind_skip (settles_itemsBehind hitems room)
    (itemsBehind_of_not_endsNumber n room)

/-- The members from a name on are settled if its value and the members behind it are. -/
theorem settles_members
    (hvalue : ∀ room s, Settles more (readValue n room s) (readValue n' room (s ++ more)))
    (hmembers : ∀ room s, Settles more (readMembers n room s) (readMembers n' room (s ++ more)))
    (room : Nat) (s : List Char) :
    Settles more (readMembers (n + 1) room s) (readMembers (n' + 1) room (s ++ more)) := by
  by_cases hquote : ∃ t, s = '"' :: t
  · obtain ⟨t, rfl⟩ := hquote
    have htext : Settles more (found (readText t)) (found (readText (t ++ more))) :=
      .of_found fun name rest h _ => readText_append h more
    rw [List.cons_append, readMembers_quote, readMembers_quote]
    exact htext.bind_skip (settles_membersNamed hvalue hmembers room)
      (membersNamed_of_not_endsNumber n room)
  · have hnone : readMembers (n + 1) room s = .error .malformed := by
      rw [readMembers.eq_def]
      dsimp only
      split
      · exact absurd ⟨_, rfl⟩ hquote
      · rfl
    rw [hnone]
    exact .malformed _

/-- **What is read in a text settles what is read in a longer one**, in as many steps or more. -/
theorem settles (more : List Char) {n n' : Nat} (h : n ≤ n') :
    (∀ room s, Settles more (readValue n room s) (readValue n' room (s ++ more))) ∧
      (∀ room s, Settles more (readItems n room s) (readItems n' room (s ++ more))) ∧
      ∀ room s, Settles more (readMembers n room s) (readMembers n' room (s ++ more)) := by
  induction n generalizing n' with
  | zero =>
    simp only [readValue, readItems, readMembers]
    exact ⟨fun _ _ => .malformed _, fun _ _ => .malformed _, fun _ _ => .malformed _⟩
  | succ n ih =>
    obtain ⟨n', rfl⟩ : ∃ k, n' = k + 1 := ⟨n' - 1, by omega⟩
    obtain ⟨hvalue, hitems, hmembers⟩ := ih (Nat.le_of_succ_le_succ h)
    exact ⟨settles_value hitems hmembers, settles_items hvalue hitems,
      settles_members hvalue hmembers⟩

end

/-! ## Documents -/

/-- **The beginning of a document is not too deep** if the document can be read. -/
theorem eq_malformed_of_readChars_append {s more : List Char} {v : Value}
    (h : readChars (s ++ more) = .ok v) {flaw : Flaw} (hs : readChars s = .error flaw) :
    flaw = .malformed := by
  refine Decidable.byContradiction fun hflaw => ?_
  have hread : readValue (2 * s.length + 1) depthLimit (skip s) = .error flaw := by
    rw [readChars] at hs
    cases hread : readValue (2 * s.length + 1) depthLimit (skip s) with
    | error flaw' =>
      rw [hread] at hs
      cases hs
      rfl
    | ok part =>
      simp only [hread, bind, Except.bind] at hs
      split at hs
      · cases hs
      · exact absurd (Except.error.inj hs).symm hflaw
  have hne : skip s ≠ [] := by
    intro hnil
    rw [hnil, readValue_nil] at hread
    exact hflaw (Except.error.inj hread).symm
  have hle : 2 * s.length + 1 ≤ 2 * (s ++ more).length + 1 := by
    rw [List.length_append]
    omega
  have hlong := ((settles more hle).1 depthLimit (skip s)).error flaw hread hflaw
  rw [readChars, skip_append_of_ne_nil hne, hlong] at h
  cases h

end PersistentId.Json
