import PersistentId.Identifier.Parse
import PersistentId.Proofs.Identifier
import PersistentId.Proofs.Text.Search

/-!
# What the shared grammar reads

A text is read in two steps: its colons are decoded, and the decoded text is split into protocol,
authority and local part.

* Decoding leaves no encoded colon (`cut_decodeColons`), so that doing it again changes nothing. It
  changes a text exactly if there is an encoded colon, and then that has more colons
  (`count_lt_count_decodeColons`).
* `partsIn` are the parts of a decoded text, if it has proper ones; joined again they are that text
  (`eq_append_of_partsIn`).
* `result_parseGeneric` says what a text stands for in terms of these two.

So the canonical form of what was read is the decoded text, and it is read as the same identifier
(`toString_of_parseGeneric`, `parseGeneric_toString`).
-/

namespace PersistentId

open PersistentId.Action

/-! ## Results of parses -/

namespace Parsing

variable {α β : Type}

/-- The result of a parse without its entries. -/
def result (parse : Parsing α) : Except Fault α :=
  parse.outcome.value

@[simp]
theorem result_pure (a : α) : (pure a : Parsing α).result = .ok a := rfl

@[simp]
theorem result_ofExcept (outcome : Except Fault α) : (ofExcept outcome).result = outcome := rfl

@[simp]
theorem result_bind (parse : Parsing α) (next : α → Parsing β) :
    (parse >>= next).result = parse.result >>= fun a => (next a).result := by
  show (ExceptT.bindCont next parse.outcome.value).value = _
  simp only [result]
  cases parse.outcome.value <;> rfl

theorem exists_of_result_bind {parse : Parsing α} {next : α → Parsing β} {b : β}
    (h : (parse >>= next).result = .ok b) :
    ∃ a, parse.result = .ok a ∧ (next a).result = .ok b := by
  rw [result_bind] at h
  exact exists_of_bind_eq_ok h

@[simp]
theorem result_map (f : α → β) (parse : Parsing α) :
    (f <$> parse).result = parse.result.map f := by
  rw [map_eq_pure_bind, result_bind]
  cases parse.result <;> rfl

/-- What a parse finds is handed on. -/
theorem result_bind_ok {parse : Parsing α} {a : α} (h : parse.result = .ok a)
    (next : α → Parsing β) : (parse >>= next).result = (next a).result := by
  rw [result_bind, h]
  rfl

theorem result_ofExcept_bind {outcome : Except Fault α} {a : α} (h : outcome = .ok a)
    (next : α → Parsing β) : (ofExcept outcome >>= next).result = (next a).result :=
  result_bind_ok ((result_ofExcept outcome).trans h) next

end Parsing

namespace Identifier

/-! ## Encoded colons -/

/-- A colon as it is encoded. -/
def colonCode : List Char :=
  ['%', '3', 'A']

/-- The text with its colons decoded. -/
def decoded (s : String) : String :=
  String.ofList (decodeColons s.toList)

theorem decodeColons_cons_of_ne {c : Char} (hc : c ≠ '%') (s : List Char) :
    decodeColons (c :: s) = c :: decodeColons s := by
  rw [decodeColons]
  rintro _ rfl
  exact absurd rfl hc

theorem decodeColons_append_of_not_mem {s : List Char} (h : '%' ∉ s) (t : List Char) :
    decodeColons (s ++ t) = s ++ decodeColons t := by
  induction s with
  | nil => rfl
  | cons c s ih =>
    obtain ⟨hc, hs⟩ := not_or.1 (fun hmem => h (List.mem_cons.2 hmem))
    rw [List.cons_append, decodeColons_cons_of_ne (Ne.symm hc), ih hs, List.cons_append]

/-- Without an encoded colon there is nothing to decode. -/
theorem decodeColons_of_cut_eq_none {s : List Char} (h : Text.cut colonCode s = none) :
    decodeColons s = s := by
  induction s using decodeColons.induct with
  | case1 => rfl
  | case2 s ih => simp [Text.cut, Text.after?, colonCode] at h
  | case3 c s hne ih =>
    rw [Text.cut] at h
    split at h
    · cases h
    · rw [decodeColons, ih (Option.map_eq_none_iff.1 h)]
      exact hne

/-- A character that is no colon was there before. -/
theorem exists_of_decodeColons_eq_cons {s r : List Char} {c : Char} (hc : c ≠ ':')
    (h : decodeColons s = c :: r) : ∃ s', s = c :: s' ∧ decodeColons s' = r := by
  cases s using decodeColons.fun_cases with
  | case1 => cases h
  | case2 s => exact absurd (List.cons.inj h).1.symm hc
  | case3 d s hne =>
    rw [decodeColons] at h
    · obtain ⟨rfl, hr⟩ := List.cons.inj h
      exact ⟨s, rfl, hr⟩
    · exact hne

/-- **Decoding leaves no encoded colon.** -/
theorem cut_decodeColons (s : List Char) : Text.cut colonCode (decodeColons s) = none := by
  induction s using decodeColons.induct with
  | case1 => rfl
  | case2 s ih =>
    rw [decodeColons, Text.cut, ih]
    rfl
  | case3 c s hne ih =>
    rw [decodeColons, Text.cut, ih]
    · split
      · next rest hrest =>
        -- the three characters of a code would have been there before
        obtain ⟨rfl, hr⟩ := List.cons.inj (Text.after?_eq_some.1 hrest)
        obtain ⟨s₁, rfl, h₁⟩ := exists_of_decodeColons_eq_cons (by decide) hr
        obtain ⟨s₂, rfl, -⟩ := exists_of_decodeColons_eq_cons (by decide) h₁
        exact absurd rfl (hne s₂ rfl)
      · rfl
    · exact hne

@[simp]
theorem decoded_decoded (s : String) : decoded (decoded s) = decoded s := by
  rw [decoded, decoded, String.toList_ofList,
    decodeColons_of_cut_eq_none (cut_decodeColons s.toList)]

theorem occursIn_colonCode_eq_false_iff {s : String} :
    Text.occursIn "%3A" s = false ↔ Text.cut colonCode s.toList = none := by
  rw [Text.occursIn, Option.isSome_eq_false_iff, Option.isNone_iff_eq_none]
  rfl

theorem decoded_eq_self {s : String} (h : Text.occursIn "%3A" s = false) : decoded s = s := by
  rw [decoded, decodeColons_of_cut_eq_none (occursIn_colonCode_eq_false_iff.1 h),
    String.ofList_toList]

theorem occursIn_decoded (s : String) : Text.occursIn "%3A" (decoded s) = false := by
  rw [occursIn_colonCode_eq_false_iff, decoded, String.toList_ofList]
  exact cut_decodeColons s.toList

theorem decoded_append_of_not_mem {s : String} (h : '%' ∉ s.toList) (t : String) :
    decoded (s ++ t) = s ++ decoded t := by
  rw [decoded, String.toList_append, decodeColons_append_of_not_mem h, String.ofList_append,
    String.ofList_toList, decoded]

/-- Decoding goes on behind a character that no code has. -/
theorem decodeColons_append_cons {c : Char} (h : c ∉ colonCode) (s t : List Char) :
    decodeColons (s ++ c :: t) = decodeColons s ++ c :: decodeColons t := by
  simp only [colonCode, List.mem_cons, List.not_mem_nil, or_false, not_or] at h
  induction s using decodeColons.induct with
  | case1 => exact decodeColons_cons_of_ne h.1 t
  | case2 s ih => simp [decodeColons, ih]
  | case3 d s hne ih =>
    rw [List.cons_append, decodeColons, decodeColons, ih, List.cons_append]
    · exact hne
    · -- a code cannot reach beyond the character, which would be one of it
      rintro s' rfl he
      rcases s with _ | ⟨e, _ | ⟨f, s⟩⟩
      · exact h.2.1 (List.cons.inj he).1
      · exact h.2.2 (List.cons.inj (List.cons.inj he).2).1
      · simp only [List.cons_append, List.cons.injEq] at he
        obtain ⟨rfl, rfl, -⟩ := he
        exact hne s rfl rfl

/-- Behind a character that no code has the rest is decoded on its own. -/
theorem decoded_append_of_getLast? {s : String} {c : Char} (h : s.toList.getLast? = some c)
    (hc : c ∉ colonCode) (t : String) : decoded (s ++ t) = decoded s ++ decoded t := by
  obtain ⟨front, hfront⟩ := List.getLast?_eq_some_iff.1 h
  have happend : decodeColons (front ++ c :: t.toList) =
      decodeColons (front ++ [c]) ++ decodeColons t.toList := by
    rw [decodeColons_append_cons hc, decodeColons_append_cons hc, List.append_assoc]
    rfl
  rw [decoded, decoded, decoded, String.toList_append, hfront, List.append_assoc,
    List.singleton_append, happend, String.ofList_append]

theorem count_le_count_decodeColons (s : List Char) :
    s.count ':' ≤ (decodeColons s).count ':' := by
  induction s using decodeColons.induct with
  | case1 => exact le_rfl
  | case2 s ih =>
    simp [decodeColons]
    omega
  | case3 c s hne ih =>
    rw [decodeColons]
    · rw [List.count_cons, List.count_cons]
      exact Nat.add_le_add_right ih _
    · exact hne

/-- **A text with an encoded colon has more colons** when it is decoded. -/
theorem count_lt_count_decodeColons {s : List Char} (h : Text.cut colonCode s ≠ none) :
    s.count ':' < (decodeColons s).count ':' := by
  induction s using decodeColons.induct with
  | case1 => exact absurd rfl h
  | case2 s ih =>
    have hle := count_le_count_decodeColons s
    simp [decodeColons]
    omega
  | case3 c s hne ih =>
    rw [Text.cut] at h
    split at h
    · next rest hrest =>
      obtain ⟨rfl, he⟩ := List.cons.inj (Text.after?_eq_some.1 hrest)
      exact absurd he (hne _ rfl)
    · rw [decodeColons]
      · rw [List.count_cons, List.count_cons]
        exact Nat.add_lt_add_right (ih fun hs => h (by rw [hs]; rfl)) _
      · exact hne

/-! ## Parts of a text -/

/-- The parts of a text whose protocol is followed by the given path, if they are proper ones: what
stands before and behind the first separator of the path. -/
def partsBehind (separator protocol path : String) : Option (String × String × String) :=
  (splitAuthority? separator path).bind fun (authority, localPart) =>
    if Part.isProper authority && Part.isProper localPart
    then some (protocol, authority, localPart) else none

/-- The parts of a text, whose protocol is what stands before the first colon. -/
def partsIn (separator s : String) : Option (String × String × String) :=
  (splitProtocol? s).bind fun (protocol, path) => partsBehind separator protocol path

theorem eq_append_of_splitProtocol? {s protocol path : String}
    (h : splitProtocol? s = some (protocol, path)) : s = protocol ++ ":" ++ path := by
  unfold splitProtocol? at h
  split at h
  · next hcut =>
    split at h
    · cases h
    · cases h
      exact Text.eq_append_of_cutAt hcut
  · cases h

theorem eq_append_of_splitAuthority? {separator s authority localPart : String}
    (h : splitAuthority? separator s = some (authority, localPart)) :
    s = authority ++ separator ++ localPart ∧ authority ≠ "" ∧ localPart ≠ "" := by
  unfold splitAuthority? at h
  split at h
  · next hcut =>
    split at h
    · cases h
    · next hempty =>
      cases h
      rw [Bool.or_eq_true, not_or, String.isEmpty_iff, String.isEmpty_iff] at hempty
      exact ⟨Text.eq_append_of_cutAt hcut, hempty⟩
  · cases h

theorem exists_of_partsBehind {separator protocol path : String} {parts : String × String × String}
    (h : partsBehind separator protocol path = some parts) :
    ∃ authority localPart, splitAuthority? separator path = some (authority, localPart) ∧
      Part.isProper authority = true ∧ Part.isProper localPart = true ∧
      parts = (protocol, authority, localPart) := by
  obtain ⟨⟨authority, localPart⟩, hsplit, h⟩ := Option.bind_eq_some_iff.1 h
  dsimp only at h
  split at h
  · next hproper =>
    obtain ⟨ha, hl⟩ := (Bool.and_eq_true _ _).mp hproper
    exact ⟨authority, localPart, hsplit, ha, hl, (Option.some.inj h).symm⟩
  · cases h

/-- **The parts of a text make it up.** -/
theorem eq_append_of_partsIn {separator s protocol authority localPart : String}
    (h : partsIn separator s = some (protocol, authority, localPart)) :
    s = protocol ++ ":" ++ (authority ++ separator ++ localPart) := by
  obtain ⟨⟨_, path⟩, hprotocol, h⟩ := Option.bind_eq_some_iff.1 h
  obtain ⟨_, _, hauthority, -, -, hparts⟩ := exists_of_partsBehind h
  cases hparts
  rw [eq_append_of_splitProtocol? hprotocol, (eq_append_of_splitAuthority? hauthority).1]

theorem splitProtocol?_append {protocol : String} (h : ':' ∉ protocol.toList)
    (hne : protocol ≠ "") (path : String) :
    splitProtocol? (protocol ++ ":" ++ path) = some (protocol, path) := by
  rw [splitProtocol?, show ":" = String.ofList [':'] from rfl, Text.cutAt_append h]
  simp [hne]

theorem splitAuthority?_append {authority localPart : String} (h : '/' ∉ authority.toList)
    (ha : authority ≠ "") (hl : localPart ≠ "") :
    splitAuthority? "/" (authority ++ "/" ++ localPart) = some (authority, localPart) := by
  rw [splitAuthority?, show "/" = String.ofList ['/'] from rfl, Text.cutAt_append h]
  simp [ha, hl]

/-! ## The shared grammar -/

/-- The address that resolves the identifiers of a protocol by default. -/
def defaultUrlStart (protocol : String) : String :=
  (Table.find? resolvers (Key.str protocol)).getD ""

/-- The identifier with the given parts, if they are proper ones. -/
theorem make_str (protocol authority localPart separator : String) (provider : Value) :
    make (.str protocol) (.str authority) (.str localPart) (.str separator) .null provider =
      if Part.isProper authority && Part.isProper localPart then
        .ok ⟨.str protocol, authority, localPart, .str separator, .str (defaultUrlStart protocol),
          provider⟩
      else .error (.invalidParts (.str protocol) (.str authority) (.str localPart)) := by
  have hp : Value.str protocol ≠ .null := by simp
  have hurl : resolverOf (.str protocol) = .ok (defaultUrlStart protocol) := rfl
  simp only [make, wellFormed_str hp, hurl]
  cases Part.isProper authority && Part.isProper localPart <;> rfl

/-- The identifier with the given parts as the shared grammar reads it. -/
def ofParts (separator : String) : String × String × String → Identifier
  | (protocol, authority, localPart) =>
    ⟨.str protocol, authority, localPart, .str separator, .str (defaultUrlStart protocol), .null⟩

/-- **What a text stands for under the shared grammar**: the parts of the decoded text. -/
theorem result_parseGeneric (separator s : String) :
    (parseGeneric (.str separator) (.str s)).result =
      .ok ((partsIn separator (decoded s)).map (ofParts separator)) := by
  have htext : (Value.str s).asText "replace" = .ok s := rfl
  have hmark : (Value.str separator).asPiece = .ok separator := rfl
  rw [parseGeneric, Parsing.result_ofExcept_bind htext, partsIn, decoded]
  dsimp only
  cases splitProtocol? (String.ofList (decodeColons s.toList)) with
  | none => rfl
  | some split =>
    obtain ⟨protocol, path⟩ := split
    dsimp only [Option.bind_some]
    rw [Parsing.result_ofExcept_bind hmark, partsBehind]
    cases splitAuthority? separator path with
    | none => rfl
    | some split =>
      obtain ⟨authority, localPart⟩ := split
      dsimp only [Option.bind_some]
      rw [Parsing.result_pure, make_str]
      split <;> rfl

/-- What a text stands for, the empty text for nothing. -/
theorem result_parse (s : String) :
    (parse (.str s)).result = .ok ((partsIn "/" (decoded s)).map (ofParts "/")) := by
  rw [parse]
  split
  · exact result_parseGeneric "/" s
  · next hs =>
    obtain rfl : s = "" := by simpa [Value.truthy] using hs
    rfl

theorem toString_ofParts (separator protocol authority localPart : String) :
    (ofParts separator (protocol, authority, localPart)).toString =
      protocol ++ ":" ++ (authority ++ separator ++ localPart) := rfl

/-- **The canonical form of what was read is the decoded text.** -/
theorem toString_of_parseGeneric {separator s : String} {pid : Identifier}
    (h : (parseGeneric (.str separator) (.str s)).result = .ok (some pid)) :
    pid.toString = decoded s := by
  rw [result_parseGeneric, Except.ok.injEq, Option.map_eq_some_iff] at h
  obtain ⟨⟨protocol, authority, localPart⟩, hparts, rfl⟩ := h
  rw [toString_ofParts, ← eq_append_of_partsIn hparts]

/-- **The canonical form of what was read is read as the same identifier.** -/
theorem parseGeneric_toString {separator s : String} {pid : Identifier}
    (h : (parseGeneric (.str separator) (.str s)).result = .ok (some pid)) :
    (parseGeneric (.str separator) (.str pid.toString)).result = .ok (some pid) := by
  rw [toString_of_parseGeneric h, result_parseGeneric, decoded_decoded, ← result_parseGeneric, h]

/-- Two identifiers have the same parts and the same canonical form. -/
structure Alike (pid other : Identifier) : Prop where
  protocol : pid.protocol = other.protocol
  authority : pid.authority = other.authority
  localPart : pid.localPart = other.localPart
  canonical : pid.toString = other.toString

theorem Alike.refl (pid : Identifier) : pid.Alike pid :=
  ⟨rfl, rfl, rfl, rfl⟩

end Identifier

end PersistentId
