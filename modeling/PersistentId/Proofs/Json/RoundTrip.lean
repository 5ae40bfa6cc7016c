import PersistentId.Proofs.Action
import PersistentId.Proofs.Json.Number
import PersistentId.Proofs.Json.Text
import PersistentId.Proofs.Table

/-!
# Reading written documents

A value is `storable` if a document can say all of it: its numbers have few enough digits, and the
keys of its tables are texts, no two of them the same. Such a value with room for its depth can be
written (`exists_write`) and is read back from what is written (`read_write`), also where the
members of an object stand on lines of their own (`read_writeLayered`).

The reader counts its steps down from a bound; twice the length of the text is enough.
-/

namespace PersistentId

namespace Value

mutual

/-- Whether a document can say all of a value. -/
def storable : Value → Bool
  | .null | .bool _ | .float _ | .str _ => true
  | .int n => PersistentId.isShort n
  | .moment _ => false
  | .list items => areStorable items
  | .map entries => entriesAreStorable entries
termination_by structural v => v

/-- `storable` of all items of a list. -/
def areStorable : List Value → Bool
  | [] => true
  | v :: items => storable v && areStorable items
termination_by structural v => v

/-- `storable` of all entries of a table, whose keys are different texts. -/
def entriesAreStorable : List (Key × Value) → Bool
  | [] => true
  | (key, v) :: entries =>
    key.str?.isSome && !Table.has entries key && storable v && entriesAreStorable entries
termination_by structural v => v

end

theorem distinct_of_entriesAreStorable {entries : List (Key × Value)}
    (h : entriesAreStorable entries = true) : Table.Distinct entries := by
  induction entries with
  | nil => exact List.Pairwise.nil
  | cons p entries ih =>
    obtain ⟨key, v⟩ := p
    simp only [entriesAreStorable, Bool.and_eq_true, Bool.not_eq_true'] at h
    obtain ⟨⟨⟨-, hnew⟩, -⟩, hrest⟩ := h
    refine List.pairwise_cons.2 ⟨fun q hq => ?_, ih hrest⟩
    exact Bool.eq_false_iff.2 fun he =>
      Bool.eq_false_iff.1 (Table.has_eq_false_iff.1 hnew q hq) (PartialEquivBEq.symm he)

theorem entriesAreStorable_cons {key : Key} {v : Value} {entries : List (Key × Value)}
    (h : entriesAreStorable ((key, v) :: entries) = true) :
    ∃ name, key = .str name ∧ v.storable = true ∧ entriesAreStorable entries = true := by
  simp only [entriesAreStorable, Bool.and_eq_true] at h
  obtain ⟨⟨⟨hkey, -⟩, hv⟩, hrest⟩ := h
  cases key with
  | str name => exact ⟨name, rfl, hv, hrest⟩
  | _ => cases hkey

end Value

namespace Json

open PersistentId.Action

/-! ## What a reader starts with -/

theorem readValue_of_readNumber {n room : Nat} {s : List Char} {found : Value × List Char}
    (h : readNumber s = some found) : readValue (n + 1) room s = .ok found := by
  unfold readValue
  split
  case h_10 => rw [h]; rfl
  all_goals simp [readNumber, readMagnitude, readWhole, spanDigits] at h

/-- A value starts with no white space and with no closing bracket. -/
theorem eq_cons_of_readValue_eq_ok {n room : Nat} {s : List Char} {found : Value × List Char}
    (h : readValue n room s = .ok found) : ∃ c t, s = c :: t ∧ isSpace c = false ∧ c ≠ ']' := by
  match n, s with
  | 0, _ => simp [readValue] at h
  | n + 1, [] => simp [readValue, readNumber, readMagnitude, readWhole, spanDigits, Json.found] at h
  | n + 1, c :: t =>
    have hnum (hc : c ∈ [' ', '\t', '\n', '\r', ']']) :
        readValue (n + 1) room (c :: t) = .error .malformed := by
      simp only [List.mem_cons, List.not_mem_nil, or_false] at hc
      rcases hc with rfl | rfl | rfl | rfl | rfl <;>
        simp [readValue, readNumber, readMagnitude, readWhole, spanDigits, Json.found]
    have hc : c ∉ [' ', '\t', '\n', '\r', ']'] := fun hc => by
      rw [hnum hc] at h
      cases h
    simp only [List.mem_cons, List.not_mem_nil, or_false, not_or] at hc
    exact ⟨c, t, rfl, by simp [isSpace, hc], hc.2.2.2.2⟩

theorem skip_cons {c : Char} (h : isSpace c = false) (s : List Char) : skip (c :: s) = c :: s := by
  simp [skip, h]

theorem skip_append {gap : List Char} (h : ∀ c ∈ gap, isSpace c = true) (s : List Char) :
    skip (gap ++ s) = skip s :=
  List.dropWhile_append_of_pos h

theorem skip_of_readValue_eq_ok {n room : Nat} {s : List Char} {found : Value × List Char}
    (h : readValue n room s = .ok found) : skip s = s := by
  obtain ⟨c, t, rfl, hc, -⟩ := eq_cons_of_readValue_eq_ok h
  exact skip_cons hc t

/-! ## Parts of a document -/

/-- The texts of some parts, with a comma and a gap between two of them. -/
def spread (gap : List Char) (parts : List String) : List Char :=
  List.intercalate (',' :: gap) (parts.map String.toList)

theorem spread_singleton (gap : List Char) (part : String) : spread gap [part] = part.toList := by
  simp [spread]

theorem spread_cons_cons (gap : List Char) (part next : String) (parts : List String) :
    spread gap (part :: next :: parts) =
      part.toList ++ ',' :: (gap ++ spread gap (next :: parts)) := by
  simp [spread, List.intercalate_cons_cons]

theorem toList_writeValue_list {room : Nat} {items : List Value} {s : String}
    (h : writeValue room (.list items) = .ok s) :
    ∃ room' parts, room = room' + 1 ∧ writeItems room' items = .ok parts ∧
      s.toList = '[' :: (spread [' '] parts ++ [']']) := by
  cases room with
  | zero =>
    rw [writeValue] at h
    cases h
  | succ room =>
    rw [writeValue] at h
    obtain ⟨parts, hparts, h⟩ := exists_of_bind_eq_ok h
    refine ⟨room, parts, rfl, hparts, ?_⟩
    rw [← Except.ok.inj h]
    simp [spread, String.toList_intercalate]

theorem toList_writeValue_map {room : Nat} {entries : List (Key × Value)} {s : String}
    (h : writeValue room (.map entries) = .ok s) :
    ∃ room' parts, room = room' + 1 ∧ writeEntries room' entries = .ok parts ∧
      s.toList = '{' :: (spread [' '] parts ++ ['}']) := by
  cases room with
  | zero =>
    rw [writeValue] at h
    cases h
  | succ room =>
    rw [writeValue] at h
    obtain ⟨parts, hparts, h⟩ := exists_of_bind_eq_ok h
    refine ⟨room, parts, rfl, hparts, ?_⟩
    rw [← Except.ok.inj h]
    simp [spread, String.toList_intercalate]

theorem writeItems_cons {room : Nat} {v : Value} {items : List Value} {parts : List String}
    (h : writeItems room (v :: items) = .ok parts) :
    ∃ part more, parts = part :: more ∧ writeValue room v = .ok part ∧
      writeItems room items = .ok more := by
  rw [writeItems] at h
  obtain ⟨part, hpart, h⟩ := exists_of_bind_eq_ok h
  obtain ⟨more, hmore, h⟩ := exists_of_bind_eq_ok h
  exact ⟨part, more, (Except.ok.inj h).symm, hpart, hmore⟩

theorem writeEntries_cons {room : Nat} {key : Key} {v : Value} {entries : List (Key × Value)}
    {parts : List String} (h : writeEntries room ((key, v) :: entries) = .ok parts) :
    ∃ name part more, parts = (writeText name ++ ": " ++ part) :: more ∧
      memberName key = .ok name ∧ writeValue room v = .ok part ∧
      writeEntries room entries = .ok more := by
  rw [writeEntries] at h
  obtain ⟨name, hname, h⟩ := exists_of_bind_eq_ok h
  obtain ⟨part, hpart, h⟩ := exists_of_bind_eq_ok h
  obtain ⟨more, hmore, h⟩ := exists_of_bind_eq_ok h
  exact ⟨name, part, more, (Except.ok.inj h).symm, hname, hpart, hmore⟩

theorem readItems_of_readValue {n room : Nat} {v : Value} {s rest : List Char}
    (h : readValue n room s = .ok (v, ']' :: rest)) :
    readItems (n + 1) room s = .ok ([v], rest) := by
  simp only [readItems, h, bind, Except.bind, skip_cons (c := ']') (by decide)]
  rfl

theorem readItems_cons {n room : Nat} {v : Value} {vs : List Value} {s gap t rest : List Char}
    (hgap : ∀ c ∈ gap, isSpace c = true) (h : readValue n room s = .ok (v, ',' :: (gap ++ t)))
    (hskip : skip t = t) (ht : readItems n room t = .ok (vs, rest)) :
    readItems (n + 1) room s = .ok (v :: vs, rest) := by
  simp only [readItems, h, bind, Except.bind, skip_cons (c := ',') (by decide), skip_append hgap,
    hskip, ht]
  rfl

theorem readMembers_of_readValue {n room : Nat} {name : String} {v : Value}
    {s tail rest : List Char} (htail : ∀ c ∈ tail, isSpace c = true)
    (h : readValue n room s = .ok (v, tail ++ '}' :: rest)) :
    readMembers (n + 1) room ((writeText name).toList ++ ':' :: ' ' :: s) =
      .ok ([(.str name, v)], rest) := by
  obtain ⟨body, hbody, hread⟩ := readText_writeText name (':' :: ' ' :: s)
  have hskip : skip (' ' :: s) = s := skip_of_readValue_eq_ok h
  rw [hbody, List.cons_append, readMembers, hread]
  simp only [found, bind, Except.bind, skip_cons (c := ':') (by decide), hskip, h,
    skip_append htail, skip_cons (c := '}') (by decide)]
  rfl

theorem readMembers_cons {n room : Nat} {name : String} {v : Value} {es : List (Key × Value)}
    {s gap t rest : List Char} (hgap : ∀ c ∈ gap, isSpace c = true)
    (h : readValue n room s = .ok (v, ',' :: (gap ++ t))) (hskip : skip t = t)
    (ht : readMembers n room t = .ok (es, rest)) :
    readMembers (n + 1) room ((writeText name).toList ++ ':' :: ' ' :: s) =
      .ok ((.str name, v) :: es, rest) := by
  obtain ⟨body, hbody, hread⟩ := readText_writeText name (':' :: ' ' :: s)
  have hblank : skip (' ' :: s) = s := skip_of_readValue_eq_ok h
  rw [hbody, List.cons_append, readMembers, hread]
  simp only [found, bind, Except.bind, skip_cons (c := ':') (by decide), hblank, h,
    skip_cons (c := ',') (by decide), skip_append hgap, hskip, ht]
  rfl

theorem toList_member (name part : String) :
    (writeText name ++ ": " ++ part).toList =
      (writeText name).toList ++ ':' :: ' ' :: part.toList := by
  rw [String.toList_append, String.toList_append, List.append_assoc]
  rfl

theorem stops_append {tail : List Char} (h : ∀ c ∈ tail, isSpace c = true) (rest : List Char) :
    stops (tail ++ '}' :: rest) = true := by
  cases tail with
  | nil => rfl
  | cons c tail =>
    have hc := h c (by simp)
    simp only [isSpace, Bool.or_eq_true, decide_eq_true_eq] at hc
    rcases hc with ((rfl | rfl) | rfl) | rfl <;> rfl

/-- The items of a list start as the first of them does. -/
theorem eq_cons_of_readItems_eq_ok {n room : Nat} {s : List Char} {found : List Value × List Char}
    (h : readItems n room s = .ok found) : ∃ c t, s = c :: t ∧ isSpace c = false ∧ c ≠ ']' := by
  cases n with
  | zero => simp [readItems] at h
  | succ n =>
    rw [readItems] at h
    cases hv : readValue n room s with
    | error flaw => simp [hv, bind, Except.bind] at h
    | ok found => exact eq_cons_of_readValue_eq_ok hv

theorem eq_cons_of_readMembers_eq_ok {n room : Nat} {s : List Char}
    {found : List (Key × Value) × List Char} (h : readMembers n room s = .ok found) :
    ∃ t, s = '"' :: t := by
  cases n with
  | zero => simp [readMembers] at h
  | succ n =>
    unfold readMembers at h
    split at h
    · exact ⟨_, rfl⟩
    · cases h

theorem readValue_list {n room : Nat} {s rest : List Char} {items : List Value}
    (h : readItems n room s = .ok (items, rest)) :
    readValue (n + 1) (room + 1) ('[' :: s) = .ok (.list items, rest) := by
  obtain ⟨c, t, rfl, hc, hne⟩ := eq_cons_of_readItems_eq_ok h
  simp only [readValue, skip_cons hc]
  split
  · next heq => exact absurd heq (Nat.succ_ne_zero room)
  · next heq _ => exact absurd (List.cons.inj heq).1 hne
  · next heq _ =>
    rw [← Nat.succ.inj heq, h]
    rfl

theorem readValue_map {n room : Nat} (gap : List Char) {s rest : List Char}
    {es : List (Key × Value)} (hgap : ∀ c ∈ gap, isSpace c = true)
    (h : readMembers n room s = .ok (es, rest)) :
    readValue (n + 1) (room + 1) ('{' :: (gap ++ s)) = .ok (.map (Table.ofPairs es), rest) := by
  obtain ⟨t, rfl⟩ := eq_cons_of_readMembers_eq_ok h
  simp only [readValue, skip_append hgap, skip_cons (c := '"') (by decide)]
  show (readMembers n room ('"' :: t)).map _ = _
  rw [h]
  rfl

/-! ## Values -/

theorem readValue_documentText (x : Binary64) (n room : Nat) {rest : List Char}
    (hr : stops rest = true) :
    readValue (n + 1) room (x.documentText.toList ++ rest) = .ok (.float x, rest) := by
  match x with
  | .finite negative magnitude =>
    exact readValue_of_readNumber (readNumber_finiteText negative magnitude hr)
  | .infinite true | .infinite false | .undefined => simp [Binary64.documentText, readValue]

mutual

/-- **A storable value is read back**, whatever follows it that does not go on as a number. -/
theorem readValue_write_append : ∀ (v : Value) (n room : Nat) (s : String) (rest : List Char),
    v.storable = true → writeValue room v = .ok s → 2 * s.toList.length ≤ n →
    stops rest = true → readValue (n + 1) room (s.toList ++ rest) = .ok (v, rest)
  | .null | .bool true | .bool false => by
    intro n room s rest _ h _ _
    rw [writeValue, Except.ok.injEq] at h
    subst h
    simp [readValue]
  | .int i => by
    intro n room s rest hv h _ hr
    rw [Value.storable] at hv
    rw [writeValue, writeInt, if_pos hv, Except.ok.injEq] at h
    rw [← h]
    exact readValue_of_readNumber (readNumber_int hv hr)
  | .float x => by
    intro n room s rest _ h _ hr
    rw [writeValue, Except.ok.injEq] at h
    rw [← h]
    exact readValue_documentText x n room hr
  | .str t => by
    intro n room s rest _ h _ _
    rw [writeValue, Except.ok.injEq] at h
    obtain ⟨body, hbody, hread⟩ := readText_writeText t rest
    rw [← h, hbody, List.cons_append, readValue, hread]
    rfl
  | .moment _ => by
    intro n room s rest hv _ _ _
    rw [Value.storable] at hv
    cases hv
  | .list items => by
    intro n room s rest hv h hn _
    rw [Value.storable] at hv
    obtain ⟨room, parts, rfl, hparts, hs⟩ := toList_writeValue_list h
    rw [hs] at hn ⊢
    simp only [List.length_cons, List.length_append, List.length_nil] at hn
    by_cases hne : items = []
    · subst hne
      rw [writeItems, Except.ok.injEq] at hparts
      subst hparts
      rfl
    · obtain ⟨n, rfl⟩ : ∃ k, n = k + 1 := ⟨n - 1, by omega⟩
      have h := readItems_spread items n room parts rest hne hv hparts (by omega)
      rw [List.cons_append, List.append_assoc, List.singleton_append]
      exact readValue_list h
  | .map entries => by
    intro n room s rest hv h hn _
    rw [Value.storable] at hv
    obtain ⟨room, parts, rfl, hparts, hs⟩ := toList_writeValue_map h
    rw [hs] at hn ⊢
    simp only [List.length_cons, List.length_append, List.length_nil] at hn
    by_cases hne : entries = []
    · subst hne
      rw [writeEntries, Except.ok.injEq] at hparts
      subst hparts
      rfl
    · obtain ⟨n, rfl⟩ : ∃ k, n = k + 1 := ⟨n - 1, by omega⟩
      have h := readMembers_spread entries n room parts [' '] [] rest (by simp [isSpace]) (by simp)
        hne hv hparts (by omega)
      have hread := readValue_map [] (by simp) h
      rw [Table.ofPairs_of_distinct (Value.distinct_of_entriesAreStorable hv)] at hread
      simpa using hread

theorem readItems_spread : ∀ (items : List Value) (n room : Nat) (parts : List String)
    (rest : List Char), items ≠ [] → Value.areStorable items = true →
    writeItems room items = .ok parts → 2 * (spread [' '] parts).length + 1 ≤ n →
    readItems (n + 1) room (spread [' '] parts ++ ']' :: rest) = .ok (items, rest)
  | [] => by
    intro n room parts rest hne
    exact absurd rfl hne
  | [v] => by
    intro n room parts rest _ hv h hn
    simp only [Value.areStorable, Bool.and_true] at hv
    obtain ⟨part, more, rfl, hpart, hmore⟩ := writeItems_cons h
    rw [writeItems, Except.ok.injEq] at hmore
    subst hmore
    rw [spread_singleton] at hn ⊢
    obtain ⟨n, rfl⟩ : ∃ k, n = k + 1 := ⟨n - 1, by omega⟩
    exact readItems_of_readValue
      (readValue_write_append v n room part (']' :: rest) hv hpart (by omega) rfl)
  | v :: w :: items => by
    intro n room parts rest _ hv h hn
    rw [Value.areStorable, Bool.and_eq_true] at hv
    obtain ⟨part, more, rfl, hpart, hmore⟩ := writeItems_cons h
    obtain ⟨next, others, rfl, -, -⟩ := writeItems_cons hmore
    rw [spread_cons_cons] at hn ⊢
    simp only [List.length_cons, List.length_append, List.length_nil] at hn
    obtain ⟨n, rfl⟩ : ∃ k, n = k + 1 := ⟨n - 1, by omega⟩
    have hread := readItems_spread (w :: items) n room (next :: others) rest (by simp) hv.2 hmore
      (by omega)
    have hfirst := readValue_write_append v n room part
      (',' :: ([' '] ++ (spread [' '] (next :: others) ++ ']' :: rest))) hv.1 hpart (by omega) rfl
    obtain ⟨c, t, heq, hc, -⟩ := eq_cons_of_readItems_eq_ok hread
    rw [List.append_assoc, List.cons_append, List.append_assoc]
    exact readItems_cons (by simp [isSpace]) hfirst (heq ▸ skip_cons hc t) hread

theorem readMembers_spread : ∀ (entries : List (Key × Value)) (n room : Nat) (parts : List String)
    (gap tail rest : List Char), (∀ c ∈ gap, isSpace c = true) → (∀ c ∈ tail, isSpace c = true) →
    entries ≠ [] → Value.entriesAreStorable entries = true →
    writeEntries room entries = .ok parts → 2 * (spread gap parts).length + 1 ≤ n →
    readMembers (n + 1) room (spread gap parts ++ (tail ++ '}' :: rest)) = .ok (entries, rest)
  | [] => by
    intro n room parts gap tail rest _ _ hne
    exact absurd rfl hne
  | [(key, v)] => by
    intro n room parts gap tail rest hgap htail _ hv h hn
    obtain ⟨name, rfl, hv, -⟩ := Value.entriesAreStorable_cons hv
    obtain ⟨_, part, more, rfl, hname, hpart, hmore⟩ := writeEntries_cons h
    rw [writeEntries, Except.ok.injEq] at hmore
    subst hmore
    cases hname
    simp only [spread_singleton, toList_member, List.length_append, List.length_cons,
      List.append_assoc, List.cons_append] at hn ⊢
    obtain ⟨n, rfl⟩ : ∃ k, n = k + 1 := ⟨n - 1, by omega⟩
    exact readMembers_of_readValue htail
      (readValue_write_append v n room part _ hv hpart (by omega) (stops_append htail rest))
  | (key, v) :: (next, w) :: entries => by
    intro n room parts gap tail rest hgap htail _ hv h hn
    obtain ⟨name, rfl, hfirst, hes⟩ := Value.entriesAreStorable_cons hv
    obtain ⟨_, part, more, rfl, hname, hpart, hmore⟩ := writeEntries_cons h
    obtain ⟨nextName, nextPart, others, rfl, -, -, -⟩ := writeEntries_cons hmore
    cases hname
    rw [spread_cons_cons] at hn ⊢
    simp only [toList_member name, List.length_append, List.length_cons, List.append_assoc,
      List.cons_append] at hn ⊢
    obtain ⟨n, rfl⟩ : ∃ k, n = k + 1 := ⟨n - 1, by omega⟩
    have hread := readMembers_spread ((next, w) :: entries) n room _ gap tail rest hgap
      htail (by simp) hes hmore (by omega)
    have hvalue := readValue_write_append v n room part (',' :: (gap ++
      (spread gap ((writeText nextName ++ ": " ++ nextPart) :: others) ++ (tail ++ '}' :: rest))))
      hfirst hpart (by omega) rfl
    obtain ⟨t, heq⟩ := eq_cons_of_readMembers_eq_ok hread
    exact readMembers_cons hgap hvalue (heq ▸ skip_cons (by decide) t) hread

end

/-! ## Room -/

mutual

/-- **A storable value can be written** where there is room for it. -/
theorem exists_writeValue : ∀ (v : Value) (room : Nat), v.storable = true → v.depth ≤ room →
    ∃ s, writeValue room v = .ok s
  | .null | .bool true | .bool false | .float _ | .str _ => by
    intro room _ _
    exact ⟨_, by rw [writeValue]⟩
  | .int n => by
    intro room hv _
    rw [Value.storable] at hv
    exact ⟨toString n, by rw [writeValue, writeInt, if_pos hv]⟩
  | .moment _ => by
    intro room hv
    rw [Value.storable] at hv
    cases hv
  | .list items => by
    intro room hv hroom
    rw [Value.storable] at hv
    rw [Value.depth] at hroom
    obtain ⟨room, rfl⟩ : ∃ k, room = k + 1 := ⟨room - 1, by omega⟩
    obtain ⟨parts, hparts⟩ := exists_writeItems items room hv (by omega)
    exact ⟨_, by rw [writeValue, hparts]; rfl⟩
  | .map entries => by
    intro room hv hroom
    rw [Value.storable] at hv
    rw [Value.depth] at hroom
    obtain ⟨room, rfl⟩ : ∃ k, room = k + 1 := ⟨room - 1, by omega⟩
    obtain ⟨parts, hparts⟩ := exists_writeEntries entries room hv (by omega)
    exact ⟨_, by rw [writeValue, hparts]; rfl⟩

theorem exists_writeItems : ∀ (items : List Value) (room : Nat), Value.areStorable items = true →
    Value.depthOfItems items ≤ room → ∃ parts, writeItems room items = .ok parts
  | [] => by
    intro room _ _
    exact ⟨[], by rw [writeItems]⟩
  | v :: items => by
    intro room hv hroom
    rw [Value.areStorable, Bool.and_eq_true] at hv
    rw [Value.depthOfItems] at hroom
    obtain ⟨part, hpart⟩ := exists_writeValue v room hv.1 (by omega)
    obtain ⟨parts, hparts⟩ := exists_writeItems items room hv.2 (by omega)
    exact ⟨part :: parts, by rw [writeItems, hpart, hparts]; rfl⟩

theorem exists_writeEntries : ∀ (entries : List (Key × Value)) (room : Nat),
    Value.entriesAreStorable entries = true → Value.depthOfEntries entries ≤ room →
    ∃ parts, writeEntries room entries = .ok parts
  | [] => by
    intro room _ _
    exact ⟨[], by rw [writeEntries]⟩
  | (key, v) :: entries => by
    intro room hv hroom
    obtain ⟨name, rfl, hv, hes⟩ := Value.entriesAreStorable_cons hv
    rw [Value.depthOfEntries] at hroom
    obtain ⟨part, hpart⟩ := exists_writeValue v room hv (by omega)
    obtain ⟨parts, hparts⟩ := exists_writeEntries entries room hes (by omega)
    exact ⟨(writeText name ++ ": " ++ part) :: parts, by
      rw [writeEntries, hpart, hparts]; rfl⟩

end

/-! ## Documents -/

theorem readChars_of_readValue {document : List Char} {v : Value} (hskip : skip document = document)
    (h : readValue (2 * document.length + 1) depthLimit document = .ok (v, [])) :
    readChars document = .ok v := by
  simp only [readChars, hskip, h, bind, Except.bind]
  rfl

theorem exists_write {v : Value} (hv : v.storable = true) (hd : v.depth ≤ depthLimit) :
    ∃ document, write v = .ok document :=
  exists_writeValue v depthLimit hv hd

/-- **A document holds what was written.** -/
theorem read_write {v : Value} {document : String} (hv : v.storable = true)
    (h : write v = .ok document) : read document = .ok v := by
  have hread := readValue_write_append v (2 * document.toList.length) depthLimit document [] hv h
    (Nat.le_refl _) rfl
  rw [List.append_nil] at hread
  exact readChars_of_readValue (skip_of_readValue_eq_ok hread) hread

/-! ## Documents on many lines -/

/-- The members of an object behind what there is of it, each with `gap` in front. -/
def joinMembers (document gap : String) : List String → String
  | [] => document ++ "\n\x7d"
  | part :: parts => joinMembers (document ++ gap ++ part) ",\n  " parts

/-- Members are written one by one up to the first that cannot be written. -/
theorem writeMembers_eq (room : Nat) (entries : List (Key × Value)) (document gap : String) :
    match writeEntries room entries with
    | .ok parts => writeMembers room document gap entries = .whole (joinMembers document gap parts)
    | .error fault => ∃ start, writeMembers room document gap entries = .cut start fault := by
  induction entries generalizing document gap with
  | nil =>
    rw [writeEntries]
    rfl
  | cons entry entries ih =>
    obtain ⟨key, v⟩ := entry
    rw [writeEntries, writeMembers]
    cases memberName key with
    | error fault => exact ⟨_, rfl⟩
    | ok name =>
      cases writeValue room v with
      | error fault => exact ⟨_, rfl⟩
      | ok part =>
        have hrest := ih (document ++ gap ++ (writeText name ++ ": ") ++ part) ",\n  "
        cases hentries : writeEntries room entries with
        | error fault =>
          rw [hentries] at hrest
          exact hrest
        | ok more =>
          rw [hentries] at hrest
          have hstart : document ++ gap ++ (writeText name ++ ": ") ++ part =
              document ++ gap ++ (writeText name ++ ": " ++ part) := String.append_assoc ..
          rw [hstart] at hrest
          simp only [hstart, hrest, bind, Except.bind, pure, Except.pure, joinMembers]

theorem toList_joinMembers (document gap part : String) (parts : List String) :
    (joinMembers document gap (part :: parts)).toList =
      document.toList ++ (gap.toList ++
        (spread ['\n', ' ', ' '] (part :: parts) ++ ['\n', '}'])) := by
  induction parts generalizing document gap part with
  | nil => simp [joinMembers, spread_singleton]
  | cons next parts ih =>
    rw [joinMembers, ih, spread_cons_cons]
    simp

/-- An object is written if its members can be. -/
theorem writeLayered_eq (entries : List (Key × Value)) :
    match writeEntries (depthLimit - 1) entries with
    | .ok _ => ∃ text, writeLayered entries = .whole text
    | .error fault => ∃ start, writeLayered entries = .cut start fault := by
  cases entries with
  | nil =>
    rw [writeEntries]
    exact ⟨_, rfl⟩
  | cons entry entries =>
    have hmembers := writeMembers_eq (depthLimit - 1) (entry :: entries) "\x7b\n  " ""
    cases hentries : writeEntries (depthLimit - 1) (entry :: entries) with
    | ok parts =>
      rw [hentries] at hmembers
      exact ⟨_, hmembers⟩
    | error fault =>
      rw [hentries] at hmembers
      exact hmembers

theorem writeEntries_of_writeLayered_eq_whole {entries : List (Key × Value)} {text : String}
    (h : writeLayered entries = .whole text) :
    ∃ parts, writeEntries (depthLimit - 1) entries = .ok parts := by
  have hlayered := writeLayered_eq entries
  cases hentries : writeEntries (depthLimit - 1) entries with
  | ok parts => exact ⟨parts, rfl⟩
  | error fault =>
    rw [hentries] at hlayered
    obtain ⟨start, hcut⟩ := hlayered
    cases hcut.symm.trans h

/-- The text of an object whose members could all be written. -/
theorem toList_of_writeLayered_eq_whole {entry : Key × Value} {entries : List (Key × Value)}
    {text : String} (h : writeLayered (entry :: entries) = .whole text) :
    ∃ parts, writeEntries (depthLimit - 1) (entry :: entries) = .ok parts ∧ text.toList =
      '{' :: (['\n', ' ', ' '] ++
        (spread ['\n', ' ', ' '] parts ++ (['\n'] ++ '}' :: []))) := by
  obtain ⟨parts, hparts⟩ := writeEntries_of_writeLayered_eq_whole h
  have hmembers := writeMembers_eq (depthLimit - 1) (entry :: entries) "\x7b\n  " ""
  rw [hparts] at hmembers
  rw [writeLayered, hmembers, Written.whole.injEq] at h
  · obtain ⟨_, part, more, rfl, -, -, -⟩ := writeEntries_cons hparts
    refine ⟨_, hparts, ?_⟩
    rw [← h, toList_joinMembers]
    rfl
  · simp

/-- **An object with a member on each line holds what was written.** -/
theorem read_writeLayered {entries : List (Key × Value)} {text : String}
    (hv : Value.entriesAreStorable entries = true) (h : writeLayered entries = .whole text) :
    read text = .ok (.map entries) := by
  cases entries with
  | nil =>
    cases h
    rfl
  | cons entry entries =>
    obtain ⟨parts, hparts, htext⟩ := toList_of_writeLayered_eq_whole h
    rw [read, htext]
    set document := '{' :: (['\n', ' ', ' '] ++
      (spread ['\n', ' ', ' '] parts ++ (['\n'] ++ '}' :: []))) with hdocument
    have hlen : document.length = (spread ['\n', ' ', ' '] parts).length + 6 := by
      simp [hdocument]
    have hroom : depthLimit = depthLimit - 1 + 1 := rfl
    have hgap : ∀ c ∈ ['\n', ' ', ' '], isSpace c = true := by simp [isSpace]
    have hmembers := readMembers_spread (entry :: entries) (2 * document.length - 1)
      (depthLimit - 1) parts ['\n', ' ', ' '] ['\n'] [] hgap (by simp [isSpace]) (by simp) hv
      hparts (by omega)
    have hread := readValue_map ['\n', ' ', ' '] hgap hmembers
    rw [Table.ofPairs_of_distinct (Value.distinct_of_entriesAreStorable hv), ← hdocument,
      ← hroom, show 2 * document.length - 1 + 1 = 2 * document.length by omega] at hread
    exact readChars_of_readValue (skip_cons (by decide) _) hread

end Json

end PersistentId
