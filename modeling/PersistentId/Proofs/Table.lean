import PersistentId.Table

/-!
# Tables with distinct keys

A table is `Distinct` if no two of its keys count as one. What `put` builds is distinct
(`distinct_put`, `distinct_ofPairs`), and a distinct table that is put into another one with no key
of it comes to stand behind it as it is (`putAll_eq_append`). `find?_append` says what is found in
two tables one behind the other, and `find?_eq_some_iff` that the pairs of a distinct table are what
is found in it.
-/

namespace PersistentId.Table

variable {κ α : Type} [BEq κ]

/-- Whether no two keys of a table count as one. -/
def Distinct (t : Table κ α) : Prop :=
  t.Pairwise fun p q => (p.1 == q.1) = false

instance (t : Table κ α) : Decidable (Distinct t) :=
  inferInstanceAs (Decidable (t.Pairwise fun p q => (p.1 == q.1) = false))

omit [BEq κ] in
theorem keys_append (t u : Table κ α) : keys (t ++ u) = keys t ++ keys u :=
  List.map_append

omit [BEq κ] in
theorem mem_keys_append {t u : Table κ α} {key : κ} :
    key ∈ keys (t ++ u) ↔ key ∈ keys t ∨ key ∈ keys u := by
  rw [keys_append, List.mem_append]

/-! ## Finding -/

theorem find?_append (t u : Table κ α) (key : κ) :
    find? (t ++ u) key = (find? t key).or (find? u key) := by
  induction t with
  | nil => simp
  | cons p t ih =>
    obtain ⟨k, a⟩ := p
    by_cases h : (k == key) = true <;> simp [find?, h, ih]

theorem find?_eq_none_iff {t : Table κ α} {key : κ} :
    find? t key = none ↔ ∀ p ∈ t, (p.1 == key) = false := by
  induction t with
  | nil => simp
  | cons p t ih =>
    obtain ⟨k, a⟩ := p
    by_cases h : (k == key) = true <;> simp [find?, h, ih]

theorem has_eq_false_iff {t : Table κ α} {key : κ} :
    has t key = false ↔ ∀ p ∈ t, (p.1 == key) = false := by
  rw [has, Option.isSome_eq_false_iff, Option.isNone_iff_eq_none, find?_eq_none_iff]

theorem has_eq_true_iff [LawfulBEq κ] {t : Table κ α} {key : κ} :
    has t key = true ↔ key ∈ keys t := by
  simp only [has, Option.isSome_iff_ne_none, ne_eq, find?_eq_none_iff, beq_eq_false_iff_ne]
  simp [keys]

theorem mem_of_find?_eq_some [LawfulBEq κ] {t : Table κ α} {key : κ} {a : α}
    (h : find? t key = some a) : (key, a) ∈ t := by
  induction t with
  | nil => cases h
  | cons p t ih =>
    obtain ⟨k, b⟩ := p
    rw [find?] at h
    split at h
    · next hk =>
      rw [eq_of_beq hk, Option.some.inj h]
      exact List.mem_cons_self
    · exact List.mem_cons_of_mem _ (ih h)

/-- A pair of a distinct table is found under its key. -/
theorem find?_of_mem [ReflBEq κ] {t : Table κ α} (ht : Distinct t) {p : κ × α} (hp : p ∈ t) :
    find? t p.1 = some p.2 := by
  induction t with
  | nil => cases hp
  | cons q t ih =>
    obtain ⟨hq, ht⟩ := List.pairwise_cons.1 ht
    rw [find?]
    rcases List.mem_cons.1 hp with rfl | hp
    · simp
    · rw [hq p hp, if_neg Bool.false_ne_true]
      exact ih ht hp

/-- The pairs of a table with distinct keys are what is found in it. -/
theorem find?_eq_some_iff [LawfulBEq κ] {t : Table κ α} (ht : Distinct t) {key : κ} {a : α} :
    find? t key = some a ↔ (key, a) ∈ t :=
  ⟨mem_of_find?_eq_some, fun h => find?_of_mem ht h⟩

theorem has_eq_any_keys (t : Table κ α) (key : κ) : has t key = (keys t).any (· == key) := by
  induction t with
  | nil => rfl
  | cons p t ih =>
    obtain ⟨k, a⟩ := p
    rw [has, find?]
    cases hk : k == key with
    | true => simp [keys, hk]
    | false =>
      rw [if_neg Bool.false_ne_true, ← has, ih]
      simp [keys, hk]

/-- What is found stands under a key that counts as the one looked for. -/
theorem exists_of_find?_eq_some {t : Table κ α} {key : κ} {a : α} (h : find? t key = some a) :
    ∃ k, (k, a) ∈ t ∧ (k == key) = true := by
  induction t with
  | nil => cases h
  | cons p t ih =>
    obtain ⟨k, b⟩ := p
    rw [find?] at h
    split at h
    · next hk =>
      cases h
      exact ⟨k, List.mem_cons_self, hk⟩
    · obtain ⟨k', hmem, hk'⟩ := ih h
      exact ⟨k', List.mem_cons_of_mem _ hmem, hk'⟩

/-- Keys that count as one find the same. -/
theorem find?_congr [PartialEquivBEq κ] (t : Table κ α) {key other : κ}
    (h : (key == other) = true) : find? t key = find? t other := by
  induction t with
  | nil => rfl
  | cons p t ih =>
    obtain ⟨k, a⟩ := p
    rw [find?, find?, ih, BEq.congr_right h]

theorem has_iff_exists {t : Table κ α} {key : κ} : has t key = true ↔ ∃ a, find? t key = some a :=
  Option.isSome_iff_exists

theorem find?_remove_of_ne [PartialEquivBEq κ] (t : Table κ α) {key other : κ}
    (h : (key == other) = false) : find? (remove t key) other = find? t other := by
  induction t with
  | nil => rfl
  | cons p t ih =>
    obtain ⟨k, a⟩ := p
    by_cases hk : (k == key) = true
    · have hn : (k == other) = false := by rw [BEq.congr_left hk, h]
      simp [remove, find?, hk, hn, ih]
    · simp [remove, find?, hk, ih]

theorem mem_of_mem_remove {t : Table κ α} {key : κ} {p : κ × α} (h : p ∈ remove t key) : p ∈ t := by
  induction t with
  | nil => exact h
  | cons q t ih =>
    obtain ⟨k, a⟩ := q
    rw [remove] at h
    split at h
    · exact List.mem_cons_of_mem _ (ih h)
    · rcases List.mem_cons.1 h with rfl | h
      · exact List.mem_cons_self
      · exact List.mem_cons_of_mem _ (ih h)

/-- A key that a table does not have can be removed without a change. -/
theorem remove_of_find?_eq_none {t : Table κ α} {key : κ} (h : find? t key = none) :
    remove t key = t := by
  induction t with
  | nil => rfl
  | cons p t ih =>
    obtain ⟨k, a⟩ := p
    rw [find?] at h
    split at h
    · cases h
    · next hk => rw [remove, if_neg hk, ih h]

theorem nodup_keys [LawfulBEq κ] {t : Table κ α} : (keys t).Nodup ↔ Distinct t := by
  simp [keys, Distinct, List.Nodup, List.pairwise_map]

/-! ## Putting -/

theorem put_of_has_eq_false {t : Table κ α} {key : κ} (h : has t key = false) (a : α) :
    put t key a = t ++ [(key, a)] := by
  induction t with
  | nil => rfl
  | cons p t ih =>
    obtain ⟨k, b⟩ := p
    simp only [has_eq_false_iff, List.forall_mem_cons] at h ih
    simp [put, h.1, ih h.2]

/-- What is put in later stands where the first was. -/
theorem put_put_self [ReflBEq κ] (t : Table κ α) (key : κ) (a b : α) :
    put (put t key a) key b = put t key b := by
  induction t with
  | nil => simp [put]
  | cons p t ih =>
    obtain ⟨k, c⟩ := p
    by_cases h : (k == key) = true <;> simp [put, h, ih]

/-- What a key has already can be put in without a change. -/
theorem put_of_find? {t : Table κ α} {key : κ} {a : α} (h : find? t key = some a) :
    put t key a = t := by
  induction t with
  | nil => cases h
  | cons p t ih =>
    obtain ⟨k, b⟩ := p
    rw [find?] at h
    rw [put]
    split at h
    · next hk => rw [if_pos hk, Option.some.inj h]
    · next hk => rw [if_neg hk, ih h]

theorem has_put [EquivBEq κ] (t : Table κ α) (key other : κ) (a : α) :
    has (put t key a) other = (has t other || key == other) := by
  cases hk : key == other with
  | true =>
    rw [has, ← find?_congr _ hk, find?_put_self, Bool.or_true]
    rfl
  | false => rw [has, find?_put_of_ne _ _ hk, Bool.or_false, has]

/-- A key that is new comes to stand behind the others. -/
theorem keys_put (t : Table κ α) (key : κ) (a : α) :
    keys (put t key a) = if has t key then keys t else keys t ++ [key] := by
  cases hk : has t key with
  | false =>
    rw [put_of_has_eq_false hk, keys_append]
    rfl
  | true =>
    induction t with
    | nil => cases hk
    | cons p t ih =>
      obtain ⟨k, b⟩ := p
      rw [put]
      split
      · rfl
      · next hne =>
        rw [has, find?, if_neg hne] at hk
        simpa [keys] using ih hk

/-- Putting a pair into a table changes no other key, and adds one at most. -/
theorem exists_of_mem_put {t : Table κ α} {key : κ} {a : α} {p : κ × α} (h : p ∈ put t key a) :
    (∃ q ∈ t, q.1 = p.1) ∨ p.1 = key := by
  induction t with
  | nil => exact .inr (congrArg (·.1) (List.mem_singleton.1 h))
  | cons q t ih =>
    obtain ⟨k, b⟩ := q
    rw [put] at h
    split at h
    · rcases List.mem_cons.1 h with rfl | h
      · exact .inl ⟨(k, b), List.mem_cons_self, rfl⟩
      · exact .inl ⟨p, List.mem_cons_of_mem _ h, rfl⟩
    · rcases List.mem_cons.1 h with rfl | h
      · exact .inl ⟨(k, b), List.mem_cons_self, rfl⟩
      · rcases ih h with ⟨q, hq, he⟩ | he
        · exact .inl ⟨q, List.mem_cons_of_mem _ hq, he⟩
        · exact .inr he

theorem mem_or_eq_of_mem_put {t : Table κ α} {key : κ} {a : α} {p : κ × α} (h : p ∈ put t key a) :
    p ∈ t ∨ p.2 = a := by
  induction t with
  | nil => exact .inr (congrArg (·.2) (List.mem_singleton.1 h))
  | cons q t ih =>
    obtain ⟨k, b⟩ := q
    rw [put] at h
    split at h
    · rcases List.mem_cons.1 h with rfl | h
      · exact .inr rfl
      · exact .inl (List.mem_cons_of_mem _ h)
    · rcases List.mem_cons.1 h with rfl | h
      · exact .inl List.mem_cons_self
      · exact (ih h).imp_left (List.mem_cons_of_mem _)

theorem mem_keys_put [LawfulBEq κ] {t : Table κ α} {key other : κ} {a : α} :
    other ∈ keys (put t key a) ↔ other ∈ keys t ∨ other = key := by
  induction t with
  | nil => simp [put, keys]
  | cons p t ih =>
    obtain ⟨k, b⟩ := p
    rw [put]
    split
    · next hk =>
      rw [eq_of_beq hk]
      simp [keys, or_comm]
    · rw [keys, List.map_cons, List.mem_cons, ← keys, ih]
      simp [keys, or_assoc]

theorem mem_keys_putAll [LawfulBEq κ] {t u : Table κ α} {key : κ} :
    key ∈ keys (putAll t u) ↔ key ∈ keys t ∨ key ∈ keys u := by
  induction u generalizing t with
  | nil => simp [putAll, keys]
  | cons p u ih =>
    obtain ⟨k, a⟩ := p
    rw [putAll, ih, mem_keys_put, or_assoc]
    simp [keys]

theorem distinct_put {t : Table κ α} (ht : Distinct t) (key : κ) (a : α) :
    Distinct (put t key a) := by
  induction t with
  | nil => exact List.pairwise_singleton _ _
  | cons p t ih =>
    obtain ⟨k, b⟩ := p
    obtain ⟨hp, ht⟩ := List.pairwise_cons.1 ht
    rw [put]
    split
    · exact List.pairwise_cons.2 ⟨hp, ht⟩
    · next hk =>
      refine List.pairwise_cons.2 ⟨fun q hq => ?_, ih ht⟩
      rcases exists_of_mem_put hq with ⟨r, hr, he⟩ | he
      · exact he ▸ hp r hr
      · exact he ▸ Bool.eq_false_iff.2 hk

theorem distinct_putAll {t : Table κ α} (ht : Distinct t) (u : Table κ α) :
    Distinct (putAll t u) := by
  induction u generalizing t with
  | nil => exact ht
  | cons p u ih => exact ih (distinct_put ht p.1 p.2)

/-- What is put in comes before what was there. -/
theorem find?_putAll [EquivBEq κ] (t : Table κ α) {u : Table κ α} (hu : Distinct u) (key : κ) :
    find? (putAll t u) key = (find? u key).or (find? t key) := by
  induction u generalizing t with
  | nil => rfl
  | cons p u ih =>
    obtain ⟨k, a⟩ := p
    obtain ⟨hk, hu⟩ := List.pairwise_cons.1 hu
    rw [putAll, ih _ hu, find?]
    cases h : k == key with
    | false => simp [find?_put_of_ne t a h]
    | true =>
      have hnone : find? u key = none := by
        rw [← find?_congr u h, find?_eq_none_iff]
        exact fun q hq => BEq.comm.trans (hk q hq)
      simp [hnone, ← find?_congr _ h]

theorem distinct_ofPairs (pairs : List (κ × α)) : Distinct (ofPairs pairs) :=
  distinct_putAll List.Pairwise.nil pairs

theorem putAll_append (t u v : Table κ α) : putAll t (u ++ v) = putAll (putAll t u) v := by
  induction u generalizing t with
  | nil => rfl
  | cons p u ih => exact ih (put t p.1 p.2)

theorem ofPairs_append (t u : List (κ × α)) : ofPairs (t ++ u) = putAll (ofPairs t) u :=
  putAll_append [] t u

/-- A table with keys of its own comes to stand behind the one that it is put into. -/
theorem putAll_eq_append {t u : Table κ α} (h : Distinct (t ++ u)) : putAll t u = t ++ u := by
  induction u generalizing t with
  | nil => simp [putAll]
  | cons p u ih =>
    have hnew : has t p.1 = false := has_eq_false_iff.2 fun q hq =>
      (List.pairwise_append.1 h).2.2 q hq p List.mem_cons_self
    have happend : t ++ p :: u = put t p.1 p.2 ++ u := by
      rw [put_of_has_eq_false hnew, List.append_assoc, List.singleton_append]
    rw [happend] at h ⊢
    exact ih h

theorem ofPairs_of_distinct {t : Table κ α} (h : Distinct t) : ofPairs t = t :=
  putAll_eq_append h

theorem distinct_append_singleton [PartialEquivBEq κ] {t : Table κ α} (ht : Distinct t) {key : κ}
    (h : has t key = false) (a : α) : Distinct (t ++ [(key, a)]) := by
  rw [← put_of_has_eq_false h]
  exact distinct_put ht key a

end PersistentId.Table
