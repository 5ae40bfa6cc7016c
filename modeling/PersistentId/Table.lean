/-!
# Tables

A table lists pairs of a key and a value in the order in which the keys were first entered. Keys
are told apart by `==`, which need not be equality: of two keys that count as one, the first that
was entered stays. `Table.put` replaces the value of a key where it stands or adds the pair at the
end, so a table built by `put` has each key once.

The laws say what `find?` sees after each operation: `find?_put_self`, `find?_put_of_ne`,
`find?_remove_self`.
-/

namespace PersistentId

/-- Pairs of keys and values, in order of entry. -/
abbrev Table (κ α : Type) := List (κ × α)

namespace Table

variable {κ α β : Type} [BEq κ]

/-- The value of a key. -/
def find? : Table κ α → κ → Option α
  | [], _ => none
  | (k, a) :: t, key => if k == key then some a else find? t key

/-- Whether the table has a key. -/
def has (t : Table κ α) (key : κ) : Bool :=
  (find? t key).isSome

/-- The table in which a key has the given value. -/
def put : Table κ α → κ → α → Table κ α
  | [], key, a => [(key, a)]
  | (k, b) :: t, key, a => if k == key then (k, a) :: t else (k, b) :: put t key a

/-- The table without a key. -/
def remove : Table κ α → κ → Table κ α
  | [], _ => []
  | (k, a) :: t, key => if k == key then remove t key else (k, a) :: remove t key

/-- The table with all pairs of another one put in, in their order. -/
def putAll (t : Table κ α) : Table κ α → Table κ α
  | [] => t
  | (k, a) :: more => putAll (put t k a) more

/-- The table of a list of pairs, later ones winning. -/
def ofPairs (pairs : List (κ × α)) : Table κ α :=
  putAll [] pairs

/-- The keys, in order of entry. -/
def keys (t : Table κ α) : List κ :=
  t.map (·.1)

@[simp]
theorem find?_nil (key : κ) : find? ([] : Table κ α) key = none := rfl

@[simp]
theorem find?_put_self [ReflBEq κ] (t : Table κ α) (key : κ) (a : α) :
    find? (put t key a) key = some a := by
  induction t with
  | nil => simp [put, find?]
  | cons p t ih =>
    obtain ⟨k, b⟩ := p
    by_cases h : (k == key) = true <;> simp [put, find?, h, ih]

theorem find?_put_of_ne [PartialEquivBEq κ] (t : Table κ α) {key other : κ} (a : α)
    (h : (key == other) = false) : find? (put t key a) other = find? t other := by
  induction t with
  | nil => simp [put, find?, h]
  | cons p t ih =>
    obtain ⟨k, b⟩ := p
    by_cases hk : (k == key) = true
    · have hn : (k == other) = false := by rw [BEq.congr_left hk, h]
      simp [put, find?, hk, hn]
    · simp [put, find?, hk, ih]

@[simp]
theorem find?_remove_self (t : Table κ α) (key : κ) : find? (remove t key) key = none := by
  induction t with
  | nil => rfl
  | cons p t ih =>
    obtain ⟨k, b⟩ := p
    by_cases h : (k == key) = true <;> simp [remove, find?, h, ih]

end Table

end PersistentId
