/-!
# Shelves

A shelf holds things by number, each new thing under the next number. A number that nothing was put
under stands for the default thing, so that looking up and replacing need no condition:
`get_put_self` and `get_put_of_ne` hold for all numbers.
-/

namespace PersistentId

/-- Things by number. -/
structure Shelf (α : Type) where
  items : List α := []
  deriving Repr, Inhabited

namespace Shelf

variable {α : Type} [Inhabited α]

/-- The next number. -/
def size (shelf : Shelf α) : Nat :=
  shelf.items.length

/-- The thing under a number. -/
def get (shelf : Shelf α) (n : Nat) : α :=
  shelf.items.getD n default

/-- The shelf with a thing under a number. -/
def put (shelf : Shelf α) (n : Nat) (a : α) : Shelf α :=
  ⟨(shelf.items ++ List.replicate (n + 1 - shelf.size) default).set n a⟩

/-- The shelf with things under the next numbers. -/
def addAll (shelf : Shelf α) (things : List α) : Shelf α :=
  ⟨shelf.items ++ things⟩

/-- A new number with a thing under it. -/
def add (shelf : Shelf α) (a : α) : Nat × Shelf α :=
  (shelf.size, shelf.addAll [a])

@[simp]
theorem get_put_self (shelf : Shelf α) (n : Nat) (a : α) : (shelf.put n a).get n = a := by
  have hlength : n < (shelf.items ++ List.replicate (n + 1 - shelf.size) default).length := by
    rw [List.length_append, List.length_replicate, size]
    omega
  rw [get, put, List.getD_eq_getElem?_getD, List.getElem?_set_self hlength, Option.getD_some]

theorem get_put_of_ne (shelf : Shelf α) {n m : Nat} (a : α) (h : m ≠ n) :
    (shelf.put n a).get m = shelf.get m := by
  simp only [get, put, List.getD_eq_getElem?_getD, List.getElem?_set_ne (Ne.symm h)]
  by_cases hm : m < shelf.items.length
  · rw [List.getElem?_append_left hm]
  · have hlength := Nat.le_of_not_lt hm
    rw [List.getElem?_append_right hlength, List.getElem?_replicate,
      List.getElem?_eq_none hlength]
    split <;> rfl

/-- What is added leaves the things under earlier numbers alone. -/
theorem get_addAll_of_lt (shelf : Shelf α) {n : Nat} (h : n < shelf.size) (things : List α) :
    (shelf.addAll things).get n = shelf.get n := by
  simp only [get, addAll, List.getD_eq_getElem?_getD, List.getElem?_append_left h]

/-- Nothing was put under a number that is not used yet. -/
theorem get_of_size_le (shelf : Shelf α) {n : Nat} (h : shelf.size ≤ n) :
    shelf.get n = default := by
  rw [get, List.getD_eq_getElem?_getD, List.getElem?_eq_none h, Option.getD_none]

omit [Inhabited α] in
@[simp]
theorem addAll_nil (shelf : Shelf α) : shelf.addAll [] = shelf := by
  rw [addAll, List.append_nil]

end Shelf

end PersistentId
