/-!
# Lines

A text file ends its lines with a line feed, a carriage return, or both together. `unify` turns
the three endings into line feeds, and `lines` splits a text there.
-/

namespace PersistentId.Text

/-- The text with every line ending written as a line feed. -/
def unify : List Char → List Char
  | [] => []
  | '\r' :: '\n' :: s => '\n' :: unify s
  | c :: s => (if c = '\r' then '\n' else c) :: unify s

/-- The lines of a text without their endings; `line` is the one under way, read backwards. A last
line without an ending counts, an empty rest does not. -/
def linesFrom (line : List Char) : List Char → List (List Char)
  | [] => if line.isEmpty then [] else [line.reverse]
  | c :: s => if c = '\n' then line.reverse :: linesFrom [] s else linesFrom (c :: line) s

/-- The lines of a text. -/
def lines (s : List Char) : List (List Char) :=
  linesFrom [] s

/-- A text without carriage returns is kept as it is. -/
theorem unify_of_not_mem {s : List Char} (h : '\r' ∉ s) : unify s = s := by
  induction s with
  | nil => rfl
  | cons c s ih =>
    simp only [List.mem_cons, not_or] at h
    have hc : c ≠ '\r' := fun e => h.1 e.symm
    rw [unify]
    · simp [hc, ih h.2]
    · intro s' e
      exact absurd e hc

end PersistentId.Text
