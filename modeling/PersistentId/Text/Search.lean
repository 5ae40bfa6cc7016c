import PersistentId.Text.Blank

/-!
# Finding text in text

Splitting a text where another one occurs. The main definitions are

* `after?`, what follows a given beginning, if the text begins so (`after?_eq_some`);
* `cut`, the text on either side of the first occurrence of a mark (`eq_append_of_cut`);
* `pieces`, the maximal runs of characters outside a class of separators.
-/

namespace PersistentId.Text

/-- What follows `start` in a text that begins with it. -/
def after? : List Char → List Char → Option (List Char)
  | [], s => some s
  | _ :: _, [] => none
  | a :: start, c :: s => if a = c then after? start s else none

/-- The text before and after the first occurrence of a mark. -/
def cut (mark : List Char) : List Char → Option (List Char × List Char)
  | [] => (after? mark []).map ([], ·)
  | c :: s =>
    match after? mark (c :: s) with
    | some rest => some ([], rest)
    | none => (cut mark s).map fun (before, rest) => (c :: before, rest)

/-- The text before and after the last occurrence of a character. -/
def cutLast (mark : Char) : List Char → Option (List Char × List Char)
  | [] => none
  | c :: s =>
    match cutLast mark s with
    | some (before, rest) => some (c :: before, rest)
    | none => if c = mark then some ([], s) else none

/-- What follows `start` in `s`, if `s` begins with it. -/
def stripStart? (start s : String) : Option String :=
  (after? start.toList s.toList).map String.ofList

/-- Whether `s` begins with `start`. -/
def beginsWith (start s : String) : Bool :=
  (after? start.toList s.toList).isSome

/-- Whether `s` ends with `ending`. -/
def endsWith (ending s : String) : Bool :=
  (after? ending.toList.reverse s.toList.reverse).isSome

/-- Whether `part` occurs in `s`. -/
def occursIn (part s : String) : Bool :=
  (cut part.toList s.toList).isSome

/-- The text before and after the first occurrence of `mark` in `s`. -/
def cutAt (mark s : String) : Option (String × String) :=
  (cut mark.toList s.toList).map fun (before, rest) => (String.ofList before, String.ofList rest)

/-- The maximal runs of characters outside the class `p`, `run` being the one under way. -/
def piecesFrom (p : Char → Bool) (run : List Char) : List Char → List (List Char)
  | [] => if run.isEmpty then [] else [run.reverse]
  | c :: s =>
    if p c then
      if run.isEmpty then piecesFrom p [] s else run.reverse :: piecesFrom p [] s
    else piecesFrom p (c :: run) s

/-- The maximal runs of characters of `s` outside the class `p`. -/
def pieces (p : Char → Bool) (s : String) : List String :=
  (piecesFrom p [] s.toList).map String.ofList

/-- A text begins with `start` exactly when it is `start` with the rest behind it. -/
theorem after?_eq_some {start s rest : List Char} :
    after? start s = some rest ↔ s = start ++ rest := by
  induction start generalizing s with
  | nil => simp [after?]
  | cons a start ih =>
    cases s with
    | nil => simp [after?]
    | cons c s =>
      by_cases h : a = c
      · simp [after?, h, ih]
      · simp [after?, h, Ne.symm h]

@[simp]
theorem after?_append (start rest : List Char) : after? start (start ++ rest) = some rest :=
  after?_eq_some.2 rfl

/-- A cut loses nothing: the text is what stands before the mark, the mark, and the rest. -/
theorem eq_append_of_cut {mark s before rest : List Char} (h : cut mark s = some (before, rest)) :
    s = before ++ mark ++ rest := by
  induction s generalizing before with
  | nil =>
    obtain ⟨r, hr, he⟩ := Option.map_eq_some_iff.1 h
    obtain ⟨rfl, rfl⟩ := Prod.mk.inj he
    simpa using after?_eq_some.1 hr
  | cons c s ih =>
    unfold cut at h
    split at h
    · next r hr =>
      obtain ⟨rfl, rfl⟩ := Prod.mk.inj (Option.some.inj h)
      simpa using after?_eq_some.1 hr
    · obtain ⟨⟨b, r⟩, hb, he⟩ := Option.map_eq_some_iff.1 h
      obtain ⟨rfl, rfl⟩ := Prod.mk.inj he
      simp [ih hb]

end PersistentId.Text
