/-!
# Blank characters

The characters that count as white space in identifiers, lists and store lines, and what it
means to trim them:

* `isBlank` is the class itself: the ASCII controls that separate text, the space, the next-line
  control, the no-break space and the Unicode spaces and separators;
* `trim` drops blanks at both ends and keeps everything between (`trim_of_clean`).
-/

namespace PersistentId.Text

/-- The blank characters. -/
def isBlank (c : Char) : Bool :=
  let n := c.toNat
  (9 ≤ n && n ≤ 13) || (28 ≤ n && n ≤ 32) || n == 0x85 || n == 0xA0 || n == 0x1680 ||
    (0x2000 ≤ n && n ≤ 0x200A) || n == 0x2028 || n == 0x2029 || n == 0x202F || n == 0x205F ||
    n == 0x3000

/-- The text without the characters of a class at its start. -/
def dropLeading (p : Char → Bool) (s : String) : String :=
  String.ofList (s.toList.dropWhile p)

/-- The characters without those of a class at their end. -/
def dropEnd (p : Char → Bool) (cs : List Char) : List Char :=
  (cs.reverse.dropWhile p).reverse

/-- The text without the characters of a class at its end. -/
def dropTrailing (p : Char → Bool) (s : String) : String :=
  String.ofList (dropEnd p s.toList)

/-- The characters without blanks at either end. -/
def trimChars (cs : List Char) : List Char :=
  dropEnd isBlank (cs.dropWhile isBlank)

/-- The text without blanks at either end. -/
def trim (s : String) : String :=
  String.ofList (trimChars s.toList)

@[simp]
theorem dropEnd_nil (p : Char → Bool) : dropEnd p [] = [] := rfl

theorem dropEnd_concat (p : Char → Bool) (cs : List Char) (c : Char) :
    dropEnd p (cs ++ [c]) = if p c then dropEnd p cs else cs ++ [c] := by
  simp only [dropEnd, List.reverse_append, List.reverse_cons, List.reverse_nil, List.nil_append,
    List.singleton_append, List.dropWhile_cons]
  split <;> simp

/-- A text with no blank at its ends is its own trimmed form. -/
theorem trim_of_clean {s : String} (hs : ∀ c ∈ s.toList, isBlank c = false) : trim s = s := by
  have h : ∀ {cs : List Char}, (∀ c ∈ cs, isBlank c = false) → cs.dropWhile isBlank = cs := by
    intro cs hcs
    cases cs with
    | nil => rfl
    | cons c cs => simp [hcs c (by simp)]
  rw [trim, trimChars, dropEnd, h hs, h (by simpa using hs), List.reverse_reverse,
    String.ofList_toList]

end PersistentId.Text
