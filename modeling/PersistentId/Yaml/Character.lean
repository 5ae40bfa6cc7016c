/-!
# Characters of YAML

The classes of characters that the grammar tells apart. A line break is a line feed, a next-line
control or one of the two Unicode separators; only the space and the tab are blanks.
-/

namespace PersistentId.Yaml

/-- Whether a character ends a line. -/
def isBreak (c : Char) : Bool :=
  c = '\n' || c = '\u0085' || c = '\u2028' || c = '\u2029'

/-- Whether a character is a blank inside a line. -/
def isBlank (c : Char) : Bool :=
  c = ' ' || c = '\t'

/-- Whether a character separates tokens. -/
def isSpace (c : Char) : Bool :=
  isBlank c || isBreak c

/-- Whether the end of a document or a character of a class comes next. -/
def endsAt (p : Char → Bool) : List Char → Bool
  | [] => true
  | c :: _ => p c

/-- The marks of flow style. -/
def isFlowMark (c : Char) : Bool :=
  [',', '[', ']', '{', '}'].contains c

/-- The characters that have a meaning where a token starts. -/
def isIndicator (c : Char) : Bool :=
  ['-', '?', ':', ',', '[', ']', '{', '}', '#', '&', '*', '!', '|', '>', '\'', '"', '%', '@',
    '\x60'].contains c

/-- Whether a character can stand in the name of an anchor, a handle or a directive. -/
def isNameChar (c : Char) : Bool :=
  c.isAlphanum || c = '-' || c = '_'

/-- Whether a character may stand in a document at all. -/
def isAllowed (c : Char) : Bool :=
  let n := c.toNat
  n = 9 || n = 10 || n = 13 || (0x20 ≤ n && n ≤ 0x7E) || n = 0x85 || (0xA0 ≤ n && n ≤ 0xFFFD) ||
    0x10000 ≤ n

end PersistentId.Yaml
