import PersistentId.Yaml.Character

/-!
# Places in a document

A `Cursor` is a place in a document: the characters that are left, and how far they are from the
start of the document and of their line. A byte order mark takes no column.

`Cursor.advance` goes on by a number of characters; `Cursor.dropWhile` and `Cursor.takeBreak` go on
by what they take.
-/

namespace PersistentId.Yaml

/-- A place in a document. -/
structure Cursor where
  /-- The characters from here on. -/
  rest : List Char
  /-- The number of characters before this place. -/
  index : Nat := 0
  line : Nat := 0
  column : Nat := 0
  deriving DecidableEq, Repr, Inhabited

namespace Cursor

/-- The place behind the next character. -/
def next (cursor : Cursor) : Cursor :=
  match cursor.rest with
  | [] => cursor
  | c :: rest =>
    if isBreak c then ⟨rest, cursor.index + 1, cursor.line + 1, 0⟩
    else ⟨rest, cursor.index + 1, cursor.line,
      if c = '\uFEFF' then cursor.column else cursor.column + 1⟩

/-- The place behind a number of characters. -/
def advance : Nat → Cursor → Cursor
  | 0, cursor => cursor
  | n + 1, cursor => advance n cursor.next

/-- The characters of a class that come next. -/
def takeWhile (cursor : Cursor) (p : Char → Bool) : List Char :=
  cursor.rest.takeWhile p

/-- The place behind the characters of a class. -/
def dropWhile (cursor : Cursor) (p : Char → Bool) : Cursor :=
  cursor.advance (cursor.takeWhile p).length

/-- The line break that comes next, a separator of lines kept and any other one a line feed, and the
place behind it. -/
def takeBreak (cursor : Cursor) : Option (Char × Cursor) :=
  match cursor.rest with
  | c :: _ =>
    if !isBreak c then none
    else some (if c = '\u0085' then '\n' else c, cursor.next)
  | [] => none

/-- Whether the end of the document or a character of a class comes next. -/
def ends (cursor : Cursor) (p : Char → Bool) : Bool :=
  endsAt p cursor.rest

/-- Whether a marker of three characters stands here by itself. -/
def hasMarker (cursor : Cursor) (mark : Char) : Bool :=
  match cursor.rest with
  | a :: b :: c :: rest => a = mark && b = mark && c = mark && endsAt isSpace rest
  | _ => false

/-- Whether a marker around documents stands here. -/
def atSeparator (cursor : Cursor) : Bool :=
  cursor.hasMarker '-' || cursor.hasMarker '.'

/-- The place behind blanks and a comment. -/
def skipComment (cursor : Cursor) : Cursor :=
  let cursor := cursor.dropWhile (· = ' ')
  if cursor.rest.head? = some '#' then cursor.dropWhile (!isBreak ·) else cursor

end Cursor

/-- What stands for a line break and those behind it in a scalar of several lines: a blank for a
single line feed, else the breaks behind the first. -/
def foldBreaks (first : Char) (more : List Char) : List Char :=
  if first ≠ '\n' then first :: more
  else if more.isEmpty then [' ']
  else more

end PersistentId.Yaml
