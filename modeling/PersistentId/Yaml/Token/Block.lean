import PersistentId.Yaml.Cursor
import PersistentId.Yaml.Token

/-!
# Block scalars

Texts that are laid out on lines of their own, below a header: `|` keeps the line breaks and `>`
folds them. The header may say how deep the lines are indented and what becomes of the breaks at
the end: `+` keeps all, `-` drops all, else one is kept.
-/

namespace PersistentId.Yaml

/-- What becomes of the line breaks at the end. -/
inductive Chomping where
  | clip
  | strip
  | keep
  deriving DecidableEq, Repr, Inhabited

/-- The header of a block scalar. -/
structure BlockHeader where
  chomping : Chomping := .clip
  /-- How much deeper the lines are indented than what is around them. -/
  increment : Option Nat := none
  deriving DecidableEq, Repr, Inhabited

/-- The chomping that a character stands for. -/
def chomping? : Char → Option Chomping
  | '+' => some .keep
  | '-' => some .strip
  | _ => none

/-- The increment that a character stands for, which is not zero. -/
def increment? (c : Char) : Option (Except Flaw Nat) :=
  if !c.isDigit then none
  else if c = '0' then some (.error .malformed)
  else some (.ok (c.toNat - '0'.toNat))

/-- The marks of a header, in either order. -/
def readMarks (cursor : Cursor) : Except Flaw (BlockHeader × Cursor) :=
  match cursor.rest with
  | [] => .ok ({}, cursor)
  | c :: rest =>
    match chomping? c, increment? c with
    | some chomping, _ =>
      match rest.head?.bind increment? with
      | some increment => do
        pure ({ chomping, increment := some (← increment) }, cursor.advance 2)
      | none => .ok ({ chomping }, cursor.next)
    | none, some increment => do
      let increment := some (← increment)
      match rest.head?.bind chomping? with
      | some chomping => pure ({ chomping, increment }, cursor.advance 2)
      | none => pure ({ increment }, cursor.next)
    | none, none => .ok ({}, cursor)

/-- The header of a block scalar behind its indicator, with its line. -/
def readHeader (cursor : Cursor) : Except Flaw (BlockHeader × Cursor) := do
  let (header, cursor) ← readMarks cursor
  if !cursor.ends (fun c => c = ' ' || isBreak c) then throw .malformed
  let cursor := cursor.skipComment
  if !cursor.ends isBreak then throw .malformed
  pure (header, ((cursor.takeBreak).map (·.2)).getD cursor)

/-- The empty lines before the first one with text, and the deepest column reached on the way. -/
def leadingBreaks : Nat → (deepest : Nat) → Cursor → List Char × Nat × Cursor
  | 0, deepest, cursor => ([], deepest, cursor)
  | n + 1, deepest, cursor =>
    if cursor.rest.head? = some ' ' then
      leadingBreaks n (max deepest cursor.next.column) cursor.next
    else match cursor.takeBreak with
      | none => ([], deepest, cursor)
      | some (c, behind) =>
        let (more, deepest, behind) := leadingBreaks n deepest behind
        (c :: more, deepest, behind)

/-- The place behind blanks, at most at the given column. -/
def skipIndent (indent : Nat) (cursor : Cursor) : Cursor :=
  cursor.advance (min (indent - cursor.column) (cursor.takeWhile (· = ' ')).length)

/-- The empty lines before the next one with text. -/
def emptyLines (indent : Nat) : Nat → Cursor → List Char × Cursor
  | 0, cursor => ([], cursor)
  | n + 1, cursor =>
    let cursor := skipIndent indent cursor
    match cursor.takeBreak with
    | none => ([], cursor)
    | some (c, behind) =>
      let (more, behind) := emptyLines indent n behind
      (c :: more, behind)

/-- Whether a line with text starts here. -/
def atBlockLine (indent : Nat) (cursor : Cursor) : Bool :=
  cursor.column = indent && !cursor.rest.isEmpty

/-- What joins two lines of text. -/
def lineJoin (folded : Bool) (line : List Char) (end? : Option Char) (empties : List Char)
    (cursor : Cursor) : List Char :=
  let text (s : List Char) : Bool := !endsAt isBlank s
  if folded && end? = some '\n' && text line && text cursor.rest then
    if empties.isEmpty then [' '] else []
  else end?.toList

/-- The lines of a block scalar, with the empty lines that come before them. -/
def readBlockLines (folded : Bool) (chomping : Chomping) (indent : Nat) :
    Nat → (empties : List Char) → Cursor → List Char × Cursor
  | 0, _, cursor => ([], cursor)
  | n + 1, empties, cursor =>
    let line := cursor.takeWhile (!isBreak ·)
    let behind := cursor.advance line.length
    let (end?, behind) := match behind.takeBreak with
      | some (c, behind) => (some c, behind)
      | none => (none, behind)
    let (next, behind) := emptyLines indent (behind.rest.length + 1) behind
    if atBlockLine indent behind then
      let (more, last) := readBlockLines folded chomping indent n next behind
      (empties ++ line ++ lineJoin folded line end? next behind ++ more, last)
    else
      let tail := match chomping with
        | .strip => []
        | .clip => end?.toList
        | .keep => end?.toList ++ next
      (empties ++ line ++ tail, behind)

/-- A block scalar behind its indicator, `level` being one more than the column of the collection
around it. -/
def readBlock (folded : Bool) (level : Nat) (cursor : Cursor) : Except Flaw (String × Cursor) := do
  let (header, cursor) ← readHeader cursor
  let least := max level 1
  let bound := cursor.rest.length + 1
  let (indent, empties, cursor) := match header.increment with
    | none =>
      let (empties, deepest, cursor) := leadingBreaks bound 0 cursor
      (max least deepest, empties, cursor)
    | some increment =>
      let indent := least + increment - 1
      let (empties, cursor) := emptyLines indent bound cursor
      (indent, empties, cursor)
  if atBlockLine indent cursor then
    let (text, cursor) := readBlockLines folded header.chomping indent bound empties cursor
    pure (String.ofList text, cursor)
  else pure (String.ofList (if header.chomping = .keep then empties else []), cursor)

end PersistentId.Yaml
