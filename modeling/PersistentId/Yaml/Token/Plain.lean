import PersistentId.Yaml.Cursor

/-!
# Plain scalars

Scalars without quotes. One ends at a tab, at a comment, at a colon that starts a value and, in
flow style, at a mark of that style. It goes on over following lines as long as these are indented
deeply enough and no marker around documents.
-/

namespace PersistentId.Yaml

/-- Whether a colon starts a value, given what follows it. -/
def startsValue (inFlow : Bool) (rest : List Char) : Bool :=
  endsAt (fun c => isSpace c || (inFlow && isFlowMark c)) rest

/-- Whether a plain scalar starts here. -/
def startsPlain (inFlow : Bool) : List Char → Bool
  | [] => false
  | c :: rest =>
    !(isIndicator c || isSpace c) ||
      (!endsAt isSpace rest && (c = '-' || (!inFlow && (c = '?' || c = ':'))))

/-- The characters of a plain scalar up to the next white space. -/
def plainRun (inFlow : Bool) : List Char → List Char
  | [] => []
  | c :: rest =>
    if isSpace c || (c = ':' && startsValue inFlow rest) ||
        (inFlow && (isFlowMark c || c = '?')) then []
    else c :: plainRun inFlow rest

/-- What stands between two runs of a plain scalar. -/
structure PlainGap where
  /-- The text that it makes inside the scalar; nothing if the scalar ends here. -/
  text : List Char
  cursor : Cursor
  /-- Whether it breaks a line. -/
  breaks : Bool
  deriving DecidableEq, Repr, Inhabited

/-- The line breaks of a gap behind the first, blanks between them dropped; nothing if a marker
around documents ends the scalar. -/
def gapBreaks : Nat → Cursor → Option (List Char) × Cursor
  | 0, cursor => (some [], cursor)
  | n + 1, cursor =>
    if cursor.rest.head? = some ' ' then gapBreaks n cursor.next
    else match cursor.takeBreak with
      | none => (some [], cursor)
      | some (c, behind) =>
        if behind.atSeparator then (none, behind)
        else
          let (more, behind) := gapBreaks n behind
          (more.map (c :: ·), behind)

/-- The gap that comes next. -/
def plainGap (cursor : Cursor) : PlainGap :=
  let blanks := cursor.takeWhile (· = ' ')
  let behind := cursor.advance blanks.length
  match behind.takeBreak with
  | none => ⟨blanks, behind, false⟩
  | some (first, behind) =>
    if behind.atSeparator then ⟨[], behind, true⟩
    else match gapBreaks behind.rest.length behind with
      | (none, behind) => ⟨[], behind, true⟩
      | (some more, behind) => ⟨foldBreaks first more, behind, true⟩

/-- A plain scalar that has been read. -/
structure Plain where
  text : List Char
  cursor : Cursor
  /-- Whether a line break follows the last of its characters. -/
  breaks : Bool
  deriving DecidableEq, Repr, Inhabited

/-- A plain scalar, behind the text that joins it to what was read before. In block style its
lines must not start before the column `indent`. -/
def readPlain (inFlow : Bool) (indent : Nat) :
    Nat → (gap : List Char) → (breaks : Bool) → Cursor → Plain
  | 0, _, breaks, cursor => ⟨[], cursor, breaks⟩
  | n + 1, gap, breaks, cursor =>
    let run := if cursor.rest.head? = some '#' then [] else plainRun inFlow cursor.rest
    if run.isEmpty then ⟨[], cursor, breaks⟩
    else
      let next := plainGap (cursor.advance run.length)
      let more :=
        if next.text.isEmpty || next.cursor.rest.head? = some '#' ||
            (!inFlow && next.cursor.column < indent) then ⟨[], next.cursor, next.breaks⟩
        else readPlain inFlow indent n next.text next.breaks next.cursor
      { more with text := gap ++ run ++ more.text }

end PersistentId.Yaml
