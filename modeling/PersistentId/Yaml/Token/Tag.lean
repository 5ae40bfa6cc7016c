import PersistentId.Text.Units
import PersistentId.Yaml.Cursor
import PersistentId.Yaml.Token

/-!
# Names, tags and directives

The tokens that are made of names: anchors and aliases, tags, and the directives before a document.
A tag is written with a handle, which stands for the start of it, or in full between angle brackets.
Each reader starts behind the indicator of its token.
-/

namespace PersistentId.Yaml

/-- A name, which is not empty. -/
def readName (cursor : Cursor) : Except Flaw (String × Cursor) :=
  let name := cursor.takeWhile isNameChar
  if name.isEmpty then .error .malformed
  else .ok (String.ofList name, cursor.advance name.length)

/-- Whether a character may follow the name of an anchor. -/
def endsName (c : Char) : Bool :=
  isSpace c || ['?', ':', ',', ']', '}', '%', '@', '\x60'].contains c

/-- The name of an anchor. -/
def readAnchor (cursor : Cursor) : Except Flaw (String × Cursor) := do
  let (name, cursor) ← readName cursor
  if cursor.ends endsName then pure (name, cursor) else throw .malformed

/-- Whether a character ends a word of a directive or a tag. -/
def endsWord (c : Char) : Bool :=
  c = ' ' || isBreak c

/-! ## Tags -/

/-- Whether a character may stand in a tag. -/
def isTagChar (c : Char) : Bool :=
  isNameChar c || [';', '/', '?', ':', '@', '&', '=', '+', '$', ',', '.', '!', '~', '*', '\'', '(',
    ')', '[', ']', '%'].contains c

/-- The bytes of the escapes that come next. -/
def readBytes : Nat → Cursor → Except Flaw (List UInt8 × Cursor)
  | 0, _ => .error .malformed
  | n + 1, cursor =>
    match cursor.rest with
    | '%' :: digits =>
      match Text.hexNumber? (digits.take 2) with
      | some code => do
        if digits.length < 2 then throw .malformed
        let (more, cursor) ← readBytes n (cursor.advance 3)
        pure (code.toUInt8 :: more, cursor)
      | none => .error .malformed
    | _ => .ok ([], cursor)

/-- The characters of a tag. -/
def readTagChars : Nat → Cursor → Except Flaw (List Char × Cursor)
  | 0, _ => .error .malformed
  | n + 1, cursor =>
    match cursor.rest with
    | [] => .ok ([], cursor)
    | c :: rest =>
      if c = '%' then do
        let (bytes, cursor) ← readBytes (rest.length + 2) cursor
        match String.fromUTF8? ⟨bytes.toArray⟩ with
        | some text =>
          let (more, cursor) ← readTagChars n cursor
          pure (text.toList ++ more, cursor)
        | none => throw .malformed
      else if isTagChar c then do
        let (more, cursor) ← readTagChars n cursor.next
        pure (c :: more, cursor)
      else .ok ([], cursor)

/-- The text of a tag, which is not empty. -/
def readTagText (cursor : Cursor) : Except Flaw (String × Cursor) := do
  let (text, cursor) ← readTagChars (cursor.rest.length + 1) cursor
  if text.isEmpty then throw .malformed
  pure (String.ofList text, cursor)

/-- A handle behind its exclamation mark: nothing or a name and a second mark. -/
def readHandle (cursor : Cursor) : Except Flaw (String × Cursor) :=
  if cursor.rest.head? = some ' ' then .ok ("!", cursor)
  else
    let name := cursor.takeWhile isNameChar
    let cursor := cursor.advance name.length
    if cursor.rest.head? = some '!' then .ok ("!" ++ String.ofList name ++ "!", cursor.next)
    else .error .malformed

/-- A tag behind its exclamation mark. -/
def readTag (cursor : Cursor) : Except Flaw (Token × Cursor) := do
  let (token, cursor) ←
    if cursor.rest.head? = some '<' then do
      let (text, cursor) ← readTagText cursor.next
      if cursor.rest.head? ≠ some '>' then throw .malformed
      pure (Token.tag none text, cursor.next)
    else if cursor.ends isSpace then pure (Token.tag none "!", cursor)
    else do
      let hasHandle := (cursor.takeWhile (!endsWord ·)).contains '!'
      let (handle, cursor) ← if hasHandle then readHandle cursor else pure ("!", cursor)
      let (text, cursor) ← readTagText cursor
      pure (Token.tag (some handle) text, cursor)
  if cursor.ends endsWord then pure (token, cursor) else throw .malformed

/-! ## Directives -/

/-- The digits of a number in a directive. -/
def readFigures (cursor : Cursor) : Except Flaw (Nat × Cursor) :=
  let digits := cursor.takeWhile Char.isDigit
  if digits.isEmpty then .error .malformed
  else .ok (digits.foldl (fun n c => 10 * n + (c.toNat - '0'.toNat)) 0,
    cursor.advance digits.length)

/-- The version of the language, two numbers around a point. -/
def readVersion (cursor : Cursor) : Except Flaw (Token × Cursor) := do
  let (major, cursor) ← readFigures (cursor.dropWhile (· = ' '))
  if cursor.rest.head? ≠ some '.' then throw .malformed
  let (_, cursor) ← readFigures cursor.next
  if cursor.ends endsWord then pure (.version major, cursor) else throw .malformed

/-- A handle and what it stands for. -/
def readHandleMeaning (cursor : Cursor) : Except Flaw (Token × Cursor) := do
  let cursor := cursor.dropWhile (· = ' ')
  if cursor.rest.head? ≠ some '!' then throw .malformed
  let (handle, cursor) ← readHandle cursor.next
  if cursor.rest.head? ≠ some ' ' then throw .malformed
  let (start, cursor) ← readTagText (cursor.dropWhile (· = ' '))
  if cursor.ends endsWord then pure (.handle handle start, cursor) else throw .malformed

/-- A directive behind its percent sign, with its line. -/
def readDirective (cursor : Cursor) : Except Flaw (Token × Cursor) := do
  let (name, cursor) ← readName cursor
  if !cursor.ends endsWord then throw .malformed
  let (token, cursor) ←
    if name = "YAML" then readVersion cursor
    else if name = "TAG" then readHandleMeaning cursor
    else pure (.directive, cursor.dropWhile (!isBreak ·))
  let cursor := cursor.skipComment
  if !cursor.ends isBreak then throw .malformed
  pure (token, ((cursor.takeBreak).map (·.2)).getD cursor)

end PersistentId.Yaml
