import PersistentId.Text.Units
import PersistentId.Yaml.Cursor
import PersistentId.Yaml.Token

/-!
# Quoted scalars

Texts in single quotes, in which a quote is written twice, and in double quotes, in which a
backslash starts an escape. A line break inside is folded with the blanks around it; a backslash
before it takes it away. No line of a quoted text may look like a marker around documents.

`readQuoted` takes the text behind its opening quote. Each step takes a character at least, so that
the length of the document bounds their number.
-/

namespace PersistentId.Yaml

/-- The character behind a backslash. -/
def escaped? : Char → Option Char
  | '0' => some '\x00'
  | 'a' => some '\x07'
  | 'b' => some '\x08'
  | 't' => some '\t'
  | '\t' => some '\t'
  | 'n' => some '\n'
  | 'v' => some '\x0b'
  | 'f' => some '\x0c'
  | 'r' => some '\r'
  | 'e' => some '\x1b'
  | ' ' => some ' '
  | '"' => some '"'
  | '\\' => some '\\'
  | '/' => some '/'
  | 'N' => some '\u0085'
  | '_' => some '\u00a0'
  | 'L' => some '\u2028'
  | 'P' => some '\u2029'
  | _ => none

/-- How many digits follow the letter of a numbered escape. -/
def escapeWidth? : Char → Option Nat
  | 'x' => some 2
  | 'u' => some 4
  | 'U' => some 8
  | _ => none

/-- The code of a numbered escape with the given digits. -/
def escapeCode (width : Nat) (digits : List Char) : Except Flaw Nat :=
  match Text.hexNumber? digits with
  | none => .error .malformed
  | some code =>
    if digits.length < width then .error .malformed
    else if code < 0x110000 then .ok code
    else if code < 0x80000000 then .error .malformed
    else .error (.beyondRange "Python int too large to convert to C int")

/-- The line breaks behind the first one, blanks at the starts of lines dropped. -/
def moreBreaks : Nat → Cursor → Except Flaw (List Char × Cursor)
  | 0, _ => .error .malformed
  | n + 1, cursor =>
    if cursor.atSeparator then .error .malformed
    else
      let cursor := cursor.dropWhile isBlank
      match cursor.takeBreak with
      | none => .ok ([], cursor)
      | some (c, cursor) => do
        let (more, cursor) ← moreBreaks n cursor
        pure (c :: more, cursor)

/-- An escape behind its backslash: the codes it stands for, and the place behind it. -/
def readEscape (cursor : Cursor) : Except Flaw (List Nat × Cursor) :=
  match cursor.rest with
  | [] => .error .malformed
  | c :: rest =>
    match escaped? c, escapeWidth? c with
    | some e, _ => .ok ([e.toNat], cursor.next)
    | none, some width => do
      let code ← escapeCode width (rest.take width)
      pure ([code], cursor.advance (width + 1))
    | none, none =>
      match cursor.takeBreak with
      | none => .error .malformed
      | some (_, behind) => do
        let (more, behind) ← moreBreaks (rest.length + 1) behind
        pure (more.map Char.toNat, behind)

/-- Blanks and line breaks inside a quoted text: the codes they stand for, and the place behind
them. -/
def readSpace (cursor : Cursor) : Except Flaw (List Nat × Cursor) :=
  let blanks := cursor.takeWhile isBlank
  let behind := cursor.advance blanks.length
  match behind.takeBreak with
  | none => .ok (blanks.map Char.toNat, behind)
  | some (first, behind) => do
    let (more, behind) ← moreBreaks (behind.rest.length + 1) behind
    pure ((foldBreaks first more).map Char.toNat, behind)

/-- The codes of a quoted text up to its closing quote, and the place behind it. -/
def readCodes (quote : Char) : Nat → Cursor → Except Flaw (List Nat × Cursor)
  | 0, _ => .error .malformed
  | n + 1, cursor =>
    match cursor.rest with
    | [] => .error .malformed
    | c :: rest =>
      if c = quote then
        if quote = '\'' ∧ rest.head? = some '\'' then do
          let (codes, behind) ← readCodes quote n (cursor.advance 2)
          pure (c.toNat :: codes, behind)
        else .ok ([], cursor.next)
      else if c = '\\' ∧ quote = '"' then do
        let (first, behind) ← readEscape cursor.next
        let (codes, behind) ← readCodes quote n behind
        pure (first ++ codes, behind)
      else if isSpace c then do
        let (first, behind) ← readSpace cursor
        let (codes, behind) ← readCodes quote n behind
        pure (first ++ codes, behind)
      else do
        let (codes, behind) ← readCodes quote n cursor.next
        pure (c.toNat :: codes, behind)

/-- A quoted text behind its opening quote, and the place behind it. -/
def readQuoted (quote : Char) (cursor : Cursor) : Except Flaw (String × Cursor) := do
  let (codes, behind) ← readCodes quote (cursor.rest.length + 1) cursor
  pure (String.ofList (codes.map Text.ofUnit), behind)

end PersistentId.Yaml
