import PersistentId.Table
import PersistentId.Yaml.Token.Block
import PersistentId.Yaml.Token.Plain
import PersistentId.Yaml.Token.Quoted
import PersistentId.Yaml.Token.Tag

/-!
# Cutting a document into tokens

`tokens` cuts a document into its tokens. Two things go beyond reading them one by one:

* in block style the column of a token opens and closes collections. The lexer keeps the levels of
  those that are open, a level being one more than their column;
* that a scalar is a key shows only at the colon behind it. So the lexer remembers where a key may
  have started, one for each depth of flow style, and puts the token of the key in front of it
  afterwards. A key has to end on its line and within 1024 characters.
-/

namespace PersistentId.Yaml

/-- A place where a key may have started. -/
structure PossibleKey where
  /-- The position of its first token. -/
  token : Nat
  /-- Whether nothing else can start here. -/
  required : Bool
  start : Cursor
  deriving DecidableEq, Repr, Inhabited

/-- The state of the lexer. -/
structure Lexer where
  cursor : Cursor
  tokens : Array Token := #[]
  /-- How many collections of flow style are open. -/
  depth : Nat := 0
  /-- The level of the innermost collection of block style. -/
  level : Nat := 0
  /-- The levels of those around it. -/
  levels : List Nat := []
  /-- Whether a key may start here. -/
  mayStartKey : Bool := true
  /-- Where keys may have started, by depth. -/
  keys : Table Nat PossibleKey := []
  deriving Repr, Inhabited

namespace Lexer

/-- The lexer behind a token. -/
def emit (lexer : Lexer) (token : Token) (cursor : Cursor) : Lexer :=
  { lexer with tokens := lexer.tokens.push token, cursor }

/-- The lexer behind a token of one character. -/
def mark (lexer : Lexer) (token : Token) : Lexer :=
  lexer.emit token lexer.cursor.next

/-! ## Keys -/

/-- Whether a key that started at a place can still end here. -/
def isFresh (lexer : Lexer) (key : PossibleKey) : Bool :=
  key.start.line = lexer.cursor.line && lexer.cursor.index - key.start.index ≤ 1024

/-- The lexer without the keys that cannot end here any more. -/
def dropStaleKeys (lexer : Lexer) : Except Flaw Lexer :=
  if lexer.keys.any fun (_, key) => key.required && !lexer.isFresh key then .error .malformed
  else .ok { lexer with keys := lexer.keys.filter fun (_, key) => lexer.isFresh key }

/-- The lexer without the key that may have started at this depth. -/
def dropKey (lexer : Lexer) : Except Flaw Lexer :=
  match Table.find? lexer.keys lexer.depth with
  | some key =>
    if key.required then .error .malformed
    else .ok { lexer with keys := Table.remove lexer.keys lexer.depth }
  | none => .ok lexer

/-- The lexer with the next token as the possible start of a key. -/
def noteKey (lexer : Lexer) : Except Flaw Lexer := do
  if !lexer.mayStartKey then return lexer
  let lexer ← lexer.dropKey
  let key : PossibleKey :=
    { token := lexer.tokens.size
      required := lexer.depth = 0 && lexer.level = lexer.cursor.column + 1
      start := lexer.cursor }
  pure { lexer with keys := Table.put lexer.keys lexer.depth key }

/-! ## Levels -/

/-- The levels that are left when all above a bound are closed, and the tokens that close them. -/
def closing (bound : Nat) (level : Nat) : List Nat → Nat × List Nat × List Token
  | [] => (level, [], [])
  | outer :: levels =>
    if level ≤ bound then (level, outer :: levels, [])
    else
      let (level, levels, ends) := closing bound outer levels
      (level, levels, .blockEnd :: ends)

/-- The lexer with all levels above a bound closed, which flow style does not do. -/
def close (lexer : Lexer) (bound : Nat) : Lexer :=
  if lexer.depth ≠ 0 then lexer
  else
    let (level, levels, ends) := closing bound lexer.level lexer.levels
    { lexer with level, levels, tokens := lexer.tokens ++ ends }

/-- The lexer with a level for a column, opened by the token at a position unless the level is open
already. -/
def openAt (lexer : Lexer) (column position : Nat) (token : Token) : Lexer :=
  if column < lexer.level then lexer
  else
    { lexer with
      level := column + 1
      levels := lexer.level :: lexer.levels
      tokens := lexer.tokens.insertIdxIfInBounds position token }

/-- The lexer with a level for the next token, which block style allows only where a key may
start. -/
def openHere (lexer : Lexer) (token : Token) : Except Flaw Lexer :=
  if lexer.depth ≠ 0 then .ok lexer
  else if !lexer.mayStartKey then .error .malformed
  else .ok (lexer.openAt lexer.cursor.column lexer.tokens.size token)

/-! ## Tokens -/

/-- The lexer behind all that stands between tokens, where a line break lets a key start. -/
def skipSpace : Nat → Lexer → Lexer
  | 0, lexer => lexer
  | n + 1, lexer =>
    let cursor := lexer.cursor.skipComment
    match cursor.takeBreak with
    | none => { lexer with cursor }
    | some (_, cursor) =>
      skipSpace n { lexer with cursor, mayStartKey := lexer.mayStartKey || lexer.depth = 0 }

/-- A directive or a marker around documents, which ends all that is open. -/
def boundary (lexer : Lexer) (token : Token) (cursor : Cursor) : Except Flaw Lexer := do
  let lexer ← (lexer.close 0).dropKey
  pure { lexer.emit token cursor with mayStartKey := false }

/-- The start of a collection of flow style. -/
def openFlow (lexer : Lexer) (token : Token) : Except Flaw Lexer := do
  let lexer ← lexer.noteKey
  pure { lexer.mark token with depth := lexer.depth + 1, mayStartKey := true }

/-- The end of a collection of flow style. -/
def closeFlow (lexer : Lexer) (token : Token) : Except Flaw Lexer := do
  if lexer.depth = 0 then throw .malformed
  let lexer ← lexer.dropKey
  pure { lexer.mark token with depth := lexer.depth - 1, mayStartKey := false }

/-- The comma between items. -/
def comma (lexer : Lexer) : Except Flaw Lexer := do
  let lexer ← lexer.dropKey
  pure { lexer.mark .comma with mayStartKey := true }

/-- The dash before an item. -/
def item (lexer : Lexer) : Except Flaw Lexer := do
  let lexer ← (← lexer.openHere .blockListStart).dropKey
  pure { lexer.mark .item with mayStartKey := true }

/-- The question mark before a key. -/
def key (lexer : Lexer) : Except Flaw Lexer := do
  let lexer ← (← lexer.openHere .blockTableStart).dropKey
  pure { lexer.mark .key with mayStartKey := lexer.depth = 0 }

/-- The colon before a value, behind a key that has been noted or not. -/
def value (lexer : Lexer) : Except Flaw Lexer :=
  match Table.find? lexer.keys lexer.depth with
  | some key =>
    let lexer := { lexer with
      keys := Table.remove lexer.keys lexer.depth
      tokens := lexer.tokens.insertIdxIfInBounds key.token .key }
    let lexer :=
      if lexer.depth ≠ 0 then lexer else lexer.openAt key.start.column key.token .blockTableStart
    .ok { lexer.mark .value with mayStartKey := false }
  | none => do
    let lexer ← (← lexer.openHere .blockTableStart).dropKey
    pure { lexer.mark .value with mayStartKey := lexer.depth = 0 }

/-- A token that a key may start with. -/
def content (lexer : Lexer) (read : Cursor → Except Flaw (Token × Cursor)) : Except Flaw Lexer := do
  let lexer ← lexer.noteKey
  let (token, cursor) ← read lexer.cursor
  pure { lexer.emit token cursor with mayStartKey := false }

/-- A plain scalar; a line break at its end lets a key start behind it. -/
def plain (lexer : Lexer) : Except Flaw Lexer := do
  let lexer ← lexer.noteKey
  let cursor := lexer.cursor
  let plain := readPlain (lexer.depth ≠ 0) lexer.level cursor.rest.length [] false cursor
  pure { lexer.emit (.scalar (String.ofList plain.text) true) plain.cursor with
    mayStartKey := plain.breaks }

/-- A block scalar. -/
def block (lexer : Lexer) (folded : Bool) : Except Flaw Lexer := do
  let lexer ← lexer.dropKey
  let (text, cursor) ← readBlock folded lexer.level lexer.cursor.next
  pure { lexer.emit (.scalar text false) cursor with mayStartKey := true }

/-- The next token, which starts with a character and the rest behind it. -/
def step (lexer : Lexer) (c : Char) (rest : List Char) : Except Flaw Lexer :=
  let behind := lexer.cursor.next
  let alone := endsAt isSpace rest
  let inFlow := decide (lexer.depth ≠ 0)
  let first := decide (lexer.cursor.column = 0)
  if first && c = '%' then do
    let (token, cursor) ← readDirective behind
    lexer.boundary token cursor
  else if first && lexer.cursor.hasMarker '-' then
    lexer.boundary .documentStart (lexer.cursor.advance 3)
  else if first && lexer.cursor.hasMarker '.' then
    lexer.boundary .documentEnd (lexer.cursor.advance 3)
  else match c with
    | '[' => lexer.openFlow .flowListStart
    | '{' => lexer.openFlow .flowTableStart
    | ']' => lexer.closeFlow .flowListEnd
    | '}' => lexer.closeFlow .flowTableEnd
    | ',' => lexer.comma
    | '*' => lexer.content fun cursor => do
      let (name, cursor) ← readAnchor cursor.next
      pure (.reference name, cursor)
    | '&' => lexer.content fun cursor => do
      let (name, cursor) ← readAnchor cursor.next
      pure (.anchor name, cursor)
    | '!' => lexer.content fun cursor => readTag cursor.next
    | '\'' | '"' => lexer.content fun cursor => do
      let (text, cursor) ← readQuoted c cursor.next
      pure (.scalar text false, cursor)
    | _ =>
      if c = '-' && alone then lexer.item
      else if c = '?' && (inFlow || alone) then lexer.key
      else if c = ':' && (inFlow || alone) then lexer.value
      else if c = '|' && !inFlow then lexer.block false
      else if c = '>' && !inFlow then lexer.block true
      else if startsPlain inFlow (c :: rest) then lexer.plain
      else .error .malformed

/-- The tokens so far with one behind them. -/
def tokensWith (lexer : Lexer) (last : Token) : List Token :=
  (lexer.tokens.push last).toList

/-- The end of the document, which ends all that is open. -/
def finish (lexer : Lexer) : List Token :=
  let lexer := lexer.close 0
  match lexer.dropKey with
  | .ok lexer => lexer.tokensWith .streamEnd
  | .error flaw => lexer.tokensWith (.flaw flaw)

/-- The tokens of the rest of a document behind those read, each of which takes a character. -/
def run : Nat → Lexer → List Token
  | 0, lexer => lexer.tokensWith (.flaw .malformed)
  | n + 1, lexer =>
    let lexer := skipSpace (lexer.cursor.rest.length + 1) lexer
    match lexer.dropStaleKeys with
    | .error flaw => lexer.tokensWith (.flaw flaw)
    | .ok lexer =>
      let lexer := lexer.close (lexer.cursor.column + 1)
      match lexer.cursor.rest with
      | [] => lexer.finish
      | c :: rest =>
        match lexer.step c rest with
        | .ok lexer => run n lexer
        | .error flaw => lexer.tokensWith (.flaw flaw)

end Lexer

/-- The tokens of a document, which may start with a byte order mark. -/
def tokens (document : List Char) : List Token :=
  let start : Cursor := { rest := document }
  let start := if document.head? = some '\uFEFF' then start.next else start
  Lexer.run (document.length + 1) { cursor := start }

end PersistentId.Yaml
