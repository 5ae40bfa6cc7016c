import PersistentId.Table
import PersistentId.Yaml.Token

/-!
# Nodes of YAML

The tree that the tokens of a document stand for: scalars, lists and tables, each with the tag that
was written before it, and aliases replaced by the nodes that they name. `document` builds it. At
most `depthLimit` lists and tables stand inside each other.

The readers take tokens from the front; the number that each counts down bounds how deep it goes.
-/

namespace PersistentId.Yaml

/-- A part of a document. -/
inductive Node where
  /-- A scalar; a plain one stands for more than its text. -/
  | scalar (tag : Option String) (text : String) (plain : Bool)
  | list (tag : Option String) (items : List Node)
  | table (tag : Option String) (entries : List (Node × Node))
  deriving Repr, Inhabited

namespace Node

/-- What stands where nothing is written. -/
def empty : Node :=
  .scalar none "" true

end Node

/-- How many lists and tables may stand inside each other. Reading one level takes two calls: this
is half of what the stack of a caller near its start has left of the 1000 calls that the runtime
allows. -/
def depthLimit : Nat := 490

/-- The state of building nodes. -/
structure Builder where
  /-- The tokens that are left. -/
  tokens : List Token
  /-- The starts of tags by their handles. -/
  handles : Table String String := []
  /-- The nodes that aliases can name. -/
  anchors : Table String Node := []
  /-- For how many more lists and tables inside each other there is room. -/
  room : Nat := depthLimit
  deriving Repr, Inhabited

/-- A step of building nodes. -/
abbrev Build := StateT Builder (Except Flaw)

namespace Builder

/-- The next token, which fails if it is a flaw. -/
def peek : Build Token := do
  match (← get).tokens with
  | .flaw flaw :: _ => throw flaw
  | token :: _ => pure token
  | [] => throw .malformed

/-- Going on behind the next token. -/
def skip : Build Unit :=
  modify fun builder => { builder with tokens := builder.tokens.drop 1 }

/-- Going on behind a token if it comes next, which it may not. -/
def accept (token : Token) : Build Bool := do
  if (← peek) = token then
    skip
    pure true
  else pure false

/-- Going on behind a token that has to come next. -/
def expect (token : Token) : Build Unit := do
  if !(← accept token) then throw .malformed

/-- Whether one of the given tokens comes next. -/
def isNext (tokens : List Token) : Build Bool := do
  pure (tokens.contains (← peek))

/-- Build what stands inside another list or table. -/
def within {α : Type} (inner : Build α) : Build α := do
  match (← get).room with
  | 0 => throw .tooDeep
  | room + 1 =>
    modify fun builder => { builder with room }
    let result ← inner
    modify fun builder => { builder with room := room + 1 }
    pure result

/-! ## Properties -/

/-- The anchor that comes next, if one does. -/
def anchor? : Build (Option String) := do
  match ← peek with
  | .anchor name => do
    skip
    pure (some name)
  | _ => pure none

/-- A tag in full, whose handle has to be known. -/
def fullTag (handle : Option String) (rest : String) : Build String := do
  match handle with
  | none => pure rest
  | some handle =>
    match Table.find? (← get).handles handle with
    | some start => pure (start ++ rest)
    | none => throw .malformed

/-- The tag that comes next, if one does. -/
def tag? : Build (Option String) := do
  match ← peek with
  | .tag handle rest => do
    skip
    pure (some (← fullTag handle rest))
  | _ => pure none

/-- The anchor and the tag before a node, in either order. -/
def properties : Build (Option String × Option String) := do
  match ← anchor? with
  | some name => pure (some name, ← tag?)
  | none =>
    let tag ← tag?
    if tag.isNone then return (none, none)
    pure (← anchor?, tag)

/-- The node that an alias names. -/
def named (name : String) : Build Node := do
  match Table.find? (← get).anchors name with
  | some node => pure node
  | none => throw .malformed

/-- A name for a node, which no other node has. -/
def name (name? : Option String) (node : Node) : Build Node := do
  match name? with
  | none => pure node
  | some name =>
    if Table.has (← get).anchors name then throw .malformed
    modify fun builder => { builder with anchors := Table.put builder.anchors name node }
    pure node

/-! ## Nodes -/

mutual

/-- The node that comes next. Only where `block` holds may it be a collection of block style, and
only where `loose` holds one without a level of its own. -/
def node (block loose : Bool) : Nat → Build Node
  | 0 => throw .malformed
  | n + 1 => do
    match ← peek with
    | .reference label => do
      skip
      named label
    | _ =>
      let (anchor, tag) ← properties
      name anchor (← content block loose (anchor.isSome || tag.isSome) tag n)

/-- The node behind its properties, which may be nothing if there are some. -/
def content (block loose marked : Bool) (tag : Option String) : Nat → Build Node
  | 0 => throw .malformed
  | n + 1 => do
    match ← peek, block, loose with
    | .item, _, true => return .list tag (← within (looseItems n))
    | .scalar text plain, _, _ => do
      skip
      return .scalar tag text plain
    | .flowListStart, _, _ => do
      skip
      return .list tag (← within (flowItems true n))
    | .flowTableStart, _, _ => do
      skip
      return .table tag (← within (flowEntries true n))
    | .blockListStart, true, _ => do
      skip
      return .list tag (← within (blockItems n))
    | .blockTableStart, true, _ => do
      skip
      return .table tag (← within (blockEntries n))
    | _, _, _ => if marked then return .scalar tag "" true else throw .malformed

/-- A node unless one of the given tokens comes next. -/
def nodeUnless (ends : List Token) (block loose : Bool) : Nat → Build Node
  | 0 => throw .malformed
  | n + 1 => do
    if ← isNext ends then pure .empty else node block loose n

/-- The value of an entry, nothing if there is no colon. -/
def valueUnless (ends : List Token) (block : Bool) : Nat → Build Node
  | 0 => throw .malformed
  | n + 1 => do
    if ← accept .value then nodeUnless ends block block n else pure .empty

/-- The items of a list of block style. -/
def blockItems : Nat → Build (List Node)
  | 0 => throw .malformed
  | n + 1 => do
    if ← accept .item then
      let first ← nodeUnless [.item, .blockEnd] true false n
      return first :: (← blockItems n)
    expect .blockEnd
    pure []

/-- The items of a list without a level of its own. -/
def looseItems : Nat → Build (List Node)
  | 0 => throw .malformed
  | n + 1 => do
    if ← accept .item then
      let first ← nodeUnless [.item, .key, .value, .blockEnd] true false n
      return first :: (← looseItems n)
    pure []

/-- The entries of a table of block style. -/
def blockEntries : Nat → Build (List (Node × Node))
  | 0 => throw .malformed
  | n + 1 => do
    if ← accept .key then
      let ends := [.key, .value, .blockEnd]
      let key ← nodeUnless ends true true n
      let value ← valueUnless ends true n
      return (key, value) :: (← blockEntries n)
    expect .blockEnd
    pure []

/-- The items of a list of flow style; an entry makes a table. -/
def flowItems (first : Bool) : Nat → Build (List Node)
  | 0 => throw .malformed
  | n + 1 => do
    if ← accept .flowListEnd then return []
    if !first then expect .comma
    if ← accept .key then
      let pair ← within do
        let key ← nodeUnless [.value, .comma, .flowListEnd] false false n
        pure (key, ← valueUnless [.comma, .flowListEnd] false n)
      return .table none [pair] :: (← flowItems false n)
    if ← accept .flowListEnd then return []
    let item ← node false false n
    return item :: (← flowItems false n)

/-- The entries of a table of flow style; a node alone is a key. -/
def flowEntries (first : Bool) : Nat → Build (List (Node × Node))
  | 0 => throw .malformed
  | n + 1 => do
    if ← accept .flowTableEnd then return []
    if !first then expect .comma
    if ← accept .key then
      let key ← nodeUnless [.value, .comma, .flowTableEnd] false false n
      let value ← valueUnless [.comma, .flowTableEnd] false n
      return (key, value) :: (← flowEntries false n)
    if ← accept .flowTableEnd then return []
    let key ← node false false n
    return (key, .empty) :: (← flowEntries false n)

end

/-! ## Documents -/

/-- The handles of every document. -/
def commonHandles : Table String String :=
  [("!", "!"), ("!!", "tag:yaml.org,2002:")]

/-- The directives before a document, `versioned` telling that its version has been given. -/
def directives (versioned : Bool) : Nat → Build Unit
  | 0 => throw .malformed
  | n + 1 => do
    match ← peek with
    | .version major => do
      if versioned || major ≠ 1 then throw .malformed
      skip
      directives true n
    | .handle name start => do
      if Table.has (← get).handles name then throw .malformed
      skip
      modify fun builder => { builder with handles := Table.put builder.handles name start }
      directives versioned n
    | .directive => do
      skip
      directives versioned n
    | _ =>
      modify fun builder =>
        { builder with handles := Table.putAll commonHandles builder.handles }

/-- The tokens that end a document, and those that only stand before one. -/
def isDocumentEnd : Token → Bool
  | .version _ | .handle _ _ | .directive | .documentStart | .documentEnd | .streamEnd => true
  | _ => false

/-- The document behind its directives and its marker. -/
def markedDocument (n : Nat) : Build Node := do
  directives false n
  expect .documentStart
  if isDocumentEnd (← peek) then pure .empty else node true false n

/-- The only document there is, if there is one. -/
def document (n : Nat) : Build (Option Node) := do
  let first ← peek
  if first = .streamEnd then return none
  let root ←
    if isDocumentEnd first && first ≠ .documentEnd then markedDocument n
    else do
      modify fun builder => { builder with handles := commonHandles }
      node true false n
  endMarkers n
  expect .streamEnd
  pure (some root)
where
  /-- Going on behind the markers that end a document. -/
  endMarkers : Nat → Build Unit
    | 0 => pure ()
    | n + 1 => do
      if ← accept .documentEnd then endMarkers n

end Builder

/-- The node that the tokens of a document stand for, if there is one. -/
def parse (tokens : List Token) : Except Flaw (Option Node) :=
  (Builder.document (4 * tokens.length + 4)).run' { tokens }

end PersistentId.Yaml
