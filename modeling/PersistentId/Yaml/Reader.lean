import PersistentId.Text.Search
import PersistentId.Yaml.Node
import PersistentId.Yaml.Scalar
import PersistentId.Yaml.Token.Lexer

/-!
# Reading YAML

The value in a document: its tokens make nodes, and the nodes make values. A table may take in other
tables under the key `<<`; what it says itself comes after that and wins. Lists and tables cannot be
keys.
-/

namespace PersistentId.Yaml

/-- What the tags of scalars and collections start with. -/
def tagStart : String := "tag:yaml.org,2002:"

/-- The kind of scalar that a tag marks. -/
def taggedKind? (tag : String) : Option ScalarKind :=
  match Text.stripStart? tagStart tag with
  | some "null" => some .null
  | some "bool" => some .bool
  | some "int" => some .int
  | some "float" => some .float
  | some "timestamp" => some .moment
  | some "str" => some .str
  | some "merge" => some .merge
  | some "value" => some .itself
  | _ => none

/-- Whether a tag leaves it to the node what it is. -/
def isOpenTag (tag : Option String) : Bool :=
  tag.all (· = "!")

/-- The kind of a scalar, if there is one. -/
def scalarKind? (tag : Option String) (text : String) (plain : Bool) : Option ScalarKind :=
  match tag with
  | none => some (if plain then Scalar.kindOf text else .str)
  | some "!" => some (Scalar.kindOf text)
  | some tag => taggedKind? tag

/-- Whether a collection may bear a tag. -/
def allowsTag (tag : Option String) (name : String) : Bool :=
  isOpenTag tag || tag = some (tagStart ++ name)

/-- Whether a node is the key under which a table takes in others. -/
def isMergeKey : Node → Bool
  | .scalar tag text plain => scalarKind? tag text plain = some .merge
  | _ => false

/-- The value of a scalar. -/
def scalarValue (tag : Option String) (text : String) (plain : Bool) : Except Flaw Value :=
  match scalarKind? tag text plain with
  | some kind => Scalar.read text kind
  | none => .error .malformed

/-- The key that a node stands for; the word for the value itself is its text. -/
def keyOf : Node → Except Flaw Key
  | .scalar tag text plain => do
    if scalarKind? tag text plain = some .itself then return .str text
    match (← scalarValue tag text plain).key? with
    | some key => pure key
    | none => throw .malformed
  | _ => .error .malformed

mutual

/-- The value of a node. -/
def value : Node → Except Flaw Value
  | .scalar tag text plain => scalarValue tag text plain
  | .list tag items => do
    if !allowsTag tag "seq" then throw .malformed
    pure (.list (← values items))
  | .table tag entries => do
    if !allowsTag tag "map" then throw .malformed
    let merged ← mergedEntries entries
    let own ← ownEntries entries
    pure (.map (Table.ofPairs (merged ++ own)))
termination_by structural node => node

/-- The values of the items of a list. -/
def values : List Node → Except Flaw (List Value)
  | [] => .ok []
  | node :: nodes => do
    let first ← value node
    pure (first :: (← values nodes))
termination_by structural nodes => nodes

/-- The entries that a table has itself. -/
def ownEntries : List (Node × Node) → Except Flaw (List (Key × Value))
  | [] => .ok []
  | (key, node) :: entries =>
    if isMergeKey key then ownEntries entries
    else do
      let key ← keyOf key
      let first ← value node
      pure ((key, first) :: (← ownEntries entries))
termination_by structural entries => entries

/-- The entries that a table takes in from others. -/
def mergedEntries : List (Node × Node) → Except Flaw (List (Key × Value))
  | [] => .ok []
  | (key, node) :: entries =>
    if isMergeKey key then do
      let first ← tableEntries node
      pure (first ++ (← mergedEntries entries))
    else mergedEntries entries
termination_by structural entries => entries

/-- The entries of a table, or of a list of tables of which earlier ones win. -/
def tableEntries : Node → Except Flaw (List (Key × Value))
  | .scalar _ _ _ => .error .malformed
  | .list _ items => entriesOfAll items
  | .table _ entries => do
    let merged ← mergedEntries entries
    pure (merged ++ (← ownEntries entries))
termination_by structural node => node

/-- The entries of tables, the last one first. -/
def entriesOfAll : List Node → Except Flaw (List (Key × Value))
  | [] => .ok []
  | .table _ entries :: nodes => do
    let merged ← mergedEntries entries
    let first := merged ++ (← ownEntries entries)
    pure ((← entriesOfAll nodes) ++ first)
  | _ :: _ => .error .malformed
termination_by structural nodes => nodes

end

/-- The value in a document. -/
def readChars (document : List Char) : Except Flaw Value := do
  if !document.all isAllowed then throw .malformed
  match ← parse (tokens document) with
  | some node => value node
  | none => pure .null

/-- The value in a document. -/
def read (document : String) : Except Flaw Value :=
  readChars document.toList

end PersistentId.Yaml
