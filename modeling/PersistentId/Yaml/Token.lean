/-!
# Tokens of YAML

The tokens that a document consists of. Where indentation opens and closes a list or a table of
block style, there are tokens for that as well, so that the layout of a document is all in its
tokens.

A document that cannot be cut into tokens has the tokens up to there and then the flaw.
-/

namespace PersistentId.Yaml

/-- What is wrong with a document. -/
inductive Flaw where
  /-- It does not follow the grammar, or a scalar does not fit its type. -/
  | malformed
  /-- A number is too large for what it is turned into. -/
  | beyondRange (words : String)
  /-- A scalar marked as a truth value is no word for one. -/
  | unknownWord (word : String)
  /-- A scalar marked as a number is empty. -/
  | emptyNumber
  /-- A scalar marked as a moment does not look like one. -/
  | noMoment
  /-- Too many lists and tables stand inside each other. -/
  | tooDeep
  deriving DecidableEq, Repr, Inhabited

/-- A token. -/
inductive Token where
  /-- The version of the language, of which the first number is given. -/
  | version (major : Nat)
  /-- A handle for tags that start with a common text. -/
  | handle (name start : String)
  /-- Another directive. -/
  | directive
  | documentStart
  | documentEnd
  | blockListStart
  | blockTableStart
  | blockEnd
  | flowListStart
  | flowListEnd
  | flowTableStart
  | flowTableEnd
  /-- The dash before an item. -/
  | item
  /-- The comma between items. -/
  | comma
  /-- A key comes next. -/
  | key
  /-- The colon before a value. -/
  | value
  /-- A name for the node that comes next. -/
  | anchor (name : String)
  /-- The node of a name, once more. -/
  | reference (name : String)
  /-- A tag, by the handle and the rest of it. -/
  | tag (handle : Option String) (rest : String)
  /-- A scalar; a plain one stands for more than its text. -/
  | scalar (text : String) (plain : Bool)
  | streamEnd
  | flaw (flaw : Flaw)
  deriving DecidableEq, Repr, Inhabited

end PersistentId.Yaml
