import PersistentId.Identifier
import PersistentId.Journal
import PersistentId.Text.Search

/-!
# Parsing identifiers

The grammar that all identifiers share: a protocol, a colon, an authority, a separator and a local
part, none of the three empty. A colon may be written `%3A`. A text that does not fit is no
identifier, and the journal says why.
-/

namespace PersistentId

/-- A parse: it may fail, and makes entries in the journal. -/
abbrev Parsing (α : Type) := ExceptT Fault Logged α

namespace Parsing

/-- The outcome of a parse, with its entries. -/
def outcome {α : Type} (parse : Parsing α) : Logged (Except Fault α) :=
  parse

/-- The result of a computation that may fail, as a parse. -/
def ofExcept {α : Type} (result : Except Fault α) : Parsing α :=
  (pure result : Logged (Except Fault α))

/-- A result that cannot fail, with its entries, as a parse. -/
def ofLogged {α : Type} (result : Logged α) : Parsing α :=
  (result >>= fun a => pure (.ok a) : Logged (Except Fault α))

/-- Make an entry. -/
def note (level : Level) (source message : String) : Parsing Unit :=
  ofLogged (Logged.note level source message)

end Parsing

namespace Identifier

/-- The text with every `%3A` written as a colon. -/
def decodeColons : List Char → List Char
  | [] => []
  | '%' :: '3' :: 'A' :: s => ':' :: decodeColons s
  | c :: s => c :: decodeColons s

/-- The part of a text before a colon and the part behind it, the first not empty. -/
def splitProtocol? (s : String) : Option (String × String) :=
  match Text.cutAt ":" s with
  | some (protocol, rest) => if protocol.isEmpty then none else some (protocol, rest)
  | none => none

/-- The parts on either side of a separator, neither of them empty. -/
def splitAuthority? (separator s : String) : Option (String × String) :=
  match Text.cutAt separator s with
  | some (authority, rest) =>
    if authority.isEmpty || rest.isEmpty then none else some (authority, rest)
  | none => none

/-- What the journal says of a text without a protocol. -/
def noProtocolMessage (s : String) : String :=
  "Error parsing identifier: " ++ s ++ ": '<protocol>:' not found in string"

/-- The name that entries on the shared grammar bear. -/
def source : String := "PID.globalid"

/-- The identifier that a text stands for under the shared grammar; what is no text has no parts,
and the separator has to be a text as soon as there is a protocol. -/
def parseGeneric (separator s : Value) : Parsing (Option Identifier) := do
  let s := String.ofList (decodeColons (← Parsing.ofExcept (s.asText "replace")).toList)
  match splitProtocol? s with
  | none =>
    Parsing.note .info source (noProtocolMessage s)
    pure none
  | some (protocol, rest) =>
    let mark ← Parsing.ofExcept separator.asPiece
    match splitAuthority? mark rest with
    | none =>
      Parsing.note .info source ("Error parsing identifier: " ++ s ++ ": '<authority>" ++ mark ++
        "<identifier>' not found in string")
      pure none
    | some (authority, identifier) =>
      pure (make (.str protocol) (.str authority) (.str identifier) separator .null .null).toOption

/-- The identifier that a text stands for; nothing stands for none. -/
def parse (s : Value) : Parsing (Option Identifier) :=
  if s.truthy then parseGeneric (.str "/") s else pure none

end Identifier

end PersistentId
