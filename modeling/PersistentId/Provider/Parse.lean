import PersistentId.Provider

/-!
# Parsing by providers

Each provider has its own grammar. DOIs and Handles are accepted in their canonical form and as
links under the addresses that resolve them (`withoutResolver`), and DOIs only under an authority
of DOIs. A local permanent link has the provider's authority and then, with or without the
separator, the local part, which is brought into normal form.

A text that does not fit is no identifier. Parsing fails only where a configured value is no text
and would have to be one.
-/

namespace PersistentId

namespace Provider

/-- Make an entry in a provider's name. -/
def say (p : Provider) (level : Level) (message : String) : Parsing Unit :=
  Parsing.note level p.source message

/-- The text with a resolver's address at its start replaced by the protocol. -/
def withoutResolver (protocol : String) : List String → String → String
  | [], s => s
  | address :: more, s =>
    match Text.stripStart? address s with
    | some rest => protocol ++ ":" ++ rest
    | none => withoutResolver protocol more s

/-- The addresses at the start of a link that a provider takes for the protocol. -/
def acceptedAddresses (p : Provider) : List String :=
  match p.kind with
  | .perma => [p.urlStart]
  | kind => kind.resolvers

/-- Whether a provider's grammar covers a protocol. -/
def speaks (p : Provider) (protocol : Value) : Bool :=
  protocol = .str p.protocol

/-- The identifier of the given parts, if they are well formed. -/
def fromParts (p : Provider) (protocol authority identifier : Value) :
    Parsing (Option Identifier) := do
  let name ← Parsing.ofExcept p.name
  p.say .verbose ("Parsing: " ++ protocol.text ++ ":" ++ authority.text ++ p.separator.text ++
    identifier.text ++ " in " ++ name)
  if ← Parsing.ofExcept (wellFormed protocol authority identifier) then
    some <$> Parsing.ofExcept (Identifier.make protocol authority identifier p.separator
      (.str p.urlStart) (.str name))
  else pure none

/-- The identifier of the given parts, if they are of the provider's protocol and well formed. -/
def parseParts (p : Provider) (protocol authority identifier : Value) :
    Parsing (Option Identifier) :=
  if p.speaks protocol then p.fromParts protocol authority identifier else pure none

/-- The identifier in a text of authority and local part, as DOIs and Handles have it. -/
def parsePath (p : Provider) (protocol path : Value) : Parsing (Option Identifier) := do
  if path = .null then return none
  let s ← Parsing.ofExcept (path.asText "find")
  match Identifier.splitAuthority? p.separator.text s with
  | some (authority, identifier) => p.parseParts protocol (.str authority) (.str identifier)
  | none =>
    p.say .info ("Error parsing identifier: " ++ s ++ ": ':<authority>" ++ p.separator.text ++
      "<identifier>' not found in string")
    pure none

/-- A text without another one at its start, if that has to be dropped. -/
def dropSeparator (separator : Value) (s : String) : Except Fault String := do
  if !separator.truthy then return s
  pure ((Text.stripStart? (← separator.asTextOr Fault.notAStart) s).getD s)

/-- The local part behind a provider's own authority, in normal form, the separator dropped if it
is there. -/
def ownLocalPart (p : Provider) (path : Value) : Except Fault (Option String) := do
  if !p.authority.truthy || !path.truthy then return none
  let s ← path.asText "startswith"
  match Text.stripStart? (← p.authority.asTextOr Fault.notAStart) s with
  | none => pure none
  | some rest => pure (some (Part.clean (← dropSeparator p.separator rest)))

/-- The local permanent link in a text of authority and local part. -/
def parseOwn (p : Provider) (path : Value) : Parsing (Option Identifier) := do
  match ← Parsing.ofExcept (p.ownLocalPart path) with
  | none => pure none
  | some identifier =>
    if identifier.isEmpty || Part.hasTerminator identifier then pure none
    else p.fromParts (.str permaProtocol) p.authority (.str identifier)

/-- The identifier in the part of a text that follows its protocol. -/
def parsePathOf (p : Provider) (protocol path : Value) : Parsing (Option Identifier) := do
  if p.kind = .perma then p.say .verbose ("Checking Perma: " ++ path.text)
  if !p.speaks protocol then return none
  match p.kind with
  | .perma => p.parseOwn path
  | .handle => p.parsePath protocol path
  | .dataCite | .ezid | .fake =>
    pure ((← p.parsePath protocol path).filter fun pid => isDoiAuthority pid.authority)

/-- The identifier that a text stands for under a provider's grammar; nothing stands for none. -/
def parse (p : Provider) (s : Value) : Parsing (Option Identifier) := do
  if !s.truthy then return none
  let s ← Parsing.ofExcept (s.asText "startswith")
  let s := withoutResolver p.protocol p.acceptedAddresses s
  let s := String.ofList (Identifier.decodeColons s.toList)
  match Identifier.splitProtocol? s with
  | some (protocol, rest) => p.parsePathOf (.str protocol) (.str rest)
  | none =>
    p.say .info (Identifier.noProtocolMessage s)
    pure none

/-- The first identifier that one of several providers finds in a text. -/
def parseFirst (s : Value) : List Provider → Parsing (Option Identifier)
  | [] => pure none
  | p :: providers => do
    match ← p.parse s with
    | some pid => pure (some pid)
    | none => parseFirst s providers

end Provider

/-- The identifier that a text stands for under the grammars of providers, tried in turn. -/
def parseWith (providers : List Provider) (s : Value) : Parsing (Option Identifier) :=
  if s.truthy then Provider.parseFirst s providers else pure none

end PersistentId
