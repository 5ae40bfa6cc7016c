import PersistentId.Value

/-!
# Reports

A report is what a caller sees of a failure in the management of identifiers: its kind, a message,
the text of what caused it and, for some kinds, details. The kinds form a tree (`Kind.lineage`), so
that a caller can treat all failures of a registry service alike.

A message that is missing or empty is composed from the details; the functions named for the kinds
say how.
-/

namespace PersistentId

namespace Report

/-- The kinds of reports. -/
inductive Kind where
  | general
  | configuration
  | state
  | validation
  | conflict
  | generation
  | registry
  | registryServer
  | registryClient
  | notFound
  deriving DecidableEq, Repr, Inhabited

/-- A kind and the wider kinds it belongs to, the kind first. -/
def Kind.lineage : Kind → List Kind
  | .general => [.general]
  | .configuration => [.configuration, .general]
  | .state => [.state, .general]
  | .validation => [.validation, .general]
  | .conflict => [.conflict, .state, .general]
  | .generation => [.generation, .state, .general]
  | .registry => [.registry, .general]
  | .registryServer => [.registryServer, .registry, .general]
  | .registryClient => [.registryClient, .registry, .general]
  | .notFound => [.notFound, .registryClient, .registry, .general]

/-- Details of a report. -/
inductive Detail where
  | none
  /-- The parts that make no identifier. -/
  | parts (protocol authority identifier : Value)
  /-- The identifier in conflict. -/
  | pid (pid : Value)
  /-- What a registry service was asked about, and the status and reason it gave. -/
  | service (resource code reason : Value)
  deriving DecidableEq, Repr, Inhabited

end Report

open Report in
/-- A failure as callers see it. -/
structure Report where
  kind : Kind
  message : String
  /-- The text of what caused the failure. -/
  cause : Option String := none
  detail : Detail := .none
  deriving DecidableEq, Repr, Inhabited

namespace Report

/-- The given message, or another one if none is given. -/
def messageOr (message : Value) (other : String) : String :=
  if message.truthy then message.text else other

/-- A report without details: the cause speaks for a missing message. -/
def plain (kind : Kind) (message : Value) (cause : Option String) : Report where
  kind
  message := messageOr message (cause.getD "Unknown PID management error")
  cause

/-- Parts that make no identifier. -/
def invalid (protocol authority identifier message : Value) (cause : Option String) : Report where
  kind := .validation
  message := messageOr message <|
    "Invalid global identifier: " ++ protocol.text ++ ":" ++ authority.text ++ "/" ++
      identifier.text
  cause
  detail := .parts protocol authority identifier

/-- An identifier that is taken. -/
def conflict (pid message : Value) (cause : Option String) : Report where
  kind := .conflict
  message := messageOr message ("PID is already in use: " ++ pid.text)
  cause
  detail := .pid pid

/-- The message on a registry service: what was asked about, then the status and reason, or else
the cause. -/
def serviceMessage (resource code reason : Value) (cause : Option String) : String :=
  let subject :=
    if resource.truthy then "Trouble accessing " ++ resource.text ++ " via the PID registry service"
    else "Problem accessing the PID registry service"
  if code.truthy || reason.truthy then
    subject ++ ":" ++ (if code.truthy then " " ++ code.text else "") ++
      (if reason.truthy then " " ++ reason.text else "")
  else match cause with
    | some c => subject ++ ": " ++ c
    | none => subject

/-- Trouble with a registry service. -/
def registry (kind : Kind) (resource code reason message : Value) (cause : Option String) :
    Report where
  kind
  message := messageOr message (serviceMessage resource code reason cause)
  cause
  detail := .service resource code reason

/-- A text that goes on with what it is about, where that is given. Only a text can follow. -/
def subject? (start link : String) (resource : Value) : Option String :=
  if !resource.truthy then some start
  else resource.str?.map fun name => start ++ link ++ name

/-- The given message, or else one that there may not be. -/
def messageOr? (message : Value) (other : Option String) : Option Value :=
  if message.truthy then some message else other.map .str

/-- A request that a registry service rejected; what it was about has to be a text unless the
message is given. -/
def rejected? (resource code reason message : Value) (cause : Option String) : Option Report := do
  let start := "client-side PID registry error occurred"
  let message ← messageOr? message <|
    (subject? start " while processing " resource).map
      (· ++ ": " ++ code.text ++ " " ++ reason.text)
  some (registry .registryClient resource code reason message cause)

/-- An identifier that a registry service does not know; it has to be a text unless the message is
given. -/
def notFound? (resource reason message : Value) (cause : Option String) : Option Report := do
  let message ← messageOr? message (subject? "PID not found in registry" ": " resource)
  some (registry .notFound resource (.int 404) reason message cause)

/-! ## Reports from details -/

/-- The names of the details that a report of a kind needs, and of those it may have. -/
def Kind.parameters : Kind → List String × List String
  | .general | .configuration | .state | .generation => ([], [])
  | .validation => ([], ["protocol", "authority", "identifier"])
  | .conflict => (["pid"], [])
  | .registry | .registryServer => ([], ["resource", "http_code", "http_reason"])
  | .registryClient => (["resource", "http_code", "http_reason"], [])
  | .notFound => (["resource"], ["http_reason"])

/-- The report of a kind with details by name, if those fit and make one. The cause is a text. -/
def ofDetails? (kind : Kind) (details : Value) : Option Report :=
  let given := Table.keys details.entries
  let (needed, more) := kind.parameters
  let known : List Key := (needed ++ more ++ ["message", "cause"]).map .str
  if !(given.all known.contains && needed.all fun name => details.has (.str name)) then none
  else
    let part (name : String) := details.member (.str name)
    let message := part "message"
    let cause := (part "cause").str?
    match kind with
    | .validation =>
      some (invalid (part "protocol") (part "authority") (part "identifier") message cause)
    | .conflict => some (conflict (part "pid") message cause)
    | .registry | .registryServer =>
      some (registry kind (part "resource") (part "http_code") (part "http_reason") message cause)
    | .registryClient =>
      rejected? (part "resource") (part "http_code") (part "http_reason") message cause
    | .notFound => notFound? (part "resource") (part "http_reason") message cause
    | kind => some (plain kind message cause)

end Report

end PersistentId
