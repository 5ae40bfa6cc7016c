import PersistentId.Config.Load
import PersistentId.Dispatcher
import PersistentId.Tool.Arguments
import PersistentId.Tool.Encoding
import PersistentId.Tool.Failure

/-!
# Tasks of the tool

What the tool does once its arguments are read: `parseAll` shows the parts of identifiers,
`checkParts` tells whether parts make an identifier, and `showProviders` shows the provider for each
protocol. The text that a task has printed when it stops remains.

All lines that a task prints are made by `identifierLines`, `unknownLine`, `providerLine`,
`scopeLine` and `missingLine`. A line that the output cannot take stops the task.
-/

namespace PersistentId.Tool

/-- Where a task works. -/
structure Desk where
  site : Site := {}
  /-- What the output can take. -/
  output : Encoding := {}
  /-- The text printed so far. -/
  printed : String := ""
  deriving Inhabited

/-- A piece of work on a task. -/
abbrev Work (α : Type) := ExceptT Stop (StateM Desk) α

namespace Work

/-- The result of a piece of work, and the desk it leaves. -/
def outcome {α : Type} (work : Work α) (desk : Desk) : Except Stop α × Desk :=
  work desk

/-- The work that has the given outcome. -/
def ofOutcome {α : Type} (f : Desk → Except Stop α × Desk) : Work α :=
  f

/-- Print a text, which has to be one that the output can take. -/
def print (text : String) : Work Unit :=
  ofOutcome fun desk =>
    match desk.output.check text with
    | .ok _ => (.ok (), { desk with printed := desk.printed ++ text })
    | .error fault => (.error (.fault fault), desk)

/-- Print texts one after the other. -/
def printAll : List String → Work Unit
  | [] => pure ()
  | text :: texts => do
    print text
    printAll texts

/-- Work on the site, a fault being taken for what it comes to. -/
def onSite {α : Type} (act : Site.Use α) (stop : Fault → Stop) : Work α :=
  ofOutcome fun desk =>
    let (result, site) := act.outcome desk.site
    (result.mapError stop, { desk with site })

/-- A search with the entries it makes. -/
def search {α : Type} (parse : Parsing α) : Work α :=
  onSite (Site.accept parse.outcome) .fault

end Work

/-! ## Identifiers -/

/-- A line that labels a text, up to the column where all texts begin. -/
def labelled (label text : String) : String :=
  "  " ++ label ++ ":" ++ String.ofList (List.replicate (11 - label.length) ' ') ++ text ++ "\n"

/-- What is shown of a text that stands for an identifier. -/
def identifierLines (s : String) (pid : Identifier) : List String :=
  [s ++ ":\n", labelled "protocol" pid.protocol.text, labelled "authority" pid.authority,
    labelled "identifier" pid.localPart, labelled "URL" pid.url] ++
    if pid.provider.truthy then [labelled "provider" pid.provider.text] else []

/-- What is shown of a text that stands for none. -/
def unknownLine (s : String) : String :=
  s ++ ": not a recognized PID\n"

/-- The identifier that a text stands for, with a context under the grammars of its providers. -/
def identifierIn (context : Option Context) (s : String) : Parsing (Option Identifier) :=
  match context with
  | some context => Dispatcher.parse context (.str s)
  | none => Identifier.parse (.str s)

/-- Show identifiers, and count the texts that stand for none. -/
def parseEach (context : Option Context) : List String → Work Nat
  | [] => pure 0
  | s :: texts => do
    match ← Work.search (identifierIn context s) with
    | some pid =>
      Work.printAll (identifierLines s pid)
      parseEach context texts
    | none =>
      Work.print (unknownLine s)
      let bad ← parseEach context texts
      pure (bad + 1)

/-- Show identifiers; texts that stand for none are a failure. -/
def parseAll (context : Option Context) (texts : List String) : Work Unit := do
  let bad ← parseEach context texts
  if bad ≠ 0 then throw (.failure (.notRecognized bad texts.length))

/-- Tell whether parts make an identifier. -/
def checkParts (protocol authority identifier : Value) : Work Unit := do
  if !(← Work.search (Parsing.ofExcept (wellFormed protocol authority identifier))) then
    throw (.failure (.invalidParts protocol authority identifier))
  Work.print "valid\n"

/-! ## Providers -/

/-- What a provider for a protocol says of itself, which has to be texts. -/
def providerLine (protocol : String) (provider : Provider) : Except Fault String := do
  let details ← ((← provider.information).drop 1).mapIdxM fun position v =>
    v.asTextOr (Fault.notJoinable position)
  pure (protocol ++ ": " ++ (← provider.name) ++ " (" ++ ", ".intercalate details ++ ")\n")

/-- How a provider forms identifiers. -/
def scopeLine (provider : Provider) : Except Fault String := do
  pure ("  authority: " ++ (← provider.authority.wording) ++ "  shoulder: " ++
    (← provider.shoulder.wording) ++ "  style: " ++ (← provider.style.wording) ++ "\n")

/-- What is shown of a protocol without a provider. -/
def missingLine (protocol : String) : String :=
  protocol ++ ": (no provider available)\n"

/-- Show a provider for a protocol. -/
def showProvider (protocol : String) (provider : Provider) : Work Unit := do
  Work.print (← Work.search (Parsing.ofExcept (providerLine protocol provider)))
  Work.print (← Work.search (Parsing.ofExcept (scopeLine provider)))

/-- Show the providers for protocols, and list the protocols that have none. -/
def showEach (context : Context) : List String → Work (List String)
  | [] => pure []
  | protocol :: protocols => do
    match ← Work.search (Dispatcher.providerFor {} context (.str protocol)) with
    | some provider =>
      showProvider protocol provider
      showEach context protocols
    | none =>
      Work.print (missingLine protocol)
      let missing ← showEach context protocols
      pure (protocol :: missing)

/-- Show the providers for protocols; one without a provider is a failure. -/
def showProviders (context : Context) (protocols : List String) : Work Unit := do
  let protocols := if protocols.isEmpty then Dispatcher.protocols {} else protocols
  let missing ← showEach context protocols
  if !missing.isEmpty then throw (.failure (.noProvider missing))

/-! ## Configuration -/

/-- The configuration in the file at a path. -/
def readConfiguration (path : String) : Work Config :=
  Work.onSite (Site.onHost (Config.load path)) fun fault =>
    match Failure.ofReading? path fault with
    | some failure => .failure failure
    | none => .fault fault

/-- The context that the configuration file at a path asks for. -/
def readContext (path : String) : Work Context := do
  let config ← readConfiguration path
  Work.onSite (Site.createContext (.map config) .nothing [] []) fun fault =>
    if fault.fromConfiguration then .failure (.badConfiguration fault) else .fault fault

/-- Perform a task, with the configuration file at a path if there is one. -/
def Task.perform (configFile : Option String) : Task → Work Unit
  | .validate protocol authority identifier => checkParts protocol authority identifier
  | .parse pids => do
    match configFile with
    | some path =>
      let context ← readContext path
      parseAll (some context) pids
    | none => parseAll none pids
  | .providers protocols => do
    match configFile with
    | some path =>
      let context ← readContext path
      showProviders context protocols
    | none => throw (.failure .noConfiguration)

end PersistentId.Tool
