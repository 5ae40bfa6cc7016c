import PersistentId.Config
import PersistentId.Host
import PersistentId.Json.Reader
import PersistentId.Yaml.Reader

/-!
# Configuration files

A configuration file holds a table, written as JSON if its name ends in `.json` and as YAML
otherwise. A document that holds nothing is the empty configuration; one that cannot be read or
holds something else than a table is a fault of the configuration (`Config.ofDocument`).
-/

namespace PersistentId.Config

/-- What is said about a document that cannot be read. -/
def malformedText : String := "the document is not well formed"

/-- The fault of a configuration at a path whose document has a flaw. -/
def flawFault (path : String) : Yaml.Flaw → Fault
  | .malformed => .malformedConfig path malformedText
  | .beyondRange words => .beyondRange words
  | .unknownWord word => .unknownKey (Text.quoted word)
  | .emptyNumber => .outOfRange "string index out of range"
  | .noMoment => .lacks .null "groupdict"
  | .tooDeep => .tooDeep

/-- The value in the document at a path, in the format that the end of the path stands for. -/
def documentValue (path document : String) : Except Fault Value :=
  if Text.endsWith ".json" path then
    match Json.read document with
    | .ok v => .ok v
    | .error .malformed => .error (.malformedConfig path malformedText)
    | .error flaw => .error (.tooDeep flaw.words)
  else (Yaml.read document).mapError (flawFault path)

/-- The configuration in the document at a path. -/
def ofDocument (path document : String) : Except Fault Config := do
  match ← documentValue path document with
  | .null => pure []
  | .map entries => pure entries
  | _ => throw (.configNotATable path)

/-- The configuration in the file at a path. -/
def load (path : String) : Action Host Config := do
  match ← (Host.read path).attempt with
  | .ok document => Action.ofExcept (ofDocument path document)
  | .error .undecodable => throw (.malformedConfig path malformedText)
  | .error fault => throw fault

end PersistentId.Config
