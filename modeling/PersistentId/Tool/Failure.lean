import PersistentId.Fault

/-!
# Failures of the tool

A failure ends a run of the tool with a message and an exit code: 1 if an identifier or a provider
was not found to be as asked, 2 if the options do not say enough, 3 if the configuration cannot be
read, and 6 if it is at fault.
-/

namespace PersistentId.Tool

/-- Why the tool fails. -/
inductive Failure where
  | noTask
  | noConfiguration
  /-- The configuration file cannot be opened. -/
  | unreadableFile (path : String) (fault : FileFault)
  /-- The path of the configuration file cannot be one. -/
  | unfitPath
  /-- The configuration file does not hold a configuration. -/
  | unreadableConfiguration (fault : Fault)
  /-- The configuration asks for something that cannot be set up. -/
  | badConfiguration (fault : Fault)
  /-- So many of the identifiers were not recognized. -/
  | notRecognized (bad total : Nat)
  | invalidParts (protocol authority identifier : Value)
  /-- There is no provider for these protocols. -/
  | noProvider (protocols : List String)
  deriving DecidableEq, Repr, Inhabited

namespace Failure

/-- The message of a failure. -/
def message : Failure → String
  | .noTask => "Missing subcommand (run with -h for help)"
  | .noConfiguration => "Unable to locate configuration; set OAR_PID_CONFIG or use -c"
  | .unreadableFile path fault => "problem reading config file, " ++ path ++ ": " ++ fault.message
  | .unfitPath => "Config parsing error: embedded null byte"
  | .unreadableConfiguration fault => "Config parsing error: " ++ fault.message
  | .badConfiguration fault => "Configuration error: " ++ fault.message
  | .notRecognized bad total =>
    toString bad ++ " of " ++ toString total ++ " identifiers could not be parsed"
  | .invalidParts protocol authority identifier =>
    "Invalid PID parts: " ++ protocol.literal ++ " " ++ authority.literal ++ " " ++
      identifier.literal
  | .noProvider protocols => "No provider available for: " ++ ", ".intercalate protocols

/-- The exit code of a failure. -/
def exitCode : Failure → Nat
  | .notRecognized .. | .invalidParts .. | .noProvider .. => 1
  | .noTask | .noConfiguration => 2
  | .unreadableFile .. | .unfitPath | .unreadableConfiguration .. => 3
  | .badConfiguration .. => 6

/-- The failure that a fault in reading the configuration file at a path comes to. -/
def ofReading? (path : String) : Fault → Option Failure
  | .file fault _ => some (.unreadableFile path fault)
  | .unfitValue => some .unfitPath
  | fault => if fault.fromConfiguration then some (.unreadableConfiguration fault) else none

end Failure

/-- Why a run of the tool stops. -/
inductive Stop where
  | failure (failure : Failure)
  /-- A fault that no failure stands for. -/
  | fault (fault : Fault)
  deriving DecidableEq, Repr, Inhabited

end PersistentId.Tool
