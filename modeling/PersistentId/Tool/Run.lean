import PersistentId.Tool.Task

/-!
# Runs of the tool

A run reads the arguments, opens the channels that the journal is shown on and performs its task,
printing to an output that may not take every text (`execute`). `Outcome.conclude` says what becomes
of it: an exit code, the texts on the two output streams, and the files.

The journal is shown on the error stream, unless the run is to be quiet, and in a log file if one is
named. What ends a run goes the same way as soon as there is a channel, and to the error stream
before.
-/

namespace PersistentId.Tool

/-! ## Channels -/

/-- Where the journal is shown. -/
structure Channels where
  /-- The least level shown on the error stream. -/
  console : Option Level := none
  logFile : Option String := none
  /-- The least level shown at all. -/
  threshold : Level := .info
  deriving DecidableEq, Repr, Inhabited

namespace Channels

/-- The log file that options name. -/
def logFileOf (options : Options) : Option String :=
  options.logFile.filter (· ≠ "")

/-- The channels that options ask for. -/
def ofOptions (options : Options) : Channels where
  console :=
    if options.quiet then none else if options.verbose then some .debug else some .warning
  logFile := logFileOf options
  threshold := if options.verbose then .debug else .info

/-- Whether an entry is shown on the error stream. -/
def showsOnConsole (channels : Channels) (entry : Entry) : Bool :=
  entry.level.reaches channels.threshold &&
    match channels.console with
    | some least => entry.level.reaches least
    | none => false

/-- Whether an entry is shown in the log file. -/
def showsInFile (channels : Channels) (entry : Entry) : Bool :=
  entry.level.reaches channels.threshold

/-- An entry as the error stream shows it. -/
def consoleLine (program : String) (entry : Entry) : String :=
  program ++ ": " ++ entry.level.label ++ ": " ++ entry.message ++ "\n"

/-- An entry as the log file shows it, behind the time of day. -/
def fileLine (program stamp : String) (entry : Entry) : String :=
  stamp ++ " " ++ program ++ "." ++ entry.source ++ " " ++ entry.level.label ++ ": " ++
    entry.message ++ "\n"

/-- What the error stream shows of a journal. -/
def consoleText (channels : Channels) (program : String) (journal : Journal) : String :=
  String.join ((journal.filter channels.showsOnConsole).map (consoleLine program))

/-- What the log file shows of a journal. -/
def fileText (channels : Channels) (program stamp : String) (journal : Journal) : String :=
  String.join ((journal.filter channels.showsInFile).map (fileLine program stamp))

end Channels

/-! ## Runs -/

/-- How a run ends. -/
inductive Ending where
  | done
  /-- Help was asked for. -/
  | help
  /-- The arguments make no sense. -/
  | misuse
  | stopped (stop : Stop)
  deriving DecidableEq, Repr, Inhabited

/-- A run that has ended. -/
structure Outcome where
  ending : Ending
  /-- What the task has printed. -/
  printed : String := ""
  /-- The channels, if they have been opened. -/
  channels : Option Channels := none
  host : Host := {}
  deriving Inhabited

/-- The path of the configuration file: the options come before the environment. -/
def configFileOf (options : Options) (environment : Option String) : Option String :=
  (options.configFile.filter (· ≠ "")).or (environment.filter (· ≠ ""))

/-- Make sure that there is a log file, at the place that its path leads to by the names alone. -/
def openLog (channels : Channels) : Action Host Unit := do
  match channels.logFile with
  | some path => Host.append (FileTree.render ((← get).files.resolve path)) ""
  | none => pure ()

/-- Perform a task with channels opened. -/
def performOn (host : Host) (output : Encoding) (channels : Channels) (configFile : Option String)
    (task : Task) : Outcome :=
  let (result, desk) := (task.perform configFile).outcome { site := { host }, output }
  { ending := match result with
      | .ok _ => .done
      | .error stop => .stopped stop
    printed := desk.printed
    channels := some channels
    host := desk.site.host }

/-- Run the tool on a host, with an output. The environment may name a configuration file. -/
def execute (args : List String) (environment : Option String) (host : Host) (output : Encoding) :
    Outcome :=
  match readArguments args with
  | .help => { ending := .help, host }
  | .misuse => { ending := .misuse, host }
  | .run _ none => { ending := .stopped (.failure .noTask), host }
  | .run options (some task) =>
    let channels := Channels.ofOptions options
    match (openLog channels).outcome host with
    | (.ok _, host) => performOn host output channels (configFileOf options environment) task
    | (.error fault, host) => { ending := .stopped (.fault fault), host }

/-! ## What becomes of a run -/

/-- What started the tool. The starting script also shows in the journal what the tool did not
foresee. -/
inductive Starter where
  | command
  | script
  deriving DecidableEq, Repr, Inhabited

/-- What is left when a run is over. -/
structure Conclusion where
  exitCode : Nat
  output : String
  errors : String
  /-- What stopped the run without being foreseen, shown behind the other errors. -/
  crash : Option Fault := none
  /-- The text added to the log file. -/
  log : String := ""
  deriving DecidableEq, Repr, Inhabited

/-- How the tool is called. -/
def usage (program : String) : String :=
  "usage: " ++ program ++ " [-h] [-c FILE] [-l FILE] [-v] [-q] (parse PID ... | " ++
    "validate PROTOCOL AUTHORITY IDENTIFIER | providers [PROTOCOL ...])\n"

namespace Outcome

/-- The entry on what ended a run. -/
def lastEntry (message : String) : Entry :=
  ⟨.error, "root", message⟩

/-- The entries to be shown, those on how the run ended last. -/
def entries (starter : Starter) (outcome : Outcome) : Journal :=
  outcome.host.journal ++
    match outcome.ending, starter with
    | .stopped (.failure failure), _ => [lastEntry failure.message]
    | .stopped (.fault fault), .script => [lastEntry fault.message]
    | _, _ => []

/-- The text on the error stream. -/
def errors (starter : Starter) (program : String) (outcome : Outcome) : String :=
  match outcome.ending, outcome.channels with
  | .misuse, _ => usage program
  | .stopped (.failure failure), none => program ++ ": " ++ failure.message ++ "\n"
  | .stopped (.fault _), some channels => channels.consoleText program outcome.host.journal
  | _, some channels => channels.consoleText program (outcome.entries starter)
  | _, none => ""

/-- The exit code. -/
def exitCode (outcome : Outcome) : Nat :=
  match outcome.ending with
  | .done | .help => 0
  | .misuse => 2
  | .stopped (.failure failure) => failure.exitCode
  | .stopped (.fault _) => 1

/-- The text that belongs in the log file. -/
def log (starter : Starter) (program stamp : String) (outcome : Outcome) : String :=
  match outcome.channels with
  | some channels =>
    if channels.logFile.isSome then channels.fileText program stamp (outcome.entries starter)
    else ""
  | none => ""

/-- What becomes of a run of the tool under the name of a program, all at one time of day. -/
def conclude (starter : Starter) (program stamp : String) (outcome : Outcome) : Conclusion where
  exitCode := outcome.exitCode
  output := if outcome.ending = .help then usage program else outcome.printed
  errors := outcome.errors starter program
  crash := match outcome.ending with
    | .stopped (.fault fault) => some fault
    | _ => none
  log := outcome.log starter program stamp

end Outcome

end PersistentId.Tool
