import Std.Time
import PersistentId.Tool.Run

/-!
# The tool

The command line of the library. What a run does is said by `Tool.execute` and
`Outcome.conclude`; here the files that the run will look at are read, and what it leaves is written
out.
-/

namespace PersistentId.Tool

/-- What stands at a path of the file system. -/
def nodeAt (path : String) : IO (Option FileNode) := do
  try
    let real ← IO.FS.realPath path
    if ← real.isDir then pure (some .directory)
    else pure (some (.file (← IO.FS.readBinFile real)))
  catch _ => pure none

/-- The tree with what the file system has at a path. -/
def withPath (tree : FileTree) (path : String) : IO FileTree := do
  match ← nodeAt path with
  | some .directory => pure (tree.makeDirectory path)
  | some (.file data) => pure (tree.makeFile path data)
  | none => pure tree

/-- The tree with what the file system has at a path and at the directory it is in. -/
def withPlace (tree : FileTree) (path : String) : IO FileTree := do
  let directory := "/" ++ "/".intercalate (tree.resolve path).dropLast
  withPath (← withPath tree directory) path

/-- The paths of the local service that a configuration asks for. -/
def servicePaths (config : Config) : List String :=
  match Ledger.parameter config "pid_registry" (.map []) with
  | .map entries =>
    match Ledger.parameter entries "store_dir" .null with
    | .str directory =>
      let name := Ledger.parameter entries "name" .null
      let otherwise := Ledger.defaultName name "issued-pids.tsv"
      let store := Ledger.parameter entries "id_store_file" otherwise
      [directory, FileTree.join directory store.text]
    | _ => []
  | _ => []

/-- The files that a run of the tool can look at. -/
def gather (args : List String) (environment : Option String) : IO FileTree := do
  let here ← IO.currentDir
  let start : FileTree := {}
  let start := start.makeDirectory here.toString
  let start := { start with workingDirectory := start.resolve here.toString }
  match readArguments args with
  | .run options _ =>
    let tree ← (Channels.logFileOf options).toList.foldlM withPlace start
    match configFileOf options environment with
    | some path =>
      let tree ← withPlace tree path
      match ((Config.load path).outcome { files := tree }).1 with
      | .ok config => (servicePaths config).foldlM withPlace tree
      | .error _ => pure tree
    | none => pure tree
  | _ => pure start

/-- The time of day as the log shows it. -/
def timeStamp : IO String := do
  let now ← Std.Time.PlainDateTime.now
  pure (now.format "uuuu-MM-dd HH:mm:ss,SSS")

/-- The log file that a run has opened. -/
def Outcome.logFile? (outcome : Outcome) : Option String :=
  outcome.channels.bind (·.logFile)

end PersistentId.Tool

open PersistentId PersistentId.Tool in
/-- Run the tool. -/
def main (args : List String) : IO UInt32 := do
  let environment ← IO.getEnv "OAR_PID_CONFIG"
  let files ← gather args environment
  let outcome := execute args environment { files } .utf8
  let conclusion := outcome.conclude .script "pidtool" (← timeStamp)
  if let some path := outcome.logFile? then
    IO.FS.withFile path .append fun log => log.putStr conclusion.log
  IO.print conclusion.output
  IO.eprint conclusion.errors
  if let some fault := conclusion.crash then
    IO.eprintln ("pidtool: unexpected failure: " ++ fault.message)
  pure conclusion.exitCode.toUInt32
