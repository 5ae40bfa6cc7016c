import PersistentId.Report

/-!
# Faults

Why an operation fails. The constructors of `Fault` are causes; `Fault.report?` gives the report
that callers see of those that concern identifiers, their configuration and their services. The
others say that an argument or a configured value does not fit what is done with it; they carry the
words for that where they can be shown to somebody. `Fault.message` has the words for all.
-/

namespace PersistentId

/-- What can be wrong with a file. -/
inductive FileFault where
  | missing
  | isDirectory
  | notDirectory
  | alreadyThere
  /-- A name on the way is longer than names can be. -/
  | nameTooLong
  /-- The lock asked for does not go with the way the file was opened. -/
  | lockRefused
  /-- The file was not opened for this. -/
  | notSupported
  deriving DecidableEq, Repr, Inhabited

namespace FileFault

/-- The number that a fault of a file goes by. -/
def code : FileFault → Nat
  | .missing => 2
  | .lockRefused => 9
  | .alreadyThere => 17
  | .notDirectory => 20
  | .isDirectory => 21
  | .nameTooLong => 36
  | .notSupported => 95

/-- The words for a fault of a file. -/
def message : FileFault → String
  | .missing => "No such file or directory"
  | .isDirectory => "Is a directory"
  | .notDirectory => "Not a directory"
  | .alreadyThere => "File exists"
  | .nameTooLong => "File name too long"
  | .lockRefused => "Bad file descriptor"
  | .notSupported => "not supported"

end FileFault

/-- Causes of failure. -/
inductive Fault where
  /-- The configuration file at a path is not a well-formed document. -/
  | malformedConfig (path problem : String)
  /-- The configuration file at a path holds something else than a table. -/
  | configNotATable (path : String)
  /-- The settings are of a type that is no table. -/
  | settingsNotATable (typeLabel : String)
  /-- The providers are of a type that is no table. -/
  | providersNotATable (typeLabel : String)
  | unknownProviderType (name : String)
  | illegalTemplate (template : String)
  | notARandomTemplate (template : String)
  | notASequenceTemplate (template : String)
  /-- A minter of sequence numbers has no service to draw them from. -/
  | numbersWithoutService
  /-- The generation style in sequence is asked for without a service. -/
  | styleWithoutService
  | illegalFileFormat (format : String)
  /-- A provider of this class is built without a client. -/
  | clientMissing (className : String)
  /-- The provider of this name is configured without a client. -/
  | clientRequired (name : String)
  | notADirectory (path : String)
  | alreadyOpen (path : String)
  | alreadyIssued (pid : String)
  /-- No candidate under a scope was free. -/
  | noneFree (scope : String) (attempts : Int)
  | invalidParts (protocol authority identifier : Value)
  /-- The registry service is out of order. -/
  | serviceDown (pid : Value)
  /-- The registry service has the identifier already. -/
  | serviceConflict (pid : Value)
  /-- The registry service does not know the identifier. -/
  | serviceUnknown (pid : Value)
  /-- The registry service answers a registration without naming the identifier. -/
  | unexpectedReply (pid : Option String) (reply : String)
  | negativeOrdinal (n : Int)
  | templateExhausted (template : String)
  | ledgerConfigNotATable (typeLabel : String)
  | startNotANumber (text : String)
  /-- A part of an identifier cannot be assigned. -/
  | immutable
  /-- A value has a type that the operation cannot use. -/
  | wrongType (words : String := "")
  /-- A value lacks a part that the operation needs. -/
  | missingPart (words : String := "")
  /-- A value of the right type does not fit. -/
  | unfitValue
  /-- Bytes are no text. -/
  | undecodable
  /-- A text has characters that an output cannot take. -/
  | unencodable (words : String)
  /-- A list has no item at a position. -/
  | outOfRange (words : String := "list index out of range")
  /-- A table has no entry for a key. -/
  | unknownKey (words : String := "")
  /-- A number is too large for what it stands for. -/
  | beyondRange (words : String := "")
  /-- A file at a path cannot be used. -/
  | file (fault : FileFault) (path : String := "")
  /-- The operation would wait for a lock for ever. -/
  | blocked
  /-- A whole number has too many digits to be written. -/
  | tooLong
  /-- A document or a value has too many lists and tables inside each other. -/
  | tooDeep (words : String := "maximum recursion depth exceeded")
  deriving DecidableEq, Repr, Inhabited

namespace Fault

/-- The message of a configuration fault. -/
def configurationMessage? : Fault → Option String
  | .malformedConfig path problem => some (path ++ ": config parsing error: " ++ problem)
  | .configNotATable path => some (path ++ ": config file does not contain a dictionary")
  | .settingsNotATable label => some ("settings: not a dictionary: " ++ label)
  | .providersNotATable label => some ("providers: not a dictionary: " ++ label)
  | .unknownProviderType name => some ("Unrecognized PID provider type: " ++ name)
  | .illegalTemplate template => some ("Not a legal NOID template: " ++ template)
  | .notARandomTemplate template =>
    some ("RandomStringMinter: template mask must start with 'r': " ++ template)
  | .notASequenceTemplate template =>
    some ("SequenceMinter: template mask must start with 's' or 'z': " ++ template)
  | .numbersWithoutService =>
    some "SequenceMinter: a PIDService is required to supply sequence numbers"
  | .styleWithoutService =>
    some "storedProcGenerated identifier generation requires a PIDService"
  | .illegalFileFormat format =>
    some ("datafile_pid_format: must be DEPENDENT or INDEPENDENT: " ++ format)
  | .clientMissing className => some (className ++ ": a registry client is required")
  | .clientRequired name => some (name ++ " provider requires a registry client")
  | _ => none

/-- The report that callers see of a fault that concerns identifiers. -/
def report? : Fault → Option Report
  | .notADirectory path => some (.plain .state (.str (path ++ ": Not an existing directory")) none)
  | .alreadyOpen path => some (.plain .state (.str (path ++ ": file is already open")) none)
  | .alreadyIssued pid => some (.conflict (.str pid) .null none)
  | .noneFree scope attempts =>
    some (.plain .generation (.str ("Unable to generate a unique identifier under " ++ scope ++
      " after " ++ toString attempts ++ " attempts")) none)
  | .invalidParts protocol authority identifier =>
    some (.invalid protocol authority identifier .null none)
  | .serviceDown pid =>
    some (.registry .registryServer pid (.int 503) (.str "Service Unavailable") .null none)
  | .serviceConflict pid => Report.rejected? pid (.int 409) (.str "Conflict") .null none
  | .serviceUnknown pid => Report.notFound? pid .null .null none
  | .unexpectedReply pid reply =>
    some (.registry .registry (.ofText? pid) .null .null (.str ("Unexpected reply from registry " ++
      "while creating " ++ (Value.ofText? pid).text ++ ": " ++ reply)) none)
  | fault => fault.configurationMessage?.map fun m => .plain .configuration (.str m) none

/-- The words for a fault, if it has some of its own. -/
def message? : Fault → Option String
  | .negativeOrdinal n => some ("render_noid: n must not be negative: " ++ toString n)
  | .templateExhausted template => some ("NOID template exhausted: " ++ template)
  | .ledgerConfigNotATable label => some ("Configuration not a dictionary: " ++ label)
  | .startNotANumber text => some ("sequence_start: not an int: " ++ text)
  | .immutable => some "GlobalId is immutable"
  | fault => fault.report?.map (·.message)

/-- The words for a fault that has none of its own. -/
def details : Fault → String
  | .wrongType words | .missingPart words | .outOfRange words | .unknownKey words
  | .beyondRange words | .tooDeep words | .unencodable words => words
  | .tooLong =>
    "Exceeds the limit (" ++ toString digitLimit ++ " digits) for integer string conversion; " ++
      "use sys.set_int_max_str_digits() to increase the limit"
  | .file fault path =>
    "[Errno " ++ toString fault.code ++ "] " ++ fault.message ++
      if path = "" then "" else ": " ++ Text.quoted path
  | _ => ""

/-- The words for a fault. -/
def message (fault : Fault) : String :=
  fault.message?.getD fault.details

/-- Whether a fault comes from a registry service. -/
def fromService (fault : Fault) : Bool :=
  match fault.report? with
  | some report => report.kind.lineage.contains .registry
  | none => false

/-- Whether a fault says that the configuration is at fault. -/
def fromConfiguration (fault : Fault) : Bool :=
  fault.configurationMessage?.isSome

/-! ## Values that do not fit -/

/-- The value has no part of a name. -/
def lacks (v : Value) (part : String) : Fault :=
  .missingPart ("'" ++ v.typeName ++ "' object has no attribute '" ++ part ++ "'")

/-- The value cannot be gone through. -/
def notIterable (v : Value) : Fault :=
  .wrongType ("'" ++ v.typeName ++ "' object is not iterable")

/-- The value has nothing in it that could be looked for. -/
def notSearchable (v : Value) : Fault :=
  .wrongType ("argument of type '" ++ v.typeName ++ "' is not iterable")

/-- The value is no text that a pattern could be looked for in. -/
def notMatchable (v : Value) : Fault :=
  .wrongType ("expected string or bytes-like object, got '" ++ v.typeName ++ "'")

/-- The value is no text that another one could start with. -/
def notAStart (v : Value) : Fault :=
  .wrongType ("startswith first arg must be str or a tuple of str, not " ++ v.typeName)

/-- The value cannot be put behind a text. -/
def notAppendable (v : Value) : Fault :=
  .wrongType ("can only concatenate str (not \"" ++ v.typeName ++ "\") to str")

/-- The value cannot be joined to texts, where it stands at a position among them. -/
def notJoinable (position : Nat) (v : Value) : Fault :=
  .wrongType ("sequence item " ++ toString position ++ ": expected str instance, " ++
    v.typeName ++ " found")

/-- The value cannot be the name of a file. -/
def notAFileName (v : Value) : Fault :=
  .wrongType ("join() argument must be str, bytes, or os.PathLike object, not '" ++
    v.shortTypeName ++ "'")

/-- The value cannot be the path of a directory. -/
def notADirectoryPath (v : Value) : Fault :=
  .wrongType ("stat: path should be string, bytes, os.PathLike or integer, not " ++
    v.shortTypeName)

/-- The value cannot be a key. -/
def notAKey (v : Value) : Fault :=
  .wrongType ("unhashable type: '" ++ v.typeName ++ "'")

/-- The value names no place in a list. -/
def notAPlace (v : Value) : Fault :=
  .wrongType ("list indices must be integers or slices, not " ++ v.typeName)

end Fault

/-! ## Demands on values -/

namespace Value

/-- The form of a value inside a message, for which the numbers in it have to be short enough. -/
def wording (v : Value) : Except Fault String :=
  if v.isShort then .ok v.text else .error .tooLong

/-- The text that a value has to be, if the given fault is not to arise. -/
def asTextOr (fault : Value → Fault) : Value → Except Fault String
  | .str s => .ok s
  | v => .error (fault v)

/-- The text that a value has to be where the given part of texts is used. -/
def asText (part : String) : Value → Except Fault String :=
  asTextOr (Fault.lacks · part)

/-- The text that a value has to be where it is joined to others. -/
def asPiece : Value → Except Fault String :=
  asTextOr Fault.notAppendable

/-- The key that a value has to be where a table is looked up. -/
def asKey (v : Value) : Except Fault Key :=
  match v.key? with
  | some key => .ok key
  | none => .error (.notAKey v)

/-- The table that a value has to be where parameters are looked up. -/
def asTable : Value → Except Fault (Table Key Value)
  | .map entries => .ok entries
  | v => .error (.lacks v "get")

/-- The items of a value that is gone through: a list, the characters of a text or the keys of a
table. -/
def asItems : Value → Except Fault (List Value)
  | .list items => .ok items
  | .str s => .ok (s.toList.map fun c => .str c.toString)
  | .map entries => .ok (entries.map fun (key, _) => ofKey key)
  | v => .error (.notIterable v)

/-- The whole number that a value has to be, a truth value counting as one or zero. -/
def asInt : Value → Except Fault Int
  | .int n => .ok n
  | .bool b => .ok b.toNat
  | _ => .error .wrongType

end Value

end PersistentId
