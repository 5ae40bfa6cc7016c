import PersistentId.Text.Digit
import PersistentId.Text.Search
import PersistentId.Value

/-!
# Arguments of the tool

The tool is called with options, the name of a task and what the task is to work on. An option can
be written in short or in full, and in full also cut short; short ones can stand together behind
one dash. A value follows its option as the next argument, behind an equals sign, or directly behind
the letter. An equals sign counts behind the first letter only. Behind the name of the task no
option but the one for help is known, and `--` ends all options there.

`readArguments` says what is asked for. Help is given as soon as it is asked for; all that does not
fit the grammar is misuse.
-/

namespace PersistentId.Tool

/-! ## Options -/

/-- The options of the tool. -/
inductive Flag where
  | help
  | configFile
  | logFile
  | verbose
  | quiet
  deriving DecidableEq, Repr, Inhabited

namespace Flag

/-- All options. -/
def all : List Flag :=
  [.help, .configFile, .logFile, .verbose, .quiet]

/-- An option written in full. -/
def long : Flag → String
  | .help => "--help"
  | .configFile => "--config-file"
  | .logFile => "--logfile"
  | .verbose => "--verbose"
  | .quiet => "--quiet"

/-- The letter of an option. -/
def letter : Flag → Char
  | .help => 'h'
  | .configFile => 'c'
  | .logFile => 'l'
  | .verbose => 'v'
  | .quiet => 'q'

/-- Whether an option has a value. -/
def takesValue : Flag → Bool
  | .configFile | .logFile => true
  | .help | .verbose | .quiet => false

/-- The option with a letter, of those known. -/
def ofLetter? (known : List Flag) (c : Char) : Option Flag :=
  known.find? (·.letter = c)

end Flag

/-- What an argument is by its form. -/
inductive Argument where
  /-- No option. -/
  | word
  /-- One option, and the value written to it behind an equals sign. -/
  | full (flag : Flag) (value : Option String)
  /-- The letter of an option behind one dash, and what is joined to it. -/
  | letters (flag : Flag) (joined : Option (List Char))
  /-- An option that is not known. -/
  | unknown
  /-- An option that is cut too short to tell which. -/
  | ambiguous
  deriving DecidableEq, Repr, Inhabited

namespace Argument

/-- Whether characters are digits, or a point before some and perhaps behind others. -/
def isNumber (cs : List Char) : Bool :=
  let whole := cs.takeWhile Text.isDecimalDigit
  match cs.drop whole.length with
  | [] => !whole.isEmpty
  | '.' :: fraction => !fraction.isEmpty && fraction.all Text.isDecimalDigit
  | _ => false

/-- Whether an argument is a negative number, and so no option. A line feed at its end does not
count. -/
def isNegativeNumber (s : String) : Bool :=
  match s.toList with
  | '-' :: cs => isNumber (if cs.getLast? = some '\n' then cs.dropLast else cs)
  | _ => false

/-- An argument that is none of the known options. -/
def other (s : String) : Argument :=
  if isNegativeNumber s || s.toList.contains ' ' then .word else .unknown

/-- What is joined to the first letter behind a dash: nothing, or what follows, an equals sign in
front not counting. -/
def joinedText : List Char → Option (List Char)
  | [] => none
  | '=' :: cs => some cs
  | cs => some cs

/-- The form of an argument where some options are known. -/
def ofText (known : List Flag) (s : String) : Argument :=
  match s.toList with
  | '-' :: '-' :: _ =>
    let (start, value) := match Text.cutAt "=" s with
      | some (start, value) => (start, some value)
      | none => (s, none)
    match known.filter fun flag => Text.beginsWith start flag.long with
    | [] => other s
    | [flag] => .full flag value
    | _ => .ambiguous
  | '-' :: c :: rest =>
    match Flag.ofLetter? known c with
    | some flag => .letters flag (joinedText rest)
    | none => other s
  | _ => .word

end Argument

/-- How the letters behind one dash end. -/
inductive LettersEnd where
  /-- All are done with. -/
  | done
  /-- The last option has the given value. -/
  | value (flag : Flag) (value : String)
  /-- The last option has its value in the next argument. -/
  | next (flag : Flag)
  deriving DecidableEq, Repr, Inhabited

/-- The options behind one dash from a given one on, and how they end, given the characters behind
its letter. All letters have to be known. -/
def readLetters (known : List Flag) (flag : Flag) : List Char → Option (List Flag × LettersEnd)
  | [] => some (if flag.takesValue then ([], .next flag) else ([flag], .done))
  | c :: rest =>
    if flag.takesValue then some ([], .value flag (String.ofList (c :: rest)))
    else match Flag.ofLetter? known c with
      | none => none
      | some following =>
        (readLetters known following rest).map fun (flags, ending) => (flag :: flags, ending)

/-- The options behind one dash, and how they end, given the first and what is joined to it. An
option without a value cannot have an empty one. -/
def readCluster (known : List Flag) (flag : Flag) :
    Option (List Char) → Option (List Flag × LettersEnd)
  | none => readLetters known flag []
  | some [] => if flag.takesValue then some ([], .value flag "") else none
  | some joined => readLetters known flag joined

/-! ## What is asked for -/

/-- The options given. -/
structure Options where
  configFile : Option String := none
  logFile : Option String := none
  verbose : Bool := false
  quiet : Bool := false
  deriving DecidableEq, Repr, Inhabited

/-- A task of the tool. -/
inductive Task where
  /-- Show the parts of identifiers. -/
  | parse (pids : List String)
  /-- Tell whether parts make an identifier. -/
  | validate (protocol authority identifier : Value)
  /-- Show the providers for protocols, for all if none is named. -/
  | providers (protocols : List String)
  deriving DecidableEq, Repr, Inhabited

/-- What the arguments ask for. -/
inductive Request where
  | help
  | misuse
  | run (options : Options) (task : Option Task)
  deriving DecidableEq, Repr, Inhabited

namespace Options

/-- The options with one more switched on. -/
def switchOn (options : Options) : Flag → Options
  | .verbose => { options with verbose := true }
  | .quiet => { options with quiet := true }
  | .help | .configFile | .logFile => options

/-- The options with a value given to one. -/
def assign (options : Options) (flag : Flag) (value : String) : Options :=
  match flag with
  | .configFile => { options with configFile := some value }
  | .logFile => { options with logFile := some value }
  | .help | .verbose | .quiet => options

end Options

/-! ## Tasks -/

/-- The word that ends all options. -/
def endOfOptions : String := "--"

/-- What the options behind the name of a task come to. -/
inductive TaskOptions where
  | none
  | help
  | misuse
  deriving DecidableEq, Repr, Inhabited

/-- The options behind the name of a task: help counts wherever it stands, any other is misuse. -/
def taskOptions : List String → TaskOptions
  | [] => .none
  | arg :: rest =>
    if arg = endOfOptions then .none
    else
      let behind := match taskOptions rest with
        | .none => TaskOptions.misuse
        | other => other
      match Argument.ofText [.help] arg with
      | .word => taskOptions rest
      | .full _ none => .help
      | .full _ (some _) | .ambiguous => .misuse
      | .letters flag joined => if (readCluster [.help] flag joined).isSome then .help else .misuse
      | .unknown => behind

/-- What a word behind another one is given as: where it is once more the one that ends options, it
counts as a list of no words. -/
def laterPart (word : String) : Value :=
  if word = endOfOptions then .list [] else .str word

/-- The task of a name, working on the given words. -/
def Task.ofWords? (name : String) (words : List String) : Option Task :=
  match name, words with
  | "parse", [] => none
  | "parse", pids => some (.parse pids)
  | "validate", [protocol, authority, identifier] =>
    some (.validate (.str protocol) (laterPart authority) (laterPart identifier))
  | "providers", protocols => some (.providers protocols)
  | _, _ => none

/-- The names of the tasks. -/
def taskNames : List String :=
  ["parse", "validate", "providers"]

/-- What is asked for by the name of a task and the arguments behind it; `fits` tells whether the
arguments before it do. -/
def readTask (options : Options) (fits : Bool) (name : String) (args : List String) : Request :=
  if name ∉ taskNames then .misuse
  else match taskOptions args with
    | .help => .help
    | .misuse => .misuse
    | .none =>
      match Task.ofWords? name (args.erase endOfOptions) with
      | some task => if fits then .run options (some task) else .misuse
      | none => .misuse

/-! ## All arguments -/

/-- What arguments ask for, given the options before them. -/
def readFrom (options : Options) (fits : Bool) : List String → Request
  | [] => if fits then .run options none else .misuse
  | arg :: args =>
    if arg = endOfOptions then .misuse
    else match Argument.ofText Flag.all arg with
      | .word => readTask options fits arg args
      | .unknown => readFrom options false args
      | .ambiguous => .misuse
      | .full flag (some value) =>
        if flag.takesValue then readFrom (options.assign flag value) fits args else .misuse
      | .full flag none =>
        if flag = .help then .help
        else if flag.takesValue then
          match args with
          | value :: args =>
            if isValue value then readFrom (options.assign flag value) fits args else .misuse
          | [] => .misuse
        else readFrom (options.switchOn flag) fits args
      | .letters flag joined =>
        match readCluster Flag.all flag joined with
        | none => .misuse
        | some (flags, ending) =>
          let switched := flags.foldl Options.switchOn options
          let help := flags.contains .help
          match ending with
          | .done => if help then .help else readFrom switched fits args
          | .value flag value =>
            if help then .help else readFrom (switched.assign flag value) fits args
          | .next flag =>
            match args with
            | value :: args =>
              if !isValue value then .misuse
              else if help then .help
              else readFrom (switched.assign flag value) fits args
            | [] => .misuse
where
  /-- Whether an argument can be the value of the option before it. -/
  isValue (s : String) : Bool :=
    s ≠ endOfOptions && Argument.ofText Flag.all s = .word

/-- What the arguments of the tool ask for. -/
def readArguments (args : List String) : Request :=
  let options := args.takeWhile (· ≠ endOfOptions)
  if options.any fun arg => Argument.ofText Flag.all arg = .ambiguous then .misuse
  else readFrom {} true args

end PersistentId.Tool
