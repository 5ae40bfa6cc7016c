import PersistentId.Ledger
import PersistentId.Noid
import PersistentId.Operand

/-!
# Minters

A minter makes the local parts of new identifiers from a template. A random minter renders a number
drawn below the capacity of its template, by default in upper case; a sequence minter renders the
next number of the scope it mints for, which it gets from a local service.

A minter is made with a template that it can render. The template can be replaced later: it is read
again whenever it is used, and the capacity stays that of the first one.
-/

namespace PersistentId

/-- The number of a source of random numbers. -/
abbrev SourceId := Nat

/-- A maker of local parts. -/
inductive Minter where
  | random (template : Value) (capacity : Nat) (upper : Value) (source : SourceId)
  | sequence (template : Value) (service : Operand)
  deriving DecidableEq, Repr, Inhabited

namespace Minter

/-- The style of random local parts. -/
def randomStyle : String := "randomString"

/-- The style of local parts in sequence. -/
def sequenceStyle : String := "storedProcGenerated"

/-- The template of random minters by default. -/
def randomTemplate : Value := .str "reeeeee"

/-- The template of sequence minters by default. -/
def sequenceTemplate : Value := .str "zd"

/-- The template of a minter. -/
def template : Minter → Value
  | .random template _ _ _ => template
  | .sequence template _ => template

/-- The name of a minter's class. -/
def label : Minter → String
  | .random .. => "RandomStringMinter"
  | .sequence .. => "SequenceMinter"

/-- A random minter. -/
def makeRandom (template upper : Value) (source : SourceId) : Except Fault Minter := do
  let mask ← Noid.Template.ofValue template
  match mask.generator with
  | .random => pure (.random template mask.capacity upper source)
  | _ => throw (.notARandomTemplate mask.text)

/-- A minter of numbers in sequence. -/
def makeSequence (template : Value) (service : Operand) : Except Fault Minter := do
  if service.isNull then throw .numbersWithoutService
  let mask ← Noid.Template.ofValue template
  match mask.generator with
  | .random => throw (.notASequenceTemplate mask.text)
  | _ => pure (.sequence template service)

/-- The template in a configuration, which may be missing. -/
def configuredTemplate (config : Value) (name : String) (otherwise : Value) : Except Fault Value :=
  match config with
  | .null => .ok otherwise
  | config => config.asTable.map fun entries => Ledger.parameter entries name otherwise

/-- The minter for a generation style, templates taken from the configuration. Every style but the
one in sequence is random. -/
def forStyle (style : Value) (service : Operand) (config : Value) (source : SourceId) :
    Except Fault Minter := do
  if style = .str sequenceStyle then
    if service.isNull then throw .styleWithoutService
    makeSequence (← configuredTemplate config "sequence_template" sequenceTemplate) service
  else
    makeRandom (← configuredTemplate config "random_template" randomTemplate) (.bool true) source

/-- The minter with something in one of its fields. A field that it does not use makes no
difference. -/
def assign (minter : Minter) (name : String) (x : Operand) : Minter :=
  match name, minter with
  | "template", .random _ capacity upper source => .random x.plain capacity upper source
  | "template", .sequence _ service => .sequence x.plain service
  | "upper", .random template capacity _ source => .random template capacity x.plain source
  | "pidsvc", .sequence template _ => .sequence template x
  | _, minter => minter

end Minter

end PersistentId
