import PersistentId.Fault

/-!
# Subsystems

The parts of the system for the management of identifiers have a name and an abbreviation. The
abbreviations, joined by dots, name the source of an entry in the journal; for that the abbreviation
has to be a text.
-/

namespace PersistentId

/-- A part of the system; the part without a name is the whole. -/
structure Subsystem where
  name : Value := .str ""
  abbreviation : Value := .str ""
  deriving DecidableEq, Repr, Inhabited

namespace Subsystem

/-- The name of the system as a whole. -/
def systemName : String := "Persistent Identifier Management"

/-- The abbreviation of the system as a whole. -/
def systemAbbreviation : String := "PID"

/-- The part that is described by a name and an abbreviation, each of which may be left out. -/
def ofDescription : List Value → Except Fault Subsystem
  | [] => .ok {}
  | [name] => .ok { name }
  | [name, abbreviation] => .ok { name, abbreviation }
  | _ => .error .wrongType

/-- The source that entries of a subsystem bear. -/
def source (part : Subsystem) : Except Fault String :=
  if part.abbreviation.truthy && part.abbreviation ≠ .str systemAbbreviation then
    part.abbreviation.asPiece.map fun s => systemAbbreviation ++ "." ++ s
  else .ok systemAbbreviation

@[simp]
theorem source_whole : source {} = .ok systemAbbreviation := rfl

end Subsystem

end PersistentId
