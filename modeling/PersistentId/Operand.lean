import PersistentId.Identifier

/-!
# Operands

What an operation is called on or given: an identifier, a value, one of the things that are known by
number, or something else. Most operations are for one of these and fail with the others;
`Operand.asPid` and `Operand.asObject` say so.

A place that is meant for a thing of one kind, such as the local service of a provider, holds
whatever operand was put there (`Operand.nothing` at first); whether it fits shows only where it is
used.
-/

namespace PersistentId

/-- The number that an object is known by. -/
abbrev ObjectId := Nat

/-- The number of a provider. -/
abbrev ProviderId := Nat

/-- The number of a local service. -/
abbrev ServiceId := Nat

/-- The number of a registry service. -/
abbrev RegistryId := Nat

/-- Something that is given to an operation. -/
inductive Operand where
  | value (v : Value)
  | pid (pid : Identifier)
  | object (id : ObjectId)
  | provider (id : ProviderId)
  | service (id : ServiceId)
  | registry (id : RegistryId)
  /-- Something else, which has nothing that an operation would ask for. -/
  | other
  deriving DecidableEq, Repr, Inhabited

namespace Operand

/-- No operand. -/
def nothing : Operand :=
  .value .null

/-- A text as an operand. -/
def ofText (s : String) : Operand :=
  .value (.str s)

/-- Whether nothing is given. -/
def isNull (operand : Operand) : Bool :=
  operand = nothing

/-- Whether an operand counts as given, as everything does that is no value. -/
def truthy : Operand → Bool
  | .value v => v.truthy
  | _ => true

/-- The first of two operands that counts as given, else the second. -/
def orElse (x y : Operand) : Operand :=
  if x.truthy then x else y

/-- An operand as a value. What is none counts as a number, with which nothing can be done that
needs a text, a list or a table. -/
def plain : Operand → Value
  | .value v => v
  | _ => .int 1

/-- The identifier that an operand has to be. -/
def asPid : Operand → Except Fault Identifier
  | .pid p => .ok p
  | _ => .error .missingPart

/-- The object that an operand has to be. -/
def asObject : Operand → Except Fault ObjectId
  | .object id => .ok id
  | _ => .error .missingPart

/-- The items of an operand that is gone through. -/
def asItems : Operand → Except Fault (List Value)
  | .value v => v.asItems
  | _ => .error .wrongType

/-- Whether parts that an operand does not have can be assigned to it all the same. -/
def isOpen : Operand → Bool
  | .service _ | .registry _ | .other => true
  | .value _ | .pid _ | .object _ | .provider _ => false

/-- The fault of assigning a part of what is no object. -/
def assignmentFault : Operand → Fault
  | .pid _ => .immutable
  | _ => .missingPart

end Operand

end PersistentId
