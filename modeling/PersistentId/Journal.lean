/-!
# The journal

What the library notes while it works: entries with a level, the name of the part that speaks and
a message. `Logged` is the result of a computation together with the entries it made, in order;
`value_bind` says that the entries never reach the result.
-/

namespace PersistentId

/-- How much an entry matters. -/
inductive Level where
  /-- Finer than `debug`; one entry for each identifier looked at. -/
  | verbose
  | debug
  | info
  | warning
  | error
  deriving DecidableEq, Repr, Inhabited

namespace Level

/-- The rank of a level among the customary ones. -/
def rank : Level → Nat
  | .verbose => 9
  | .debug => 10
  | .info => 20
  | .warning => 30
  | .error => 40

/-- The name of a level in a printed entry. -/
def label : Level → String
  | .verbose => "Level 9"
  | .debug => "DEBUG"
  | .info => "INFO"
  | .warning => "WARNING"
  | .error => "ERROR"

/-- Whether entries of this level are shown where `threshold` is the lowest shown. -/
def reaches (level threshold : Level) : Bool :=
  threshold.rank ≤ level.rank

end Level

/-- An entry of the journal. -/
structure Entry where
  level : Level
  /-- The name of the part of the system that speaks, dots between its levels. -/
  source : String
  message : String
  deriving DecidableEq, Repr, Inhabited

/-- The entries made so far, in order. -/
abbrev Journal := List Entry

/-- A result with the entries made on the way to it. -/
structure Logged (α : Type) where
  value : α
  entries : Journal
  deriving Repr

namespace Logged

instance : Monad Logged where
  pure a := ⟨a, []⟩
  bind x f := ⟨(f x.value).value, x.entries ++ (f x.value).entries⟩

/-- Make one entry. -/
def note (level : Level) (source message : String) : Logged Unit :=
  ⟨(), [⟨level, source, message⟩]⟩

@[simp]
theorem value_pure {α : Type} (a : α) : (pure a : Logged α).value = a := rfl

@[simp]
theorem entries_pure {α : Type} (a : α) : (pure a : Logged α).entries = [] := rfl

@[simp]
theorem value_bind {α β : Type} (x : Logged α) (f : α → Logged β) :
    (x >>= f).value = (f x.value).value := rfl

@[simp]
theorem entries_bind {α β : Type} (x : Logged α) (f : α → Logged β) :
    (x >>= f).entries = x.entries ++ (f x.value).entries := rfl

instance : LawfulMonad Logged :=
  LawfulMonad.mk' Logged (fun _ => by simp [Functor.map]) (fun _ _ => rfl)
    (fun _ _ _ => by simp [bind])

end Logged

end PersistentId
