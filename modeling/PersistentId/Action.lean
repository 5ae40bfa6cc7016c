import PersistentId.Fault
import PersistentId.Journal

/-!
# Actions

An action works on a state and either gives a result or fails with a fault. What it did to the
state before it failed stays done. `Action.zoom` runs an action on a part of a larger state, and
`Action.attempt` turns a failure into a result.
-/

namespace PersistentId

/-- A computation on states that may fail. -/
abbrev Action (σ α : Type) := ExceptT Fault (StateM σ) α

namespace Action

variable {σ τ α : Type}

/-- The outcome of an action on a state, and the state it leaves. -/
def outcome (act : Action σ α) (s : σ) : Except Fault α × σ :=
  act s

/-- The action that has the given outcome. -/
def ofOutcome (f : σ → Except Fault α × σ) : Action σ α :=
  f

/-- An action on a part of a state. -/
def zoom (part : τ → σ) (restore : σ → τ → τ) (act : Action σ α) : Action τ α :=
  ofOutcome fun t =>
    let (result, s) := act.outcome (part t)
    (result, restore s t)

/-- The action with its failure as a result. -/
def attempt (act : Action σ α) : Action σ (Except Fault α) :=
  ofOutcome fun s =>
    let (result, s) := act.outcome s
    (.ok result, s)

/-- The result of a computation that may fail, as an action. -/
def ofExcept (result : Except Fault α) : Action σ α :=
  ofOutcome fun s => (result, s)

@[simp]
theorem outcome_ofOutcome (f : σ → Except Fault α × σ) (s : σ) :
    (ofOutcome f).outcome s = f s := rfl

@[simp]
theorem outcome_pure (a : α) (s : σ) : (pure a : Action σ α).outcome s = (.ok a, s) := rfl

@[simp]
theorem outcome_throw (fault : Fault) (s : σ) :
    (throw fault : Action σ α).outcome s = (.error fault, s) := rfl

theorem outcome_bind {β : Type} (act : Action σ α) (f : α → Action σ β) (s : σ) :
    (act >>= f).outcome s =
      match act.outcome s with
      | (.ok a, t) => (f a).outcome t
      | (.error fault, t) => (.error fault, t) := by
  show (ExceptT.bindCont f (act s).1) (act s).2 = _
  simp only [outcome]
  rcases act s with ⟨a | a, t⟩ <;> rfl

@[simp]
theorem outcome_ofExcept (result : Except Fault α) (s : σ) :
    (ofExcept result : Action σ α).outcome s = (result, s) := rfl

end Action

end PersistentId
