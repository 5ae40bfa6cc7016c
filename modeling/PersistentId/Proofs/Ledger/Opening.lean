import PersistentId.Context
import PersistentId.Proofs.Action

/-!
# Failures to open a ledger

A ledger may be configured in ways that cannot be followed, its directory may not be there and its
store may not be readable. None of the faults that come of this is one of the configuration
(`Site.createService_spares`), though it is the configuration that asks for the ledger.

`Spares` says so of a computation and of an action, and goes through the ways of putting them
together; each function that has a part in opening a ledger has one lemma for itself.
-/

namespace PersistentId

open PersistentId.Action

/-! ## Faults that are not the configuration's -/

section Spares

variable {σ α β : Type}

/-- No fault of a computation says that the configuration is at fault. -/
def Spares (result : Except Fault α) : Prop :=
  ∀ fault, result = .error fault → fault.fromConfiguration = false

/-- No fault of an action says that the configuration is at fault. -/
abbrev Action.Spares (act : Action σ α) : Prop :=
  Ends act (fun _ => True) (fun _ _ => True) fun fault _ => fault.fromConfiguration = false

namespace Spares

theorem ok (a : α) : Spares (.ok a) :=
  nofun

theorem error {fault : Fault} (h : fault.fromConfiguration = false) :
    Spares (.error fault : Except Fault α) := by
  rintro _ ⟨⟩
  exact h

theorem throw_bind {fault : Fault} {next : α → Except Fault β}
    (h : fault.fromConfiguration = false) : Spares (throw fault >>= next) :=
  error h

theorem bind {result : Except Fault α} {next : α → Except Fault β} (h : Spares result)
    (hnext : ∀ a, Spares (next a)) : Spares (result >>= next) := by
  cases result with
  | error fault => exact error (h fault rfl)
  | ok a => exact hnext a

theorem map {result : Except Fault α} (h : Spares result) (f : α → β) :
    Spares (result.map f) := by
  cases result with
  | error fault => exact error (h fault rfl)
  | ok a => exact ok _

theorem foldlM {next : β → α → Except Fault β} (h : ∀ b a, Spares (next b a)) (items : List α)
    (b : β) : Spares (items.foldlM next b) := by
  induction items generalizing b with
  | nil => exact ok b
  | cons a items ih => exact (h b a).bind fun b => ih b

end Spares

namespace Action.Spares

theorem pure (a : α) : (pure a : Action σ α).Spares :=
  Ends.pure fun _ _ => trivial

theorem throw {fault : Fault} (h : fault.fromConfiguration = false) :
    (throw fault : Action σ α).Spares :=
  Ends.throw fun _ _ => h

theorem get_bind {next : σ → Action σ β} (h : ∀ s, (next s).Spares) : (get >>= next).Spares :=
  Ends.get_bind fun s _ => (h s).mono fun _ _ => trivial

theorem modify (f : σ → σ) : (modify f : Action σ PUnit).Spares :=
  Ends.modify fun _ _ => trivial

/-- What may fail outright comes first. -/
theorem ofExcept_bind {result : Except Fault α} {next : α → Action σ β}
    (h : PersistentId.Spares result) (hnext : ∀ a, (next a).Spares) :
    (Action.ofExcept result >>= next).Spares :=
  Ends.ofExcept_bind (fun fault _ hfault _ => h fault hfault) fun a _ => hnext a

theorem zoom {τ : Type} {act : Action σ α} (h : act.Spares) (part : τ → σ) (restore : σ → τ → τ) :
    (act.zoom part restore).Spares :=
  Ends.zoom fun _ _ => h.weaken (fun _ _ => trivial) (fun _ _ _ => trivial) fun _ _ hf => hf

end Action.Spares

end Spares

theorem Value.asTextOr_spares {fault : Value → Fault}
    (h : ∀ v, (fault v).fromConfiguration = false) (v : Value) : Spares (v.asTextOr fault) := by
  cases v with
  | str s => exact .ok s
  | _ => exact .error (h _)

theorem Value.asTable_spares (v : Value) : Spares v.asTable := by
  cases v with
  | map entries => exact .ok entries
  | _ => exact .error rfl

theorem Value.wording_spares (v : Value) : Spares v.wording := by
  rw [Value.wording]
  split
  · exact .ok _
  · exact .error rfl

/-! ## Files -/

namespace FileTree

variable (tree : FileTree) (path : String)

theorem enter_spares (place : Path) (name : String) : Spares (tree.enter path place name) := by
  rw [enter]
  split
  · exact .ok _
  · split
    · exact .error rfl
    · split
      · exact .ok _
      · exact .error rfl
      · exact .error rfl

theorem locate_spares : Spares (tree.locate path) := by
  unfold locate
  dsimp only
  split
  · exact .throw_bind rfl
  split
  · exact .throw_bind rfl
  split
  · exact .throw_bind rfl
  split
  · exact .ok _
  · refine (Spares.foldlM (tree.enter_spares path) _ _).bind fun place => ?_
    split
    · exact .ok _
    split
    · exact .throw_bind rfl
    · exact .ok _

theorem directoryFault_spares (purpose : Purpose) :
    (directoryFault path purpose).fromConfiguration = false := by
  cases purpose <;> rfl

theorem reach_spares (purpose : Purpose) : Spares (tree.reach purpose path) := by
  refine (tree.locate_spares path).bind fun goal => ?_
  cases goal with
  | directory place => exact .error (directoryFault_spares path purpose)
  | entry place node slashed =>
    dsimp only
    split
    · exact .error rfl
    cases node with
    | none =>
      dsimp only
      split
      · exact .error rfl
      · exact .ok _
    | some node =>
      cases node with
      | directory => exact .error (directoryFault_spares path purpose)
      | file data =>
        dsimp only
        split
        · exact .error rfl
        split
        · exact .error rfl
        · exact .ok _

theorem contents_spares : Spares (tree.contents path) :=
  (tree.reach_spares path .find).bind fun _ => .ok _

end FileTree

theorem Host.read_spares (path : String) : (Host.read path).Spares := by
  refine Action.Spares.get_bind fun host => ?_
  refine .ofExcept_bind (FileTree.contents_spares _ _) fun data => ?_
  split
  · exact .pure _
  · exact .throw rfl

/-! ## Ledgers -/

namespace Ledger

theorem directoryOf_spares (files : FileTree) (directory : Value) :
    Spares (directoryOf files directory) := by
  unfold directoryOf
  split
  · exact .ok _
  · split
    · split
      · exact .ok _
      · exact .error rfl
    · split
      · exact .error rfl
      · split <;> exact .error rfl
    · exact .error rfl
    · exact .error rfl

theorem configOf_spares (config : Value) : Spares (configOf config) := by
  unfold configOf
  split
  · exact .ok _
  · split
    · exact .ok _
    · exact .error rfl

theorem sourceOf_spares (name : Value) : Spares (sourceOf name) := by
  rw [sourceOf]
  split
  · exact (Value.asTextOr_spares (fun _ => rfl) name).map _
  · exact .ok _

theorem fileIn_spares (directory : String) (name : Value) : Spares (fileIn directory name) :=
  (Value.asTextOr_spares (fun _ => rfl) name).map _

theorem configured_spares (files : FileTree) (directory config name : Value) :
    Spares (configured files directory config name) := by
  rw [configured]
  refine (directoryOf_spares files directory).bind fun directory => ?_
  refine (configOf_spares config).bind fun config => ?_
  refine (sourceOf_spares name).bind fun source => ?_
  dsimp only
  split
  · cases directory with
    | none => exact .ok _
    | some dir =>
      have hfile (file : Value) : Spares (some <$> fileIn dir file) :=
        (fileIn_spares dir file).map some
      refine Spares.bind (.ok _) fun start => (hfile _).bind fun store => ?_
      exact (hfile _).bind fun numberStore => .ok _
  · exact (Value.wording_spares _).bind fun text => .throw_bind rfl

theorem note_spares (level : Level) (message : String) : (note level message).Spares :=
  .get_bind fun _ => Action.Spares.zoom (.modify _) _ _

theorem warnUnreadable_spares (store : String) (keys : List String) :
    (warnUnreadable store keys).Spares := by
  induction keys with
  | nil => exact .pure _
  | cons key keys ih => exact (note_spares _ _).bind fun _ => ih

theorem reload_spares : reload.Spares := by
  refine .get_bind fun s => ?_
  split
  · exact .throw rfl
  · refine ((Host.read_spares _).zoom _ _).bind fun text => ?_
    refine (warnUnreadable_spares _ _).bind fun _ => ?_
    split
    · exact Ends.throw_bind fun _ _ => rfl
    · exact Action.Spares.modify _

theorem restore_spares : restore.Spares := by
  refine .get_bind fun s => ?_
  dsimp only
  split
  · exact .pure _
  · split
    · refine reload_spares.bind fun _ => Action.Spares.get_bind fun t => ?_
      split
      · exact note_spares _ _
      · exact .pure _
    · exact .pure _

theorem create_spares (directory config name : Value) : (create directory config name).Spares := by
  refine .get_bind fun host => ?_
  refine .ofExcept_bind (configured_spares _ _ _ _) fun ledger => fun host _ => ?_
  have hrestore := restore_spares (ledger, host) trivial
  rw [outcome_ofOutcome]
  rcases hout : restore.outcome (ledger, host) with ⟨fault | _, t⟩
  · rw [hout] at hrestore
    exact hrestore
  · exact trivial

end Ledger

/-! ## Local services -/

namespace Site

/-- **No fault of the local service that a configuration asks for is one of the configuration.** -/
theorem createService_spares (config : Config) : (createService config).Spares := by
  refine .ofExcept_bind (Value.asTable_spares _) fun entries => ?_
  exact ((Ledger.create_spares _ _ _).zoom _ _).bind fun ledger => fun _ _ => trivial

end Site

end PersistentId
