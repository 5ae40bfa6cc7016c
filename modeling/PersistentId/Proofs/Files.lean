import Mathlib.Tactic.SplitIfs
import PersistentId.FileTree
import PersistentId.Proofs.Table

/-!
# Files that stay where they are

`tree.Opens path place` says that a path leads to a place at which no directory stands, so that a
file can be read or made there. Writing a file takes no directory away: whatever a path opens, it
goes on to open (`Opens.put`). `dataAt_put_self` and `dataAt_put_of_ne` say what the files hold
then.
-/

namespace PersistentId.FileTree

/-- A path leads to a place that is free or has a file. -/
structure Opens (tree : FileTree) (path : String) (place : Path) : Prop where
  locate_eq : tree.locate path = .ok (.entry place (tree.node? place) false)
  notDirectory : tree.node? place ≠ some .directory

variable {tree : FileTree} {path : String} {place other : Path}

/-! ## Nodes -/

theorem node?_put_self (h : place ≠ []) (node : FileNode) :
    (tree.put place node).node? place = some node := by
  rw [node?, if_neg h]
  exact Table.find?_put_self ..

theorem node?_put_of_ne (h : place ≠ other) (node : FileNode) :
    (tree.put other node).node? place = tree.node? place := by
  rw [node?, node?]
  split
  · rfl
  · exact Table.find?_put_of_ne _ _ (beq_false_of_ne (Ne.symm h))

theorem put_put_self (tree : FileTree) (place : Path) (a b : FileNode) :
    (tree.put place a).put place b = tree.put place b :=
  congrArg (FileTree.mk _) (Table.put_put_self ..)

/-- Writing a file takes no directory away. -/
theorem directory_put (ho : tree.node? other ≠ some .directory)
    (h : tree.node? place = some .directory) (node : FileNode) :
    (tree.put other node).node? place = some .directory := by
  have hne : place ≠ other := fun e => ho (e ▸ h)
  rw [node?_put_of_ne hne, h]

theorem Opens.ne_empty (h : tree.Opens path place) : path ≠ "" := by
  rintro rfl
  cases h.locate_eq

theorem Opens.ne_nil (h : tree.Opens path place) : place ≠ [] := by
  rintro rfl
  exact h.notDirectory rfl

theorem Opens.place_eq (h : tree.Opens path place) (h' : tree.Opens path other) :
    place = other := by
  have hentry := h.locate_eq.symm.trans h'.locate_eq
  exact (Goal.entry.inj (Except.ok.inj hentry)).1

/-! ## Paths -/

theorem enter_put (ho : tree.node? other ≠ some .directory) (node : FileNode) {name : String}
    {next : Path} (h : tree.enter path place name = .ok next) :
    (tree.put other node).enter path place name = .ok next := by
  unfold enter at h ⊢
  split
  · next hname =>
    rw [if_pos hname] at h
    exact h
  · next hname =>
    rw [if_neg hname] at h
    split
    · next hlong =>
      rw [if_pos hlong] at h
      cases h
    · next hlong =>
      rw [if_neg hlong] at h
      split at h
      · next heq => rw [directory_put ho heq, h]
      · cases h
      · cases h

theorem foldlM_enter_put (ho : tree.node? other ≠ some .directory) (node : FileNode)
    {names : List String} {next : Path} (h : names.foldlM (tree.enter path) place = .ok next) :
    names.foldlM ((tree.put other node).enter path) place = .ok next := by
  induction names generalizing place with
  | nil => exact h
  | cons name names ih =>
    rw [List.foldlM_cons] at h ⊢
    cases hstep : tree.enter path place name with
    | error fault => simp [hstep, bind, Except.bind] at h
    | ok entered =>
      rw [hstep] at h
      rw [enter_put ho node hstep]
      exact ih h

/-- What a walk ends at in another tree with the same directories. -/
def Goal.inTree (tree : FileTree) : Goal → Goal
  | .directory place => .directory place
  | .entry place _ slashed => .entry place (tree.node? place) slashed

/-- A walk knows what stands where it ends. -/
theorem inTree_of_locate {goal : Goal} (h : tree.locate path = .ok goal) :
    goal.inTree tree = goal := by
  simp only [locate, bind, Except.bind, throw, throwThe, MonadExceptOf.throw, pure,
    Except.pure] at h
  split_ifs at h
  split at h
  · cases h
    rfl
  · split at h
    · cases h
    · split_ifs at h <;> cases h <;> rfl

theorem locate_put (ho : tree.node? other ≠ some .directory) (node : FileNode) {goal : Goal}
    (h : tree.locate path = .ok goal) :
    (tree.put other node).locate path = .ok (goal.inTree (tree.put other node)) := by
  simp only [locate, bind, Except.bind, throw, throwThe, MonadExceptOf.throw, pure,
    Except.pure] at h ⊢
  split_ifs at h with h₁ h₂ h₃
  rw [if_neg h₁, if_neg h₂, if_neg h₃]
  split at h
  · cases h
    rfl
  · split at h
    · cases h
    · next hwalk =>
      have hwalk' := foldlM_enter_put ho node hwalk
      rw [show tree.start path = (tree.put other node).start path from rfl] at hwalk'
      simp only [hwalk']
      split_ifs at h ⊢ <;> cases h <;> rfl

/-- **What a path opens, it goes on to open.** -/
theorem Opens.put (h : tree.Opens path place) (ho : tree.node? other ≠ some .directory)
    (data : ByteArray) : (tree.put other (.file data)).Opens path place := by
  refine ⟨locate_put ho _ h.locate_eq, ?_⟩
  by_cases he : place = other
  · subst he
    rw [node?_put_self h.ne_nil]
    simp
  · rw [node?_put_of_ne he]
    exact h.notDirectory

theorem isDirectory_put (ho : tree.node? other ≠ some .directory) (node : FileNode)
    (h : tree.isDirectory path = true) : (tree.put other node).isDirectory path = true := by
  rw [isDirectory, decide_eq_true_eq] at h ⊢
  unfold find? at h ⊢
  cases hlocate : tree.locate path with
  | error fault => simp [hlocate] at h
  | ok goal =>
    have hgoal := inTree_of_locate hlocate
    rw [locate_put ho node hlocate]
    cases goal with
    | directory place => rfl
    | entry place found slashed =>
      obtain ⟨-, rfl, -⟩ := Goal.entry.inj hgoal
      rw [hlocate] at h
      have hfound : tree.node? place = some .directory := by
        cases hnode : tree.node? place with
        | none => simp [hnode] at h
        | some node =>
          cases node with
          | directory => rfl
          | file data => cases slashed <;> simp [hnode] at h
      simp only [Goal.inTree, directory_put ho hfound]

/-- Whatever a path opened before, and whichever was that of a directory, is so afterwards. -/
structure Grown (tree tree' : FileTree) : Prop where
  opens : ∀ path place, tree.Opens path place → tree'.Opens path place
  isDirectory : ∀ path, tree.isDirectory path = true → tree'.isDirectory path = true

theorem Grown.refl (tree : FileTree) : tree.Grown tree :=
  ⟨fun _ _ h => h, fun _ h => h⟩

theorem Grown.trans {tree' tree'' : FileTree} (h : tree.Grown tree') (h' : tree'.Grown tree'') :
    tree.Grown tree'' :=
  ⟨fun path place ho => h'.opens path place (h.opens path place ho),
    fun path hd => h'.isDirectory path (h.isDirectory path hd)⟩

theorem grown_put (ho : tree.node? other ≠ some .directory) (data : ByteArray) :
    tree.Grown (tree.put other (.file data)) :=
  ⟨fun _ _ h => h.put ho data, fun _ h => isDirectory_put ho _ h⟩

/-! ## Reading and writing -/

theorem Opens.reach_make (h : tree.Opens path place) :
    ∃ old, tree.reach .findOrMake path = .ok (place, old) ∧
      old.getD .empty = tree.dataAt place := by
  rw [reach, h.locate_eq, dataAt]
  cases hnode : tree.node? place with
  | none => exact ⟨none, rfl, rfl⟩
  | some node =>
    cases node with
    | directory => exact absurd hnode h.notDirectory
    | file data => exact ⟨some data, rfl, rfl⟩

theorem Opens.write (h : tree.Opens path place) (data : ByteArray) :
    tree.write path data = .ok (tree.put place (.file data)) := by
  obtain ⟨old, hreach, -⟩ := h.reach_make
  simp only [FileTree.write, hreach, bind, Except.bind, pure, Except.pure]

theorem Opens.append (h : tree.Opens path place) (data : ByteArray) :
    tree.append path data = .ok (tree.put place (.file (tree.dataAt place ++ data))) := by
  obtain ⟨old, hreach, hold⟩ := h.reach_make
  simp only [FileTree.append, hreach, hold, bind, Except.bind, pure, Except.pure]

/-- A path that opens a place has the bytes of the file there, if there is one. -/
theorem Opens.contents (h : tree.Opens path place) :
    tree.contents path =
      if tree.node? place = none then .error (.file .missing path)
      else .ok (tree.dataAt place) := by
  rw [FileTree.contents, reach, h.locate_eq, dataAt]
  cases hnode : tree.node? place with
  | none => rfl
  | some node =>
    cases node with
    | directory => exact absurd hnode h.notDirectory
    | file data => rfl

theorem Opens.present (h : tree.Opens path place) :
    tree.present path = (tree.node? place).isSome := by
  rw [FileTree.present, FileTree.find?, h.locate_eq]
  cases hnode : tree.node? place with
  | none => rfl
  | some node =>
    cases node with
    | directory => exact absurd hnode h.notDirectory
    | file data => rfl

theorem dataAt_put_self (h : place ≠ []) (data : ByteArray) :
    (tree.put place (.file data)).dataAt place = data := by
  rw [dataAt, node?_put_self h]

theorem dataAt_put_of_ne (h : place ≠ other) (node : FileNode) :
    (tree.put other node).dataAt place = tree.dataAt place := by
  rw [dataAt, dataAt, node?_put_of_ne h]

end PersistentId.FileTree
