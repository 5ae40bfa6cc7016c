import Mathlib.Data.List.Basic
import PersistentId.Copy
import PersistentId.Proofs.Action
import PersistentId.Proofs.Table

/-!
# What copying leaves

Copying metadata either fails without changing anything, for a reason that no registry service has
given (`Site.fromService_of_copied`), or leaves the things that were there as they are and values in
the metadata as they were (`Site.Copies`). What the host is makes no difference to it.
-/

namespace PersistentId

open PersistentId.Action

/-- The site with another host. -/
def Site.withHost (s : Site) (host : Host) : Site :=
  { s with host }

namespace Site

variable {s t : Site} {metadata copy : Metadata}

/-! ## Going through what is there -/

/-- Something that fails over a list fails at one of its items. -/
theorem exists_of_foldlM_eq_error {α β : Type} {f : β → α → Except Fault β} {fault : Fault} :
    ∀ {items : List α} {b : β}, items.foldlM f b = .error fault →
      ∃ c, ∃ a ∈ items, f c a = .error fault
  | a :: items, b, h => by
    rw [List.foldlM_cons] at h
    cases hfirst : f b a with
    | error other =>
      rw [hfirst] at h
      cases h
      exact ⟨b, a, List.mem_cons_self, hfirst⟩
    | ok c =>
      rw [hfirst] at h
      obtain ⟨d, a', ha', hfault⟩ := exists_of_foldlM_eq_error h
      exact ⟨d, a', List.mem_cons_of_mem _ ha', hfault⟩

/-- No service has a part in it that something cannot be copied. -/
theorem fromService_of_visit {fault : Fault} (room : Nat) : ∀ {seen : List Operand} {x : Operand},
    s.visit room seen x = .error fault → fault.fromService = false := by
  induction room using Nat.strongRecOn with
  | ind room ih =>
    intro seen x h
    unfold visit at h
    split at h
    case h_1 =>
      split at h <;> cases h
      rfl
    case h_6 | h_7 =>
      split at h
      · cases h
      split at h
      · obtain ⟨_, _, -, h⟩ := exists_of_foldlM_eq_error h
        exact ih _ (by omega) h
      · cases h
        rfl
    all_goals
      cases h
      rfl

theorem fromService_of_copied {fault : Fault} (h : s.copied metadata = .error fault) :
    fault.fromService = false := by
  rw [copied] at h
  cases hfound : s.found metadata with
  | error other =>
    rw [hfound] at h
    cases h
    obtain ⟨_, _, -, hvisit⟩ := exists_of_foldlM_eq_error hfound
    exact fromService_of_visit _ hvisit
  | ok found =>
    rw [hfound] at h
    cases h

/-- What the host is makes no difference to what a copy comes to. -/
theorem visit_withHost (s : Site) (host : Host) (room : Nat) :
    (s.withHost host).visit room = s.visit room := by
  induction room using Nat.strongRecOn with
  | ind room ih =>
    funext seen x
    unfold visit
    split
    case h_6 | h_7 =>
      refine ite_congr rfl (fun _ => rfl) fun _ => ?_
      split
      · rw [ih _ (by omega)]
        rfl
      · rfl
    all_goals rfl

theorem copied_withHost (s : Site) (host : Host) (metadata : Metadata) :
    (s.withHost host).copied metadata =
      (s.copied metadata).map fun x => (x.1, x.2.withHost host) := by
  have hfound : (s.withHost host).found metadata = s.found metadata := by
    rw [found, visit_withHost]
    rfl
  rw [copied, hfound, copied]
  cases s.found metadata <;> rfl

/-! ## What is there afterwards -/

/-- What copying metadata leaves. -/
structure Copies (s : Site) (metadata copy : Metadata) (t : Site) : Prop where
  registries : t.registries = s.registries
  /-- Only new objects are put up, and none if the metadata consist of values. -/
  objects : ∀ id, (id < s.objects.size ∨ ∀ entry ∈ metadata, ∃ v, entry.2 = .value v) →
    t.objects.get id = s.objects.get id
  values : ∀ {key v}, Table.find? metadata key = some (.value v) →
    Table.find? copy key = some (.value v)
  distinct : Table.Distinct metadata → Table.Distinct copy

theorem find?_copyOf {found : List Operand} {key : Key} {v : Value}
    (h : Table.find? metadata key = some (.value v)) :
    Table.find? (metadata.map fun (name, x) => (name, s.copyOf found x)) key =
      some (.value v) := by
  induction metadata with
  | nil => cases h
  | cons entry metadata ih =>
    obtain ⟨name, x⟩ := entry
    rw [Table.find?] at h
    rw [List.map_cons, Table.find?]
    split at h
    · next hname =>
      cases h
      rw [if_pos hname]
      rfl
    · next hname => rw [if_neg hname, ih h]

/-- A copy of values comes to nothing else. -/
theorem found_of_values {found : List Operand} (h : s.found metadata = .ok found)
    (hvalues : ∀ entry ∈ metadata, ∃ v, entry.2 = .value v) : found = [] := by
  rw [Site.found] at h
  generalize Value.copyLimit - 1 = room at h
  induction metadata with
  | nil =>
    cases h
    rfl
  | cons entry metadata ih =>
    obtain ⟨⟨v, hv⟩, hrest⟩ := List.forall_mem_cons.1 hvalues
    rw [List.map_cons, List.foldlM_cons, hv, visit] at h
    split at h
    · cases h
    · exact ih hrest h

theorem copies_of_copied (h : s.copied metadata = .ok (copy, t)) : s.Copies metadata copy t := by
  obtain ⟨found, hfound, h⟩ := exists_of_bind_eq_ok h
  cases h
  refine ⟨rfl, fun id hid => ?_, find?_copyOf, fun hd => ?_⟩
  · rcases hid with hlt | hvalues
    · exact Shelf.get_addAll_of_lt _ hlt _
    · rw [found_of_values hfound hvalues, withCopies]
      exact congrArg (·.get id) (Shelf.addAll_nil s.objects)
  · rw [Table.Distinct, List.pairwise_map]
    exact hd

theorem exists_copies (h : (s.copied metadata).map (·.1) = .ok copy) :
    ∃ t, s.Copies metadata copy t := by
  cases hcopied : s.copied metadata with
  | error fault =>
    rw [hcopied] at h
    cases h
  | ok x =>
    rw [hcopied] at h
    cases h
    exact ⟨x.2, copies_of_copied hcopied⟩

/-- **Copying changes nothing if it fails.** -/
theorem outcome_copyMetadata (s : Site) (metadata : Metadata) :
    (copyMetadata metadata).outcome s =
      (match s.copied metadata with
        | .ok (copy, t) => (.ok copy, t)
        | .error fault => (.error fault, s)) := by
  rw [copyMetadata, outcome_bind_ok (outcome_get _)]
  cases s.copied metadata <;> rfl

end Site

end PersistentId
