import PersistentId.Operation
import PersistentId.Proofs.RegistryService

/-!
# Calls of a registry service

An `Inquiry` is a call of a registry service with what it is given, and a `Visit` is an inquiry at
a service. All operations that the service has by name are inquiries (`exists_inquiry_of_call`).

A visit is noted by the service and concerns the record of its own identifier only. What it makes of
that record is said by `Inquiry.effect` (`Visit.find?_after`), and whether it comes to what it is
for by `Inquiry.fits` (`Visit.succeeds_eq`). A visit that fails changes nothing but in two cases
(`Visit.leaves_iff`).
-/

namespace PersistentId

open PersistentId.Action

/-! ## Inquiries -/

/-- A call of a registry service. Metadata that go with it may be such that they cannot be taken
over. -/
structure Inquiry where
  call : ServiceCall
  pid : Value
  metadata : Except Fault Metadata := .ok []

namespace Inquiry

/-- Make the call. -/
def perform (q : Inquiry) : RegistryService.Use Answer :=
  match q.call with
  | .exists => .ofBool <$> RegistryService.isKnown q.pid
  | .reserve => .value <$> RegistryService.reserve q.pid q.metadata
  | .getMetadata => .metadata <$> RegistryService.metadata q.pid
  | .update => (fun _ => .nothing) <$> RegistryService.update q.pid q.metadata
  | .publicize => (fun _ => .nothing) <$> RegistryService.publicize q.pid q.metadata
  | .delete => (fun _ => .nothing) <$> RegistryService.delete q.pid

/-- Whether a call is for the identifier with a key. -/
def concerns (q : Inquiry) (key : Key) : Bool :=
  q.pid.key?.any (· == key)

/-- What a call makes of the record of its identifier. -/
def effect (q : Inquiry) (record : Option Metadata) : Option Metadata :=
  match q.call, q.metadata, record with
  | .reserve, .ok given, none => some (RegistryService.reserved given)
  | .update, .ok changes, some record => some (Table.putAll record changes)
  | .publicize, .ok changes, record => some (RegistryService.published record changes)
  | .publicize, .error _, record => some (record.getD [])
  | .delete, _, _ => none
  | _, _, record => record

/-- Whether a call can come to what it is for, with the record that its identifier has. -/
def fits (q : Inquiry) (record : Option Metadata) : Bool :=
  match q.call with
  | .exists => true
  | .reserve => q.pid.str?.isSome && q.metadata.isOk && record.isNone
  | .getMetadata | .delete => record.isSome
  | .update => q.metadata.isOk && record.isSome
  | .publicize => q.metadata.isOk

/-- Metadata that go with a call have distinct keys. -/
def Keyed (q : Inquiry) : Prop :=
  ∀ given, q.metadata = .ok given → Table.Distinct given

/-- The records behind a call for the identifier with a key. -/
def recordsAfter (q : Inquiry) (records : Table Key Metadata) (key : Key) :
    Table Key Metadata :=
  match q.effect (Table.find? records key) with
  | some record => Table.put records key record
  | none => Table.remove records key

end Inquiry

namespace RegistryService

/-- **The operations of a registry service are inquiries.** -/
theorem exists_inquiry_of_call (name : String) (args : List Operand) :
    (∃ fault, RegistryService.call name args = throw fault) ∨
      ∃ q : Inquiry, q.call.name = name ∧ RegistryService.call name args = q.perform := by
  unfold RegistryService.call
  split
  · next pid _ => exact .inr ⟨⟨.exists, pid, .ok []⟩, rfl, rfl⟩
  · next pid data _ => exact .inr ⟨⟨.reserve, pid, _⟩, rfl, rfl⟩
  · next pid _ => exact .inr ⟨⟨.getMetadata, pid, .ok []⟩, rfl, rfl⟩
  · next pid changes _ =>
    exact .inr ⟨⟨.update, pid, Metadata.ofValue changes⟩, rfl, (map_eq_pure_bind _ _).symm⟩
  · next pid changes _ =>
    exact .inr ⟨⟨.publicize, pid, Metadata.ofValue changes⟩, rfl, (map_eq_pure_bind _ _).symm⟩
  · next pid _ => exact .inr ⟨⟨.delete, pid, .ok []⟩, rfl, (map_eq_pure_bind _ _).symm⟩
  · exact .inl ⟨_, rfl⟩

variable {pid : Value} {key : Key} (service : RegistryService)

/-- Without a key for the identifier a call is noted, and fails. -/
theorem outcome_enter_bind_of_error {α : Type} {fault : Fault} (hk : pid.asKey = .error fault)
    (call : ServiceCall) (next : Key → Use α) :
    ∃ fault, (enter call pid >>= next).outcome service =
      (.error fault, service.called call pid) := by
  have henter : ∃ fault, (enter call pid).outcome service =
      (.error fault, service.called call pid) := by
    have hmodify : (modify fun service : RegistryService =>
        { service with calls := service.calls ++ [(call, pid)] } : Use PUnit).outcome service =
        (.ok ⟨⟩, service.called call pid) := rfl
    rw [enter, outcome_bind_ok hmodify, outcome_bind_ok (outcome_get _), hk]
    split <;> exact ⟨_, rfl⟩
  obtain ⟨fault, henter⟩ := henter
  exact ⟨fault, outcome_bind_error henter⟩

end RegistryService

namespace Inquiry

variable {q : Inquiry} {records : Table Key Metadata} {key : Key}

theorem recordsAfter_of_effect (h : q.effect (Table.find? records key) = Table.find? records key) :
    q.recordsAfter records key = records := by
  rw [recordsAfter, h]
  cases hfind : Table.find? records key with
  | none => exact Table.remove_of_find?_eq_none hfind
  | some record => exact Table.put_of_find? hfind

theorem recordsAfter_of_some (record : Metadata)
    (h : q.effect (Table.find? records key) = some record) :
    q.recordsAfter records key = Table.put records key record := by
  rw [recordsAfter, h]

/-- A call changes the record of its own identifier, and no other one. -/
theorem find?_recordsAfter (q : Inquiry) (records : Table Key Metadata) (key other : Key) :
    Table.find? (q.recordsAfter records key) other =
      if key == other then q.effect (Table.find? records key) else Table.find? records other := by
  rw [recordsAfter]
  by_cases hkey : (key == other) = true
  · rw [if_pos hkey, ← Table.find?_congr _ hkey]
    cases q.effect (Table.find? records key) with
    | none => exact Table.find?_remove_self _ _
    | some record => exact Table.find?_put_self _ _ _
  · rw [if_neg hkey]
    cases q.effect (Table.find? records key) with
    | none => exact Table.find?_remove_of_ne _ (Bool.eq_false_iff.2 hkey)
    | some record => exact Table.find?_put_of_ne _ _ (Bool.eq_false_iff.2 hkey)

theorem concerns_of_asKey {other : Key} (hk : q.pid.asKey = .ok key) :
    q.concerns other = (key == other) := by
  rw [Value.asKey] at hk
  rw [concerns]
  cases hkey : q.pid.key? with
  | none => simp [hkey] at hk
  | some own =>
    simp only [hkey, Except.ok.injEq] at hk
    rw [hk]
    rfl

theorem concerns_of_error {fault : Fault} (hk : q.pid.asKey = .error fault) (key : Key) :
    q.concerns key = false := by
  rw [Value.asKey] at hk
  rw [concerns]
  cases hkey : q.pid.key? with
  | none => rfl
  | some own => simp [hkey] at hk

theorem exists_of_concerns (h : q.concerns key = true) :
    ∃ own, q.pid.asKey = .ok own ∧ (own == key) = true := by
  cases hk : q.pid.asKey with
  | error fault => rw [concerns_of_error hk] at h; cases h
  | ok own => exact ⟨own, rfl, by rw [← concerns_of_asKey hk, h]⟩

/-- The calls that change a record without coming to what they are for. -/
theorem slips_iff (q : Inquiry) (record : Option Metadata) :
    (!q.fits record && decide (q.effect record ≠ record)) = true ↔
      record = none ∧
        (q.call = .publicize ∧ q.metadata.isOk = false ∨
          q.call = .reserve ∧ q.metadata.isOk = true ∧ q.pid.str? = none) := by
  obtain ⟨call, pid, metadata⟩ := q
  cases call <;> cases metadata <;> cases record <;>
    simp [fits, effect, Except.isOk, Except.toBool]

end Inquiry

/-! ## What a call comes to -/

namespace RegistryService

/-- An action is a call for the identifier with a key, as far as its success and the service behind
it go. -/
def Comes {α : Type} (act : Use α) (q : Inquiry) (key : Key) : Prop :=
  ∀ service : RegistryService,
    (act.outcome service).1.isOk =
        (!service.failing.truthy && q.fits (Table.find? service.records key)) ∧
      (act.outcome service).2 =
        if service.failing.truthy then service.called q.call q.pid
        else { service.called q.call q.pid with records := q.recordsAfter service.records key }

variable {pid : Value} {key : Key} {metadata : Except Fault Metadata}

/-- A call that is refused while the service fails, and otherwise comes to what is said. -/
theorem comes_of {α : Type} {act : Use α} {q : Inquiry} {next : Key → Use α}
    (hk : q.pid.asKey = .ok key) (hact : act = enter q.call q.pid >>= next)
    (h : ∀ service : RegistryService,
      ((next key).outcome service).1.isOk = q.fits (Table.find? service.records key) ∧
        ((next key).outcome service).2 =
          { service with records := q.recordsAfter service.records key }) : Comes act q key := by
  intro service
  rw [hact, outcome_enter_bind service hk]
  by_cases hf : service.failing.truthy = true
  · rw [if_pos hf, if_pos hf, hf]
    exact ⟨rfl, rfl⟩
  · rw [if_neg hf, if_neg hf, Bool.eq_false_iff.2 hf]
    exact h (service.called q.call q.pid)

theorem comes_isKnown (hk : pid.asKey = .ok key) :
    Comes (isKnown pid) ⟨.exists, pid, metadata⟩ key := by
  refine comes_of hk rfl fun service => ⟨rfl, ?_⟩
  rw [Inquiry.recordsAfter_of_effect rfl]
  rfl

theorem comes_metadata (hk : pid.asKey = .ok key) :
    Comes (RegistryService.metadata pid) ⟨.getMetadata, pid, metadata⟩ key := by
  refine comes_of hk rfl fun service => ?_
  rw [outcome_recordOf, Inquiry.recordsAfter_of_effect rfl]
  cases Table.find? service.records key <;> exact ⟨rfl, rfl⟩

theorem comes_delete (hk : pid.asKey = .ok key) :
    Comes (delete pid) ⟨.delete, pid, metadata⟩ key := by
  refine comes_of hk rfl fun service => ?_
  rw [outcome_bind, outcome_recordOf]
  cases hfind : Table.find? service.records key with
  | none => exact ⟨rfl, by rw [Inquiry.recordsAfter_of_effect (by rw [hfind]; rfl)]; rfl⟩
  | some record => exact ⟨rfl, rfl⟩

theorem comes_update (hk : pid.asKey = .ok key) :
    Comes (update pid metadata) ⟨.update, pid, metadata⟩ key := by
  refine comes_of hk rfl fun service => ?_
  rw [outcome_bind, outcome_recordOf]
  cases hfind : Table.find? service.records key with
  | none =>
    rw [Inquiry.recordsAfter_of_effect (by rw [hfind]; cases metadata <;> rfl)]
    cases metadata <;> exact ⟨rfl, rfl⟩
  | some record =>
    cases metadata with
    | error fault => exact ⟨rfl, by rw [Inquiry.recordsAfter_of_effect (by rw [hfind]; rfl)]; rfl⟩
    | ok changes =>
      rw [Inquiry.recordsAfter_of_some (Table.putAll record changes) (by rw [hfind]; rfl)]
      exact ⟨rfl, rfl⟩

theorem comes_reserve (hk : pid.asKey = .ok key) :
    Comes (reserve pid metadata) ⟨.reserve, pid, metadata⟩ key := by
  refine comes_of hk rfl fun service => ?_
  rw [outcome_bind_ok (outcome_get _)]
  cases hfind : Table.find? service.records key with
  | some record =>
    have hhas : Table.has service.records key = true := Table.has_iff_exists.2 ⟨_, hfind⟩
    rw [Inquiry.recordsAfter_of_effect (by rw [hfind]; cases metadata <;> rfl)]
    have hfits : Inquiry.fits ⟨.reserve, pid, metadata⟩ (some record) = false := by
      simp [Inquiry.fits]
    simp only [hhas]
    exact ⟨hfits.symm, rfl⟩
  | none =>
    have hhas : Table.has service.records key = false := by rw [Table.has, hfind]; rfl
    simp only [hhas, Bool.false_eq_true, if_false]
    cases metadata with
    | error fault =>
      rw [Inquiry.recordsAfter_of_effect (by rw [hfind]; rfl)]
      have hfits : Inquiry.fits ⟨.reserve, pid, .error fault⟩ none = false := by
        simp [Inquiry.fits, Except.isOk, Except.toBool]
      exact ⟨hfits.symm, rfl⟩
    | ok given =>
      rw [Inquiry.recordsAfter_of_some (reserved given) (by rw [hfind]; rfl)]
      cases pid <;> exact ⟨rfl, rfl⟩

theorem comes_publicize (hk : pid.asKey = .ok key) :
    Comes (publicize pid metadata) ⟨.publicize, pid, metadata⟩ key := by
  refine comes_of hk rfl fun service => ?_
  cases metadata with
  | error fault => exact ⟨rfl, rfl⟩
  | ok changes =>
    refine ⟨rfl, ?_⟩
    rw [Inquiry.recordsAfter_of_some _ rfl, ← Table.put_put_self service.records key
      ((Table.find? service.records key).getD [])]
    rfl

theorem Comes.map {α β : Type} {act : Use α} {q : Inquiry} (h : Comes act q key) (f : α → β) :
    Comes (f <$> act) q key := by
  intro service
  rw [outcome_map]
  refine ⟨?_, (h service).2⟩
  rw [← (h service).1]
  cases (act.outcome service).1 <;> rfl

/-- **A call for an identifier with a key comes to what is said of it.** -/
theorem comes_perform {q : Inquiry} (hk : q.pid.asKey = .ok key) : Comes q.perform q key := by
  obtain ⟨call, pid, metadata⟩ := q
  cases call with
  | «exists» => exact (comes_isKnown hk).map _
  | reserve => exact (comes_reserve hk).map _
  | getMetadata => exact (comes_metadata hk).map _
  | update => exact (comes_update hk).map _
  | publicize => exact (comes_publicize hk).map _
  | delete => exact (comes_delete hk).map _

/-- Whatever a service is asked, the call is noted before anything else. -/
theorem exists_enter_bind (q : Inquiry) :
    ∃ next : Key → Use Answer, q.perform = enter q.call q.pid >>= next := by
  obtain ⟨call, pid, metadata⟩ := q
  cases call with
  | «exists» => exact ⟨_, map_bind _ _ _⟩
  | reserve => exact ⟨_, map_bind _ _ _⟩
  | getMetadata => exact ⟨_, map_bind _ _ _⟩
  | update => exact ⟨_, map_bind _ _ _⟩
  | publicize => exact ⟨_, map_bind _ _ _⟩
  | delete => exact ⟨_, map_bind _ _ _⟩

end RegistryService

/-! ## Visits -/

/-- A call at a registry service. -/
structure Visit where
  inquiry : Inquiry
  service : RegistryService

namespace Visit

/-- The answer, and the service behind it. -/
def outcome (x : Visit) : Except Fault Answer × RegistryService :=
  x.inquiry.perform.outcome x.service

/-- The service behind a call. -/
def after (x : Visit) : RegistryService :=
  x.outcome.2

/-- Whether a call has come to what it is for. -/
def succeeds (x : Visit) : Bool :=
  x.outcome.1.isOk

/-- Whether a call has failed, and has changed the records all the same. -/
def leaves (x : Visit) : Bool :=
  !x.succeeds && decide (x.after.records ≠ x.service.records)

/-- The service with the call noted. -/
def noted (x : Visit) : RegistryService :=
  x.service.called x.inquiry.call x.inquiry.pid

/-- The record of a key at the service. -/
def record? (x : Visit) (key : Key) : Option Metadata :=
  Table.find? x.service.records key

/-- Whether a call is not refused outright. -/
def admitted (x : Visit) : Bool :=
  !x.service.failing.truthy

variable {x : Visit} {key : Key}

/-! ### What is behind a call -/

theorem succeeds_eq (hk : x.inquiry.pid.asKey = .ok key) :
    x.succeeds = (x.admitted && x.inquiry.fits (x.record? key)) :=
  (RegistryService.comes_perform hk x.service).1

theorem after_eq (hk : x.inquiry.pid.asKey = .ok key) :
    x.after = if x.admitted then
        { x.noted with records := x.inquiry.recordsAfter x.service.records key }
      else x.noted := by
  have h := (RegistryService.comes_perform hk x.service).2
  rw [after, outcome, h, admitted]
  cases x.service.failing.truthy <;> rfl

/-- A call for what cannot be a key fails, and is noted. -/
theorem outcome_of_error {fault : Fault} (hk : x.inquiry.pid.asKey = .error fault) :
    ∃ fault, x.outcome = (.error fault, x.noted) := by
  obtain ⟨next, hnext⟩ := RegistryService.exists_enter_bind x.inquiry
  rw [outcome, hnext]
  exact RegistryService.outcome_enter_bind_of_error x.service hk _ next

/-- **A call is noted, and changes nothing but the records besides.** -/
theorem exists_after_eq (x : Visit) : ∃ records, x.after = { x.noted with records := records } := by
  cases hk : x.inquiry.pid.asKey with
  | error fault =>
    obtain ⟨fault, h⟩ := outcome_of_error hk
    exact ⟨x.service.records, by rw [after, h]; rfl⟩
  | ok key =>
    rw [after_eq hk]
    split
    · exact ⟨_, rfl⟩
    · exact ⟨x.service.records, rfl⟩

theorem failing_after (x : Visit) : x.after.failing = x.service.failing := by
  obtain ⟨records, h⟩ := x.exists_after_eq
  rw [h]
  rfl

/-- **What a call makes of a record**: that of its own identifier is changed as the call has it, if
the call is admitted, and no other one. -/
theorem find?_after (x : Visit) (key : Key) :
    Table.find? x.after.records key =
      if x.inquiry.concerns key && x.admitted then x.inquiry.effect (x.record? key)
      else x.record? key := by
  cases hk : x.inquiry.pid.asKey with
  | error fault =>
    obtain ⟨fault, h⟩ := outcome_of_error hk
    rw [Inquiry.concerns_of_error hk, after, h]
    rfl
  | ok own =>
    rw [after_eq hk, Inquiry.concerns_of_asKey hk]
    cases x.admitted with
    | false => rw [if_neg Bool.false_ne_true, Bool.and_false]; rfl
    | true =>
      rw [if_pos rfl, Bool.and_true]
      show Table.find? (x.inquiry.recordsAfter x.service.records own) key = _
      rw [Inquiry.find?_recordsAfter]
      by_cases hown : (own == key) = true
      · rw [if_pos hown, if_pos hown, Table.find?_congr _ hown, record?]
      · rw [if_neg hown, if_neg hown, record?]

theorem succeeds_of_concerns (h : x.inquiry.concerns key = true) :
    x.succeeds = (x.admitted && x.inquiry.fits (x.record? key)) := by
  obtain ⟨own, hk, hown⟩ := Inquiry.exists_of_concerns h
  rw [succeeds_eq hk, record?, record?, Table.find?_congr _ hown]

/-- The records are as they were exactly if that of the identifier is. -/
theorem leaves_of_concerns (h : x.inquiry.concerns key = true) :
    x.leaves = (x.admitted && !x.inquiry.fits (x.record? key) &&
      decide (x.inquiry.effect (x.record? key) ≠ x.record? key)) := by
  obtain ⟨own, hk, hown⟩ := Inquiry.exists_of_concerns h
  have hrecord : x.record? own = x.record? key := Table.find?_congr _ hown
  rw [leaves, succeeds_eq hk, after_eq hk, ← hrecord]
  cases x.admitted with
  | false => simp [noted]
  | true =>
    rw [if_pos rfl, Bool.true_and, Bool.true_and]
    refine congrArg (!x.inquiry.fits (x.record? own) && ·) (decide_eq_decide.2 (not_congr ?_))
    refine ⟨fun hsame => ?_, Inquiry.recordsAfter_of_effect⟩
    have hfind := Inquiry.find?_recordsAfter x.inquiry x.service.records own own
    rw [if_pos (beq_self_eq_true own)] at hfind
    exact (hfind.symm.trans (congrArg (Table.find? · own) hsame))

theorem leaves_of_error {fault : Fault} (hk : x.inquiry.pid.asKey = .error fault) :
    x.leaves = false := by
  obtain ⟨fault, h⟩ := outcome_of_error hk
  simp [leaves, after, h, noted]

/-- Whether a call makes a record, and fails nevertheless: an identifier without a record is made
public with metadata that cannot be taken over, or is reserved though it is no text. -/
def Slips (x : Visit) : Prop :=
  x.admitted = true ∧ ∃ key, x.inquiry.pid.asKey = .ok key ∧ x.record? key = none ∧
    (x.inquiry.call = .publicize ∧ x.inquiry.metadata.isOk = false ∨
      x.inquiry.call = .reserve ∧ x.inquiry.metadata.isOk = true ∧ x.inquiry.pid.str? = none)

/-- **A call that fails has changed the records exactly if it slips.** -/
theorem leaves_iff (x : Visit) : x.leaves = true ↔ x.Slips := by
  cases hk : x.inquiry.pid.asKey with
  | error fault =>
    rw [leaves_of_error hk]
    refine iff_of_false Bool.false_ne_true fun ⟨_, key, hok, _⟩ => ?_
    rw [hk] at hok
    cases hok
  | ok key =>
    have hslips : x.Slips ↔ x.admitted = true ∧ x.record? key = none ∧
        (x.inquiry.call = .publicize ∧ x.inquiry.metadata.isOk = false ∨
          x.inquiry.call = .reserve ∧ x.inquiry.metadata.isOk = true ∧
            x.inquiry.pid.str? = none) := by
      simp [Slips, hk]
    have hown : x.inquiry.concerns key = true := by
      rw [Inquiry.concerns_of_asKey hk, beq_self_eq_true]
    rw [leaves_of_concerns hown, hslips, Bool.and_assoc, Bool.and_eq_true]
    refine and_congr_right fun _ => ?_
    exact Inquiry.slips_iff x.inquiry (x.record? key)

end Visit

end PersistentId
