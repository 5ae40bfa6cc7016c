import PersistentId.Proofs.Action
import PersistentId.Proofs.Table
import PersistentId.RegistryService

/-!
# What a registry service does

One equation for each call. All of them note the call first and are refused while the service is
failing (`outcome_enter_bind`); what they do otherwise depends on the record of the identifier.
-/

namespace PersistentId

open PersistentId.Action

/-! ## Keys of identifiers -/

/-- The key of an optional text. -/
def Key.ofText? : Option String → Key
  | some s => .str s
  | none => .null

theorem Value.asKey_ofText? (text : Option String) :
    (Value.ofText? text).asKey = .ok (.ofText? text) := by
  cases text <;> rfl

/-- Only the same text counts as one key with an optional text. -/
theorem Key.eq_of_beq_ofText? {text : Option String} {key : Key}
    (h : (Key.ofText? text == key) = true) : key = .ofText? text := by
  rw [beq_iff] at h
  have hnormal : (Key.ofText? text).normal = .ofText? text := by cases text <;> rfl
  rw [hnormal] at h
  cases key with
  | bool => cases text <;> cases h
  | float x =>
    rw [normal] at h
    cases text <;> split at h <;> cases h
  | _ => exact h.symm

namespace RegistryService

/-! ## Calls -/

/-- The service after one more call. -/
def called (service : RegistryService) (call : ServiceCall) (pid : Value) : RegistryService :=
  { service with calls := service.calls ++ [(call, pid)] }

@[simp]
theorem called_records (service : RegistryService) (call : ServiceCall) (pid : Value) :
    (service.called call pid).records = service.records := rfl

variable {pid : Value} {key : Key} (service : RegistryService)

/-- **A call is noted, and refused if the service is failing.** -/
theorem outcome_enter_bind {α : Type} (hk : pid.asKey = .ok key) (call : ServiceCall)
    (next : Key → Use α) :
    (enter call pid >>= next).outcome service =
      if service.failing.truthy then (.error (.serviceDown pid), service.called call pid)
      else (next key).outcome (service.called call pid) := by
  have henter : (enter call pid).outcome service =
      if service.failing.truthy then (.error (.serviceDown pid), service.called call pid)
      else (.ok key, service.called call pid) := by
    have hmodify : (modify fun service : RegistryService =>
        { service with calls := service.calls ++ [(call, pid)] } : Use PUnit).outcome service =
        (.ok ⟨⟩, service.called call pid) := rfl
    rw [enter, outcome_bind_ok hmodify, outcome_bind_ok (outcome_get _)]
    simp only [called, hk]
    split <;> rfl
  split
  · next hf => exact outcome_bind_error (by rw [henter, if_pos hf])
  · next hf => exact outcome_bind_ok (by rw [henter, if_neg hf])

theorem outcome_isKnown (hk : pid.asKey = .ok key) :
    (isKnown pid).outcome service =
      (if service.failing.truthy then .error (.serviceDown pid)
        else .ok (Table.has service.records key), service.called .exists pid) := by
  rw [isKnown, outcome_enter_bind service hk]
  split <;> rfl

theorem outcome_recordOf (key : Key) :
    (recordOf key).outcome service =
      ((Table.find? service.records key).elim
        (.error (refusal (.serviceUnknown (.ofKey key)))) .ok, service) := by
  rw [recordOf, outcome_bind_ok (outcome_get _)]
  cases Table.find? service.records key <;> rfl

theorem outcome_metadata (hk : pid.asKey = .ok key) :
    (metadata pid).outcome service =
      (if service.failing.truthy then .error (.serviceDown pid)
        else (Table.find? service.records key).elim
          (.error (refusal (.serviceUnknown (.ofKey key)))) .ok,
        service.called .getMetadata pid) := by
  rw [metadata, outcome_enter_bind service hk]
  split
  · rfl
  · rw [outcome_recordOf]
    rfl

/-! ## Changes -/

/-- The record that a reservation makes of metadata. -/
def reserved (given : Metadata) : Metadata :=
  if Table.has given statusKey then given else Table.put given statusKey (.ofText "reserved")

theorem outcome_reserve (hk : pid.asKey = .ok key) (given : Metadata) :
    (reserve pid (.ok given)).outcome service =
      if service.failing.truthy then (.error (.serviceDown pid), service.called .reserve pid)
      else if Table.has service.records key then
        (.error (refusal (.serviceConflict pid)), service.called .reserve pid)
      else
        (pid.asPiece.map fun text => service.fixedReply.getD (.str ("success: " ++ text)),
          { service.called .reserve pid with
            records := Table.put service.records key (reserved given) }) := by
  rw [reserve, outcome_enter_bind service hk]
  refine ite_congr rfl (fun _ => rfl) fun _ => ?_
  rw [outcome_bind_ok (outcome_get _)]
  cases hhas : Table.has service.records key with
  | true =>
    simp only [called_records, hhas]
    rfl
  | false =>
    simp only [called_records, hhas, Bool.false_eq_true, if_false]
    rw [outcome_bind_ok (outcome_ofExcept _ _)]
    cases pid.asPiece <;> rfl

/-- A reservation with metadata that cannot be copied changes no record. -/
theorem outcome_reserve_of_error (hk : pid.asKey = .ok key) (fault : Fault) :
    (reserve pid (.error fault)).outcome service =
      (.error (if service.failing.truthy then .serviceDown pid
        else if Table.has service.records key then refusal (.serviceConflict pid) else fault),
        service.called .reserve pid) := by
  rw [reserve, outcome_enter_bind service hk]
  split
  · rfl
  · rw [outcome_bind_ok (outcome_get _)]
    cases hhas : Table.has service.records key with
    | true =>
      simp only [called_records, hhas]
      rfl
    | false =>
      simp only [called_records, hhas]
      rfl

theorem outcome_update (hk : pid.asKey = .ok key) (changes : Metadata) :
    (update pid (.ok changes)).outcome service =
      if service.failing.truthy then (.error (.serviceDown pid), service.called .update pid)
      else match Table.find? service.records key with
        | none =>
          (.error (refusal (.serviceUnknown (.ofKey key))), service.called .update pid)
        | some record =>
          (.ok (), { service.called .update pid with
            records := Table.put service.records key (Table.putAll record changes) }) := by
  rw [update, outcome_enter_bind service hk]
  refine ite_congr rfl (fun _ => rfl) fun _ => ?_
  rw [outcome_bind, outcome_recordOf, called]
  cases Table.find? service.records key <;> rfl

/-- The record that making an identifier public makes of the one there. -/
def published (record : Option Metadata) (changes : Metadata) : Metadata :=
  Table.put (Table.putAll (record.getD []) changes) statusKey (.ofText "public")

theorem outcome_publicize (hk : pid.asKey = .ok key) (changes : Metadata) :
    (publicize pid (.ok changes)).outcome service =
      if service.failing.truthy then (.error (.serviceDown pid), service.called .publicize pid)
      else
        (.ok (), { service.called .publicize pid with
          records := Table.put service.records key
            (published (Table.find? service.records key) changes) }) := by
  rw [publicize, outcome_enter_bind service hk]
  refine ite_congr rfl (fun _ => rfl) fun _ => ?_
  -- the record that is there is put back before it is changed
  have hput := Table.put_put_self service.records key ((Table.find? service.records key).getD [])
    (published (Table.find? service.records key) changes)
  rw [← hput]
  rfl

theorem outcome_publicize_of_failing (hk : pid.asKey = .ok key)
    (hf : service.failing.truthy = true) (changes : Except Fault Metadata) :
    (publicize pid changes).outcome service =
      (.error (.serviceDown pid), service.called .publicize pid) := by
  rw [publicize, outcome_enter_bind service hk, if_pos hf]

/-- Making an identifier public with metadata that cannot be copied leaves an empty record if there
was none. -/
theorem outcome_publicize_of_error (hk : pid.asKey = .ok key)
    (hf : service.failing.truthy = false) (fault : Fault) :
    (publicize pid (.error fault)).outcome service =
      (.error fault, { service.called .publicize pid with
        records := Table.put service.records key
          ((Table.find? service.records key).getD []) }) := by
  rw [publicize, outcome_enter_bind service hk, if_neg (by rw [hf]; nofun)]
  rfl

theorem outcome_delete (hk : pid.asKey = .ok key) :
    (delete pid).outcome service =
      if service.failing.truthy then (.error (.serviceDown pid), service.called .delete pid)
      else match Table.find? service.records key with
        | none => (.error (refusal (.serviceUnknown (.ofKey key))), service.called .delete pid)
        | some _ =>
          (.ok (), { service.called .delete pid with
            records := Table.remove service.records key }) := by
  rw [delete, outcome_enter_bind service hk]
  refine ite_congr rfl (fun _ => rfl) fun _ => ?_
  rw [outcome_bind, outcome_recordOf, called]
  cases Table.find? service.records key <;> rfl

/-! ## Records -/

/-- What a record has that is entered for an identifier: an address, and a state. If the entry
registers the identifier, that is public, or reserved if there was no record; else it is the state
that the record had. -/
structure Entry (records : Table Key Metadata) (key : Key) (url : String) (registers : Bool)
    (record : Metadata) : Prop where
  address : Table.find? record targetKey = some (.ofText url)
  registered : registers = true → Table.find? record statusKey = some (.ofText "public") ∨
    Table.find? records key = none ∧ Table.find? record statusKey = some (.ofText "reserved")
  kept : registers = false → ∃ old, Table.find? records key = some old ∧
    Table.find? record statusKey = Table.find? old statusKey

variable {records : Table Key Metadata} {url : String} {changes : Metadata}

theorem statusKey_beq_targetKey : (statusKey == targetKey) = false := by
  simp [statusKey, targetKey]

/-- What is reserved is entered in the state that is given. -/
theorem entry_reserved (hnew : Table.has records key = false)
    (hs : Table.find? changes statusKey = some (.ofText "reserved"))
    (ht : Table.find? changes targetKey = some (.ofText url)) :
    Entry records key url true (reserved changes) := by
  have hgiven : reserved changes = changes := by
    rw [reserved, if_pos (Table.has_iff_exists.2 ⟨_, hs⟩)]
  rw [hgiven]
  exact ⟨ht, fun _ => .inr ⟨Option.not_isSome_iff_eq_none.1 (Bool.eq_false_iff.1 hnew), hs⟩, nofun⟩

/-- A record whose address is changed keeps its state. -/
theorem entry_updated {record : Metadata} (hrecord : Table.find? records key = some record)
    (url : String) :
    Entry records key url false (Table.putAll record [(targetKey, .ofText url)]) where
  address := Table.find?_put_self record targetKey _
  registered := nofun
  kept _ := ⟨record, hrecord,
    Table.find?_put_of_ne record _ (BEq.symm_false statusKey_beq_targetKey)⟩

/-- What is made public is entered as that. -/
theorem entry_published (hd : Table.Distinct changes)
    (ht : Table.find? changes targetKey = some (.ofText url)) (record : Option Metadata) :
    Entry records key url true (published record changes) where
  address := by
    rw [published, Table.find?_put_of_ne _ _ statusKey_beq_targetKey, Table.find?_putAll _ hd, ht]
    rfl
  registered _ := .inl (Table.find?_put_self _ _ _)
  kept := nofun

end RegistryService

end PersistentId
