import PersistentId.Proofs.Turn

/-!
# The life cycle of registered identifiers

A `Lifetime` is what a registry service goes through from the time it is put up empty: operations of
any providers, each on a site of its own, and switches between failing and not. Whatever comes in
whatever order, the records are in order (`RegistryService.Sound`) as long as the objects have valid
identifiers, and each operation keeps to its own record (`Turn.Respects`). Both are
`Lifetime.sound_and_respects`; it rests on `Turn.effect`, which says what one operation does.

An operation that slips (`Turn.slips`) is the exception. It fails, and leaves an empty record, which
has no state until the identifier is made public, and no address until one is given
(`Lifetime.not_forall_unchanged_and_in_state`).
-/

namespace PersistentId

open RegistryService

/-- What a registry service may have gone through, the latest operation first. At any point it may
begin to fail or stop to. -/
inductive Lifetime (rid : RegistryId) : List Turn → RegistryService → Prop
  | start {service : RegistryService} (hrecords : service.records = [])
      (hcalls : service.calls = []) (hreply : service.fixedReply = none) : Lifetime rid [] service
  | switch {turns : List Turn} {service : RegistryService} (h : Lifetime rid turns service)
      (failing : Value) : Lifetime rid turns { service with failing }
  | turn {turns : List Turn} {service : RegistryService} (h : Lifetime rid turns service) (x : Turn)
      (hu : x.Uses rid) (hservice : x.site.registries.get rid = service) :
      Lifetime rid (x :: turns) (x.after.registries.get rid)

namespace Turn

/-- Whether an operation is one on the given identifier. -/
def concerns (x : Turn) (key : String) : Bool :=
  x.pidText?.toOption == some (some key)

/-- Whether an operation has registered an identifier or has slipped instead, if it has done either.
-/
def registered? (x : Turn) (rid : RegistryId) (key : String) : Option Bool :=
  if !x.concerns key then none
  else if x.slips (x.site.registries.get rid) then some false
  else if x.succeeds && x.duty.registers then some true
  else none

/-- The address that an operation has given to an identifier, or none if it has slipped. -/
def address? (x : Turn) (rid : RegistryId) (key : String) : Option (Option String) :=
  if !x.concerns key then none
  else if x.slips (x.site.registries.get rid) then some none
  else if x.succeeds && x.duty.enters then
    (x.provider.targetUrl (x.after.objects.get x.object)).toOption.map some
  else none

/-- What an operation makes of the records of a service, whatever has happened before. -/
structure Respects (x : Turn) (rid : RegistryId) : Prop where
  /-- What is public stays so. -/
  remainsPublic : ∀ key old record,
    Table.find? (x.site.registries.get rid).records key = some old →
    Table.find? old statusKey = some (.ofText "public") →
    Table.find? (x.after.registries.get rid).records key = some record →
    Table.find? record statusKey = some (.ofText "public")
  /-- Only a deletion removes a record. -/
  removed : ∀ key, Table.has (x.site.registries.get rid).records key = true →
    Table.has (x.after.registries.get rid).records key = false → x.duty = .delete
  /-- An operation that fails, or answers that it has not succeeded, changes no record unless it
  slips. -/
  unchanged : x.succeeds = false → x.slips (x.site.registries.get rid) = false →
    (x.after.registries.get rid).records = (x.site.registries.get rid).records
  /-- An operation that slips fails, and leaves an empty record where there was none. -/
  slipped : x.slips (x.site.registries.get rid) = true →
    (∃ fault, x.answer = .error fault) ∧ ∃ text, x.pidText? = .ok (some text) ∧
      Table.find? (x.site.registries.get rid).records (.str text) = none ∧
      (x.after.registries.get rid).records =
        Table.put (x.site.registries.get rid).records (.str text) []
  /-- No record changes but that of the object's identifier. -/
  own : ∀ key, Table.find? (x.after.registries.get rid).records key ≠
      Table.find? (x.site.registries.get rid).records key →
    ∃ text, x.pidText? = .ok (some text) ∧ key = .str text
  /-- Whether an identifier is registered is answered from the records, unless the service fails. -/
  registered : x.duty = .registered → ∀ text, x.pidText? = .ok (some text) →
    x.answer = if (x.site.registries.get rid).failing.truthy then .error (.serviceDown (.str text))
      else .ok (.ofBool (Table.has (x.site.registries.get rid).records (.str text)))

end Turn

namespace RegistryService

/-- A record is reserved or public. -/
def InState (record : Metadata) : Prop :=
  Table.find? record statusKey = some (.ofText "reserved") ∨
    Table.find? record statusKey = some (.ofText "public")

/-- The record of an identifier is as the latest operations on it have left it. -/
structure Current (rid : RegistryId) (turns : List Turn) (key : String) (record : Metadata) :
    Prop where
  /-- The record is reserved or public, unless an operation has slipped and the identifier has not
  been registered since. -/
  state : turns.findSome? (·.registered? rid key) = some true ∧ InState record ∨
    turns.findSome? (·.registered? rid key) = some false ∧ Table.find? record statusKey = none
  /-- The record has the address that was given last, unless an operation has slipped and none has
  been given since. -/
  address : ∃ url?, turns.findSome? (·.address? rid key) = some url? ∧
    Table.find? record targetKey = url?.map .ofText

/-- The records of a service are in order. -/
def Sound (service : RegistryService) (rid : RegistryId) (turns : List Turn) : Prop :=
  ∀ key record, Table.find? service.records key = some record →
    ∃ text, key = .str text ∧ Current rid turns text record

end RegistryService

namespace Turn

variable {x : Turn} {rid : RegistryId} {turns : List Turn} {text : Option String}
  {service : RegistryService} {records : Table Key Metadata}

/-! ## One operation -/

/-- An operation says nothing of an identifier. -/
structure Silent (x : Turn) (rid : RegistryId) (key : String) : Prop where
  registered : x.registered? rid key = none
  address : x.address? rid key = none

theorem registers_of_enters {duty : Duty} (h : duty.registers = true) : duty.enters = true := by
  cases duty <;> first | rfl | cases h

theorem silent_of_changes (h : x.changes = false)
    (hs : x.slips (x.site.registries.get rid) = false) (key : String) : x.Silent rid key := by
  have hno (b : Bool) (hb : b = true → x.duty.enters = true) : (x.succeeds && b) = false := by
    rw [changes, Bool.and_eq_false_iff, Bool.or_eq_false_iff] at h
    rcases h with h | ⟨h, -⟩
    · rw [h, Bool.false_and]
    · cases b with
      | false => rw [Bool.and_false]
      | true =>
        rw [hb rfl] at h
        cases h
  constructor
  · rw [registered?, hs, hno _ registers_of_enters]
    simp
  · rw [address?, hs, hno _ id]
    simp

theorem silent_of_ne {key : String} (htext : x.pidText? = .ok text) (hne : text ≠ some key) :
    x.Silent rid key := by
  have hother : x.concerns key = false := by simp [concerns, htext, Except.toOption, hne]
  exact ⟨by simp [registered?, hother], by simp [address?, hother]⟩

/-- The records of other identifiers stay as they are. -/
theorem Makes.find?_of_ne (h : x.Makes text service records) {key : Key}
    (hne : (Key.ofText? text == key) = false) :
    Table.find? records key = Table.find? service.records key := by
  cases h with
  | same => rfl
  | entry => exact Table.find?_put_of_ne _ _ hne
  | removal => exact Table.find?_remove_of_ne _ hne
  | slip => exact Table.find?_put_of_ne _ _ hne

theorem Makes.records_eq (h : x.Makes text service records) (htext : text ≠ none)
    (hreply : service.fixedReply = none) (hok : x.succeeds = false)
    (hs : x.slips service = false) : records = service.records := by
  cases h with
  | same => rfl
  | entry _ _ hsucceeds => rw [hsucceeds htext hreply] at hok; cases hok
  | removal _ hsucceeds => rw [hsucceeds] at hok; cases hok
  | slip hslips => rw [hslips] at hs; cases hs

/-- An operation that slips finds no record. -/
theorem find?_of_slips (hs : x.slips service = true) (htext : x.pidText? = .ok text) :
    Table.find? service.records (.ofText? text) = none := by
  have hnew : Table.has service.records (.ofText? text) = false := by
    simp only [slips, Bool.and_eq_true, htext, Except.toOption, Option.any_some,
      Bool.not_eq_true'] at hs
    exact hs.2
  rwa [Table.has, Option.isSome_eq_false_iff, Option.isNone_iff_eq_none] at hnew

theorem Makes.of_slips (h : x.Makes text service records) (hs : x.slips service = true) :
    (∃ fault, x.answer = .error fault) ∧
      records = Table.put service.records (.ofText? text) [] := by
  cases h with
  | same _ hno => rw [hs] at hno; cases hno
  | entry _ hno => rw [hs] at hno; cases hno
  | removal hd => rw [slips_eq_false (by simp [hd])] at hs; cases hs
  | slip _ hfault => exact ⟨hfault, rfl⟩

end Turn

namespace RegistryService

variable {x : Turn} {rid : RegistryId} {turns : List Turn} {key : String} {record : Metadata}

/-- A record that an operation does not concern stays in order. -/
theorem Current.cons (h : Current rid turns key record) (hx : x.Silent rid key) :
    Current rid (x :: turns) key record where
  state := by simpa only [List.findSome?_cons, hx.registered] using h.state
  address := by simpa only [List.findSome?_cons, hx.address] using h.address

/-- A record that is entered for the object of an operation is in order. -/
theorem Current.of_entry {url : String} {records : Table Key Metadata}
    (h : Entry records (.str key) url x.duty.registers record)
    (hrecords : ∀ old, Table.find? records (.str key) = some old → Current rid turns key old)
    (hr : x.registered? rid key = if x.duty.registers then some true else none)
    (ha : x.address? rid key = some (some url)) : Current rid (x :: turns) key record where
  state := by
    rw [List.findSome?_cons, hr]
    cases hd : x.duty.registers with
    | true => exact .inl ⟨rfl, (h.registered hd).elim .inr fun hreserved => .inl hreserved.2⟩
    | false =>
      obtain ⟨old, hold, hstatus⟩ := h.kept hd
      simpa only [InState, hstatus, Bool.false_eq_true, if_false] using (hrecords old hold).state
  address := ⟨some url, by rw [List.findSome?_cons, ha], h.address⟩

/-- The record that an operation leaves that slips is in order. -/
theorem Current.of_slip (hr : x.registered? rid key = some false)
    (ha : x.address? rid key = some none) : Current rid (x :: turns) key [] where
  state := .inr ⟨by rw [List.findSome?_cons, hr], rfl⟩
  address := ⟨none, by rw [List.findSome?_cons, ha], rfl⟩

/-- **An operation on a valid identifier keeps the records in order.** -/
theorem Sound.turn (h : (x.site.registries.get rid).Sound rid turns) (hu : x.Uses rid)
    (hvalid : x.Valid) (hreply : (x.site.registries.get rid).fixedReply = none) :
    (x.after.registries.get rid).Sound rid (x :: turns) := by
  intro key record hfind
  have hkept (hfind : Table.find? (x.site.registries.get rid).records key = some record)
      (hsilent : ∀ text, key = .str text → x.Silent rid text) :
      ∃ text, key = .str text ∧ Current rid (x :: turns) text record := by
    obtain ⟨text, hkey, hcurrent⟩ := h key record hfind
    exact ⟨text, hkey, hcurrent.cons (hsilent text hkey)⟩
  cases Turn.effect hu with
  | looks pids _ _ hchanges hslips hafter =>
    rw [hafter] at hfind
    exact hkept hfind fun text _ => Turn.silent_of_changes hchanges hslips text
  | asks pids _ _ text records htext hsome hmakes hafter =>
    obtain ⟨own, rfl⟩ := Option.ne_none_iff_exists'.1 (hsome hvalid)
    have hconcerns : x.concerns own = true := by simp [Turn.concerns, htext, Except.toOption]
    rw [hafter] at hfind
    replace hfind : Table.find? records key = some record := hfind
    cases hkey : Key.ofText? (some own) == key with
    | false =>
      rw [hmakes.find?_of_ne hkey] at hfind
      refine hkept hfind fun text htext' => Turn.silent_of_ne htext ?_
      rintro ⟨⟩
      rw [htext', Key.ofText?] at hkey
      simp at hkey
    | true =>
      obtain rfl := Key.eq_of_beq_ofText? hkey
      cases hmakes with
      | same hchanges hslips =>
        exact hkept hfind fun text _ => Turn.silent_of_changes hchanges hslips text
      | removal =>
        rw [Table.find?_remove_self] at hfind
        cases hfind
      | entry hd hslips hok hurl hentry =>
        rw [Table.find?_put_self] at hfind
        cases hfind
        have hsucceeds := hok (by simp) hreply
        refine ⟨own, rfl, .of_entry hentry (fun old hold => ?_) ?_ ?_⟩
        · obtain ⟨text, hkey, hcurrent⟩ := h _ old hold
          cases hkey
          exact hcurrent
        · simp [Turn.registered?, hconcerns, hslips, hsucceeds]
        · simp [Turn.address?, hconcerns, hslips, hsucceeds, hd, hurl, Except.toOption]
      | slip hslips =>
        rw [Table.find?_put_self] at hfind
        cases hfind
        exact ⟨own, rfl, .of_slip (by simp [Turn.registered?, hconcerns, hslips])
          (by simp [Turn.address?, hconcerns, hslips])⟩

end RegistryService

namespace Turn

variable {x : Turn} {rid : RegistryId}

/-- What is public stays so, whatever is made of the records. -/
theorem Makes.remainsPublic {text : Option String} {service : RegistryService}
    {records : Table Key Metadata} (h : x.Makes text service records)
    (htext : x.pidText? = .ok text) {key : Key} {old record : Metadata}
    (hold : Table.find? service.records key = some old)
    (hpublic : Table.find? old statusKey = some (.ofText "public"))
    (hfind : Table.find? records key = some record) :
    Table.find? record statusKey = some (.ofText "public") := by
  cases hkey : Key.ofText? text == key with
  | false =>
    rw [h.find?_of_ne hkey, hold] at hfind
    cases hfind
    exact hpublic
  | true =>
    obtain rfl := Key.eq_of_beq_ofText? hkey
    cases h with
    | same =>
      rw [hold] at hfind
      cases hfind
      exact hpublic
    | removal =>
      rw [Table.find?_remove_self] at hfind
      cases hfind
    | slip hs =>
      rw [find?_of_slips hs htext] at hold
      cases hold
    | entry _ _ _ _ hentry =>
      rw [Table.find?_put_self] at hfind
      cases hfind
      cases hd : x.duty.registers with
      | true =>
        rcases hentry.registered hd with hstatus | ⟨hnew, -⟩
        · exact hstatus
        · rw [hnew] at hold
          cases hold
      | false =>
        obtain ⟨other, hother, hstatus⟩ := hentry.kept hd
        rw [hold] at hother
        cases hother
        rw [hstatus, hpublic]

/-- A record goes only by being removed. -/
theorem Makes.duty_eq_delete {text : Option String} {service : RegistryService}
    {records : Table Key Metadata} (h : x.Makes text service records) {key : Key}
    (hold : Table.has service.records key = true) (hgone : Table.has records key = false) :
    x.duty = .delete := by
  have hput (record : Metadata)
      (hgone : Table.has (Table.put service.records (.ofText? text) record) key = false) :
      x.duty = .delete := by
    rw [Table.has_put, hold, Bool.true_or] at hgone
    cases hgone
  cases h with
  | same =>
    rw [hold] at hgone
    cases hgone
  | removal hd => exact hd
  | entry => exact hput _ hgone
  | slip => exact hput _ hgone

/-- **An operation on a valid identifier keeps to its own record.** -/
theorem respects (hu : x.Uses rid) (hvalid : x.Valid)
    (hreply : (x.site.registries.get rid).fixedReply = none) : x.Respects rid := by
  cases effect hu with
  | looks pids _ _ hchanges hslips hafter =>
    have hrecords : (x.after.registries.get rid).records = (x.site.registries.get rid).records := by
      rw [hafter]
      rfl
    refine ⟨?_, ?_, fun _ _ => hrecords, fun hs => ?_, fun key hne => absurd (by rw [hrecords]) hne,
      fun hd text htext => answer_registered hu hd htext⟩
    · intro key old record hold hpublic hfind
      rw [hrecords, hold] at hfind
      cases hfind
      exact hpublic
    · intro key hold hgone
      rw [hrecords, hold] at hgone
      cases hgone
    · rw [hslips] at hs
      cases hs
  | asks pids _ _ text records htext hsome hmakes hafter =>
    obtain ⟨own, rfl⟩ := Option.ne_none_iff_exists'.1 (hsome hvalid)
    have hrecords : (x.after.registries.get rid).records = records := by rw [hafter]
    refine ⟨?_, ?_, ?_, ?_, ?_, fun hd text htext => answer_registered hu hd htext⟩ <;>
      simp only [hrecords]
    · exact fun key old record hold hpublic hfind => hmakes.remainsPublic htext hold hpublic hfind
    · exact fun key hold hgone => hmakes.duty_eq_delete hold hgone
    · exact hmakes.records_eq (by simp) hreply
    · intro hs
      obtain ⟨hfault, hput⟩ := hmakes.of_slips hs
      exact ⟨hfault, own, htext, find?_of_slips hs htext, hput⟩
    · intro key hne
      refine ⟨own, htext, ?_⟩
      by_contra hkey
      refine hne (hmakes.find?_of_ne (Bool.eq_false_iff.2 fun h => hkey ?_))
      exact Key.eq_of_beq_ofText? h

end Turn

/-! ## Lifetimes -/

namespace Lifetime

variable {rid : RegistryId} {turns : List Turn} {service : RegistryService}

/-- No operation changes what the service answers to reservations. -/
theorem fixedReply (h : Lifetime rid turns service) : service.fixedReply = none := by
  induction h with
  | start _ _ hreply => exact hreply
  | switch _ _ ih => exact ih
  | turn _ x hu hservice ih =>
    subst hservice
    cases Turn.effect hu with
    | looks _ _ _ _ _ hafter => rw [hafter]; exact ih
    | asks _ _ _ _ _ _ _ _ hafter => rw [hafter]; exact ih

theorem sound_of_valid (h : Lifetime rid turns service) (hvalid : ∀ x ∈ turns, x.Valid) :
    service.Sound rid turns := by
  induction h with
  | start hrecords =>
    intro key record hfind
    rw [hrecords] at hfind
    cases hfind
  | switch _ _ ih => exact ih hvalid
  | turn h x hu hservice ih =>
    subst hservice
    obtain ⟨hx, hrest⟩ := List.forall_mem_cons.1 hvalid
    exact (ih hrest).turn hu hx h.fixedReply

/-- **The records of a registry service are in order whatever it has gone through**, and whatever
comes next keeps to its own record. -/
theorem sound_and_respects (h : Lifetime rid turns service) (hvalid : ∀ x ∈ turns, x.Valid) :
    service.Sound rid turns ∧ ∀ x : Turn, x.Uses rid → x.Valid →
      x.site.registries.get rid = service → x.Respects rid := by
  refine ⟨h.sound_of_valid hvalid, fun x hu hx hservice => Turn.respects hu hx ?_⟩
  rw [hservice]
  exact h.fixedReply

end Lifetime

/-! ## An archive -/

/-- A provider of Handles. -/
def registrar : Provider where
  kind := .handle
  authority := .str "20.500"
  minter := .random (.str "reeeeee") 594823321 (.bool true) 0
  client := .registry 0
  endpoint? := some (.str "https://registry.example.com/")

/-- A site with a dataset that has a Handle and one that has none. -/
def archive : Site where
  objects := (Shelf.put {} 0
    { kind := .dataset, protocol := .str "hdl", authority := .str "20.500",
      localPart := .str "ABC" }).put 1 { kind := .dataset }

/-- What the provider does in the archive, the registry service being as it is left by another
operation. -/
def archiving (duty : Duty) (id : ObjectId) (before : Option Turn) : Turn where
  provider := registrar
  duty := duty
  object := id
  site := { archive with registries := (before.map (·.after.registries)).getD {} }

theorem archiving_uses (duty : Duty) (id : ObjectId) (before : Option Turn) :
    (archiving duty id before).Uses 0 :=
  ⟨rfl, rfl⟩

theorem archiving_registry (duty : Duty) (id : ObjectId) (x : Turn) :
    (archiving duty id x).site.registries.get 0 = x.after.registries.get 0 := rfl

theorem archiving_valid (duty : Duty) (before : Option Turn) :
    (archiving duty 0 before).Valid :=
  .inr ⟨_, rfl⟩

/-- The first dataset is registered and the other one, which gets an identifier, made public. Then
the first one is removed. -/
theorem Lifetime.sound_and_respects_archive :
    ∃ registering publishing removing : Turn, ∃ service,
      Lifetime 0 [publishing, registering] service ∧ service.records.length = 2 ∧
      service.Sound 0 [publishing, registering] ∧ removing.Respects 0 ∧
      (removing.after.registries.get 0).records.length = 1 := by
  have hstart : Lifetime 0 [] {} := .start rfl rfl rfl
  have hregistering := hstart.turn (archiving .create 0 none) (archiving_uses _ _ _) rfl
  have hpublishing := hregistering.turn (archiving .publicize 1 (archiving .create 0 none))
    (archiving_uses _ _ _) (archiving_registry _ _ _)
  obtain ⟨hsound, hrespects⟩ := hpublishing.sound_and_respects (by
    simp only [List.forall_mem_cons]
    exact ⟨.inl rfl, archiving_valid _ _, by simp⟩)
  exact ⟨_, _, _, _, hpublishing, by decide +kernel, hsound,
    hrespects (archiving .delete 0 (some (archiving .publicize 1 (archiving .create 0 none))))
      (archiving_uses _ _ _) (archiving_valid _ _) (archiving_registry _ _ _), by decide +kernel⟩

/-- A dataset is made public whose title is not a text but the identifier itself. -/
def titling : Turn where
  provider := registrar
  duty := .publicize
  object := 0
  site :=
    { objects := Shelf.put {} 0
        { kind := .dataset, protocol := .str "hdl", authority := .str "20.500",
          localPart := .str "ABC",
          title := .pid
            { protocol := .str "hdl", authority := "20.500", localPart := "ABC",
              urlStart := .str "https://hdl.handle.net/" } } }

/-- What is done with an object that has a valid identifier may fail and leave a record all the
same, and one that has no state. -/
theorem Lifetime.not_forall_unchanged_and_in_state :
    ¬ ∀ (x : Turn) (rid : RegistryId), Lifetime rid [] (x.site.registries.get rid) → x.Uses rid →
      x.Valid →
        (x.succeeds = false →
          (x.after.registries.get rid).records = (x.site.registries.get rid).records) ∧
        ∀ key record, Table.find? (x.after.registries.get rid).records key = some record →
          InState record := by
  intro h
  have hkept := (h titling 0 (.start rfl rfl rfl) ⟨rfl, rfl⟩ (.inr ⟨_, rfl⟩)).1
    (by decide +kernel)
  revert hkept
  decide +kernel

end PersistentId
