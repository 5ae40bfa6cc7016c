import PersistentId.Proofs.Identifier
import PersistentId.Site

/-!
# Sites side by side

Two sites are `Beside` each other if they are the same but for the ledger of one local service and
their hosts, and if these are related in a given way. Actions on the other parts of a site then come
to the same on both and leave the relation as it is; an action on the ledger does what it does to
the relation (`lockstep_onLedger`).

A relation that ledgers keep while identifiers are generated is a `Bond`. The table `T` that such a
relation comes with is what both ledgers have on record.
-/

namespace PersistentId

open PersistentId.Action

/-! ## Related ledgers -/

/-- A relation between ledgers, each with its host, that have the same on record. -/
abbrev Relation :=
  Table String Value → Ledger × Host → Ledger × Host → Prop

/-- Related ledgers answer alike, and go on to be related. Giving out numbers may fail on one side
with a fault that is set aside. -/
structure Bond (L : Relation) (E : Fault → Prop) : Prop where
  note : ∀ {T ledger ledger' host host'} (entries : Journal), L T (ledger, host) (ledger', host') →
    L T (ledger, host.record entries) (ledger', host'.record entries)
  data? : ∀ {T x y}, L T x y → ∀ key, x.1.data? key = y.1.data? key
  ids : ∀ {T x y}, L T x y → x.1.ids = y.1.ids
  reserve : ∀ T {key data}, Ledger.isKey key = true → Ledger.isData data = true →
    Lockstep (fun _ => False) (Ledger.reserve key data) (L T)
      (fun _ x y => key ∉ Table.keys T ∧ L (T ++ [(key, data)]) x y) (L T)
  nextNumber : ∀ T (scope : String),
    Lockstep E (Ledger.nextNumber (.str scope)) (L T) (fun _ => L T) (L T)

theorem Bond.registered {L : Relation} {E : Fault → Prop} (b : Bond L E) {T : Table String Value}
    {x y : Ledger × Host} (h : L T x y) (key : String) :
    x.1.registered key = y.1.registered key := by
  rw [Ledger.registered, Ledger.registered, b.data? h]

/-! ## Related sites -/

/-- No protocol of an object and its owner has a blank in it. -/
structure DigitalObject.Tidy (obj : DigitalObject) : Prop where
  protocol : Text.unbroken obj.protocol.text = true
  owner : ∀ pid, obj.owner? = some (.pid pid) → Text.unbroken pid.protocol.text = true

/-- Two sites are the same but for the ledger of a local service and their hosts, which are
related. -/
structure Beside (L : Ledger × Host → Ledger × Host → Prop) (sid : ServiceId) (s t : Site) :
    Prop where
  objects : s.objects = t.objects
  registries : s.registries = t.registries
  sources : s.sources = t.sources
  rivals : (s.services.get sid).rivals = (t.services.get sid).rivals
  tidy : ∀ id, (s.objects.get id).Tidy
  linked : L ((s.services.get sid).ledger, s.host) ((t.services.get sid).ledger, t.host)

section

variable {L : Ledger × Host → Ledger × Host → Prop} {sid : ServiceId} {s t : Site}

theorem Beside.and {P : Prop} (h : Beside (fun x y => P ∧ L x y) sid s t) :
    P ∧ Beside L sid s t :=
  ⟨h.linked.1, h.objects, h.registries, h.sources, h.rivals, h.tidy, h.linked.2⟩

/-- Changing an object of both sites alike. -/
theorem Beside.change (h : Beside L sid s t) (id : ObjectId) {f : DigitalObject → DigitalObject}
    (hf : ∀ obj : DigitalObject, obj.Tidy → (f obj).Tidy) :
    Beside L sid { s with objects := s.objects.put id (f (s.objects.get id)) }
      { t with objects := t.objects.put id (f (t.objects.get id)) } := by
  refine ⟨by rw [h.objects], h.registries, h.sources, h.rivals, fun other => ?_, h.linked⟩
  by_cases he : other = id
  · subst he
    rw [Shelf.get_put_self]
    exact hf _ (h.tidy other)
  · rw [Shelf.get_put_of_ne _ _ he]
    exact h.tidy other

end

/-! ## Actions -/

/-- Two local services have the same rivals and related ledgers. -/
def Served (L : Ledger × Host → Ledger × Host → Prop) (x y : LocalService × Host) : Prop :=
  x.1.rivals = y.1.rivals ∧ L (x.1.ledger, x.2) (y.1.ledger, y.2)

section

variable {E : Fault → Prop} {sid : ServiceId} {α : Type}
  {L F : Ledger × Host → Ledger × Host → Prop} {Q : α → Ledger × Host → Ledger × Host → Prop}

theorem LocalService.lockstep_ledger {act : Ledger.Use α} (h : Lockstep E act L Q F) :
    Lockstep E (act.zoom (fun (service, host) => (service.ledger, host))
      fun (ledger, host) (service, _) => ({ service with ledger }, host) :
        Action (LocalService × Host) α) (Served L) (fun a => Served (Q a)) (Served F) :=
  Lockstep.zoom h (fun _ _ hxy => hxy.2) (fun _ _ _ _ _ hxy hq => ⟨hxy.1, hq⟩)
    fun _ _ _ _ hxy hf => ⟨hxy.1, hf⟩

/-- A reservation that goes to others leaves the ledgers as they are. -/
theorem LocalService.lockstep_reserve {key : String} {data : Value}
    {Q : Unit → Ledger × Host → Ledger × Host → Prop}
    (h : Lockstep E (Ledger.reserve key data) L Q L) :
    Lockstep E (LocalService.reserve key data) (Served L) (fun a => Served (Q a)) (Served L) := by
  rintro ⟨⟨ledger, rivals⟩, host⟩ ⟨⟨ledger', rivals'⟩, host'⟩ ⟨hr, hl⟩
  obtain rfl : rivals = rivals' := hr
  have hown := lockstep_ledger h ⟨⟨ledger, rivals⟩, host⟩ ⟨⟨ledger', rivals⟩, host'⟩ ⟨rfl, hl⟩
  unfold LocalService.reserve
  cases rivals with
  | none => exact hown
  | some rivals =>
    by_cases hc : rivals.contested = 0
    · simpa only [outcome_bind, outcome_get, afterLoss?, if_pos hc] using hown
    · simp only [outcome_bind, outcome_get, afterLoss?, if_neg hc, outcome_set, outcome_throw]
      exact .inr (.inl ⟨_, _, _, rfl, rfl, rfl, hl⟩)

namespace Site

theorem lockstep_onService {act : Action (LocalService × Host) α}
    (h : Lockstep E act (Served L) (fun a => Served (Q a)) (Served F)) :
    Lockstep E (onService sid act) (Beside L sid) (fun a => Beside (Q a) sid) (Beside F sid) := by
  refine Lockstep.zoom h (fun s t hst => ⟨hst.rivals, hst.linked⟩)
    (fun a s t x y hst hq => ?_) fun s t x y hst hf => ?_
  · exact ⟨hst.objects, hst.registries, hst.sources, by simpa using hq.1, hst.tidy,
      by simpa using hq.2⟩
  · exact ⟨hst.objects, hst.registries, hst.sources, by simpa using hf.1, hst.tidy,
      by simpa using hf.2⟩

/-- An action on the ledger of the local service does what it does to the relation. -/
theorem lockstep_onLedger {act : Ledger.Use α} (h : Lockstep E act L Q F) :
    Lockstep E (onLedger sid act) (Beside L sid) (fun a => Beside (Q a) sid) (Beside F sid) :=
  lockstep_onService (LocalService.lockstep_ledger h)

theorem lockstep_note {T : Table String Value} {L : Relation} {E' : Fault → Prop} (b : Bond L E')
    (level : Level) (source message : String) :
    Lockstep E (note level source message) (Beside (L T) sid) (fun _ => Beside (L T) sid)
      (Beside (L T) sid) := by
  intro s t hst
  exact .inl ⟨⟨⟩, _, _, rfl, rfl,
    hst.objects, hst.registries, hst.sources, hst.rivals, hst.tidy, b.note _ hst.linked⟩

/-- An identifier goes by its canonical form. -/
theorem lockstep_textOf_pid (pid : Identifier) :
    Lockstep E (textOf (.pid pid)) (Beside L sid) (fun _ => Beside L sid) (Beside L sid) :=
  fun s t hst => .inl ⟨pid.toString, s, t, rfl, rfl, hst⟩

theorem lockstep_change (id : ObjectId) {f : DigitalObject → DigitalObject}
    (hf : ∀ obj : DigitalObject, obj.Tidy → (f obj).Tidy) :
    Lockstep E (change id f) (Beside L sid) (fun _ => Beside L sid) (Beside L sid) :=
  Lockstep.modify fun _ _ h => h.change id hf

theorem lockstep_onRegistry (id : RegistryId) (act : RegistryService.Use α) :
    Lockstep E (onRegistry id act) (Beside L sid) (fun _ => Beside L sid) (Beside L sid) := by
  refine Lockstep.zoom (Lockstep.refl act) (fun s t hst => ?_) (fun _ s t x y hst hxy => ?_)
    fun s t x y hst hxy => ?_
  · rw [hst.registries]
  · exact ⟨hst.objects, by rw [hxy, hst.registries], hst.sources, hst.rivals, hst.tidy, hst.linked⟩
  · exact ⟨hst.objects, by rw [hxy, hst.registries], hst.sources, hst.rivals, hst.tidy, hst.linked⟩

theorem lockstep_draw (source : SourceId) (bound : Nat) :
    Lockstep E (draw source bound) (Beside L sid) (fun _ => Beside L sid) (Beside L sid) := by
  intro s t hst
  refine .inl ?_
  simp only [draw, outcome_bind, outcome_get, ← hst.sources]
  cases s.sources.get source with
  | nil => exact ⟨0, s, t, rfl, rfl, hst⟩
  | cons n rest =>
    exact ⟨_, _, _, rfl, rfl, hst.objects, hst.registries, rfl, hst.rivals, hst.tidy, hst.linked⟩

end Site

end

end PersistentId
