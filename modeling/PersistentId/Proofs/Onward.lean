import PersistentId.Proofs.Identifier
import PersistentId.Proofs.Ledger.Growth
import PersistentId.Proofs.RegistryService
import PersistentId.Site

/-!
# How sites go on

A site goes `Site.Onward` if its objects keep what describes them, what is in use in a local service
stays so, and its registry services have at most been asked whether they know some identifiers. The
actions on parts of a site that the generation of identifiers is made of keep to that.
-/

namespace PersistentId

open PersistentId.Action

/-! ## Local services -/

namespace LocalService

variable {service : LocalService} {key : String}

theorem isFree_eq_false_iff : service.isFree key = false ↔
    service.rivals.any (·.crowded) = true ∨ service.ledger.registered key = true := by
  rw [isFree, Bool.and_eq_false_iff, Bool.not_eq_false', Bool.not_eq_false']

theorem isFree_of_afterLoss? {service' : LocalService} (h : service.afterLoss? = some service') :
    service'.isFree key = service.isFree key := by
  unfold afterLoss? at h
  split at h
  · next rivals hrivals =>
    split at h
    · cases h
    · cases h
      simp [isFree, hrivals]
  · cases h

/-- What is in use stays so if the ledger keeps it on record. -/
theorem keeps_ledger {α : Type} {act : Ledger.Use α}
    (h : Keeps act fun x => x.1.registered key = true) :
    Keeps (act.zoom (fun (service, host) => (service.ledger, host))
      fun (ledger, host) (service, _) => ({ service with ledger }, host) :
        Action (LocalService × Host) α) fun x => x.1.isFree key = false := by
  refine Ends.zoom fun t ht => ?_
  rcases isFree_eq_false_iff.1 ht with hcrowded | hregistered
  · have hall (x : Ledger × Host) : LocalService.isFree { t.1 with ledger := x.1 } key = false :=
      isFree_eq_false_iff.2 (.inl hcrowded)
    intro x _
    rcases act.outcome x with ⟨fault | a, x⟩ <;> exact hall x
  · exact h.weaken (fun x hx => hx ▸ hregistered)
      (fun _ x hx => isFree_eq_false_iff.2 (.inr hx)) fun _ x hx => isFree_eq_false_iff.2 (.inr hx)

theorem keeps_reserve (other : String) (data : Value) :
    Keeps (reserve other data) fun x => x.1.isFree key = false := by
  unfold reserve
  refine Ends.get_bind fun x hx => ?_
  dsimp only
  split
  · next service hloss =>
    refine Ends.bind (Q := fun _ x => x.1.isFree key = false) (fun y _ => ?_) fun _ =>
      Ends.throw fun _ h => h
    exact (isFree_of_afterLoss? hloss).trans hx
  · exact (keeps_ledger Ledger.keeps_reserve).mono fun y hy => hy ▸ hx

/-- What has been reserved is in use. -/
theorem isFree_of_reserve {data : Value} {host : Host} {x : LocalService × Host}
    (h : (reserve key data).outcome (service, host) = (.ok ⟨⟩, x)) : x.1.isFree key = false := by
  obtain ⟨_, _, hget, h⟩ := exists_of_outcome_bind h
  cases hget
  dsimp only at h
  split at h
  · obtain ⟨_, _, _, h⟩ := exists_of_outcome_bind h
    cases h
  · rw [outcome_zoom] at h
    obtain ⟨hok, rfl⟩ := Prod.mk.inj h
    refine isFree_eq_false_iff.2 (.inr ?_)
    exact (Ledger.registered_reserve (Prod.ext hok rfl)).2 (.inl rfl)

end LocalService

/-! ## Sites -/

/-- A registry service that has been asked whether it knows some identifiers. -/
def RegistryService.asked (service : RegistryService) (pids : List Identifier) :
    RegistryService :=
  { service with calls := service.calls ++ pids.map fun pid => (.exists, .str pid.toString) }

theorem RegistryService.asked_nil (service : RegistryService) : service.asked [] = service := by
  simp [asked]

/-- How the generation of identifiers may change a site. -/
structure Site.Onward (s t : Site) : Prop where
  inUse : ∀ sid key, (s.services.get sid).isFree key = false →
    (t.services.get sid).isFree key = false
  asked : ∀ rid, ∃ pids : List Identifier, (∀ pid ∈ pids, pid.Whole) ∧
    t.registries.get rid = (s.registries.get rid).asked pids

namespace Site

variable {s t u : Site} {sid : ServiceId} {rid : RegistryId}

theorem Onward.refl (s : Site) : s.Onward s where
  inUse _ _ h := h
  asked rid := ⟨[], by simp, (RegistryService.asked_nil _).symm⟩

theorem Onward.trans (h : s.Onward t) (h' : t.Onward u) : s.Onward u where
  inUse sid key hfree := h'.inUse sid key (h.inUse sid key hfree)
  asked rid := by
    obtain ⟨pids, hpids, heq⟩ := h.asked rid
    obtain ⟨more, hmore, heq'⟩ := h'.asked rid
    refine ⟨pids ++ more, fun pid hpid => ?_, by simp [heq', heq, RegistryService.asked]⟩
    exact (List.mem_append.1 hpid).elim (hpids pid) (hmore pid)

/-- What was not in use later was not in use before. -/
theorem Onward.isFree (h : s.Onward t) {key : String}
    (hfree : (t.services.get sid).isFree key = true) : (s.services.get sid).isFree key = true := by
  by_contra hne
  rw [h.inUse sid key (Bool.eq_false_iff.2 hne)] at hfree
  cases hfree

theorem Onward.records (h : s.Onward t) (rid : RegistryId) :
    (t.registries.get rid).records = (s.registries.get rid).records := by
  obtain ⟨pids, -, heq⟩ := h.asked rid
  rw [heq]
  rfl

theorem Onward.failing (h : s.Onward t) (rid : RegistryId) :
    (t.registries.get rid).failing = (s.registries.get rid).failing := by
  obtain ⟨pids, -, heq⟩ := h.asked rid
  rw [heq]
  rfl

/-- Nothing has changed of what matters. -/
theorem Onward.of_eq (hs : t.services = s.services) (hr : t.registries = s.registries) :
    s.Onward t where
  inUse sid key h := by rwa [hs]
  asked rid := ⟨[], by simp, by rw [hr, RegistryService.asked_nil]⟩

/-- Having asked a registry service whether it knows an identifier. -/
theorem Onward.ask (s : Site) (rid : RegistryId) {pid : Identifier} (h : pid.Whole) :
    s.Onward
      { s with registries := s.registries.put rid ((s.registries.get rid).asked [pid]) } where
  inUse _ _ h := h
  asked other := by
    by_cases he : other = rid
    · subst he
      exact ⟨[pid], by simpa using h, by rw [Shelf.get_put_self]⟩
    · exact ⟨[], by simp, by rw [Shelf.get_put_of_ne _ _ he, RegistryService.asked_nil]⟩

/-! ## Actions on parts of a site -/

variable {α : Type}

theorem keeps_onHost (act : Action Host α) : Keeps (onHost act) s.Onward :=
  Ends.zoom fun t ht host _ => by
    rcases act.outcome host with ⟨fault | a, host⟩ <;>
    exact ht.trans (.of_eq rfl rfl)

theorem keeps_note (level : Level) (source message : String) :
    Keeps (note level source message) s.Onward :=
  keeps_onHost _

theorem keeps_onService {act : Action (LocalService × Host) α}
    (h : ∀ key, Keeps act fun x => x.1.isFree key = false) :
    Keeps (onService sid act) s.Onward := by
  refine Ends.zoom fun t ht => ?_
  have hnext (service : LocalService) (host : Host)
      (hservice : ∀ key, (t.services.get sid).isFree key = false → service.isFree key = false) :
      s.Onward { t with services := t.services.put sid service, host } := by
    refine ht.trans
      ⟨fun other key hfree => ?_, fun rid => ⟨[], by simp, (RegistryService.asked_nil _).symm⟩⟩
    by_cases he : other = sid
    · subst he
      rw [Shelf.get_put_self]
      exact hservice key hfree
    · rw [Shelf.get_put_of_ne _ _ he]
      exact hfree
  rintro x rfl
  have hkept (key : String) := (h key).snd (s := (t.services.get sid, t.host))
  rcases hout : act.outcome (t.services.get sid, t.host) with ⟨fault | a, service, host⟩ <;>
  · rw [hout] at hkept
    exact hnext service host fun key => hkept key

theorem keeps_onLedger {act : Ledger.Use α}
    (h : ∀ key, Keeps act fun x => x.1.registered key = true) : Keeps (onLedger sid act) s.Onward :=
  keeps_onService fun key => LocalService.keeps_ledger (h key)

theorem keeps_change (id : ObjectId) (f : DigitalObject → DigitalObject) :
    Keeps (change id f) s.Onward :=
  Ends.modify fun _ ht => ht.trans (.of_eq rfl rfl)

theorem keeps_draw (source : SourceId) (bound : Nat) : Keeps (draw source bound) s.Onward := by
  unfold draw
  refine Ends.get_bind fun t ht => ?_
  split
  · exact Ends.pure fun u hu => hu ▸ ht
  · refine Ends.bind (Q := fun _ => s.Onward) (fun u _ => ?_) fun _ => Ends.pure fun _ h => h
    exact ht.trans (.of_eq rfl rfl)

end Site

end PersistentId
