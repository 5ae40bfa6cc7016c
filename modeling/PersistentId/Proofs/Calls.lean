import PersistentId.Proofs.Lifetime

/-!
# What registry services are asked

A registry service is asked for the identifiers that objects have when the operations come to them,
besides looking up generated ones, and has no records but for these (`Lifetime.calls_and_records`).
An object without a valid identifier is no exception: the service is asked for none then, and may
come to have a record of that, so that not every identifier that reaches it is one
(`not_forall_calls_valid`).
-/

namespace PersistentId

open RegistryService

namespace Turn

/-- The calls of a registry service that an operation makes: for the identifier that its object has,
or has none of, and to look up an identifier that is generated. -/
inductive Asks (x : Turn) : ServiceCall × Value → Prop
  | own {text : Option String} (h : x.pidText? = .ok text) : x.Asks (x.duty.call, .ofText? text)
  | generated {pid : Identifier} (hgen : x.generates = true) (h : pid.Whole) :
      x.Asks (.exists, .str pid.toString)

variable {x : Turn} {rid : RegistryId}

/-! ## One operation -/

theorem mem_asked {pids : List Identifier} (hwhole : ∀ pid ∈ pids, pid.Whole)
    (hgen : pids ≠ [] → x.generates = true) {service : RegistryService} {call : ServiceCall × Value}
    (h : call ∈ (service.asked pids).calls) : call ∈ service.calls ∨ x.Asks call := by
  rcases List.mem_append.1 h with h | h
  · exact .inl h
  · obtain ⟨pid, hpid, rfl⟩ := List.mem_map.1 h
    exact .inr (.generated (hgen (List.ne_nil_of_mem hpid)) (hwhole pid hpid))

theorem mem_calls (hu : x.Uses rid) {call : ServiceCall × Value}
    (h : call ∈ (x.after.registries.get rid).calls) :
    call ∈ (x.site.registries.get rid).calls ∨ x.Asks call := by
  cases effect hu with
  | looks pids hwhole hgen _ _ hafter =>
    rw [hafter] at h
    exact mem_asked hwhole hgen h
  | asks pids hwhole hgen text records htext _ _ hafter =>
    rw [hafter] at h
    rcases List.mem_append.1 h with h | h
    · exact mem_asked hwhole hgen h
    · obtain rfl := List.mem_singleton.1 h
      exact .inr (.own htext)

theorem mem_records (hu : x.Uses rid) {entry : Key × Metadata}
    (h : entry ∈ (x.after.registries.get rid).records) :
    (∃ other ∈ (x.site.registries.get rid).records, other.1 = entry.1) ∨
      x.duty.enters = true ∧ ∃ text, x.pidText? = .ok text ∧ entry.1 = .ofText? text := by
  cases effect hu with
  | looks pids _ _ _ _ hafter =>
    rw [hafter] at h
    exact .inl ⟨entry, h, rfl⟩
  | asks pids _ _ text records htext _ hmakes hafter =>
    rw [hafter] at h
    cases hmakes with
    | same => exact .inl ⟨entry, h, rfl⟩
    | removal => exact .inl ⟨entry, Table.mem_of_mem_remove h, rfl⟩
    | entry hd => exact (Table.exists_of_mem_put h).imp_right fun he => ⟨hd, text, htext, he⟩
    | slip hs =>
      have hd : x.duty.enters = true := by rw [duty_of_slips hs]; rfl
      exact (Table.exists_of_mem_put h).imp_right fun he => ⟨hd, text, htext, he⟩

/-- A service is asked for an identifier if the object has one. -/
theorem Asks.exists_pid {call : ServiceCall × Value} (h : x.Asks call)
    (hsome : x.pidText? ≠ .ok none) :
    ∃ pid : Identifier, call.2 = .str pid.toString ∧
      ((x.after.objects.get x.object).pid? = .ok (some pid) ∨ x.generates = true) := by
  cases h with
  | @own text htext =>
    cases text with
    | none => exact absurd htext hsome
    | some text =>
      obtain ⟨pid, hpid, rfl⟩ := DigitalObject.exists_of_pidText? htext
      exact ⟨pid, rfl, .inl hpid⟩
  | @generated pid hgen => exact ⟨pid, rfl, .inr hgen⟩

/-- An object without a valid identifier cannot be registered. -/
theorem exists_of_create (hu : x.Uses rid) (hd : x.duty = .create) (htext : x.pidText? = .ok none) :
    ∃ fault, x.answer = .error fault := by
  have hcall : x.provider.call x.duty.operation [.object x.object] =
      Answer.value <$> x.provider.create (.object x.object) := by
    rw [hd]
    rfl
  rcases Provider.create_cases hu.kind hu.client x.site x.object with
    ⟨fault, hyields⟩ | ⟨text, metadata, hpid, -, hdeals⟩
  · exact ⟨fault, (exists_of_yields hcall hyields).1⟩
  · obtain ⟨hanswer, -, hobject⟩ := answer_of_deals hcall hdeals
    rw [pidText?, hobject, hpid] at htext
    cases htext
    generalize (x.site.copied metadata).map (·.1) = given at hanswer
    cases given with
    | error fault =>
      rw [RegistryService.outcome_reserve_of_error _ (Value.asKey_ofText? none)] at hanswer
      exact ⟨_, hanswer⟩
    | ok copy =>
      rw [RegistryService.outcome_reserve _ (Value.asKey_ofText? none)] at hanswer
      -- the answer would name the identifier
      split at hanswer
      · exact ⟨_, hanswer⟩
      · split at hanswer <;> exact ⟨_, hanswer⟩

end Turn

/-! ## Lifetimes -/

variable {rid : RegistryId} {turns : List Turn} {service : RegistryService}

theorem Lifetime.exists_of_mem_calls (h : Lifetime rid turns service) :
    ∀ call ∈ service.calls, ∃ x ∈ turns, x.Asks call := by
  induction h with
  | start _ hcalls => simp [hcalls]
  | switch _ _ ih => exact ih
  | turn _ x hu hservice ih =>
    subst hservice
    intro call hcall
    rcases Turn.mem_calls hu hcall with hcall | hasks
    · obtain ⟨y, hy, hasks⟩ := ih call hcall
      exact ⟨y, List.mem_cons_of_mem _ hy, hasks⟩
    · exact ⟨x, List.mem_cons_self, hasks⟩

theorem Lifetime.exists_of_mem_records (h : Lifetime rid turns service) :
    ∀ entry ∈ service.records, ∃ x ∈ turns, x.duty.enters = true ∧
      ∃ text, x.pidText? = .ok text ∧ entry.1 = .ofText? text := by
  induction h with
  | start hrecords => simp [hrecords]
  | switch _ _ ih => exact ih
  | turn _ x hu hservice ih =>
    subst hservice
    intro entry hentry
    rcases Turn.mem_records hu hentry with ⟨other, hother, hkey⟩ | hentered
    · obtain ⟨y, hy, hentered⟩ := ih other hother
      exact ⟨y, List.mem_cons_of_mem _ hy, hkey ▸ hentered⟩
    · exact ⟨x, List.mem_cons_self, hentered⟩

theorem Lifetime.uses (h : Lifetime rid turns service) : ∀ x ∈ turns, x.Uses rid := by
  induction h with
  | start => simp
  | switch _ _ ih => exact ih
  | turn _ x hu _ ih => exact List.forall_mem_cons.2 ⟨hu, ih⟩

/-- **A registry service is asked for the identifiers of objects as they are then**, and has records
of no others. If all objects have some, it is asked for and has records of identifiers only. An
object without a valid identifier cannot be registered, but it may be made public under none. -/
theorem Lifetime.calls_and_records (h : Lifetime rid turns service) :
    (∀ call ∈ service.calls, ∃ x ∈ turns, x.Asks call) ∧
    (∀ entry ∈ service.records, ∃ x ∈ turns, x.duty.enters = true ∧
      ∃ text, x.pidText? = .ok text ∧ entry.1 = .ofText? text) ∧
    ((∀ x ∈ turns, x.pidText? ≠ .ok none) →
      (∀ call ∈ service.calls, ∃ x ∈ turns, ∃ pid : Identifier, call.2 = .str pid.toString ∧
        ((x.after.objects.get x.object).pid? = .ok (some pid) ∨ x.generates = true)) ∧
      ∀ entry ∈ service.records, ∃ x ∈ turns, ∃ pid,
        (x.after.objects.get x.object).pid? = .ok (some pid) ∧ entry.1 = .str pid.toString) ∧
    ∀ x ∈ turns, x.duty = .create → x.pidText? = .ok none → ∃ fault, x.answer = .error fault := by
  refine ⟨h.exists_of_mem_calls, h.exists_of_mem_records,
    fun hsome => ⟨fun call hcall => ?_, fun entry hentry => ?_⟩,
    fun x hx hd htext => Turn.exists_of_create (h.uses x hx) hd htext⟩
  · obtain ⟨x, hx, hasks⟩ := h.exists_of_mem_calls call hcall
    exact ⟨x, hx, hasks.exists_pid (hsome x hx)⟩
  · obtain ⟨x, hx, -, text, htext, hkey⟩ := h.exists_of_mem_records entry hentry
    cases text with
    | none => exact absurd htext (hsome x hx)
    | some text =>
      obtain ⟨pid, hpid, rfl⟩ := DigitalObject.exists_of_pidText? htext
      exact ⟨x, hx, pid, hpid, hkey⟩

/-- A dataset whose identifier lacks its protocol and authority is made public. -/
def drafting : Turn where
  provider := registrar
  duty := .publicize
  object := 0
  site := { objects := Shelf.put {} 0 { kind := .dataset, localPart := .str "ABC" } }

theorem drafting_uses : drafting.Uses 0 :=
  ⟨rfl, rfl⟩

/-- A record of none comes about. -/
theorem Lifetime.calls_and_records_drafting :
    ∃ service, Lifetime 0 [drafting] service ∧ service.records.map (·.1) = [.null] ∧
      service.calls = [(.publicize, .null)] ∧
      ∀ call ∈ service.calls, ∃ x ∈ [drafting], x.Asks call := by
  have hstart : Lifetime 0 [] {} := .start rfl rfl rfl
  have h := hstart.turn drafting drafting_uses rfl
  exact ⟨_, h, by decide +kernel, by decide +kernel, h.calls_and_records.1⟩

/-- What is done with an object without a valid identifier may reach the service and succeed. -/
theorem not_forall_calls_valid :
    ¬ ∀ (x : Turn) (rid : RegistryId), x.Uses rid → x.generates = false → x.pidText? = .ok none →
      x.succeeds = false ∧
        (x.after.registries.get rid).calls = (x.site.registries.get rid).calls := by
  intro h
  have hvalid := h drafting 0 drafting_uses (by decide +kernel) (by decide +kernel)
  have hsucceeds : drafting.succeeds = true := by decide +kernel
  rw [hvalid.1] at hsucceeds
  cases hsucceeds

end PersistentId
