import PersistentId.Proofs.Ledger.Store

/-!
# A ledger agrees with its store

What is on record is in the store or waiting for it (`Ledger.entries`). A ledger is `InStep` with
its store if the store says what the ledger takes it to say, all lines there are ended, and nothing
is on record twice. Reserving, flushing and reloading keep this, whatever their order
(`InStep.run`), so that from the opening of a ledger on

* reading the store gives `cached`, entry by entry;
* nothing is waiting that is in the store, and nothing at all if the ledger flushes on reserving;
* what was reserved stays on record with its data, and cannot be reserved again;
* each identifier on record is listed once, in the order in which they came.

`agreement` puts these together.
-/

namespace PersistentId.Ledger

open PersistentId.Action

/-- What is on record: the identifiers in the store, then those waiting. -/
def entries (ledger : Ledger) : Table String Value :=
  ledger.cached ++ ledger.uncached

/-- A ledger and the store at a place agree. -/
structure InStep (place : Path) (ledger : Ledger) (host : Host) : Prop where
  opens : ∃ path, ledger.store = some path ∧ host.files.Opens path place
  ended : Ended (host.files.dataAt place)
  reads : storeOf (host.files.dataAt place) = .ok ledger.cached
  distinct : Table.Distinct ledger.entries
  lasting : Lasting ledger.uncached

variable {ledger : Ledger} {host : Host} {place : Path} {key : String} {data : Value}

/-! ## Views of what is on record -/

theorem data?_eq_find? (h : Table.Distinct ledger.entries) (key : String) :
    ledger.data? key = Table.find? ledger.entries key := by
  rw [data?, entries, Table.find?_append]
  cases hu : Table.find? ledger.uncached key with
  | none => simp
  | some a =>
    have hmem := Table.mem_of_find?_eq_some hu
    have hnone : Table.find? ledger.cached key = none := Table.find?_eq_none_iff.2 fun p hp =>
      (List.pairwise_append.1 h).2.2 p hp _ hmem
    rw [hnone]
    rfl

theorem registered_eq_has (ledger : Ledger) (key : String) :
    ledger.registered key = Table.has ledger.entries key := by
  rw [registered, data?, Table.has, entries, Table.find?_append]
  cases Table.find? ledger.uncached key <;> cases Table.find? ledger.cached key <;> rfl

theorem ids_eq_keys (h : Table.Distinct ledger.entries) :
    ledger.ids = Table.keys ledger.entries := by
  have hfilter : (Table.keys ledger.uncached).filter
      (fun key => !(Table.keys ledger.cached).contains key) = Table.keys ledger.uncached := by
    rw [List.filter_eq_self]
    intro key hkey
    obtain ⟨q, hq, rfl⟩ := List.mem_map.1 hkey
    rw [Bool.not_eq_true', List.contains_eq_mem, decide_eq_false_iff_not]
    intro hmem
    obtain ⟨p, hp, he⟩ := List.mem_map.1 hmem
    have := (List.pairwise_append.1 h).2.2 p hp q hq
    simp [he] at this
  rw [ids, hfilter, entries, Table.keys_append]

/-! ## Steps -/

/-- The store after lines were added to it. -/
def extended (files : FileTree) (place : Path) (more : Table String Value) : FileTree :=
  files.put place (.file (files.dataAt place ++ (writeLines more).toUTF8))

/-- Flushing a ledger that has identifiers waiting adds them to the store. -/
theorem InStep.flush_of_ne_nil (h : InStep place ledger host) (hu : ledger.uncached ≠ []) :
    ∃ host', flush.outcome (ledger, host) =
        (.ok ⟨⟩, { ledger with cached := ledger.entries, uncached := [] }, host') ∧
      InStep place { ledger with cached := ledger.entries, uncached := [] } host' ∧
      host'.files = extended host.files place ledger.uncached := by
  obtain ⟨path, hs, hopen⟩ := h.opens
  have hput : Table.putAll ledger.cached ledger.uncached = ledger.entries :=
    Table.putAll_eq_append h.distinct
  obtain ⟨hreads, hended⟩ := storeOf_append h.reads h.ended h.lasting
  have hflush := outcome_flush (placeAt_store hs hopen) hopen hu h.lasting.writable
  rw [hput] at hflush hreads
  refine ⟨_, hflush, ⟨⟨path, hs, hopen.put hopen.notDirectory _⟩, ?_, ?_, ?_, ?_⟩, rfl⟩
  · rw [Host.putFile_files, FileTree.dataAt_put_self hopen.ne_nil]
    exact hended
  · rw [Host.putFile_files, FileTree.dataAt_put_self hopen.ne_nil]
    exact hreads
  · simpa [entries] using h.distinct
  · exact fun p hp => absurd hp List.not_mem_nil

theorem InStep.record (h : InStep place ledger host) (entries : Journal) :
    InStep place ledger (host.record entries) :=
  ⟨h.opens, h.ended, h.reads, h.distinct, h.lasting⟩

theorem InStep.flush (h : InStep place ledger host) :
    ∃ host', flush.outcome (ledger, host) =
        (.ok ⟨⟩, { ledger with cached := ledger.entries, uncached := [] }, host') ∧
      InStep place { ledger with cached := ledger.entries, uncached := [] } host' := by
  by_cases hu : ledger.uncached = []
  · obtain ⟨path, hs, hopen⟩ := h.opens
    obtain ⟨entries, hflush⟩ := outcome_flush_of_isEmpty hs hopen hu
    have heta : { ledger with cached := ledger.entries, uncached := [] } = ledger := by
      rw [Ledger.entries, hu, List.append_nil, ← hu]
    rw [heta]
    exact ⟨_, hflush, h.record entries⟩
  · obtain ⟨host', hflush, hstep, -⟩ := h.flush_of_ne_nil hu
    exact ⟨host', hflush, hstep⟩

/-- Reloading gives back what the ledger has already. -/
theorem InStep.reload (h : InStep place ledger host) :
    ∃ result host', reload.outcome (ledger, host) = (result, ledger, host') ∧
      InStep place ledger host' := by
  obtain ⟨path, hs, hopen⟩ := h.opens
  obtain ⟨entries, hreload⟩ := outcome_reload hs host
  rw [hopen.contents] at hreload
  by_cases hnode : host.files.node? place = none
  · rw [if_pos hnode] at hreload
    exact ⟨_, _, hreload, h.record entries⟩
  · rw [if_neg hnode] at hreload
    simp only [Except.bind, h.reads] at hreload
    exact ⟨_, _, hreload, h.record entries⟩

/-- A new identifier is put behind those that are waiting. -/
theorem put_uncached (hnew : ledger.registered key = false) (data : Value) :
    Table.put ledger.uncached key data = ledger.uncached ++ [(key, data)] := by
  rw [registered_eq_has] at hnew
  exact Table.put_of_has_eq_false (Table.has_eq_false_iff.2 fun p hp =>
    Table.has_eq_false_iff.1 hnew p (List.mem_append_right _ hp)) data

theorem distinct_wait (h : Table.Distinct ledger.entries) (hnew : ledger.registered key = false)
    (data : Value) : Table.Distinct
      ({ ledger with uncached := ledger.uncached ++ [(key, data)] } : Ledger).entries := by
  rw [registered_eq_has] at hnew
  simpa [entries] using Table.distinct_append_singleton h hnew data

theorem lasting_wait {table : Table String Value} (h : Lasting table) (hk : isKey key = true)
    (hd : isData data = true) : Lasting (table ++ [(key, data)]) :=
  h.append fun p hp => by
    obtain rfl := List.mem_singleton.1 hp
    exact ⟨hk, hd⟩

/-- The ledger in which one more identifier is waiting. -/
theorem InStep.wait (h : InStep place ledger host) (hnew : ledger.registered key = false)
    (hk : isKey key = true) (hd : isData data = true) :
    Table.put ledger.uncached key data = ledger.uncached ++ [(key, data)] ∧
      InStep place { ledger with uncached := ledger.uncached ++ [(key, data)] } host :=
  ⟨put_uncached hnew data, h.opens, h.ended, h.reads, distinct_wait h.distinct hnew data,
    lasting_wait h.lasting hk hd⟩

/-- **Reserving a new identifier puts it on record**, in the store if the ledger flushes. -/
theorem InStep.reserve (h : InStep place ledger host) (hnew : ledger.registered key = false)
    (hk : isKey key = true) (hd : isData data = true) :
    ∃ cached uncached host', (reserve key data).outcome (ledger, host) =
        (.ok ⟨⟩, { ledger with cached, uncached }, host') ∧
      InStep place { ledger with cached, uncached } host' ∧
      cached ++ uncached = ledger.entries ++ [(key, data)] ∧
      (ledger.flushOnReserve.truthy = true → uncached = [] ∧
        host'.files = extended host.files place (ledger.uncached ++ [(key, data)])) := by
  obtain ⟨hput, hwait⟩ := h.wait hnew hk hd
  obtain ⟨members, rfl, -⟩ := exists_of_isData hd
  have hreserve := outcome_reserve hnew members host
  rw [hput] at hreserve
  split at hreserve
  · obtain ⟨host', hflush, hstep, hfiles⟩ := hwait.flush_of_ne_nil (by simp)
    exact ⟨_, _, host', hreserve.trans hflush, hstep, by simp [entries], fun _ => ⟨rfl, hfiles⟩⟩
  · next hf =>
    exact ⟨ledger.cached, _, host, hreserve, hwait, by simp [entries], fun ht => absurd ht hf⟩

/-! ## Runs -/

/-- What can be done with what is on record. -/
inductive Deed where
  | reserve (key : String) (data : Value)
  | flush
  | reload

namespace Deed

/-- The action of a deed. -/
def act : Deed → Use Unit
  | .reserve key data => Ledger.reserve key data
  | .flush => Ledger.flush
  | .reload => Ledger.reload

/-- What a deed with the given result has put on record. -/
def issued : Deed → Except Fault Unit → Table String Value
  | .reserve key data, .ok _ => [(key, data)]
  | _, _ => []

/-- Whether a store can hold what a deed reserves. -/
def fits : Deed → Bool
  | .reserve key data => isKey key && isData data
  | _ => true

end Deed

/-- What a list of deeds puts on record, and what it leaves. -/
def run : List Deed → Ledger × Host → Table String Value × Ledger × Host
  | [], state => ([], state)
  | deed :: deeds, state =>
    let (result, state) := deed.act.outcome state
    let (more, state) := run deeds state
    (deed.issued result ++ more, state)

/-- **A deed keeps a ledger in step with its store**, and what it reserves comes last. -/
theorem InStep.deed (h : InStep place ledger host) {deed : Deed} (hfit : deed.fits = true) :
    ∃ result cached uncached host', deed.act.outcome (ledger, host) =
        (result, { ledger with cached, uncached }, host') ∧
      InStep place { ledger with cached, uncached } host' ∧
      cached ++ uncached = ledger.entries ++ deed.issued result ∧
      (ledger.flushOnReserve.truthy = true → ledger.uncached = [] → uncached = []) := by
  cases deed with
  | reserve key data =>
    obtain ⟨hk, hd⟩ := (Bool.and_eq_true _ _).mp hfit
    cases hreg : ledger.registered key with
    | true =>
      exact ⟨_, _, _, host, outcome_reserve_of_registered hreg data host, h,
        (List.append_nil _).symm, fun _ hu => hu⟩
    | false =>
      obtain ⟨cached, uncached, host', hout, hstep, heq, hf⟩ := h.reserve hreg hk hd
      exact ⟨_, cached, uncached, host', hout, hstep, heq, fun ht _ => (hf ht).1⟩
  | flush =>
    obtain ⟨host', hout, hstep⟩ := h.flush
    exact ⟨_, _, _, host', hout, hstep, by simp [Deed.issued], fun _ _ => rfl⟩
  | reload =>
    obtain ⟨result, host', hout, hstep⟩ := h.reload
    exact ⟨result, _, _, host', hout, hstep, (List.append_nil _).symm, fun _ hu => hu⟩

/-- What a deed keeps, a run keeps, and what it issues comes last. -/
theorem run_of_deed {P : Ledger → Host → Prop} {fits : Deed → Bool}
    (hdeed : ∀ {ledger host}, P ledger host → ∀ {deed : Deed}, fits deed = true →
      ∃ result cached uncached host', deed.act.outcome (ledger, host) =
          (result, { ledger with cached, uncached }, host') ∧
        P { ledger with cached, uncached } host' ∧
        cached ++ uncached = ledger.entries ++ deed.issued result ∧
        (ledger.flushOnReserve.truthy = true → ledger.uncached = [] → uncached = []))
    (h : P ledger host) {deeds : List Deed} (hfit : ∀ deed ∈ deeds, fits deed = true) :
    ∃ issued ledger' host', Ledger.run deeds (ledger, host) = (issued, ledger', host') ∧
      P ledger' host' ∧ ledger'.entries = ledger.entries ++ issued ∧
      (ledger.flushOnReserve.truthy = true → ledger.uncached = [] → ledger'.uncached = []) := by
  induction deeds generalizing ledger host with
  | nil => exact ⟨[], ledger, host, rfl, h, (List.append_nil _).symm, fun _ hu => hu⟩
  | cons deed deeds ih =>
    obtain ⟨hfirst, hrest⟩ := List.forall_mem_cons.1 hfit
    obtain ⟨result, cached, uncached, host₁, hout, hstep, heq, hf⟩ := hdeed h hfirst
    obtain ⟨issued, ledger', host', hrun, hlast, hentries, hflush⟩ := ih hstep hrest
    refine ⟨deed.issued result ++ issued, ledger', host', ?_, hlast, ?_,
      fun ht hu => hflush ht (hf ht hu)⟩
    · rw [Ledger.run, hout]
      simp only [hrun]
    · rw [hentries, entries, heq, List.append_assoc]

theorem InStep.run (h : InStep place ledger host) {deeds : List Deed}
    (hfit : ∀ deed ∈ deeds, deed.fits = true) :
    ∃ issued ledger' host', Ledger.run deeds (ledger, host) = (issued, ledger', host') ∧
      InStep place ledger' host' ∧ ledger'.entries = ledger.entries ++ issued ∧
      (ledger.flushOnReserve.truthy = true → ledger.uncached = [] → ledger'.uncached = []) :=
  run_of_deed InStep.deed h hfit

/-- A ledger that was opened agrees with its store, and nothing is waiting. -/
theorem InStep.of_create {directory config name : Value} {path : String} {host₀ : Host}
    (hopen : (create directory config name).outcome host₀ = (.ok ledger, host))
    (hs : ledger.store = some path) (hplace : host₀.files.Opens path place)
    (hended : Ended (host₀.files.dataAt place)) :
    InStep place ledger host ∧ ledger.uncached = [] := by
  obtain ⟨blank, _, _, hconfigured, rfl, -⟩ := configured_of_create hopen
  obtain ⟨-, hu, -⟩ := configured_eq_ok hconfigured
  obtain ⟨journal, hcreate⟩ := outcome_create hconfigured hs hplace
  rw [hopen] at hcreate
  cases hstore : storeOf (host₀.files.dataAt place) with
  | error fault =>
    rw [hstore] at hcreate
    cases hcreate
  | ok table =>
    rw [hstore] at hcreate
    obtain ⟨hledger, rfl⟩ := Prod.mk.inj hcreate
    rw [Except.ok.inj hledger]
    refine ⟨⟨⟨path, hs, hplace⟩, hended, hstore, ?_, ?_⟩, hu⟩
    · rw [entries, hu, List.append_nil]
      exact distinct_of_storeOf hstore
    · rw [hu]
      exact fun p hp => absurd hp List.not_mem_nil

/-- **A ledger and its store agree** after any deeds from its opening on. -/
theorem agreement {directory config name : Value} {path : String} {host₀ : Host}
    (hopen : (create directory config name).outcome host₀ = (.ok ledger, host))
    (hs : ledger.store = some path) (hplace : host₀.files.Opens path place)
    (hended : Ended (host₀.files.dataAt place)) (deeds : List Deed)
    (hfit : ∀ deed ∈ deeds, deed.fits = true) :
    ∃ issued ledger' host', run deeds (ledger, host) = (issued, ledger', host') ∧
      storeOf (host'.files.dataAt place) = .ok ledger'.cached ∧
      (∀ key ∈ Table.keys ledger'.cached, key ∉ Table.keys ledger'.uncached) ∧
      (ledger.flushOnReserve.truthy = true → ledger'.uncached = []) ∧
      (∀ p ∈ issued, ledger'.registered p.1 = true ∧ ledger'.data? p.1 = some p.2) ∧
      (∀ key data, ledger'.registered key = true →
        (reserve key data).outcome (ledger', host') =
          (.error (.alreadyIssued key), ledger', host')) ∧
      (∀ key data, ledger'.registered key = false → isKey key = true → isData data = true →
        ∃ state, (reserve key data).outcome (ledger', host') = (.ok ⟨⟩, state)) ∧
      ledger'.ids = ledger.ids ++ Table.keys issued ∧ ledger'.ids.Nodup ∧
      ∀ key, key ∈ ledger'.ids ↔ ledger'.registered key = true := by
  obtain ⟨hstart, hempty⟩ := InStep.of_create hopen hs hplace hended
  obtain ⟨issued, ledger', host', hrun, hstep, hentries, hflush⟩ := hstart.run hfit
  have hids := ids_eq_keys hstep.distinct
  have hnodup : (Table.keys ledger'.entries).Nodup := Table.nodup_keys.2 hstep.distinct
  refine ⟨issued, ledger', host', hrun, hstep.reads, ?_, fun ht => hflush ht hempty, ?_,
    fun key data hreg => outcome_reserve_of_registered hreg data host',
    fun key data hnew hk hd => ?_, ?_, hids ▸ hnodup, ?_⟩
  · intro key hc hu
    rw [entries, Table.keys_append, List.nodup_append] at hnodup
    exact hnodup.2.2 key hc key hu rfl
  · intro p hp
    have hfind : ledger'.data? p.1 = some p.2 := by
      rw [data?_eq_find? hstep.distinct, Table.find?_eq_some_iff hstep.distinct, hentries]
      exact List.mem_append_right _ hp
    exact ⟨by rw [registered, hfind]; rfl, hfind⟩
  · obtain ⟨_, _, _, hout, -⟩ := hstep.reserve hnew hk hd
    exact ⟨_, hout⟩
  · rw [hids, hentries, ids_eq_keys hstart.distinct, Table.keys_append]
  · intro key
    rw [hids, registered_eq_has, Table.has_eq_true_iff]

/-- A ledger that is told when to flush. -/
theorem agreement_keeper :
    ∃ host issued ledger' host',
      (create (.str "/d") (twoFiles false) .null).outcome storeroom = (.ok (keeper false), host) ∧
      run [.reserve "doi:10.5072/a" (.map [("n", .list [.null])]), .reload,
          .reserve "doi:10.5072/b" (.map []), .flush, .reserve "doi:10.5072/a" (.map [])]
        (keeper false, host) = (issued, ledger', host') ∧
      storeOf (host'.files.dataAt ["d", "s"]) = .ok ledger'.cached ∧
      (∀ p ∈ issued, ledger'.data? p.1 = some p.2) ∧ ledger'.ids = Table.keys issued := by
  obtain ⟨journal, hopen⟩ := storeroom_create false
  obtain ⟨issued, ledger', host', hrun, hreads, -, -, hissued, -, -, hids, -⟩ :=
    agreement hopen rfl storeroom_opens storeroom_ended
      [.reserve "doi:10.5072/a" (.map [("n", .list [.null])]), .reload,
        .reserve "doi:10.5072/b" (.map []), .flush, .reserve "doi:10.5072/a" (.map [])]
      (by decide)
  exact ⟨_, issued, ledger', host', hopen, hrun, hreads, fun p hp => (hissued p hp).2, hids⟩

end PersistentId.Ledger
