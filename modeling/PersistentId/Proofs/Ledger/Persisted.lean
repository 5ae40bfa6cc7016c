import PersistentId.Proofs.Ledger.Agreement
import PersistentId.Proofs.Ledger.Sequence

/-!
# Ledgers that keep nothing back

A ledger that flushes on reserving, with its store in one file and its next numbers in another, is
`Persisted`: what it has on record is what its store says. Reserving and giving out numbers keep
this (`Persisted.reserve`, `Persisted.nextNumber`), and a ledger that is opened on the same files
has the same on record (`Persisted.create`).
-/

namespace PersistentId.Ledger

open PersistentId.Action

/-! ## Where a ledger keeps its files -/

/-- A ledger flushes on reserving, with its store at a place and its next numbers at another one. -/
structure KeptAt (files : FileTree) (place numberPlace : Path) (ledger : Ledger) : Prop where
  store : ∃ path, ledger.store = some path ∧ files.Opens path place
  numbers : ∃ path, ledger.numberStore = some path ∧ files.Opens path numberPlace
  flushes : ledger.flushOnReserve.truthy = true

theorem KeptAt.mono {files files' : FileTree} {place numberPlace : Path} {ledger : Ledger}
    (h : KeptAt files place numberPlace ledger) (hg : files.Grown files') :
    KeptAt files' place numberPlace ledger := by
  obtain ⟨store, hs, hstore⟩ := h.store
  obtain ⟨path, hn, hopen⟩ := h.numbers
  exact ⟨⟨store, hs, hg.opens _ _ hstore⟩, ⟨path, hn, hg.opens _ _ hopen⟩, h.flushes⟩

/-- What a ledger is opened from. -/
structure Opening where
  directory : Value
  config : Value
  name : Value

/-- A ledger that is opened as given keeps its store at a place and its next numbers at another one,
and flushes on reserving. -/
def Opening.KeepsAt (opening : Opening) (files : FileTree) (place numberPlace : Path) : Prop :=
  ∀ tree ledger, configured tree opening.directory opening.config opening.name = .ok ledger →
    KeptAt files place numberPlace ledger

/-! ## Ledgers with all in the store -/

/-- All that a ledger has on record is in the store at a place, its next numbers being kept at
another one. -/
structure Persisted (place numberPlace : Path) (T : Table String Value) (ledger : Ledger)
    (host : Host) : Prop where
  inStep : InStep place ledger host
  flushed : ledger.uncached = []
  holds : ledger.cached = T
  flushes : ledger.flushOnReserve.truthy = true
  numbers : ∃ path, ledger.numberStore = some path ∧ host.files.Opens path numberPlace
  apart : numberPlace ≠ place

variable {place numberPlace : Path} {T : Table String Value} {ledger : Ledger} {host : Host}

namespace Persisted

/-! ## Views -/

theorem entries_eq (h : Persisted place numberPlace T ledger host) : ledger.entries = T := by
  rw [entries, h.flushed, h.holds, List.append_nil]

theorem data?_eq (h : Persisted place numberPlace T ledger host) (key : String) :
    ledger.data? key = Table.find? T key := by
  rw [data?_eq_find? h.inStep.distinct, h.entries_eq]

theorem registered_eq (h : Persisted place numberPlace T ledger host) (key : String) :
    ledger.registered key = Table.has T key := by
  rw [registered_eq_has, h.entries_eq]

theorem ids_eq (h : Persisted place numberPlace T ledger host) : ledger.ids = Table.keys T := by
  rw [ids_eq_keys h.inStep.distinct, h.entries_eq]

/-! ## Steps -/

theorem record (h : Persisted place numberPlace T ledger host) (entries : Journal) :
    Persisted place numberPlace T ledger (host.record entries) :=
  ⟨h.inStep.record entries, h.flushed, h.holds, h.flushes, h.numbers, h.apart⟩

/-- **Reserving a new identifier adds it to the store.** -/
theorem reserve (h : Persisted place numberPlace T ledger host) {key : String} {data : Value}
    (hnew : key ∉ Table.keys T) (hk : isKey key = true) (hd : isData data = true) :
    ∃ host', (Ledger.reserve key data).outcome (ledger, host) =
        (.ok ⟨⟩, { ledger with cached := T ++ [(key, data)] }, host') ∧
      Persisted place numberPlace (T ++ [(key, data)])
        { ledger with cached := T ++ [(key, data)] } host' ∧
      host'.files = extended host.files place [(key, data)] ∧ host.files.Grown host'.files := by
  have hreg : ledger.registered key = false := by
    rw [h.registered_eq, ← Bool.not_eq_true, Table.has_eq_true_iff]
    exact hnew
  obtain ⟨cached, uncached, host', hout, hstep, heq, hf⟩ := h.inStep.reserve hreg hk hd
  obtain ⟨hu, hfiles⟩ := hf h.flushes
  rw [h.flushed, List.nil_append] at hfiles
  rw [hu, List.append_nil, h.entries_eq] at heq
  have hsame : { ledger with cached, uncached } =
      { ledger with cached := T ++ [(key, data)] } := by
    simp only [hu, heq, h.flushed]
  rw [hsame] at hout hstep
  obtain ⟨_, -, hstore⟩ := h.inStep.opens
  have hgrown : host.files.Grown host'.files :=
    hfiles ▸ FileTree.grown_put hstore.notDirectory _
  obtain ⟨path, hpath, hopen⟩ := h.numbers
  exact ⟨host', hout, ⟨hstep, h.flushed, rfl, h.flushes, ⟨path, hpath, hgrown.opens _ _ hopen⟩,
    h.apart⟩, hfiles, hgrown⟩

/-- Writing the file of the next numbers changes nothing on record. -/
theorem write (h : Persisted place numberPlace T ledger host) (numbers : Table Key Int)
    {host' : Host} {data : ByteArray}
    (hfiles : host'.files = host.files.put numberPlace (.file data)) :
    Persisted place numberPlace T { ledger with numbers } host' := by
  obtain ⟨path, hpath, hopen⟩ := h.numbers
  obtain ⟨store, hstore, hplace⟩ := h.inStep.opens
  have hkept : host'.files.dataAt place = host.files.dataAt place := by
    rw [hfiles, FileTree.dataAt_put_of_ne h.apart.symm]
  refine ⟨⟨⟨store, hstore, ?_⟩, ?_, ?_, h.inStep.distinct, h.inStep.lasting⟩, h.flushed, h.holds,
    h.flushes, ⟨path, hpath, ?_⟩, h.apart⟩
  · rw [hfiles]
    exact hplace.put hopen.notDirectory data
  · rw [hkept]
    exact h.inStep.ended
  · rw [hkept]
    exact h.inStep.reads
  · rw [hfiles]
    exact hopen.put hopen.notDirectory data

/-- **Giving out a number changes nothing on record**, whatever comes of it. -/
theorem nextNumber (h : Persisted place numberPlace T ledger host) (scope : String) :
    ∃ result ledger' host', (Ledger.nextNumber (.str scope)).outcome (ledger, host) =
        (result, ledger', host') ∧ Persisted place numberPlace T ledger' host' ∧
      host.files.Grown host'.files := by
  obtain ⟨path, hs, hopen⟩ := h.numbers
  obtain ⟨result, ledger', host', data, hout, hfiles, hcases⟩ := nextNumber_cases hs hopen scope
  refine ⟨result, ledger', host', hout, ?_, hfiles ▸ FileTree.grown_put hopen.notDirectory data⟩
  rcases hcases with ⟨_, -, -, rfl, -⟩ | ⟨-, rfl⟩ | ⟨_, -, -, rfl, -⟩
  · exact h.write _ hfiles
  · exact h.write _ hfiles
  · exact h.write _ hfiles

/-! ## Opening -/

/-- A ledger that was opened has on record what its store says. -/
theorem of_create {directory config name : Value} {host₀ : Host}
    (hopen : (Ledger.create directory config name).outcome host₀ = (.ok ledger, host))
    (hk : KeptAt host₀.files place numberPlace ledger) (hne : numberPlace ≠ place)
    (hended : Ended (host₀.files.dataAt place)) :
    Persisted place numberPlace ledger.cached ledger host := by
  obtain ⟨path, hs, hplace⟩ := hk.store
  obtain ⟨hstep, hu⟩ := InStep.of_create hopen hs hplace hended
  obtain ⟨_, _, _, -, -, rfl⟩ := configured_of_create hopen
  exact ⟨hstep, hu, rfl, hk.flushes, hk.numbers, hne⟩

/-- **A ledger that is opened on the same files has the same on record.** -/
theorem create (h : Persisted place numberPlace T ledger host) {directory config name : Value}
    {blank : Ledger} (hb : configured host.files directory config name = .ok blank)
    (hk : KeptAt host.files place numberPlace blank) :
    ∃ entries, (Ledger.create directory config name).outcome host =
        (.ok { blank with cached := T }, host.record entries) ∧
      Persisted place numberPlace T { blank with cached := T } (host.record entries) := by
  obtain ⟨path, hpath, hopen⟩ := hk.store
  obtain ⟨entries, hcreate⟩ := outcome_create hb hpath hopen
  rw [h.inStep.reads, h.holds] at hcreate
  exact ⟨entries, hcreate,
    of_create hcreate ⟨hk.store, hk.numbers, hk.flushes⟩ h.apart h.inStep.ended⟩

end Persisted

end PersistentId.Ledger
