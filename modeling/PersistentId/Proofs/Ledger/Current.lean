import PersistentId.Proofs.Ledger.Persisted

/-!
# Ledgers that remember nothing of their own

What a ledger knows is `Current` if all of it is in its files: what is on record is in the store,
and the next numbers that it remembers are stored. Such a ledger answers as one that was just
opened:

* what it remembers makes no difference to the number that it gives out (`Current.given_eq`), so
  that `drawn` says what asking for one comes to;
* reserving and giving out numbers keep it current (`Current.reserve`, `Current.nextNumber`);
* one that is opened in its place is current too (`Current.create`).
-/

namespace PersistentId.Ledger

open PersistentId.Action

/-- All that a ledger knows is in its files, and it is as a new one would be configured. -/
structure Current (opening : Opening) (blank : Ledger) (place numberPlace : Path)
    (T : Table String Value) (ledger : Ledger) (host : Host) : Prop where
  persisted : Persisted place numberPlace T ledger host
  configured : configured host.files opening.directory opening.config opening.name = .ok blank
  origin : ledger = { blank with cached := T, numbers := ledger.numbers }
  remembers : ∀ scope n, Table.find? ledger.numbers (.str scope) = some n →
    blank.start.toInt < n ∧ counter? host.files numberPlace scope = some (.number n)

/-! ## Configurations -/

theorem directoryOf_mono {files files' : FileTree} (hg : files.Grown files') {directory : Value}
    {found : Option String} (h : directoryOf files directory = .ok found) :
    directoryOf files' directory = .ok found := by
  unfold directoryOf at h ⊢
  split at h
  · next hnone => rwa [if_pos hnone]
  · next hgiven =>
    rw [if_neg hgiven]
    cases directory with
    | str path =>
      dsimp only at h ⊢
      split at h
      · next hd => rwa [if_pos (hg.isDirectory path hd)]
      · cases h
    | _ => exact h

/-- A ledger is configured alike when files have been written. -/
theorem configured_mono {files files' : FileTree} (hg : files.Grown files')
    {directory config name : Value} {ledger : Ledger}
    (h : configured files directory config name = .ok ledger) :
    configured files' directory config name = .ok ledger := by
  obtain ⟨found, hfound, -⟩ := exists_of_bind_eq_ok h
  rw [← h]
  unfold configured
  rw [hfound, directoryOf_mono hg hfound]

/-! ## Numbers -/

/-- What comes of asking a ledger for a number by the stored ones alone, and the files then. -/
def drawn (blank : Ledger) (place : Path) (files : FileTree) (scope : String) :
    Except Fault Counter × FileTree :=
  match numbersOf (files.dataAt place) with
  | .error fault => (.error fault, files.put place (.file (files.dataAt place)))
  | .ok stored =>
    match writeNumbers (blank.advanced stored scope) with
    | .whole document => (.ok (blank.given stored scope), files.put place (.file document.toUTF8))
    | .cut start fault => (.error fault, files.put place (.file start.toUTF8))

variable {opening : Opening} {blank : Ledger} {place numberPlace : Path}
  {T : Table String Value} {ledger : Ledger} {host : Host}

namespace Current

theorem record (h : Current opening blank place numberPlace T ledger host)
    (entries : Journal) :
    Current opening blank place numberPlace T ledger (host.record entries) :=
  ⟨h.persisted.record entries, h.configured, h.origin, h.remembers⟩

theorem start_eq (h : Current opening blank place numberPlace T ledger host) :
    ledger.start = blank.start := by
  rw [h.origin]

/-- **What a ledger remembers makes no difference** to the number that it gives out. -/
theorem given_eq (h : Current opening blank place numberPlace T ledger host)
    {stored : Table Key Counter} (hstored : numbersOf (host.files.dataAt numberPlace) = .ok stored)
    (scope : String) : ledger.given stored scope = blank.given stored scope := by
  have hblank : blank.expected (.str scope) = blank.start := by
    rw [expected, (configured_eq_ok h.configured).2.2]
    rfl
  rw [given, given, hblank, h.start_eq, expected]
  cases hfind : Table.find? ledger.numbers (.str scope) with
  | none => rw [h.start_eq]
  | some n =>
    obtain ⟨hlt, hcounter⟩ := h.remembers scope n hfind
    rw [counter?_eq_find? hstored] at hcounter
    have hpast : blank.start.toInt < (Counter.number n).toInt := hlt
    rw [hcounter, Option.getD_some, Counter.max, Counter.max, ite_self, if_pos hpast]

/-- A number that is given out is the one that is remembered and stored. -/
theorem after_given (h : Current opening blank place numberPlace T ledger host)
    {stored : Table Key Counter} (hstored : numbersOf (host.files.dataAt numberPlace) = .ok stored)
    (scope : String) {data : ByteArray}
    (hdata : numbersOf data = .ok (blank.advanced stored scope)) {host' : Host}
    (hfiles : host'.files = host.files.put numberPlace (.file data)) :
    Current opening blank place numberPlace T (ledger.after scope (blank.given stored scope))
      host' := by
  obtain ⟨path, -, hopen⟩ := h.persisted.numbers
  have hstart : blank.start.toInt ≤ (blank.given stored scope).toInt := by
    refine start_le_given stored fun n hn => ?_
    rw [(configured_eq_ok h.configured).2.2] at hn
    cases hn
  refine ⟨h.persisted.write _ hfiles, ?_, ?_, fun other n hn => ?_⟩
  · rw [hfiles]
    exact configured_mono (FileTree.grown_put hopen.notDirectory data) h.configured
  · rw [after, h.origin]
  · by_cases hname : scope = other
    · subst hname
      rw [after, Table.find?_put_self] at hn
      obtain rfl := Option.some.inj hn
      exact ⟨Int.lt_add_one_of_le hstart, hfiles ▸ counter?_put_self hopen.ne_nil hdata⟩
    · rw [after, Table.find?_put_of_ne _ _ (by simpa using hname)] at hn
      rw [hfiles, counter?_put_of_ne hopen.ne_nil hstored hdata hname]
      exact h.remembers other n hn

/-- **A current ledger gives out numbers by what is stored alone**, and stays current unless one is
too long to be written. -/
theorem nextNumber (h : Current opening blank place numberPlace T ledger host) (scope : String) :
    ∃ ledger' host', (Ledger.nextNumber (.str scope)).outcome (ledger, host) =
        ((drawn blank numberPlace host.files scope).1, ledger', host') ∧
      host'.files = (drawn blank numberPlace host.files scope).2 ∧
      ((drawn blank numberPlace host.files scope).1 ≠ .error .tooLong →
        Current opening blank place numberPlace T ledger' host') := by
  obtain ⟨path, hs, hopen⟩ := h.persisted.numbers
  obtain ⟨entries, hout⟩ := outcome_nextNumber hs hopen scope
  cases hstored : numbersOf (host.files.dataAt numberPlace) with
  | error fault =>
    rw [hstored] at hout
    simp only [drawn, hstored]
    refine ⟨_, _, hout, rfl, fun _ => ?_⟩
    have hsame : counter? (host.files.put numberPlace (.file (host.files.dataAt numberPlace)))
        numberPlace = counter? host.files numberPlace :=
      funext fun other => counter?_put_dataAt hopen.ne_nil other
    refine ⟨(h.persisted.write ledger.numbers rfl), configured_mono
      (FileTree.grown_put hopen.notDirectory _) h.configured, h.origin, fun other n hn => ?_⟩
    obtain ⟨hlt, hcounter⟩ := h.remembers other n hn
    exact ⟨hlt, (congrFun hsame other).trans hcounter⟩
  | ok stored =>
    have hgiven := h.given_eq hstored scope
    have hadvanced : ledger.advanced stored scope = blank.advanced stored scope := by
      rw [advanced, advanced, hgiven]
    simp only [hstored, hadvanced, hgiven] at hout
    simp only [drawn, hstored]
    have hscoped := (scoped_of_numbersOf hstored).put scope
      (.number ((blank.given stored scope).toInt + 1))
    cases hwrite : writeNumbers (blank.advanced stored scope) with
    | cut start fault =>
      simp only [hwrite] at hout
      obtain rfl := eq_tooLong_of_writeNumbers hscoped hwrite
      exact ⟨_, _, hout, rfl, fun hne => absurd rfl hne⟩
    | whole document =>
      simp only [hwrite] at hout
      have hdata := numbersOf_toUTF8 hscoped hwrite
      exact ⟨_, _, hout, rfl, fun _ => h.after_given hstored scope hdata rfl⟩

/-! ## Reserving -/

theorem reserve (h : Current opening blank place numberPlace T ledger host) {key : String}
    {data : Value} (hnew : key ∉ Table.keys T) (hk : isKey key = true) (hd : isData data = true) :
    ∃ ledger' host', (Ledger.reserve key data).outcome (ledger, host) = (.ok ⟨⟩, ledger', host') ∧
      host'.files = extended host.files place [(key, data)] ∧
      Current opening blank place numberPlace (T ++ [(key, data)]) ledger' host' := by
  obtain ⟨host', hout, hnext, hfiles, hgrown⟩ := h.persisted.reserve hnew hk hd
  refine ⟨_, _, hout, hfiles, hnext, configured_mono hgrown h.configured, by rw [h.origin], ?_⟩
  intro scope n hn
  obtain ⟨hlt, hcounter⟩ := h.remembers scope n hn
  refine ⟨hlt, ?_⟩
  rw [counter?, hfiles, extended, FileTree.dataAt_put_of_ne h.persisted.apart]
  exact hcounter

/-! ## Opening -/

/-- A ledger that was opened is current. -/
theorem of_create {host₀ : Host}
    (hopen : (Ledger.create opening.directory opening.config opening.name).outcome host₀ =
      (.ok ledger, host))
    (hk : KeptAt host₀.files place numberPlace ledger) (hne : numberPlace ≠ place)
    (hended : Ended (host₀.files.dataAt place)) :
    ∃ blank, Current opening blank place numberPlace ledger.cached ledger host := by
  obtain ⟨blank, table, entries, hb, rfl, rfl⟩ := configured_of_create hopen
  refine ⟨blank, Persisted.of_create hopen hk hne hended, hb, rfl, fun scope n hn => ?_⟩
  rw [(configured_eq_ok hb).2.2] at hn
  cases hn

/-- **A ledger that is opened in the place of a current one is current.** -/
theorem create (h : Current opening blank place numberPlace T ledger host) :
    ∃ ledger' entries,
      (Ledger.create opening.directory opening.config opening.name).outcome host =
        (.ok ledger', host.record entries) ∧
      Current opening blank place numberPlace T ledger' (host.record entries) := by
  obtain ⟨store, hs, hstore⟩ := h.persisted.inStep.opens
  obtain ⟨path, hn, hnumbers⟩ := h.persisted.numbers
  have hflush := h.persisted.flushes
  rw [h.origin] at hs hn hflush
  obtain ⟨entries, hcreate, hp⟩ :=
    h.persisted.create h.configured ⟨⟨store, hs, hstore⟩, ⟨path, hn, hnumbers⟩, hflush⟩
  refine ⟨_, entries, hcreate, hp, h.configured, rfl, fun scope n hfind => ?_⟩
  rw [(configured_eq_ok h.configured).2.2] at hfind
  cases hfind

end Current

end PersistentId.Ledger
