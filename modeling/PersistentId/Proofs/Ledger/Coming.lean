import PersistentId.Proofs.Ledger.Failure

/-!
# The coming numbers of a ledger

The number of a scope that comes next is the larger one of that which a regular ledger remembers and
that which is stored (`coming`). Giving out a number gives out this one and makes the next one come,
of this scope and no other (`outcome_nextNumber_coming`). Reserving what is not on record puts just
that on record (`outcome_reserve_fresh`).
-/

namespace PersistentId.Ledger

open PersistentId.Action

variable {ledger : Ledger} {host : Host} {scope : String} {key : String}

/-! ## What comes next -/

/-- The next numbers that are stored for a ledger, none if it stores none or they cannot be read. -/
def stored (ledger : Ledger) (host : Host) : Table Key Counter :=
  match placeAt ledger.numberStore with
  | none => []
  | some path => ((host.files.contents path).bind numbersOf).toOption.getD []

/-- The number that a ledger gives out next for a scope. -/
def coming (ledger : Ledger) (host : Host) (scope : String) : Int :=
  (ledger.given (ledger.stored host) scope).toInt

/-- The coming numbers depend on the files of the host alone. -/
theorem coming_congr {host' : Host} (h : host'.files = host.files) (scope : String) :
    ledger.coming host' scope = ledger.coming host scope := by
  rw [coming, coming, stored, stored, h]

/-- The stored next numbers can be read and written, if a ledger stores them. -/
def Legible (ledger : Ledger) (host : Host) : Prop :=
  ∀ path, placeAt ledger.numberStore = some path → ∃ place numbers, host.files.Opens path place ∧
    numbersOf (host.files.dataAt place) = .ok numbers ∧ ∀ entry ∈ numbers, entry.2.isShort = true

theorem numbersOf_empty : numbersOf .empty = .ok [] := by
  rw [numbersOf, Host.textOf, Text.decode?_empty]
  rfl

theorem stored_of_opens {path : String} {place : Path} {numbers : Table Key Counter}
    (hs : placeAt ledger.numberStore = some path) (h : host.files.Opens path place)
    (hn : numbersOf (host.files.dataAt place) = .ok numbers) : ledger.stored host = numbers := by
  have hread : (host.files.contents path).bind numbersOf = .error (.file .missing path) ∧
      numbers = [] ∨ (host.files.contents path).bind numbersOf = .ok numbers := by
    rw [h.contents]
    split
    · next hnode =>
      have hempty : host.files.dataAt place = .empty := by rw [FileTree.dataAt, hnode]
      rw [hempty, numbersOf_empty] at hn
      exact .inl ⟨rfl, (Except.ok.inj hn).symm⟩
    · exact .inr hn
  rw [stored, hs]
  dsimp only
  rcases hread with ⟨hread, rfl⟩ | hread <;> rw [hread] <;> rfl

theorem numberStore_eq_some {path : String} (h : placeAt ledger.numberStore = some path) :
    ledger.numberStore = some path :=
  (Option.filter_eq_some_iff.1 h).1

theorem Regular.start_le_coming (h : ledger.Regular) (host : Host) (scope : String) :
    ledger.start.toInt ≤ ledger.coming host scope := by
  rw [coming, given, Counter.toInt_max]
  exact Int.le_trans (h.start_le_expected _) (Int.le_max_left ..)

/-- A regular ledger that stores no numbers gives out those that it remembers. -/
theorem Regular.coming_of_not_stored (h : ledger.Regular) (hs : placeAt ledger.numberStore = none)
    (host : Host) (scope : String) :
    ledger.coming host scope = (ledger.expected (.str scope)).toInt := by
  rw [coming, given, stored, hs, Counter.toInt_max]
  exact Int.max_eq_left (h.start_le_expected _)

/-- A ledger of which a number has been given out remembers the one behind it. -/
theorem expected_after (ledger : Ledger) (scope other : String) (n : Counter) :
    ((ledger.after scope n).expected (.str other)).toInt =
      if other = scope then n.toInt + 1 else (ledger.expected (.str other)).toInt := by
  by_cases h : other = scope
  · rw [if_pos h, h, expected, after, Table.find?_put_self]
    rfl
  · rw [if_neg h, expected, after, Table.find?_put_of_ne _ _ (by simpa using Ne.symm h)]
    rfl

/-- A short number that comes after none below zero. -/
theorem isShort_of_le {m n : Int} (hm : 0 ≤ m) (h : m ≤ n) (hn : isShort n = true) :
    isShort m = true := by
  rw [isShort, decide_eq_true_eq] at hn ⊢
  omega

/-- What giving out a number makes of the coming numbers. -/
structure Advances (scope : String) (ledger ledger' : Ledger) (host host' : Host) : Prop where
  legible : ledger'.Legible host'
  coming : ∀ other, ledger'.coming host' other =
    ledger.coming host other + if other = scope then 1 else 0
  grown : host.files.Grown host'.files

/-- Storing the number behind the one that was given out. -/
theorem advances_after {path : String} {place : Path} {numbers : Table Key Counter}
    {document : String} (hs : placeAt ledger.numberStore = some path)
    (hopen : host.files.Opens path place)
    (hnumbers : numbersOf (host.files.dataAt place) = .ok numbers)
    (hlegible : ∀ entry ∈ numbers, entry.2.isShort = true)
    (hwrite : writeNumbers (ledger.advanced numbers scope) = .whole document) (entries : Journal)
    (hshort : isShort ((ledger.given numbers scope).toInt + 1) = true) :
    Advances scope ledger (ledger.after scope (ledger.given numbers scope)) host
      ((host.putFile place document.toUTF8).record entries) := by
  set host' := (host.putFile place document.toUTF8).record entries with hhost
  have hfiles : host'.files = host.files.put place (.file document.toUTF8) := rfl
  have hopen' : host'.files.Opens path place := hfiles ▸ hopen.put hopen.notDirectory _
  have hnumbers' : numbersOf (host'.files.dataAt place) = .ok (ledger.advanced numbers scope) := by
    have hscoped := (scoped_of_numbersOf hnumbers).put scope
      (.number ((ledger.given numbers scope).toInt + 1))
    rw [hfiles, FileTree.dataAt_put_self hopen.ne_nil]
    exact numbersOf_toUTF8 hscoped hwrite
  have hs' : placeAt (ledger.after scope (ledger.given numbers scope)).numberStore = some path := hs
  refine ⟨fun path' hpath => ?_, fun other => ?_, hfiles ▸ FileTree.grown_put hopen.notDirectory _⟩
  · rw [hs'] at hpath
    obtain rfl := Option.some.inj hpath
    refine ⟨place, _, hopen', hnumbers', fun entry hentry => ?_⟩
    rcases Table.mem_or_eq_of_mem_put hentry with hmem | he
    · exact hlegible entry hmem
    · rw [he]
      exact hshort
  · rw [coming, coming, stored_of_opens hs' hopen' hnumbers', stored_of_opens hs hopen hnumbers,
      given, Counter.toInt_max, expected_after]
    by_cases h : other = scope
    · subst h
      rw [find?_advanced_self, if_pos rfl, if_pos rfl]
      exact Int.max_self _
    · rw [find?_advanced_of_ne _ _ (Ne.symm h), if_neg h, if_neg h, Int.add_zero]
      exact (Counter.toInt_max ..).symm

/-- **A number that is given out is the coming one**, and the next one comes then. -/
theorem outcome_nextNumber_coming (hr : ledger.Regular) (hl : ledger.Legible host)
    (hshort : placeAt ledger.numberStore ≠ none →
      isShort (ledger.coming host scope + 1) = true) :
    ∃ n host', (nextNumber (.str scope)).outcome (ledger, host) =
        (.ok n, ledger.after scope n, host') ∧ n.toInt = ledger.coming host scope ∧
      Advances scope ledger (ledger.after scope n) host host' := by
  cases hs : placeAt ledger.numberStore with
  | none =>
    have hcoming := hr.coming_of_not_stored hs host
    have hafter : (ledger.after scope (ledger.expected (.str scope))).Regular := by
      refine hr.put _ ?_
      have := hr.start_le_expected (.str scope)
      omega
    refine ⟨ledger.expected (.str scope), host, ?_, (hcoming scope).symm, ?_, fun other => ?_,
      .refl _⟩
    · have hkey : (Value.str scope).asKey = .ok (.str scope) := rfl
      rw [nextNumber, hkey, outcome_bind_ok (outcome_ofExcept _ _), outcome_bind_ok (outcome_get _)]
      simp only [hs]
      rfl
    · intro path hpath
      rw [after, hs] at hpath
      cases hpath
    · rw [hafter.coming_of_not_stored hs, expected_after, hcoming other]
      split
      · next h => rw [h]
      · exact (Int.add_zero _).symm
  | some path =>
    obtain ⟨place, numbers, hopen, hnumbers, hlegible⟩ := hl path hs
    have hstore := numberStore_eq_some hs
    have hcoming : (ledger.given numbers scope).toInt = ledger.coming host scope := by
      rw [coming, stored_of_opens hs hopen hnumbers]
    obtain ⟨document, hwrite⟩ : ∃ document,
        writeNumbers (ledger.advanced numbers scope) = .whole document := by
      refine exists_writeNumbers ((scoped_of_numbersOf hnumbers).put scope _) fun entry hentry => ?_
      rcases Table.mem_or_eq_of_mem_put hentry with hmem | he
      · exact hlegible entry hmem
      · rw [he, hcoming]
        exact hshort (by simp [hs])
    obtain ⟨entries, hout⟩ := outcome_nextNumber hstore hopen scope
    rw [hnumbers] at hout
    simp only [hwrite] at hout
    refine ⟨_, _, hout, hcoming, advances_after hs hopen hnumbers hlegible hwrite entries ?_⟩
    rw [hcoming]
    exact hshort (by simp [hs])

/-- A ledger that is ready to give out `n` more numbers of a scope. -/
structure Counts (ledger : Ledger) (host : Host) (scope : String) (n : Nat) : Prop where
  regular : ledger.Regular
  start : 0 ≤ ledger.start.toInt
  legible : ledger.Legible host
  short : placeAt ledger.numberStore ≠ none → isShort (ledger.coming host scope + n) = true

theorem Counts.zero_le_coming {n : Nat} (h : ledger.Counts host scope n) :
    0 ≤ ledger.coming host scope :=
  Int.le_trans h.start (h.regular.start_le_coming host scope)

theorem Counts.congr {host' : Host} {n : Nat} (h : ledger.Counts host scope n)
    (hf : host'.files = host.files) : ledger.Counts host' scope n where
  regular := h.regular
  start := h.start
  legible path hpath := by
    rw [hf]
    exact h.legible path hpath
  short hs := by
    rw [coming_congr hf]
    exact h.short hs

theorem Counts.mono {m n : Nat} (h : ledger.Counts host scope n) (hm : m ≤ n) :
    ledger.Counts host scope m where
  regular := h.regular
  start := h.start
  legible := h.legible
  short hs := by
    have hzero := h.zero_le_coming
    exact isShort_of_le (by omega) (by omega) (h.short hs)

/-- A ledger that is ready for one more number gives it out and is ready for the rest. -/
theorem Counts.next {n : Nat} (h : ledger.Counts host scope (n + 1)) :
    ∃ given host', (nextNumber (.str scope)).outcome (ledger, host) =
        (.ok given, ledger.after scope given, host') ∧ given.toInt = ledger.coming host scope ∧
      (ledger.after scope given).Counts host' scope n ∧
      Advances scope ledger (ledger.after scope given) host host' := by
  have hzero := h.zero_le_coming
  have hshort (hs : placeAt ledger.numberStore ≠ none) :
      isShort (ledger.coming host scope + 1) = true :=
    isShort_of_le (by omega) (by omega) (h.short hs)
  obtain ⟨given, host', hout, hgiven, hadvances⟩ :=
    outcome_nextNumber_coming h.regular h.legible hshort
  refine ⟨given, host', hout, hgiven, ⟨h.regular.put _ ?_, h.start, hadvances.legible, ?_⟩,
    hadvances⟩
  · have := h.regular.start_le_coming host scope
    omega
  · intro hs
    have hcoming := hadvances.coming scope
    rw [if_pos rfl] at hcoming
    rw [hcoming]
    refine isShort_of_le ?_ ?_ (h.short hs) <;> omega

/-! ## Reserving what is not on record -/

/-- What a ledger stores at once can be stored: the store opens, and all that is waiting can be
written. -/
def Storable (ledger : Ledger) (host : Host) : Prop :=
  ledger.flushOnReserve.truthy = true → ∀ path, placeAt ledger.store = some path →
    (∃ place, host.files.Opens path place) ∧ Writable ledger.uncached

/-- Identifiers and numbers are stored in different files, if they are stored. -/
def Apart (ledger : Ledger) (host : Host) : Prop :=
  ∀ path path', placeAt ledger.store = some path → placeAt ledger.numberStore = some path' →
    ∃ place place', host.files.Opens path place ∧ host.files.Opens path' place' ∧ place ≠ place'

theorem Apart.grown {numbers : Table Key Int} {host' : Host} (h : ledger.Apart host)
    (hg : host.files.Grown host'.files) : Apart { ledger with numbers } host' := by
  intro path path' hpath hpath'
  obtain ⟨place, place', hopen, hopen', hne⟩ := h path path' hpath hpath'
  exact ⟨place, place', hg.opens path place hopen, hg.opens path' place' hopen', hne⟩

/-- What reserving a text makes of a ledger: the text is on record with its data, and besides that
at most the file that identifiers are stored in is another. -/
structure Gains (key : String) (data : Value) (ledger ledger' : Ledger) (host host' : Host) :
    Prop where
  data? : ∀ other, ledger'.data? other = if other = key then some data else ledger.data? other
  same : ledger' = { ledger with cached := ledger'.cached, uncached := ledger'.uncached }
  files : host'.files = host.files ∨ ∃ path place bytes, placeAt ledger.store = some path ∧
    host.files.Opens path place ∧ host'.files = host.files.put place (.file bytes)

theorem data?_awaiting (hnew : ledger.registered key = false) (v : Value) (other : String) :
    (ledger.awaiting key v).data? other = if other = key then some v else ledger.data? other := by
  have hstranded := stranded_awaiting hnew v
  split
  · next he => rw [he, hstranded.data?_self]
  · next hne => exact hstranded.data?_of_ne other hne

/-- **What is not on record can be reserved**, and just that is on record then. -/
theorem outcome_reserve_fresh {data : Value} {entries : Table Key Value}
    (hd : Table.Distinct ledger.uncached) (hs : ledger.Storable host)
    (hnew : ledger.registered key = false) (hdata : dataOf data = .ok entries)
    (hwrite : ∃ document, Json.write (.map entries) = .ok document) :
    ∃ ledger' host', (reserve key data).outcome (ledger, host) = (.ok ⟨⟩, ledger', host') ∧
      Gains key (.map entries) ledger ledger' host host' := by
  have hwaiting : Gains key (.map entries) ledger (ledger.awaiting key (.map entries)) host host :=
    ⟨data?_awaiting hnew _, rfl, .inl rfl⟩
  rw [outcome_reserve_eq, if_neg (by simp [hnew]), hdata]
  dsimp only
  split
  · next hflush =>
    cases hplace : placeAt ledger.store with
    | none =>
      refine ⟨_, _, ?_, hwaiting⟩
      have hsame : placeAt (ledger.awaiting key (.map entries)).store = none := hplace
      rw [flush, outcome_bind_ok (outcome_get _)]
      simp [hsame]
    | some path =>
      obtain ⟨⟨place, hopen⟩, hwritable⟩ := hs hflush path hplace
      have hall : Writable (ledger.awaiting key (.map entries)).uncached := by
        intro p hp
        rcases Table.mem_or_eq_of_mem_put hp with hp | he
        · exact hwritable p hp
        · exact he ▸ hwrite
      refine ⟨_, _, outcome_flush hplace hopen (put_ne_nil _ _ _) hall, fun other => ?_, rfl,
        .inr ⟨path, place, _, hplace, hopen, rfl⟩⟩
      have hdistinct : Table.Distinct ((ledger.awaiting key (.map entries)).uncached ++ []) := by
        rw [List.append_nil]
        exact Table.distinct_put hd _ _
      have hmoved := data?_moved hdistinct (ledger.awaiting key (.map entries)) other
      rw [List.append_nil] at hmoved
      exact hmoved.trans (data?_awaiting hnew _ other)
  · exact ⟨_, _, rfl, hwaiting⟩

/-- Reserving an identifier makes no difference to the coming numbers, which are in another file. -/
theorem Gains.coming_eq {data : Value} {ledger' : Ledger} {host' : Host}
    (h : Gains key data ledger ledger' host host') (hl : ledger.Legible host)
    (ha : ledger.Apart host) (scope : String) :
    ledger'.coming host' scope = ledger.coming host scope := by
  have hstored : ledger'.stored host' = ledger.stored host := by
    have hs' : placeAt ledger'.numberStore = placeAt ledger.numberStore := by rw [h.same]
    rcases h.files with hsame | ⟨path, place, bytes, hstore, hopen, hput⟩
    · rw [stored, stored, hs', hsame]
    · cases hs : placeAt ledger.numberStore with
      | none => rw [stored, stored, hs', hs]
      | some path' =>
        obtain ⟨place', numbers, hopen', hnumbers, -⟩ := hl path' hs
        obtain ⟨one, two, hone, htwo, hne⟩ := ha path path' hstore hs
        obtain rfl := hone.place_eq hopen
        obtain rfl := htwo.place_eq hopen'
        have hkept : host'.files.Opens path' two := hput ▸ hopen'.put hopen.notDirectory bytes
        rw [stored_of_opens hs hopen' hnumbers]
        refine stored_of_opens (hs'.trans hs) hkept ?_
        rw [hput, FileTree.dataAt_put_of_ne (Ne.symm hne), hnumbers]
  rw [coming, coming, given, given, hstored, h.same]
  rfl

end PersistentId.Ledger
