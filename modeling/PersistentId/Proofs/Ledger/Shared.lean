import PersistentId.Proofs.Ledger.Persisted

/-!
# Ledgers that share a store

Of any number of ledgers that keep their identifiers in one store and flush on reserving, each
opened at any time, one after another reserves an identifier or reads the store again (`Move`,
`makeAll`). The events are kept in a log, the latest first.

A ledger decides by what it knows: what was issued before it last read the store, and what it has
issued itself since (`known`). That, and not what the store has meanwhile, is what its answers go by
(`Shared.explained`). So an identifier is issued twice just where a ledger reserves one that another
ledger issued after it last read the store; `shared_reservations` puts these together, and
`issued_twice` has two ledgers of which neither knows of the other's identifier.
-/

namespace PersistentId.Ledger

open PersistentId.Action

/-! ## Moves and events -/

/-- What is done with ledgers that share a store. -/
inductive Move where
  /-- One more ledger is opened. -/
  | open (opening : Opening)
  /-- The ledger of a number among those opened so far reserves an identifier. -/
  | reserve (i : Nat) (key : String) (data : Value)
  /-- The ledger of a number reads the store again. -/
  | reload (i : Nat)

/-- What came of it. -/
inductive Event where
  /-- The ledger of a number has read the store. -/
  | loaded (i : Nat)
  /-- The ledger of a number was to reserve an identifier. -/
  | tried (i : Nat) (key : String) (result : Except Fault Unit)

/-- Make a move. -/
def Move.make : Move → List Event × List Ledger × Host → List Event × List Ledger × Host
  | .open opening, (log, ledgers, host) =>
    match (create opening.directory opening.config opening.name).outcome host with
    | (.ok ledger, host) => (.loaded ledgers.length :: log, ledgers ++ [ledger], host)
    | (.error _, host) => (log, ledgers, host)
  | .reserve i key data, (log, ledgers, host) =>
    match ledgers[i]? with
    | some ledger =>
      let (result, ledger', host) := (Ledger.reserve key data).outcome (ledger, host)
      (.tried i key result :: log, ledgers.set i ledger', host)
    | none => (log, ledgers, host)
  | .reload i, (log, ledgers, host) =>
    match ledgers[i]? with
    | some ledger =>
      match Ledger.reload.outcome (ledger, host) with
      | (.ok _, ledger', host) => (.loaded i :: log, ledgers.set i ledger', host)
      | (.error _, ledger', host) => (log, ledgers.set i ledger', host)
    | none => (log, ledgers, host)

/-- Make moves one after another. -/
def makeAll (moves : List Move) (state : List Event × List Ledger × Host) :
    List Event × List Ledger × Host :=
  moves.foldl (fun state move => move.make state) state

/-- Whether a ledger that is opened keeps its store at a place and flushes on reserving, and whether
the store can hold what is reserved. -/
def Move.Fits (files : FileTree) (place : Path) : Move → Prop
  | .open opening =>
    ∀ tree ledger, configured tree opening.directory opening.config opening.name = .ok ledger →
      (∃ path, ledger.store = some path ∧ files.Opens path place) ∧
        ledger.flushOnReserve.truthy = true
  | .reserve _ key data => isKey key = true ∧ isData data = true
  | .reload _ => True

/-! ## What the log says -/

/-- The identifiers that were issued, the latest first. -/
def issued : List Event → List String
  | [] => []
  | .tried _ key (.ok _) :: log => key :: issued log
  | _ :: log => issued log

/-- The identifiers issued that a ledger knows of: those issued before it last read the store, and
its own since then. -/
def known (i : Nat) : List Event → List String
  | [] => []
  | .loaded j :: log => if j = i then issued log else known i log
  | .tried j key (.ok _) :: log => if j = i then key :: known i log else known i log
  | .tried _ _ (.error _) :: log => known i log

/-- What comes of reserving an identifier if some are known to be in use. -/
def answer (inUse : List String) (key : String) : Except Fault Unit :=
  if key ∈ inUse then .error (.alreadyIssued key) else .ok ⟨⟩

/-- Each answer in a log is given by what the ledger knew then. -/
def Explained (stored : List String) (log : List Event) : Prop :=
  ∀ i key result earlier, .tried i key result :: earlier <:+ log →
    result = answer (stored ++ known i earlier) key

/-- A ledger keeps its store at a place, has nothing waiting and holds the given identifiers. -/
structure Holds (files : FileTree) (place : Path) (inUse : List String) (ledger : Ledger) :
    Prop where
  store : ∃ path, ledger.store = some path ∧ files.Opens path place
  flushes : ledger.flushOnReserve.truthy = true
  flushed : ledger.uncached = []
  keys : ∀ key, key ∈ Table.keys ledger.cached ↔ key ∈ inUse

/-- The store holds all that was issued, and each ledger what it knows of. -/
structure Shared (place : Path) (stored : List String) (log : List Event) (ledgers : List Ledger)
    (host : Host) : Prop where
  ended : Ended (host.files.dataAt place)
  reads : ∃ table, storeOf (host.files.dataAt place) = .ok table ∧
    ∀ key, key ∈ Table.keys table ↔ key ∈ stored ++ issued log
  holds : ∀ i ledger, ledgers[i]? = some ledger →
    Holds host.files place (stored ++ known i log) ledger
  explained : Explained stored log

variable {place : Path} {stored inUse : List String} {log : List Event} {ledgers : List Ledger}
  {ledger : Ledger} {host : Host} {i : Nat} {key : String}

/-! ### Adding an event -/

theorem Explained.loaded (h : Explained stored log) (i : Nat) :
    Explained stored (.loaded i :: log) := by
  intro j key result earlier hsuffix
  rcases List.suffix_cons_iff.1 hsuffix with heq | hsuffix
  · cases heq
  · exact h j key result earlier hsuffix

theorem Explained.tried (h : Explained stored log) (i : Nat) (key : String) :
    Explained stored (.tried i key (answer (stored ++ known i log) key) :: log) := by
  intro j other result earlier hsuffix
  rcases List.suffix_cons_iff.1 hsuffix with heq | hsuffix
  · cases heq
    rfl
  · exact h j other result earlier hsuffix

/-! ## One ledger -/

theorem Holds.mono {files files' : FileTree} (h : Holds files place inUse ledger)
    (hg : files.Grown files') : Holds files' place inUse ledger := by
  obtain ⟨path, hs, hopen⟩ := h.store
  exact ⟨⟨path, hs, hg.opens _ _ hopen⟩, h.flushes, h.flushed, h.keys⟩

theorem Holds.registered_iff {files : FileTree} (h : Holds files place inUse ledger)
    (key : String) : ledger.registered key = true ↔ key ∈ inUse := by
  rw [registered_eq_has, entries, h.flushed, List.append_nil, Table.has_eq_true_iff, h.keys]

/-- An identifier that the ledger holds cannot be reserved. -/
theorem Holds.reserve_of_mem (h : Holds host.files place inUse ledger) (hkey : key ∈ inUse)
    (data : Value) :
    (reserve key data).outcome (ledger, host) = (answer inUse key, ledger, host) := by
  rw [answer, if_pos hkey]
  exact outcome_reserve_of_registered ((h.registered_iff key).2 hkey) data host

/-- One that it does not hold is reserved, whatever the store has. -/
theorem Holds.reserve_of_not_mem (h : Holds host.files place inUse ledger) (hkey : key ∉ inUse)
    {data : Value} (hd : isData data = true) :
    ∃ ledger' host',
      (reserve key data).outcome (ledger, host) = (answer inUse key, ledger', host') ∧
      host'.files = extended host.files place [(key, data)] ∧
      Holds host.files place (key :: inUse) ledger' := by
  obtain ⟨path, hs, hopen⟩ := h.store
  obtain ⟨members, rfl, -⟩ := exists_of_isData hd
  have hnew : ledger.registered key = false := by
    rw [← Bool.not_eq_true, h.registered_iff]
    exact hkey
  have hreserve := outcome_reserve hnew members host
  rw [if_pos h.flushes, h.flushed] at hreserve
  refine ⟨{ ledger with cached := Table.put ledger.cached key (.map members), uncached := [] },
    host.putFile place (host.files.dataAt place ++ (writeLines [(key, .map members)]).toUTF8), ?_,
    rfl, ⟨path, hs, hopen⟩, h.flushes, rfl, fun other => ?_⟩
  · have hwritable : Writable [(key, Value.map members)] :=
      List.forall_mem_singleton.2 ⟨_, write_eq_ok_of_isData hd⟩
    rw [answer, if_neg hkey]
    exact hreserve.trans (outcome_flush (placeAt_store hs hopen) hopen (by simp [Table.put])
      hwritable)
  · rw [Table.mem_keys_put, h.keys, List.mem_cons, or_comm]

/-! ## Steps -/

/-- The ledgers after one of them has changed. -/
theorem Shared.holds_set (h : Shared place stored log ledgers host) {files : FileTree}
    (hg : host.files.Grown files) {log' : List Event} {ledger' : Ledger}
    (hledger : Holds files place (stored ++ known i log') ledger')
    (hothers : ∀ j, j ≠ i → known j log' = known j log) (j : Nat) (other : Ledger)
    (hj : (ledgers.set i ledger')[j]? = some other) :
    Holds files place (stored ++ known j log') other := by
  rw [List.getElem?_set] at hj
  split at hj
  · next hij =>
    subst hij
    split at hj
    · rwa [← Option.some.inj hj]
    · cases hj
  · next hij =>
    rw [hothers j (Ne.symm hij)]
    exact (h.holds j other hj).mono hg

/-- **Reserving an identifier is answered by what the ledger knows.** -/
theorem Shared.reserve (h : Shared place stored log ledgers host) (hi : ledgers[i]? = some ledger)
    (hk : isKey key = true) {data : Value} (hd : isData data = true) :
    ∃ ledger' host', (Ledger.reserve key data).outcome (ledger, host) =
        (answer (stored ++ known i log) key, ledger', host') ∧
      host.files.Grown host'.files ∧
      Shared place stored (.tried i key (answer (stored ++ known i log) key) :: log)
        (ledgers.set i ledger') host' := by
  have hledger := h.holds i ledger hi
  obtain ⟨table, hreads, hkeys⟩ := h.reads
  by_cases hkey : key ∈ stored ++ known i log
  · have hanswer : answer (stored ++ known i log) key = .error (.alreadyIssued key) := if_pos hkey
    refine ⟨ledger, host, hledger.reserve_of_mem hkey data, .refl _, h.ended, ⟨table, hreads, ?_⟩,
      h.holds_set (.refl _) ?_ ?_, h.explained.tried i key⟩
    · simpa [hanswer, issued] using hkeys
    · rw [hanswer]
      exact hledger
    · intro j hj
      rw [hanswer, known]
  · have hanswer : answer (stored ++ known i log) key = .ok ⟨⟩ := if_neg hkey
    obtain ⟨ledger', host', hout, hfiles, hholds⟩ := hledger.reserve_of_not_mem hkey hd
    obtain ⟨path, -, hopen⟩ := hledger.store
    have hgrown : host.files.Grown host'.files :=
      hfiles ▸ FileTree.grown_put hopen.notDirectory _
    have hlasting : Lasting [(key, data)] := by
      intro p hp
      obtain rfl := List.mem_singleton.1 hp
      exact ⟨hk, hd⟩
    have hdata : host'.files.dataAt place =
        host.files.dataAt place ++ (writeLines [(key, data)]).toUTF8 := by
      rw [hfiles, extended, FileTree.dataAt_put_self hopen.ne_nil]
    obtain ⟨hreads', hended'⟩ := storeOf_append hreads h.ended hlasting
    rw [← hdata] at hreads' hended'
    refine ⟨ledger', host', hout, hgrown, hended', ⟨_, hreads', fun other => ?_⟩,
      h.holds_set hgrown ?_ ?_, h.explained.tried i key⟩
    · -- the store may have had the key before, which the ledger does not look for
      show other ∈ Table.keys (Table.put table key data) ↔ _
      rw [Table.mem_keys_put, hkeys, hanswer, issued]
      simp only [List.mem_append, List.mem_cons]
      tauto
    · rw [hanswer, known, if_pos rfl]
      refine ⟨(hholds.mono hgrown).store, hholds.flushes, hholds.flushed, fun other => ?_⟩
      rw [hholds.keys]
      simp only [List.mem_append, List.mem_cons]
      tauto
    · intro j hj
      rw [hanswer, known, if_neg (Ne.symm hj)]

/-- **A ledger that reads the store again knows all that was issued**; if the store cannot be read,
nothing has changed. -/
theorem Shared.reload (h : Shared place stored log ledgers host) (hi : ledgers[i]? = some ledger) :
    ∃ result ledger' host', Ledger.reload.outcome (ledger, host) = (result, ledger', host') ∧
      host'.files = host.files ∧
      ((result = .ok ⟨⟩ ∧ Shared place stored (.loaded i :: log) (ledgers.set i ledger') host') ∨
        ((∃ fault, result = .error fault) ∧
          Shared place stored log (ledgers.set i ledger') host')) := by
  have hledger := h.holds i ledger hi
  obtain ⟨path, hs, hopen⟩ := hledger.store
  obtain ⟨table, hreads, hkeys⟩ := h.reads
  obtain ⟨entries, hreload⟩ := outcome_reload hs host
  rw [hopen.contents] at hreload
  by_cases hnode : host.files.node? place = none
  · rw [if_pos hnode] at hreload
    refine ⟨_, ledger, _, hreload, rfl, .inr ⟨⟨_, rfl⟩, h.ended, h.reads, ?_, h.explained⟩⟩
    exact h.holds_set (.refl _) hledger fun _ _ => rfl
  · rw [if_neg hnode] at hreload
    simp only [Except.bind, hreads] at hreload
    refine ⟨_, _, _, hreload, rfl, .inl ⟨rfl, h.ended, ⟨table, hreads, hkeys⟩, ?_,
      h.explained.loaded i⟩⟩
    refine h.holds_set (.refl _) ?_ fun j hj => by rw [known, if_neg (Ne.symm hj)]
    rw [known, if_pos rfl]
    exact ⟨⟨path, hs, hopen⟩, hledger.flushes, hledger.flushed, hkeys⟩

/-- **A ledger that is opened knows all that was issued.** -/
theorem Shared.open (h : Shared place stored log ledgers host) {opening : Opening}
    (hs : (Move.open opening).Fits host.files place) {host' : Host}
    (hopen : (create opening.directory opening.config opening.name).outcome host =
      (.ok ledger, host')) :
    Shared place stored (.loaded ledgers.length :: log) (ledgers ++ [ledger]) host' := by
  obtain ⟨blank, _, _, hblank, -, -⟩ := configured_of_create hopen
  obtain ⟨⟨path, hpath, hplace⟩, hflushes⟩ := hs _ blank hblank
  obtain ⟨table, hreads, hkeys⟩ := h.reads
  obtain ⟨entries, hcreate⟩ := outcome_create hblank hpath hplace
  rw [hopen, hreads] at hcreate
  obtain ⟨hledger, rfl⟩ := Prod.mk.inj hcreate
  obtain rfl := Except.ok.inj hledger
  refine ⟨h.ended, ⟨table, hreads, hkeys⟩, fun j other hj => ?_, h.explained.loaded _⟩
  rcases Nat.lt_trichotomy j ledgers.length with hlt | rfl | hgt
  · rw [List.getElem?_append_left hlt] at hj
    rw [known, if_neg (Nat.ne_of_gt hlt)]
    exact h.holds j other hj
  · rw [List.getElem?_concat_length] at hj
    rw [known, if_pos rfl, ← Option.some.inj hj]
    exact ⟨⟨path, hpath, hplace⟩, hflushes, (configured_eq_ok hblank).2.1, hkeys⟩
  · rw [List.getElem?_eq_none (by simp; omega)] at hj
    cases hj

theorem Move.Fits.mono {files files' : FileTree} {move : Move} (h : move.Fits files place)
    (hg : files.Grown files') : move.Fits files' place := by
  cases move with
  | «open» opening =>
    intro tree ledger hl
    obtain ⟨⟨path, hpath, hopen⟩, hflushes⟩ := h tree ledger hl
    exact ⟨⟨path, hpath, hg.opens path place hopen⟩, hflushes⟩
  | reserve => exact h
  | reload => trivial

/-- **A move keeps the ledgers to what they know.** -/
theorem Shared.make (h : Shared place stored log ledgers host) {move : Move}
    (hfit : move.Fits host.files place) :
    ∃ log' ledgers' host', move.make (log, ledgers, host) = (log', ledgers', host') ∧
      host.files.Grown host'.files ∧ Shared place stored log' ledgers' host' := by
  cases move with
  | «open» opening =>
    obtain ⟨result, entries, hcreate, -⟩ :=
      exists_of_create opening.directory opening.config opening.name host
    cases result with
    | error fault =>
      exact ⟨log, ledgers, host.record entries, by simp only [Move.make, hcreate], .refl _,
        h.ended, h.reads, h.holds, h.explained⟩
    | ok ledger =>
      exact ⟨_, _, host.record entries, by simp only [Move.make, hcreate], .refl _,
        h.open hfit hcreate⟩
  | reserve i key data =>
    cases hi : ledgers[i]? with
    | none => exact ⟨log, ledgers, host, by simp only [Move.make, hi], .refl _, h⟩
    | some ledger =>
      obtain ⟨ledger', host', hout, hgrown, hshared⟩ := h.reserve hi hfit.1 hfit.2
      exact ⟨_, _, host', by simp only [Move.make, hi, hout], hgrown, hshared⟩
  | reload i =>
    cases hi : ledgers[i]? with
    | none => exact ⟨log, ledgers, host, by simp only [Move.make, hi], .refl _, h⟩
    | some ledger =>
      obtain ⟨result, ledger', host', hout, hfiles, hcases⟩ := h.reload hi
      have hgrown : host.files.Grown host'.files := hfiles ▸ .refl _
      rcases hcases with ⟨rfl, hshared⟩ | ⟨⟨fault, rfl⟩, hshared⟩
      · exact ⟨_, _, host', by simp only [Move.make, hi, hout], hgrown, hshared⟩
      · exact ⟨_, _, host', by simp only [Move.make, hi, hout], hgrown, hshared⟩

/-- **Moves keep the ledgers to what they know.** -/
theorem Shared.makeAll (h : Shared place stored log ledgers host) {moves : List Move}
    (hfit : ∀ move ∈ moves, move.Fits host.files place) :
    ∃ log' ledgers' host', Ledger.makeAll moves (log, ledgers, host) = (log', ledgers', host') ∧
      Shared place stored log' ledgers' host' := by
  induction moves generalizing log ledgers host with
  | nil => exact ⟨log, ledgers, host, rfl, h⟩
  | cons move moves ih =>
    obtain ⟨hmove, hrest⟩ := List.forall_mem_cons.1 hfit
    obtain ⟨log₁, ledgers₁, host₁, hmake, hgrown, hnext⟩ := h.make hmove
    obtain ⟨log', ledgers', host', hall, hlast⟩ :=
      ih hnext fun move hmem => (hrest move hmem).mono hgrown
    exact ⟨log', ledgers', host', by rw [Ledger.makeAll, List.foldl_cons, hmake]; exact hall, hlast⟩

/-! ## Identifiers issued twice -/

/-- Nothing is issued twice exactly if no ledger is to reserve what another one has issued after it
last read the store. -/
theorem Explained.nodup_issued_iff (h : Explained stored log) :
    (issued log).Nodup ↔ ∀ i key result earlier, .tried i key result :: earlier <:+ log →
      key ∈ issued earlier → key ∈ stored ++ known i earlier := by
  induction log with
  | nil => simp [issued]
  | cons event log ih =>
    have hlog : Explained stored log := fun i key result earlier hsuffix =>
      h i key result earlier (List.suffix_cons_iff.2 (.inr hsuffix))
    simp only [List.suffix_cons_iff, or_imp, forall_and, ← ih hlog]
    cases event with
    | loaded j => simp [issued]
    | tried j other answered =>
      -- only the last event can have issued an identifier again
      have hanswered := h j other answered log (List.suffix_refl _)
      have hlast : (∀ i key result earlier,
          Event.tried i key result :: earlier = .tried j other answered :: log →
            key ∈ issued earlier → key ∈ stored ++ known i earlier) ↔
          (other ∈ issued log → other ∈ stored ++ known j log) := by
        constructor
        · intro hall
          exact hall j other answered log rfl
        · rintro hone i key result earlier heq
          cases heq
          exact hone
      rw [hlast]
      by_cases hother : other ∈ stored ++ known j log
      · rw [hanswered, answer, if_pos hother]
        simp [issued, hother]
      · rw [hanswered, answer, if_neg hother, issued, List.nodup_cons]
        simp [hother]

/-- **What comes of reservations at a shared store.** Each is answered by what the ledger knows: an
identifier is refused if it was in the store at first, if it was issued before the ledger last read
the store, or if the ledger has issued it since, and else it is issued. All that was issued is in
the store. Nothing is issued twice exactly if no ledger is to reserve what another one has issued
after it last read the store. -/
theorem shared_reservations {table : Table String Value}
    (hreads : storeOf (host.files.dataAt place) = .ok table)
    (hended : Ended (host.files.dataAt place)) (moves : List Move)
    (hfit : ∀ move ∈ moves, move.Fits host.files place) :
    ∃ log ledgers' host', makeAll moves ([], [], host) = (log, ledgers', host') ∧
      (∀ i key result earlier, .tried i key result :: earlier <:+ log →
        result = if key ∈ Table.keys table ++ known i earlier then .error (.alreadyIssued key)
          else .ok ⟨⟩) ∧
      (∃ table', storeOf (host'.files.dataAt place) = .ok table' ∧
        ∀ key, key ∈ Table.keys table' ↔ key ∈ Table.keys table ++ issued log) ∧
      ((issued log).Nodup ↔ ∀ i key result earlier, .tried i key result :: earlier <:+ log →
        key ∈ issued earlier → key ∈ Table.keys table ++ known i earlier) := by
  have hnew : Shared place (Table.keys table) [] [] host :=
    ⟨hended, ⟨table, hreads, by simp [issued]⟩, by simp, by simp [Explained]⟩
  obtain ⟨log, ledgers', host', hall, hshared⟩ := hnew.makeAll hfit
  exact ⟨log, ledgers', host', hall, hshared.explained, hshared.reads,
    hshared.explained.nodup_issued_iff⟩

/-- The configuration of ledgers that share a store. -/
def sharing : Move :=
  .open ⟨.str "/d", twoFiles true, .null⟩

theorem sharing_fits : sharing.Fits storeroom.files ["d", "s"] :=
  fun _ _ h => ⟨⟨"/d/s", eq_keeper_of_configured h ▸ rfl, storeroom_opens⟩,
    eq_keeper_of_configured h ▸ rfl⟩

/-- Two ledgers reserve an identifier, the second one having read the store again in between. -/
def watchedMoves : List Move :=
  [sharing, sharing, .reserve 0 "doi:10.5072/a" (.map []), .reload 1,
    .reserve 1 "doi:10.5072/a" (.map []), .reserve 1 "doi:10.5072/b" (.map [])]

theorem shared_reservations_storeroom :
    (storeOf (storeroom.files.dataAt ["d", "s"]) = .ok [] ∧
        Ended (storeroom.files.dataAt ["d", "s"]) ∧
        ∀ move ∈ watchedMoves, move.Fits storeroom.files ["d", "s"]) ∧
      ∃ log ledgers host, makeAll watchedMoves ([], [], storeroom) = (log, ledgers, host) ∧
        issued log = ["doi:10.5072/b", "doi:10.5072/a"] ∧
        ∀ i key result earlier, .tried i key result :: earlier <:+ log →
          key ∈ issued earlier → key ∈ known i earlier := by
  have hreads : storeOf (storeroom.files.dataAt ["d", "s"]) = .ok [] := storeOf_empty
  have hfit : ∀ move ∈ watchedMoves, move.Fits storeroom.files ["d", "s"] := by
    simp only [watchedMoves, List.forall_mem_cons]
    exact ⟨sharing_fits, sharing_fits, ⟨by decide, by decide⟩, trivial, ⟨by decide, by decide⟩,
      ⟨by decide, by decide⟩, by simp⟩
  have hissued : issued (makeAll watchedMoves ([], [], storeroom)).1 =
      ["doi:10.5072/b", "doi:10.5072/a"] := by
    decide +kernel
  obtain ⟨log, ledgers, host, hall, -, -, hnodup⟩ :=
    shared_reservations hreads storeroom_ended watchedMoves hfit
  rw [hall] at hissued
  refine ⟨⟨hreads, storeroom_ended, hfit⟩, log, ledgers, host, hall, hissued, ?_⟩
  exact hnodup.1 (by rw [hissued]; decide)

/-- Two ledgers reserve an identifier one after the other. -/
def racingMoves : List Move :=
  [sharing, sharing, .reserve 0 "doi:10.5072/a" (.map []), .reserve 1 "doi:10.5072/a" (.map [])]

/-- **Ledgers that share a store may issue an identifier twice.** -/
theorem issued_twice :
    ¬ ∀ moves : List Move, (∀ move ∈ moves, move.Fits storeroom.files ["d", "s"]) →
      (issued (makeAll moves ([], [], storeroom)).1).Nodup := by
  intro h
  have hfit : ∀ move ∈ racingMoves, move.Fits storeroom.files ["d", "s"] := by
    simp only [racingMoves, List.forall_mem_cons]
    exact ⟨sharing_fits, sharing_fits, ⟨by decide, by decide⟩, ⟨by decide, by decide⟩, by simp⟩
  have hissued : issued (makeAll racingMoves ([], [], storeroom)).1 =
      ["doi:10.5072/a", "doi:10.5072/a"] := by
    decide +kernel
  have hnodup := h racingMoves hfit
  rw [hissued] at hnodup
  exact absurd hnodup (by decide)

end PersistentId.Ledger
