import PersistentId.Proofs.Ledger.Current
import PersistentId.Proofs.Ledger.Torn
import PersistentId.Proofs.Text.Search

/-!
# Going on with a store that was cut off

Reserving and flushing only ever add lines to a store (`Adds.run`), whatever stands there already.
So a store that was empty at first holds the lines of what is on record (`written_of_run`), and what
is reserved after a store has been cut off stands behind what was left of it. `resumed_of_cut` says
what a ledger has then that is opened on the result: all of it if the store was cut between two
lines; otherwise the line that was added first is read as one with the torn line, and its identifier
is lost (`not_forall_registered_of_cut`).
-/

namespace PersistentId.Ledger

open PersistentId.Action

/-! ## Adding lines -/

/-- What stands at a place is what stood there in some files, and the lines of what has come to be
cached since. -/
structure Adds (files : FileTree) (place : Path) (base : Table String Value) (ledger : Ledger)
    (host : Host) : Prop where
  opens : ∃ path, ledger.store = some path ∧ files.Opens path place
  grown : files.Grown host.files
  distinct : Table.Distinct ledger.entries
  added : ∃ more, ledger.cached = base ++ more ∧
    host.files.dataAt place = files.dataAt place ++ (writeLines more).toUTF8 ∧
      Lasting (more ++ ledger.uncached)

namespace Deed

/-- Whether a deed does nothing but add to the store, and the store can hold what it adds. -/
def adds : Deed → Bool
  | .reload => false
  | deed => deed.fits

end Deed

variable {files : FileTree} {place : Path} {base : Table String Value} {ledger : Ledger}
  {host : Host}

namespace Adds

/-- A ledger with nothing waiting has added nothing yet. -/
theorem refl {path : String} (hs : ledger.store = some path) (hopen : host.files.Opens path place)
    (hu : ledger.uncached = []) (hdistinct : Table.Distinct ledger.cached) :
    Adds host.files place ledger.cached ledger host := by
  refine ⟨⟨path, hs, hopen⟩, .refl _, by rwa [entries, hu, List.append_nil], [], ?_, ?_, ?_⟩
  · rw [List.append_nil]
  · simp [writeLines]
  · rw [hu]
    exact fun p hp => absurd hp List.not_mem_nil

theorem flush (h : Adds files place base ledger host) :
    ∃ host', flush.outcome (ledger, host) =
        (.ok ⟨⟩, { ledger with cached := ledger.entries, uncached := [] }, host') ∧
      Adds files place base { ledger with cached := ledger.entries, uncached := [] } host' := by
  obtain ⟨path, hs, hplace⟩ := h.opens
  obtain ⟨more, hcached, hdata, hlasting⟩ := h.added
  have hopen := h.grown.opens _ _ hplace
  have hdistinct : Table.Distinct
      ({ ledger with cached := ledger.entries, uncached := [] } : Ledger).entries := by
    simpa [entries] using h.distinct
  by_cases hu : ledger.uncached = []
  · obtain ⟨entries, hflush⟩ := outcome_flush_of_isEmpty hs hopen hu
    have heta : { ledger with cached := ledger.entries, uncached := [] } = ledger := by
      rw [Ledger.entries, hu, List.append_nil, ← hu]
    rw [heta]
    exact ⟨_, hflush, h.opens, h.grown, h.distinct, more, hcached, hdata, hlasting⟩
  · have hwritable : Writable ledger.uncached :=
      Lasting.writable fun p hp => hlasting p (List.mem_append_right _ hp)
    have hflush := outcome_flush (placeAt_store hs hopen) hopen hu hwritable
    rw [Table.putAll_eq_append h.distinct] at hflush
    refine ⟨_, hflush, ⟨path, hs, hplace⟩, h.grown.trans (FileTree.grown_put hopen.notDirectory _),
      hdistinct, more ++ ledger.uncached, ?_, ?_, by rwa [List.append_nil]⟩
    · rw [entries, hcached, List.append_assoc]
    · rw [Host.putFile_files, FileTree.dataAt_put_self hopen.ne_nil, hdata]
      rw [writeLines_append, ByteArray.append_assoc]
      exact congrArg (files.dataAt place ++ ·) String.toByteArray_append.symm

/-- The ledger in which one more identifier is waiting. -/
theorem wait (h : Adds files place base ledger host) {key : String} {data : Value}
    (hnew : ledger.registered key = false) (hk : isKey key = true) (hd : isData data = true) :
    Adds files place base { ledger with uncached := ledger.uncached ++ [(key, data)] } host := by
  obtain ⟨more, hcached, hdata, hlasting⟩ := h.added
  refine ⟨h.opens, h.grown, distinct_wait h.distinct hnew data, more, hcached, hdata, ?_⟩
  rw [← List.append_assoc]
  exact lasting_wait hlasting hk hd

theorem reserve (h : Adds files place base ledger host) {key : String} {data : Value}
    (hnew : ledger.registered key = false) (hk : isKey key = true) (hd : isData data = true) :
    ∃ cached uncached host', (reserve key data).outcome (ledger, host) =
        (.ok ⟨⟩, { ledger with cached, uncached }, host') ∧
      Adds files place base { ledger with cached, uncached } host' ∧
      cached ++ uncached = ledger.entries ++ [(key, data)] ∧
      (ledger.flushOnReserve.truthy = true → uncached = []) := by
  have hwait := h.wait hnew hk hd
  obtain ⟨members, rfl, -⟩ := exists_of_isData hd
  have hreserve := outcome_reserve hnew members host
  rw [put_uncached hnew] at hreserve
  split at hreserve
  · obtain ⟨host', hflush, hadds⟩ := hwait.flush
    exact ⟨_, _, host', hreserve.trans hflush, hadds, by simp [entries], fun _ => rfl⟩
  · next hf =>
    exact ⟨ledger.cached, _, host, hreserve, hwait, by simp [entries], fun ht => absurd ht hf⟩

/-- A ledger that flushes adds a new identifier to its store at once. -/
theorem reserve_of_flushes (h : Adds files place base ledger host)
    (hflush : ledger.flushOnReserve.truthy = true) (hu : ledger.uncached = []) {key : String}
    {data : Value} (hnew : key ∉ Table.keys ledger.cached) (hk : isKey key = true)
    (hd : isData data = true) :
    ∃ host', (Ledger.reserve key data).outcome (ledger, host) =
        (.ok ⟨⟩, { ledger with cached := ledger.cached ++ [(key, data)] }, host') ∧
      Adds files place base { ledger with cached := ledger.cached ++ [(key, data)] } host' := by
  have hreg : ledger.registered key = false := by
    rw [registered_eq_has, entries, hu, List.append_nil, ← Bool.not_eq_true, Table.has_eq_true_iff]
    exact hnew
  obtain ⟨cached, uncached, host', hout, hadds, heq, hf⟩ := h.reserve hreg hk hd
  rw [hf hflush, entries, hu, List.append_nil, List.append_nil] at heq
  have hsame : { ledger with cached, uncached } =
      { ledger with cached := ledger.cached ++ [(key, data)] } := by
    simp only [hf hflush, heq, hu]
  rw [hsame] at hout hadds
  exact ⟨host', hout, hadds⟩

/-- **A deed adds lines to the store** or leaves it as it is. -/
theorem deed (h : Adds files place base ledger host) {deed : Deed} (hadds : deed.adds = true) :
    ∃ result cached uncached host', deed.act.outcome (ledger, host) =
        (result, { ledger with cached, uncached }, host') ∧
      Adds files place base { ledger with cached, uncached } host' ∧
      cached ++ uncached = ledger.entries ++ deed.issued result ∧
      (ledger.flushOnReserve.truthy = true → ledger.uncached = [] → uncached = []) := by
  cases deed with
  | reserve key data =>
    obtain ⟨hk, hd⟩ := (Bool.and_eq_true _ _).mp hadds
    cases hreg : ledger.registered key with
    | true =>
      exact ⟨_, _, _, host, outcome_reserve_of_registered hreg data host, h,
        (List.append_nil _).symm, fun _ hu => hu⟩
    | false =>
      obtain ⟨cached, uncached, host', hout, hadds, heq, hf⟩ := h.reserve hreg hk hd
      exact ⟨_, cached, uncached, host', hout, hadds, heq, fun ht _ => hf ht⟩
  | flush =>
    obtain ⟨host', hout, hadds⟩ := h.flush
    exact ⟨_, _, _, host', hout, hadds, by simp [Deed.issued], fun _ _ => rfl⟩
  | reload => cases hadds

/-- **A run adds the lines of what it issues**, and perhaps of what was waiting before. -/
theorem run (h : Adds files place base ledger host) {deeds : List Deed}
    (hadds : ∀ deed ∈ deeds, deed.adds = true) :
    ∃ issued ledger' host', Ledger.run deeds (ledger, host) = (issued, ledger', host') ∧
      Adds files place base ledger' host' ∧ ledger'.entries = ledger.entries ++ issued ∧
      (ledger.flushOnReserve.truthy = true → ledger.uncached = [] → ledger'.uncached = []) :=
  run_of_deed Adds.deed h hadds

/-- **New identifiers are all issued**, and are in the store at once if the ledger flushes. -/
theorem run_of_new (h : Adds files place base ledger host)
    (hflush : ledger.flushOnReserve.truthy = true) (hu : ledger.uncached = [])
    {more : Table String Value} (hmore : Lasting more)
    (hdistinct : Table.Distinct (ledger.cached ++ more)) :
    ∃ host', Ledger.run (more.map fun p => .reserve p.1 p.2) (ledger, host) =
        (more, { ledger with cached := ledger.cached ++ more }, host') ∧
      Adds files place base { ledger with cached := ledger.cached ++ more } host' := by
  induction more generalizing ledger host with
  | nil =>
    simp only [List.append_nil]
    exact ⟨host, rfl, h⟩
  | cons p more ih =>
    obtain ⟨⟨hk, hd⟩, hrest⟩ := List.forall_mem_cons.1 hmore
    have hnew : p.1 ∉ Table.keys ledger.cached := fun hm => by
      have hnodup := Table.nodup_keys.2 hdistinct
      rw [Table.keys_append, List.nodup_append] at hnodup
      exact hnodup.2.2 _ hm _ (by simp [Table.keys]) rfl
    obtain ⟨host₁, hout, hadds⟩ := h.reserve_of_flushes hflush hu hnew hk hd
    obtain ⟨host', hrun, hlast⟩ := ih hadds hflush hu hrest (by simpa using hdistinct)
    simp only [List.append_assoc, List.singleton_append] at hrun hlast
    refine ⟨host', ?_, hlast⟩
    rw [List.map_cons, Ledger.run, Deed.act, hout]
    simp only [hrun]
    rfl

end Adds

/-! ## Opening a ledger on a store -/

/-- Opening a ledger as given. -/
def Opening.create (opening : Opening) : Action Host Ledger :=
  Ledger.create opening.directory opening.config opening.name

/-- A ledger that is opened as given is configured so, with its store at a place. -/
structure Opening.StoresAt (opening : Opening) (files : FileTree) (place : Path)
    (blank : Ledger) : Prop where
  configured : configured files opening.directory opening.config opening.name = .ok blank
  opens : ∃ path, blank.store = some path ∧ files.Opens path place

namespace Opening.StoresAt

variable {opening : Opening} {blank : Ledger}

theorem mono {files' : FileTree} (h : opening.StoresAt files place blank)
    (hg : files.Grown files') : opening.StoresAt files' place blank := by
  obtain ⟨path, hs, hplace⟩ := h.opens
  exact ⟨configured_mono hg h.configured, path, hs, hg.opens _ _ hplace⟩

/-- Opening comes to reading the store. -/
theorem outcome (h : opening.StoresAt host.files place blank) :
    ∃ entries, opening.create.outcome host =
      match storeOf (host.files.dataAt place) with
      | .ok table => (.ok { blank with cached := table }, host.record entries)
      | .error fault => (.error fault, host.record entries) := by
  obtain ⟨path, hs, hplace⟩ := h.opens
  exact outcome_create h.configured hs hplace

theorem data?_eq (h : opening.StoresAt files place blank) (table : Table String Value)
    (key : String) :
    ({ blank with cached := table } : Ledger).data? key = Table.find? table key := by
  simp [data?, (configured_eq_ok h.configured).2.1]

theorem registered_iff (h : opening.StoresAt files place blank) (table : Table String Value)
    (key : String) :
    ({ blank with cached := table } : Ledger).registered key = true ↔ key ∈ Table.keys table := by
  rw [registered, h.data?_eq, ← Table.has, Table.has_eq_true_iff]

/-- A ledger that has been opened has what its store says, and has added nothing yet. -/
theorem exists_adds (h : opening.StoresAt host.files place blank) {table : Table String Value}
    (hstore : storeOf (host.files.dataAt place) = .ok table) :
    ∃ host', opening.create.outcome host = (.ok { blank with cached := table }, host') ∧
      Adds host.files place table { blank with cached := table } host' := by
  obtain ⟨path, hs, hplace⟩ := h.opens
  obtain ⟨journal, hcreate⟩ := h.outcome
  rw [hstore] at hcreate
  refine ⟨_, hcreate, ?_⟩
  exact Adds.refl (show Ledger.store { blank with cached := table } = some path from hs)
    (show (host.record journal).files.Opens path place from hplace)
    (configured_eq_ok h.configured).2.1 (distinct_of_storeOf hstore)

/-- **A ledger adds the lines of what it issues to its store**, if it flushes on reserving. -/
theorem exists_run (h : opening.StoresAt host.files place blank)
    (hflush : blank.flushOnReserve.truthy = true) {table : Table String Value}
    (hstore : storeOf (host.files.dataAt place) = .ok table) {deeds : List Deed}
    (hdeeds : ∀ deed ∈ deeds, deed.adds = true) :
    ∃ host₁ more ledger' host', opening.create.outcome host =
        (.ok { blank with cached := table }, host₁) ∧
      run deeds ({ blank with cached := table }, host₁) = (more, ledger', host') ∧
      host.files.Grown host'.files ∧
      host'.files.dataAt place = host.files.dataAt place ++ (writeLines more).toUTF8 ∧
      Lasting more ∧ Table.Distinct (table ++ more) := by
  obtain ⟨host₁, hcreate, hadds⟩ := h.exists_adds hstore
  obtain ⟨more, ledger', host', hrun, hlast, hentries, hf⟩ := hadds.run hdeeds
  have hu := (configured_eq_ok h.configured).2.1
  have hdistinct := hlast.distinct
  obtain ⟨added, hcached, hdata, hlasting⟩ := hlast.added
  rw [entries, hf hflush hu, List.append_nil] at hentries hdistinct
  rw [hf hflush hu, List.append_nil] at hlasting
  have hmore : added = more := by
    rw [hcached, entries, hu, List.append_nil] at hentries
    exact List.append_cancel_left hentries
  subst hmore
  exact ⟨host₁, added, ledger', host', hcreate, hrun, hlast.grown, hdata, hlasting,
    hcached ▸ hdistinct⟩

/-- What a ledger that has been opened comes to with new identifiers, and its store. -/
theorem exists_run_of_new (h : opening.StoresAt host.files place blank)
    (hflush : blank.flushOnReserve.truthy = true) {table more : Table String Value}
    (hstore : storeOf (host.files.dataAt place) = .ok table) (hmore : Lasting more)
    (hdistinct : Table.Distinct (table ++ more)) :
    ∃ host₁ host', opening.create.outcome host = (.ok { blank with cached := table }, host₁) ∧
      run (more.map fun p => .reserve p.1 p.2) ({ blank with cached := table }, host₁) =
        (more, { blank with cached := table ++ more }, host') ∧
      host.files.Grown host'.files ∧
      host'.files.dataAt place = host.files.dataAt place ++ (writeLines more).toUTF8 := by
  obtain ⟨host₁, hcreate, hadds⟩ := h.exists_adds hstore
  obtain ⟨host', hrun, hlast⟩ := hadds.run_of_new hflush (configured_eq_ok h.configured).2.1 hmore
    hdistinct
  obtain ⟨added, hcached, hdata, -⟩ := hlast.added
  rw [← List.append_cancel_left hcached] at hdata
  exact ⟨host₁, host', hcreate, hrun, hlast.grown, hdata⟩

end Opening.StoresAt

/-- **The store of a ledger holds the lines of what it has cached** if it was empty at first. -/
theorem written_of_run {opening : Opening} {blank : Ledger}
    (h : opening.StoresAt host.files place blank) (hempty : host.files.dataAt place = .empty)
    {host₁ : Host} (hopen : opening.create.outcome host = (.ok ledger, host₁)) {deeds : List Deed}
    (hdeeds : ∀ deed ∈ deeds, deed.adds = true) {issued : Table String Value} {ledger' : Ledger}
    {host' : Host} (hrun : run deeds (ledger, host₁) = (issued, ledger', host')) :
    host'.files.dataAt place = (writeLines ledger'.cached).toUTF8 ∧ Lasting ledger'.cached ∧
      Table.Distinct ledger'.cached := by
  obtain ⟨host₂, hcreate, hadds⟩ := h.exists_adds (hempty ▸ storeOf_empty)
  rw [hopen] at hcreate
  obtain ⟨hledger, rfl⟩ := Prod.mk.inj hcreate
  obtain rfl := Except.ok.inj hledger
  obtain ⟨_, _, _, hrun', hlast, -⟩ := hadds.run hdeeds
  obtain ⟨-, hstate⟩ := Prod.mk.inj (hrun.symm.trans hrun')
  obtain ⟨rfl, rfl⟩ := Prod.mk.inj hstate
  obtain ⟨more, hcached, hdata, hlasting⟩ := hlast.added
  rw [List.nil_append] at hcached
  subst hcached
  refine ⟨?_, fun p hp => hlasting p (List.mem_append_left _ hp), ?_⟩
  · rw [hdata, hempty, ByteArray.empty_append]
  · exact (List.pairwise_append.1 hlast.distinct).1

/-! ## A store that was cut off in its second line -/

/-- A ledger is opened in the empty directory that flushes on reserving. -/
def diligent : Opening :=
  ⟨.str "/d", twoFiles true, .null⟩

theorem diligent_storesAt {files : FileTree} (h : storeroom.files.Grown files) :
    diligent.StoresAt files ["d", "s"] (keeper true) := by
  have hstart : diligent.StoresAt storeroom.files ["d", "s"] (keeper true) :=
    ⟨configured_twoFiles rfl true 1, "/d/s", rfl, storeroom_opens⟩
  exact hstart.mono h

/-- The line of one identifier, and the beginning of another one. -/
def cutText : String :=
  writeLines [("doi:10.5072/a", .map [])] ++ "doi:10.5"

/-- The directory with a store that was cut off. -/
def cutStoreroom : Host :=
  storeroom.putFile ["d", "s"] cutText.toUTF8

theorem storeroom_grown : storeroom.files.Grown cutStoreroom.files :=
  FileTree.grown_put storeroom_opens.notDirectory _

theorem dataAt_cutStoreroom : cutStoreroom.files.dataAt ["d", "s"] = cutText.toUTF8 :=
  FileTree.dataAt_put_self (by decide) _

/-- Two identifiers that are reserved one after the other. -/
theorem exists_run_storeroom :
    ∃ host₁ host', diligent.create.outcome storeroom = (.ok (keeper true), host₁) ∧
      run [.reserve "doi:10.5072/a" (.map []), .reserve "doi:10.5072/b" (.map [])]
          (keeper true, host₁) =
        ([("doi:10.5072/a", .map []), ("doi:10.5072/b", .map [])],
          { keeper true with
            cached := [("doi:10.5072/a", .map []), ("doi:10.5072/b", .map [])] }, host') ∧
      ∃ text, Text.decode? (host'.files.dataAt ["d", "s"]) = some text ∧
        cutText.toList <+: text.toList := by
  have hlasting : Lasting [("doi:10.5072/a", .map []), ("doi:10.5072/b", .map [])] := by decide
  obtain ⟨host₁, host', hcreate, hrun, -, hdata⟩ :=
    (diligent_storesAt (.refl _)).exists_run_of_new rfl storeOf_empty hlasting (by decide)
  have hempty : storeroom.files.dataAt ["d", "s"] = .empty := rfl
  rw [hempty, ByteArray.empty_append] at hdata
  refine ⟨host₁, host', hcreate, hrun, _,
    hdata ▸ Text.decode?_toUTF8 (return_not_mem_writeLines hlasting), ?_⟩
  have hline : "doi:10.5".toList <+: (writeLines [("doi:10.5072/b", .map [])]).toList := by
    rw [toList_writeLines_cons, List.append_assoc]
    exact .trans (by decide) (List.prefix_append "doi:10.5072/b".toList _)
  rw [cutText, String.toList_append]
  rw [show [("doi:10.5072/a", Value.map []), ("doi:10.5072/b", .map [])] =
    [("doi:10.5072/a", .map [])] ++ [("doi:10.5072/b", .map [])] from rfl, writeLines_append,
    String.toList_append]
  exact (List.prefix_append_right_inj _).2 hline

theorem storeOf_cutText :
    storeOf cutText.toUTF8 = .ok [("doi:10.5072/a", .map []), ("doi:10.5", .map [])] := by
  have hkept : Lasting [("doi:10.5072/a", .map [])] := by decide
  have hread : readLine? "doi:10.5".toList = some ("doi:10.5", .ok (.map [])) := by rfl
  have hstore := storeOf_line hkept (List.pairwise_singleton _ _) (by decide)
    (Text.lines_eq_singleton (by decide) (by decide)) hread
  rw [String.ofList_toList] at hstore
  exact hstore

/-- The line that is added behind the torn one makes one line with it. -/
theorem cutText_append :
    cutText ++ writeLines [("doi:10.5072/c", .map [])] =
      writeLines [("doi:10.5072/a", .map []), ("doi:10.5doi:10.5072/c", .map [])] := by
  rw [← String.toList_inj]
  simp [cutText, writeLines, writeLine]

/-! ## Going on -/

section

variable {second third : Opening} {blank blank' : Ledger} {deeds : List Deed}

/-- **A store that was cut off between two lines** loses nothing of what is kept or added. -/
theorem resumed_of_whole {kept : Table String Value} (hkept : Lasting kept)
    (hdistinct : Table.Distinct kept) (hstart : host.files.dataAt place = (writeLines kept).toUTF8)
    (hsecond : second.StoresAt host.files place blank)
    (hflush : blank.flushOnReserve.truthy = true)
    (hthird : third.StoresAt host.files place blank') (hdeeds : ∀ deed ∈ deeds, deed.adds = true) :
    ∃ reopened host₁ more ledger' host' last host₂,
      second.create.outcome host = (.ok reopened, host₁) ∧
      (∀ p ∈ kept, reopened.registered p.1 = true ∧ reopened.data? p.1 = some p.2) ∧
      run deeds (reopened, host₁) = (more, ledger', host') ∧
      third.create.outcome host' = (.ok last, host₂) ∧
      ∀ p ∈ kept ++ more, last.registered p.1 = true ∧ last.data? p.1 = some p.2 := by
  obtain ⟨hstore, hended⟩ := storeOf_writeLines hkept hdistinct
  obtain ⟨host₁, more, ledger', host', hcreate, hrun, hgrown, hdata, hmore, hall⟩ :=
    hsecond.exists_run hflush (hstart ▸ hstore) hdeeds
  obtain ⟨journal, hlast⟩ := (hthird.mono hgrown).outcome
  rw [hdata, hstart, (storeOf_append hstore hended hmore).1, Table.putAll_eq_append hall] at hlast
  refine ⟨_, host₁, more, ledger', host', _, _, hcreate, fun p hp => ?_, hrun, hlast,
    fun p hp => ?_⟩
  · rw [hsecond.registered_iff, hsecond.data?_eq, Table.find?_eq_some_iff hdistinct]
    exact ⟨List.mem_map_of_mem hp, hp⟩
  · rw [hthird.registered_iff, hthird.data?_eq, Table.find?_eq_some_iff hall]
    exact ⟨List.mem_map_of_mem hp, hp⟩

/-- **A store that was cut off in a line** can be read and added to, but the first line that is
added goes on where the torn one ends. -/
theorem resumed_of_tears {table kept : Table String Value} {key : String} {data : Value}
    {torn : List Char} (h : Tears table kept key data torn)
    (hstart : host.files.dataAt place = (writeLines kept ++ String.ofList torn).toUTF8)
    (hsecond : second.StoresAt host.files place blank)
    (hflush : blank.flushOnReserve.truthy = true)
    (hthird : third.StoresAt host.files place blank') (hdeeds : ∀ deed ∈ deeds, deed.adds = true) :
    ∃ reopened host₁ more ledger' host',
      second.create.outcome host = (.ok reopened, host₁) ∧
      (∀ p ∈ kept, reopened.registered p.1 = true ∧
        (p.1 ≠ Text.trim (String.ofList torn) → reopened.data? p.1 = some p.2)) ∧
      run deeds (reopened, host₁) = (more, ledger', host') ∧
      (more = [] → ∃ last host₂, third.create.outcome host' = (.ok last, host₂) ∧
        ∀ p ∈ kept, last.registered p.1 = true ∧
          (p.1 ≠ Text.trim (String.ofList torn) → last.data? p.1 = some p.2)) ∧
      ∀ first rest, more = first :: rest →
        ('\t' ∈ torn ∧
          ∃ words host₂, third.create.outcome host' = (.error (.tooDeep words), host₂)) ∨
        ∃ last host₂, third.create.outcome host' = (.ok last, host₂) ∧
          (∀ p ∈ kept, last.registered p.1 = true ∧
            (p.1 ≠ String.ofList torn ++ first.1 → last.data? p.1 = some p.2)) ∧
          (last.registered first.1 = true ↔ first.1.toList ++ ['\t'] <+: torn) ∧
          ∀ p ∈ rest, last.registered p.1 = true ∧ last.data? p.1 = some p.2 := by
  obtain ⟨found, hstore, hrecalls⟩ := h.exists_storeOf
  obtain ⟨host₁, more, ledger', host', hcreate, hrun, hgrown, hdata, hmore, hall⟩ :=
    hsecond.exists_run hflush (hstart ▸ hstore) hdeeds
  obtain ⟨journal, hlast⟩ := (hthird.mono hgrown).outcome
  refine ⟨_, host₁, more, ledger', host', hcreate, fun p hp => ?_, hrun, ?_, ?_⟩
  · rw [hsecond.registered_iff, hsecond.data?_eq]
    exact hrecalls p hp
  · rintro rfl
    have hsame : host'.files.dataAt place =
        (writeLines kept ++ String.ofList torn).toUTF8 := by
      rw [hdata, hstart]
      exact ByteArray.append_empty
    rw [hsame, hstore] at hlast
    refine ⟨_, _, hlast, fun p hp => ?_⟩
    rw [hthird.registered_iff, hthird.data?_eq]
    exact hrecalls p hp
  · rintro first rest rfl
    have hnodup := Table.nodup_keys.2 hall
    rw [Table.keys_append, List.nodup_append] at hnodup
    have hnew : ∀ p ∈ kept, p.1 ∉ Table.keys (first :: rest) := fun p hp hm =>
      hnodup.2.2 _ (hrecalls p hp).1 _ hm rfl
    rw [hdata, hstart] at hlast
    rcases h.storeOf_glued hmore (List.pairwise_append.1 hall).2.1 hnew with
      ⟨htab, words, hdeep⟩ | ⟨last, hread, hkept, hfirst, hrest⟩
    · rw [hdeep] at hlast
      exact .inl ⟨htab, words, _, hlast⟩
    · rw [hread] at hlast
      refine .inr ⟨_, _, hlast, fun p hp => ?_, ?_, fun p hp => ?_⟩
      · rw [hthird.registered_iff, hthird.data?_eq]
        exact hkept p hp
      · rw [hthird.registered_iff]
        exact hfirst
      · rw [hthird.registered_iff, hthird.data?_eq]
        exact ⟨Table.has_eq_true_iff.1 (by rw [Table.has, hrest p hp]; rfl), hrest p hp⟩

/-- **What a ledger has of a store that was cut off.** A ledger is opened on what is left of the
lines that another one has written, more is reserved, and a third one is opened on the result. If
the store was cut between two lines, that one has all identifiers of the lines that are left and all
that were added, with their data. If it was cut in a line, what was added first is read as one with
the torn line. Then

* the identifiers of the whole lines are on record, and their data but those of an identifier that
  is the torn text and the identifier added first, one behind the other;
* the identifier added first is not on record, unless the torn line is one of its own;
* what was added behind it is on record with its data;

or the data of the two lines together are too deep, and nothing can be opened. -/
theorem resumed_of_cut {first : Opening} {blank₀ ledger ledger' : Ledger} {host₀ host₁ host' : Host}
    (hfirst : first.StoresAt host₀.files place blank₀) (hempty : host₀.files.dataAt place = .empty)
    (hopen : first.create.outcome host₀ = (.ok ledger, host₁)) {before : List Deed}
    (hbefore : ∀ deed ∈ before, deed.adds = true) {issued : Table String Value}
    (hrun : run before (ledger, host₁) = (issued, ledger', host')) {text cut : String}
    (htext : Text.decode? (host'.files.dataAt place) = some text)
    (hcut : cut.toList <+: text.toList) (hstart : host.files.dataAt place = cut.toUTF8)
    (hsecond : second.StoresAt host.files place blank)
    (hflush : blank.flushOnReserve.truthy = true)
    (hthird : third.StoresAt host.files place blank') (hdeeds : ∀ deed ∈ deeds, deed.adds = true) :
    ∃ kept torn reopened host₂ more resumed host₃,
      cut = writeLines kept ++ torn ∧ '\n' ∉ torn.toList ∧ kept <+: ledger'.cached ∧
      second.create.outcome host = (.ok reopened, host₂) ∧
      (∀ p ∈ kept, reopened.registered p.1 = true ∧
        (p.1 ≠ Text.trim torn → reopened.data? p.1 = some p.2)) ∧
      run deeds (reopened, host₂) = (more, resumed, host₃) ∧
      (torn = "" → ∃ last host₄, third.create.outcome host₃ = (.ok last, host₄) ∧
        ∀ p ∈ kept ++ more, last.registered p.1 = true ∧ last.data? p.1 = some p.2) ∧
      (torn ≠ "" → more = [] → ∃ last host₄, third.create.outcome host₃ = (.ok last, host₄) ∧
        ∀ p ∈ kept, last.registered p.1 = true ∧
          (p.1 ≠ Text.trim torn → last.data? p.1 = some p.2)) ∧
      (torn ≠ "" → ∀ first rest, more = first :: rest →
        ('\t' ∈ torn.toList ∧
          ∃ words host₄, third.create.outcome host₃ = (.error (.tooDeep words), host₄)) ∨
        ∃ last host₄, third.create.outcome host₃ = (.ok last, host₄) ∧
          (∀ p ∈ kept, last.registered p.1 = true ∧
            (p.1 ≠ torn ++ first.1 → last.data? p.1 = some p.2)) ∧
          (last.registered first.1 = true ↔ Text.beginsWith (first.1 ++ "\t") torn = true) ∧
          ∀ p ∈ rest, last.registered p.1 = true ∧ last.data? p.1 = some p.2) := by
  obtain ⟨hwritten, hlasting, hdistinct⟩ := written_of_run hfirst hempty hopen hbefore hrun
  rw [hwritten, Text.decode?_toUTF8 (return_not_mem_writeLines hlasting),
    Option.some.injEq] at htext
  subst htext
  obtain ⟨kept, hkept, rfl | ⟨key, data, torn, rfl, htears⟩⟩ :=
    exists_tears_of_prefix hlasting hdistinct hcut
  · obtain ⟨reopened, host₂, more, ledger₃, host₃, last, host₄, hcreate, hreopened, hmore, hlast,
      hall⟩ := resumed_of_whole (fun p hp => hlasting p (hkept.mem hp))
        (hdistinct.sublist hkept.sublist) hstart hsecond hflush hthird hdeeds
    exact ⟨kept, "", reopened, host₂, more, ledger₃, host₃, String.append_empty.symm, by simp,
      hkept, hcreate, fun p hp => ⟨(hreopened p hp).1, fun _ => (hreopened p hp).2⟩, hmore,
      fun _ => ⟨last, host₄, hlast, hall⟩, fun hne => absurd rfl hne, fun hne => absurd rfl hne⟩
  · obtain ⟨reopened, host₂, more, ledger₃, host₃, hcreate, hreopened, hmore, hsame, hlast⟩ :=
      resumed_of_tears htears hstart hsecond hflush hthird hdeeds
    have hne : String.ofList torn ≠ "" := fun he =>
      htears.ne_nil (by simpa using congrArg String.toList he)
    refine ⟨kept, String.ofList torn, reopened, host₂, more, ledger₃, host₃, rfl,
      by simpa using htears.newline_not_mem, hkept, hcreate, hreopened, hmore,
      fun he => absurd he hne, fun _ => hsame, fun _ first rest hmore => ?_⟩
    rw [String.toList_ofList]
    simp only [Text.beginsWith_eq_true_iff, String.toList_append, String.toList_ofList]
    exact hlast first rest hmore

end

/-- A store that was cut off in its second line. -/
theorem resumed_of_cut_storeroom :
    ∃ host₁ ledger' host' kept torn reopened host₂ more resumed host₃,
      run [.reserve "doi:10.5072/a" (.map []), .reserve "doi:10.5072/b" (.map [])]
          (keeper true, host₁) =
        ([("doi:10.5072/a", .map []), ("doi:10.5072/b", .map [])], ledger', host') ∧
      cutText = writeLines kept ++ torn ∧ '\n' ∉ torn.toList ∧ kept <+: ledger'.cached ∧
      diligent.create.outcome cutStoreroom = (.ok reopened, host₂) ∧
      run [.reserve "doi:10.5072/c" (.map [])] (reopened, host₂) = (more, resumed, host₃) ∧
      (torn ≠ "" → ∀ first rest, more = first :: rest →
        ('\t' ∈ torn.toList ∧
          ∃ words host₄, diligent.create.outcome host₃ = (.error (.tooDeep words), host₄)) ∨
        ∃ last host₄, diligent.create.outcome host₃ = (.ok last, host₄) ∧
          (∀ p ∈ kept, last.registered p.1 = true ∧
            (p.1 ≠ torn ++ first.1 → last.data? p.1 = some p.2)) ∧
          (last.registered first.1 = true ↔ Text.beginsWith (first.1 ++ "\t") torn = true)) := by
  obtain ⟨host₁, host', hopen, hrun, text, htext, hcut⟩ := exists_run_storeroom
  obtain ⟨kept, torn, reopened, host₂, more, resumed, host₃, heq, hn, hkept, hcreate, -, hmore, -,
      -, hlast⟩ :=
    resumed_of_cut (diligent_storesAt (.refl _)) rfl hopen (by decide) hrun htext hcut
      dataAt_cutStoreroom (diligent_storesAt storeroom_grown) rfl
      (diligent_storesAt storeroom_grown)
      (show ∀ deed ∈ [.reserve "doi:10.5072/c" (.map [])], Deed.adds deed = true by decide)
  refine ⟨host₁, _, host', kept, torn, reopened, host₂, more, resumed, host₃, hrun, heq, hn, hkept,
    hcreate, hmore, fun hne first rest hfirst => ?_⟩
  rcases hlast hne first rest hfirst with hdeep | ⟨last, host₄, hout, hall, hiff, -⟩
  · exact .inl hdeep
  · exact .inr ⟨last, host₄, hout, hall, hiff⟩

/-- **What is reserved behind a torn line is not always found again.** -/
theorem not_forall_registered_of_cut :
    ¬ ∀ (opening : Opening) (place : Path) (blank ledger ledger' reopened resumed : Ledger)
      (host₀ host₁ host' host host₂ host₃ : Host) (before further : List Deed)
      (issued kept more : Table String Value) (text torn : String),
      opening.StoresAt host₀.files place blank → host₀.files.dataAt place = .empty →
      opening.create.outcome host₀ = (.ok ledger, host₁) →
      (∀ deed ∈ before, deed.adds = true) →
      run before (ledger, host₁) = (issued, ledger', host') →
      Text.decode? (host'.files.dataAt place) = some text →
      (writeLines kept ++ torn).toList <+: text.toList → '\n' ∉ torn.toList →
      host.files.dataAt place = (writeLines kept ++ torn).toUTF8 →
      opening.StoresAt host.files place blank → blank.flushOnReserve.truthy = true →
      opening.create.outcome host = (.ok reopened, host₂) →
      (∀ deed ∈ further, deed.adds = true) →
      run further (reopened, host₂) = (more, resumed, host₃) →
      ∃ last host₄, opening.create.outcome host₃ = (.ok last, host₄) ∧
        ∀ p ∈ kept ++ more, last.registered p.1 = true ∧ last.data? p.1 = some p.2 := by
  intro h
  obtain ⟨host₁, host', hopen, hrun, text, htext, hcut⟩ := exists_run_storeroom
  obtain ⟨host₂, host₃, hcreate, hmore, hgrown, hdata⟩ :=
    (diligent_storesAt storeroom_grown).exists_run_of_new rfl
      (dataAt_cutStoreroom ▸ storeOf_cutText)
      (show Lasting [("doi:10.5072/c", .map [])] by decide) (by decide)
  obtain ⟨last, host₄, hlast, hall⟩ := h diligent ["d", "s"] (keeper true) _ _ _ _ _ _ _
    cutStoreroom _ _ _ _ _ [("doi:10.5072/a", .map [])] _ text "doi:10.5"
    (diligent_storesAt (.refl _)) rfl hopen (by decide) hrun htext hcut (by decide)
    dataAt_cutStoreroom (diligent_storesAt storeroom_grown) rfl hcreate (by decide) hmore
  have hbytes : cutText.toUTF8 ++ (writeLines [("doi:10.5072/c", .map [])]).toUTF8 =
      (cutText ++ writeLines [("doi:10.5072/c", .map [])]).toUTF8 := String.toByteArray_append.symm
  obtain ⟨journal, hread⟩ := (diligent_storesAt (storeroom_grown.trans hgrown)).outcome
  rw [hdata, dataAt_cutStoreroom, hbytes, cutText_append,
    (storeOf_writeLines (by decide) (by decide)).1, hlast] at hread
  obtain rfl := Except.ok.inj (Prod.mk.inj hread).1
  exact absurd (hall ("doi:10.5072/c", .map []) (by simp)).1 (by decide)

end PersistentId.Ledger
