import PersistentId.Ledger
import PersistentId.Proofs.Host
import PersistentId.Proofs.Ledger.Line

/-!
# A ledger and its store

What the operations on the store of a ledger come to, where the path of the store opens a place:

* `storeOf` is what the bytes of a store say; `storeOf_append` what they say after lines were added;
* `outcome_storeLine` adds one identifier to the store, `outcome_storeWaiting` one after the other;
* `outcome_reload`, `outcome_flush` and `outcome_reserve` are the operations;
* `outcome_create` is what opening a ledger comes to.

The journal has more entries afterwards; nothing else depends on them. Examples open their ledger in
an empty directory (`storeroom`, `keeper`).
-/

namespace PersistentId.Ledger

open PersistentId.Action

/-! ## What a store says -/

/-- The identifiers that the bytes of a store hold, or why they cannot be read. -/
def storeOf (data : ByteArray) : Except Fault (Table String Value) :=
  match Host.textOf data with
  | .error fault => .error fault
  | .ok text =>
    match (readStore text).findSome? Row.depthFlaw? with
    | some flaw => .error (.tooDeep flaw.words)
    | none => .ok (tableOf (readStore text))

/-- Whether every line in the bytes of a store is ended. -/
def Ended (data : ByteArray) : Prop :=
  ∀ text, Text.decode? data = some text → Text.ended text.toList = true

theorem storeOf_eq_ok {data : ByteArray} {table : Table String Value} :
    storeOf data = .ok table ↔ ∃ text, Text.decode? data = some text ∧
      (readStore text).findSome? Row.depthFlaw? = none ∧ tableOf (readStore text) = table := by
  rw [storeOf, Host.textOf]
  cases Text.decode? data with
  | none => simp
  | some text =>
    cases hflaw : (readStore text).findSome? Row.depthFlaw? <;>
      simp [hflaw, -List.findSome?_eq_none_iff]

theorem distinct_of_storeOf {data : ByteArray} {table : Table String Value}
    (h : storeOf data = .ok table) : Table.Distinct table := by
  obtain ⟨text, -, -, rfl⟩ := storeOf_eq_ok.1 h
  exact Table.distinct_ofPairs _

/-- What a store says when lines were added to it whose own lines are all ended. -/
theorem storeOf_append_eq_map {data : ByteArray} {text : String} {more : Table String Value}
    (htext : Text.decode? data = some text) (he : Text.ended text.toList = true)
    (hm : Lasting more) :
    storeOf (data ++ (writeLines more).toUTF8) = (storeOf data).map (Table.putAll · more) := by
  have hdecode := Text.decode?_append htext (return_not_mem_writeLines hm) (head?_writeLines hm)
  simp only [storeOf, Host.textOf, htext, hdecode, readStore_append_writeLines he hm,
    findSome?_depthFlaw?_append, tableOf_append]
  cases (readStore text).findSome? Row.depthFlaw? <;> rfl

/-- **Lines that are added to a store add their identifiers.** -/
theorem storeOf_append {data : ByteArray} {table more : Table String Value}
    (h : storeOf data = .ok table) (he : Ended data) (hm : Lasting more) :
    storeOf (data ++ (writeLines more).toUTF8) = .ok (Table.putAll table more) ∧
      Ended (data ++ (writeLines more).toUTF8) := by
  obtain ⟨text, htext, -, -⟩ := storeOf_eq_ok.1 h
  have hended := he text htext
  have hdecode := Text.decode?_append htext (return_not_mem_writeLines hm) (head?_writeLines hm)
  refine ⟨by rw [storeOf_append_eq_map htext hended hm, h]; rfl, fun text' htext' => ?_⟩
  rw [hdecode, Option.some.injEq] at htext'
  rw [← htext', String.toList_append]
  exact Text.ended_append hended (ended_writeLines more)

/-! ## Operations -/

variable {ledger : Ledger} {host : Host} {path : String} {place : Path}

@[simp]
theorem outcome_onHost {α : Type} (act : Action Host α) (ledger : Ledger) (host : Host) :
    (onHost act).outcome (ledger, host) =
      ((act.outcome host).1, ledger, (act.outcome host).2) := rfl

@[simp]
theorem outcome_note (level : Level) (message : String) (ledger : Ledger) (host : Host) :
    (note level message).outcome (ledger, host) =
      (.ok ⟨⟩, ledger, host.record [⟨level, ledger.source, message⟩]) := rfl

@[simp]
theorem outcome_update (f : Ledger → Ledger) (ledger : Ledger) (host : Host) :
    (update f).outcome (ledger, host) = (.ok ⟨⟩, f ledger, host) := rfl

@[simp]
theorem record_nil (host : Host) : host.record [] = host := by
  simp [Host.record]

theorem record_record (host : Host) (a b : Journal) :
    (host.record a).record b = host.record (a ++ b) := by
  simp [Host.record]

theorem outcome_warnUnreadable (store : String) (keys : List String) (ledger : Ledger)
    (host : Host) :
    ∃ entries, (warnUnreadable store keys).outcome (ledger, host) =
      (.ok ⟨⟩, ledger, host.record entries) := by
  induction keys generalizing host with
  | nil => exact ⟨[], by simp [warnUnreadable]⟩
  | cons key keys ih =>
    obtain ⟨entries, h⟩ := ih (host.record [⟨.warning, ledger.source, _⟩])
    exact ⟨_, (outcome_bind_ok (outcome_note ..)).trans (h.trans (by rw [record_record]))⟩

theorem outcome_reload (hs : ledger.store = some path) (host : Host) :
    ∃ entries, reload.outcome (ledger, host) =
      match (host.files.contents path).bind storeOf with
      | .ok table => (.ok ⟨⟩, { ledger with cached := table }, host.record entries)
      | .error fault => (.error fault, ledger, host.record entries) := by
  rw [reload, outcome_bind_ok (outcome_get _)]
  simp only [hs]
  rw [outcome_bind, outcome_onHost, Host.outcome_read]
  cases host.files.contents path with
  | error fault => exact ⟨[], by simp [Except.bind]⟩
  | ok data =>
    simp only [Except.bind, storeOf]
    cases Host.textOf data with
    | error fault => exact ⟨[], by rw [record_nil]⟩
    | ok text =>
      obtain ⟨entries, hwarn⟩ :=
        outcome_warnUnreadable path (unreadable (readStore text)) ledger host
      refine ⟨entries, (outcome_bind_ok hwarn).trans ?_⟩
      cases hflaw : (readStore text).findSome? Row.depthFlaw? <;> simp only [hflaw, ← hs] <;> rfl

/-- Reading the store again changes nothing but what is cached. -/
theorem exists_of_reload (hs : ledger.store = some path) (host : Host) :
    ∃ result table entries, reload.outcome (ledger, host) =
      (result, { ledger with cached := table }, host.record entries) := by
  obtain ⟨entries, h⟩ := outcome_reload hs host
  split at h
  · exact ⟨_, _, _, h⟩
  · exact ⟨_, _, _, h⟩

theorem placeAt_store (hs : ledger.store = some path) (h : host.files.Opens path place) :
    placeAt ledger.store = some path := by
  rw [hs, placeAt]
  exact Option.filter_some_pos (by simpa using h.ne_empty)

/-! ## Storing what is waiting -/

/-- Whether all data of a table can be written. -/
def Writable (table : Table String Value) : Prop :=
  ∀ p ∈ table, ∃ document, Json.write p.2 = .ok document

theorem Lasting.writable {table : Table String Value} (h : Lasting table) : Writable table :=
  fun p hp => ⟨_, write_eq_ok_of_isData (h p hp).2⟩

/-- The start of the line of an identifier whose data cannot be written. -/
def tornLine (key : String) : String :=
  key ++ "\t"

/-- **One identifier is added to the store**, in a line of its own. -/
theorem outcome_storeLine (h : host.files.Opens path place) {key document : String} {data : Value}
    (hw : Json.write data = .ok document) (bytes : ByteArray) (ledger : Ledger) :
    (storeLine path key data).outcome (ledger, host.putFile place bytes) =
      (.ok ⟨⟩, ledger, host.putFile place (bytes ++ (writeLine key data).toUTF8)) := by
  have hline : (writeLine key data).toUTF8 =
      (key ++ "\t").toUTF8 ++ (document ++ "\n").toUTF8 := by
    rw [writeLine, documentOf_of_write hw, String.append_assoc]
    exact String.toByteArray_append
  simp only [storeLine, outcome_bind, outcome_onHost, Host.outcome_append_putFile h, hw,
    outcome_ofExcept, hline, ByteArray.append_assoc]

/-- **Data that cannot be written leave the start of a line in the store.** -/
theorem outcome_storeLine_of_error (h : host.files.Opens path place) (key : String) {data : Value}
    {fault : Fault} (hw : Json.write data = .error fault) (bytes : ByteArray) (ledger : Ledger) :
    (storeLine path key data).outcome (ledger, host.putFile place bytes) =
      (.error fault, ledger, host.putFile place (bytes ++ (tornLine key).toUTF8)) := by
  simp only [storeLine, outcome_bind, outcome_onHost, Host.outcome_append_putFile h, hw,
    outcome_ofExcept, tornLine]

/-- **The first of those that are waiting are stored**, one after the other. -/
theorem outcome_storeWaiting (h : host.files.Opens path place) {waiting : Table String Value}
    (hw : Writable waiting) (rest : Table String Value) (bytes : ByteArray) (ledger : Ledger) :
    (storeWaiting path (waiting ++ rest)).outcome
        ({ ledger with uncached := waiting ++ rest }, host.putFile place bytes) =
      (storeWaiting path rest).outcome
        ({ ledger with cached := Table.putAll ledger.cached waiting, uncached := rest },
          host.putFile place (bytes ++ (writeLines waiting).toUTF8)) := by
  induction waiting generalizing ledger bytes with
  | nil =>
    rw [writeLines, String.toUTF8, String.toByteArray_empty, ByteArray.append_empty]
    rfl
  | cons p waiting ih =>
    obtain ⟨key, data⟩ := p
    obtain ⟨⟨document, hdocument⟩, hmore⟩ := List.forall_mem_cons.1 hw
    have hlines : (writeLines ((key, data) :: waiting)).toUTF8 =
        (writeLine key data).toUTF8 ++ (writeLines waiting).toUTF8 := String.toByteArray_append
    rw [List.cons_append, storeWaiting, outcome_bind_ok (outcome_storeLine h hdocument bytes _),
      outcome_bind_ok (outcome_update _ _ _), hlines, ← ByteArray.append_assoc]
    exact ih hmore _ { ledger with cached := Table.put ledger.cached key data }

theorem exists_of_storeLine (path key : String) (data : Value) (ledger : Ledger) (host : Host) :
    ∃ result host', (storeLine path key data).outcome (ledger, host) = (result, ledger, host') := by
  simp only [storeLine, outcome_bind, outcome_onHost, outcome_ofExcept]
  rcases (Host.append path (key ++ "\t")).outcome host with ⟨fault | done, host₁⟩
  · exact ⟨_, _, rfl⟩
  · cases Json.write data with
    | error fault => exact ⟨_, _, rfl⟩
    | ok document => exact ⟨_, _, rfl⟩

/-- However storing ends, the first of those that are waiting have moved to the store. -/
theorem exists_of_storeWaiting (path : String) (waiting : Table String Value) (ledger : Ledger)
    (host : Host) :
    ∃ result stored rest host', waiting = stored ++ rest ∧
      (storeWaiting path waiting).outcome ({ ledger with uncached := waiting }, host) =
        (result, { ledger with cached := Table.putAll ledger.cached stored, uncached := rest },
          host') := by
  induction waiting generalizing ledger host with
  | nil => exact ⟨_, [], [], host, rfl, rfl⟩
  | cons p waiting ih =>
    obtain ⟨key, data⟩ := p
    rw [storeWaiting]
    obtain ⟨result, host₁, hline⟩ :=
      exists_of_storeLine path key data { ledger with uncached := (key, data) :: waiting } host
    cases result with
    | error fault => exact ⟨_, [], _, host₁, rfl, outcome_bind_error hline⟩
    | ok done =>
      obtain ⟨result, stored, rest, host', hsplit, hout⟩ :=
        ih { ledger with cached := Table.put ledger.cached key data } host₁
      refine ⟨result, (key, data) :: stored, rest, host', by rw [hsplit, List.cons_append], ?_⟩
      rw [outcome_bind_ok hline, outcome_bind_ok (outcome_update _ _ _)]
      exact hout

/-- **However a flush ends**, the first of those that were waiting have moved to the store, and the
others are waiting as before. -/
theorem exists_of_flush (ledger : Ledger) (host : Host) :
    ∃ result stored rest host', ledger.uncached = stored ++ rest ∧
      flush.outcome (ledger, host) =
        (result, { ledger with cached := Table.putAll ledger.cached stored, uncached := rest },
          host') := by
  rw [flush, outcome_bind_ok (outcome_get _)]
  dsimp only
  split
  · exact ⟨_, [], _, _, rfl, rfl⟩
  · split
    · exact ⟨_, [], _, _, rfl, outcome_note ..⟩
    · next store _ _ =>
      rcases hopened : (Host.append store "").outcome host with ⟨fault | done, host₁⟩
      · refine ⟨.error fault, [], _, host₁, rfl, ?_⟩
        rw [outcome_bind, outcome_onHost, hopened]
        rfl
      · obtain ⟨result, stored, rest, host', hsplit, hrun⟩ :=
          exists_of_storeWaiting store ledger.uncached ledger host₁
        refine ⟨result, stored, rest, host', hsplit, ?_⟩
        rw [outcome_bind, outcome_onHost, hopened]
        exact hrun

theorem outcome_flush_of_isEmpty (hs : ledger.store = some path) (h : host.files.Opens path place)
    (hu : ledger.uncached = []) :
    ∃ entries, flush.outcome (ledger, host) = (.ok ⟨⟩, ledger, host.record entries) := by
  refine ⟨[⟨.debug, ledger.source, "No uncached identifiers detected"⟩],
    (outcome_bind_ok (outcome_get _)).trans ?_⟩
  simp only [placeAt_store hs h, hu]
  exact outcome_note ..

/-- A flush opens the store and adds what is waiting. -/
theorem outcome_flush_eq (hs : placeAt ledger.store = some path) (h : host.files.Opens path place)
    (hu : ledger.uncached ≠ []) :
    flush.outcome (ledger, host) = (storeWaiting path ledger.uncached).outcome
      (ledger, host.putFile place (host.files.dataAt place)) := by
  refine (outcome_bind_ok (outcome_get _)).trans ?_
  simp only [hs, List.isEmpty_eq_false_iff.2 hu]
  have hopened := outcome_onHost (Host.append path "") ledger host
  rw [Host.outcome_append h, String.toUTF8, String.toByteArray_empty,
    ByteArray.append_empty] at hopened
  exact outcome_bind_ok hopened

/-- **What is waiting is stored**, if all of it can be written. -/
theorem outcome_flush (hs : placeAt ledger.store = some path) (h : host.files.Opens path place)
    (hu : ledger.uncached ≠ []) (hw : Writable ledger.uncached) :
    flush.outcome (ledger, host) =
      (.ok ⟨⟩,
        { ledger with cached := Table.putAll ledger.cached ledger.uncached, uncached := [] },
        host.putFile place
          (host.files.dataAt place ++ (writeLines ledger.uncached).toUTF8)) := by
  have hrun := outcome_storeWaiting h hw [] (host.files.dataAt place) ledger
  rw [List.append_nil] at hrun
  exact (outcome_flush_eq hs h hu).trans hrun

theorem outcome_reserve_of_registered {key : String} (h : ledger.registered key = true)
    (data : Value) (host : Host) :
    (reserve key data).outcome (ledger, host) = (.error (.alreadyIssued key), ledger, host) := by
  refine (outcome_bind_ok (outcome_get _)).trans ?_
  simp only [h, if_true]
  rfl

theorem outcome_reserve {key : String} (h : ledger.registered key = false)
    (entries : List (Key × Value)) (host : Host) :
    (reserve key (.map entries)).outcome (ledger, host) =
      if ledger.flushOnReserve.truthy then
        flush.outcome
          ({ ledger with uncached := Table.put ledger.uncached key (.map entries) }, host)
      else
        (.ok ⟨⟩,
          { ledger with uncached := Table.put ledger.uncached key (.map entries) }, host) := by
  refine (outcome_bind_ok (outcome_get _)).trans ?_
  simp only [h]
  cases hf : ledger.flushOnReserve.truthy <;> simp [tableFrom, outcome_bind, hf]

/-! ## Opening a ledger -/

/-- A new ledger has nothing recorded yet. -/
theorem configured_eq_ok {files : FileTree} {directory config name : Value}
    (h : configured files directory config name = .ok ledger) :
    ledger.cached = [] ∧ ledger.uncached = [] ∧ ledger.numbers = [] := by
  unfold configured at h
  obtain ⟨_, -, h⟩ := exists_of_bind_eq_ok h
  obtain ⟨_, -, h⟩ := exists_of_bind_eq_ok h
  obtain ⟨_, -, h⟩ := exists_of_bind_eq_ok h
  dsimp only at h
  generalize Counter.ofValue? _ = start? at h
  cases start? with
  | some start =>
    obtain ⟨_, -, h⟩ := exists_of_bind_eq_ok h
    obtain ⟨_, -, h⟩ := exists_of_bind_eq_ok h
    obtain ⟨_, -, h⟩ := exists_of_bind_eq_ok h
    cases h
    exact ⟨rfl, rfl, rfl⟩
  | none =>
    obtain ⟨_, -, h⟩ := exists_of_bind_eq_ok h
    cases h

theorem storeOf_empty : storeOf .empty = .ok [] := by
  rw [storeOf, Host.textOf, Text.decode?_empty]
  rfl

/-- A new ledger takes over what its store says; no store says nothing. -/
theorem outcome_restore (hs : ledger.store = some path) (h : host.files.Opens path place)
    (hc : ledger.cached = []) :
    ∃ entries, restore.outcome (ledger, host) =
      match storeOf (host.files.dataAt place) with
      | .ok table => (.ok ⟨⟩, { ledger with cached := table }, host.record entries)
      | .error fault => (.error fault, ledger, host.record entries) := by
  rw [restore, outcome_bind_ok (outcome_get _)]
  simp only [hs, h.present]
  cases hnode : host.files.node? place with
  | none =>
    have hempty : host.files.dataAt place = .empty := by rw [FileTree.dataAt, hnode]
    refine ⟨[], ?_⟩
    simp only [hempty, storeOf_empty, ← hc, ← hs, record_nil]
    rfl
  | some node =>
    obtain ⟨entries, hreload⟩ := outcome_reload hs host
    rw [h.contents, if_neg (by simp [hnode])] at hreload
    simp only [Except.bind] at hreload
    cases hstore : storeOf (host.files.dataAt place) with
    | error fault =>
      rw [hstore] at hreload
      exact ⟨entries, outcome_bind_error hreload⟩
    | ok table =>
      rw [hstore] at hreload
      simp only [← hs]
      by_cases hids : ({ ledger with cached := table } : Ledger).ids.isEmpty = true
      · refine ⟨entries ++ [⟨.warning, ledger.source, "empty registry persistance restored"⟩], ?_⟩
        refine (outcome_bind_ok hreload).trans ((outcome_bind_ok (outcome_get _)).trans ?_)
        rw [if_pos hids, outcome_note, record_record]
      · refine ⟨entries, ?_⟩
        refine (outcome_bind_ok hreload).trans ((outcome_bind_ok (outcome_get _)).trans ?_)
        rw [if_neg hids]
        rfl

theorem exists_of_restore (ledger : Ledger) (host : Host) :
    ∃ result table entries, restore.outcome (ledger, host) =
      (result, { ledger with cached := table }, host.record entries) := by
  rw [restore, outcome_bind_ok (outcome_get _)]
  dsimp only
  split
  · exact ⟨_, _, [], by rw [record_nil]; rfl⟩
  · next store hs =>
    split
    · obtain ⟨result, table, entries, hreload⟩ := exists_of_reload hs host
      cases result with
      | error fault => exact ⟨_, _, _, outcome_bind_error hreload⟩
      | ok done =>
        rw [outcome_bind_ok hreload, outcome_bind_ok (outcome_get _)]
        split
        · exact ⟨_, _, _, (outcome_note ..).trans (by rw [record_record])⟩
        · exact ⟨_, _, _, rfl⟩
    · exact ⟨_, _, [], by rw [record_nil]; rfl⟩

/-- **Opening a ledger leaves the files alone**, and the ledger is as it was configured but for what
is cached. -/
theorem exists_of_create (directory config name : Value) (host : Host) :
    ∃ result entries, (create directory config name).outcome host = (result, host.record entries) ∧
      ∀ ledger, result = .ok ledger → ∃ blank table,
        configured host.files directory config name = .ok blank ∧
          ledger = { blank with cached := table } := by
  rw [create, outcome_bind_ok (outcome_get _)]
  cases hconfigured : configured host.files directory config name with
  | error fault =>
    refine ⟨.error fault, [], by rw [record_nil]; rfl, fun _ h => ?_⟩
    cases h
  | ok blank =>
    obtain ⟨result, table, entries, hrestore⟩ := exists_of_restore blank host
    refine ⟨result.map fun _ => { blank with cached := table }, entries, ?_, fun ledger h => ?_⟩
    · rw [outcome_bind_ok (outcome_ofExcept ..), outcome_ofOutcome, hrestore]
    · cases result with
      | error fault => cases h
      | ok done => exact ⟨blank, table, rfl, (Except.ok.inj h).symm⟩

/-- A ledger that was opened is as it was configured but for what is cached. -/
theorem configured_of_create {directory config name : Value} {host₀ : Host}
    (h : (create directory config name).outcome host₀ = (.ok ledger, host)) :
    ∃ blank table entries, configured host₀.files directory config name = .ok blank ∧
      ledger = { blank with cached := table } ∧ host = host₀.record entries := by
  obtain ⟨_, entries, hcreate, hblank⟩ := exists_of_create directory config name host₀
  rw [h] at hcreate
  obtain ⟨rfl, rfl⟩ := Prod.mk.inj hcreate
  obtain ⟨blank, table, hconfigured, rfl⟩ := hblank _ rfl
  exact ⟨blank, table, entries, hconfigured, rfl, rfl⟩

/-- Opening a ledger comes to reading its store. -/
theorem outcome_create {directory config name : Value}
    (hl : configured host.files directory config name = .ok ledger) (hs : ledger.store = some path)
    (h : host.files.Opens path place) :
    ∃ entries, (create directory config name).outcome host =
      match storeOf (host.files.dataAt place) with
      | .ok table => (.ok { ledger with cached := table }, host.record entries)
      | .error fault => (.error fault, host.record entries) := by
  obtain ⟨entries, hrestore⟩ := outcome_restore hs h (configured_eq_ok hl).1
  refine ⟨entries, ?_⟩
  rw [create, outcome_bind_ok (outcome_get _)]
  simp only [hl]
  rw [outcome_bind_ok (outcome_ofExcept ..), outcome_ofOutcome, hrestore]
  cases storeOf (host.files.dataAt place) <;> rfl

/-! ## A ledger in an empty directory -/

/-- A host with an empty directory. -/
def storeroom : Host :=
  { files := { nodes := [(["d"], .directory)] } }

/-- A configuration that names the files of a ledger and its first number. -/
def twoFiles (flush : Bool) (start : Int := 1) : Value :=
  .map [("cache_on_register", .bool flush), ("id_store_file", .str "s"),
    ("sequence_file", .str "n"), ("sequence_start", .int start)]

/-- The ledger that is opened there. -/
def keeper (flush : Bool) (start : Int := 1) : Ledger where
  flushOnReserve := .bool flush
  start := .number start
  store := some "/d/s"
  numberStore := some "/d/n"

theorem storeroom_opens : storeroom.files.Opens "/d/s" ["d", "s"] :=
  ⟨rfl, by decide⟩

theorem storeroom_ended : Ended (storeroom.files.dataAt ["d", "s"]) := by
  intro text htext
  have hempty : storeroom.files.dataAt ["d", "s"] = .empty := rfl
  rw [hempty, Text.decode?_empty] at htext
  cases htext
  rfl

theorem configured_twoFiles {tree : FileTree} (hd : tree.isDirectory "/d" = true) (flush : Bool)
    (start : Int) :
    configured tree (.str "/d") (twoFiles flush start) .null = .ok (keeper flush start) := by
  simp only [configured, directoryOf, hd]
  rfl

/-- Whichever the files are, no other ledger is opened. -/
theorem eq_keeper_of_configured {flush : Bool} {start : Int} {tree : FileTree} {ledger : Ledger}
    (h : configured tree (.str "/d") (twoFiles flush start) .null = .ok ledger) :
    ledger = keeper flush start := by
  cases hd : tree.isDirectory "/d" with
  | false =>
    simp only [configured, directoryOf, hd] at h
    cases h
  | true =>
    rw [configured_twoFiles hd] at h
    exact (Except.ok.inj h).symm

theorem storeroom_create (flush : Bool) :
    ∃ entries, (create (.str "/d") (twoFiles flush) .null).outcome storeroom =
      (.ok (keeper flush), storeroom.record entries) := by
  have hdirectory : storeroom.files.isDirectory "/d" = true := rfl
  obtain ⟨journal, h⟩ := outcome_create (configured_twoFiles hdirectory flush 1) rfl storeroom_opens
  have hempty : storeroom.files.dataAt ["d", "s"] = .empty := rfl
  rw [hempty, storeOf_empty] at h
  exact ⟨_, h⟩

end PersistentId.Ledger
