import PersistentId.Proofs.Ledger.Reached

/-!
# What a failed reservation leaves

A reservation fails for one of four reasons: the text is on record already, its data cannot be a
table, or the ledger stores at once what it reserves and the store cannot be opened (`Barred`), or
it can be and something that is waiting has data that cannot be written (`Halt`).
`reserve_eq_error_iff` says what each of them leaves.

The first two change nothing. After the others the text is on record and can never be reserved
again, whatever the host has become (`Stranded`). If the store cannot be opened, that is all. If
data cannot be written, what waits before them has moved to the store, the store ends in the start
of their line, and they are waiting still, as is what waits behind them. `failed_reserve` puts these
together.
-/

namespace PersistentId.Ledger

open PersistentId.Action

variable {ledger ledger' : Ledger} {host host' : Host} {key other : String} {data : Value}
  {fault : Fault} {entries : Table Key Value}

/-! ## What moves to the store stays on record -/

/-- The ledger whose first waiting identifiers have moved to the store. -/
def moved (ledger : Ledger) (stored rest : Table String Value) : Ledger :=
  { ledger with cached := Table.putAll ledger.cached stored, uncached := rest }

/-- One identifier moves to the store: each has the data that it had. -/
theorem data?_move {rest : Table String Value} (hnew : Table.has rest key = false) (data : Value)
    (other : String) :
    Ledger.data?
        { ledger with cached := Table.put ledger.cached key data, uncached := rest } other =
      Ledger.data? { ledger with uncached := (key, data) :: rest } other := by
  rw [data?, data?, Table.find?]
  by_cases he : key = other
  · subst he
    have hnone : Table.find? rest key = none := by
      simpa [Table.has, Option.isSome_eq_false_iff] using hnew
    rw [hnone, Table.find?_put_self]
    simp
  · have hne : (key == other) = false := beq_false_of_ne he
    rw [Table.find?_put_of_ne _ _ hne]
    simp [hne]

/-- One identifier moves to the store: it is listed where it was. -/
theorem ids_move {rest : Table String Value} (hnew : Table.has rest key = false) (data : Value) :
    Ledger.ids { ledger with cached := Table.put ledger.cached key data, uncached := rest } =
      Ledger.ids { ledger with uncached := (key, data) :: rest } := by
  have hrest : ∀ k ∈ Table.keys rest, k ≠ key := by
    rintro k hk rfl
    rw [Table.has_eq_true_iff.2 hk] at hnew
    cases hnew
  have hkeys : Table.keys ((key, data) :: rest) = key :: Table.keys rest := rfl
  simp only [Ledger.ids, Table.keys_put, hkeys]
  cases hkey : Table.has ledger.cached key with
  | true =>
    have hmem : (Table.keys ledger.cached).contains key = true := by
      rw [List.contains_eq_mem, decide_eq_true_eq]
      exact Table.has_eq_true_iff.1 hkey
    rw [if_pos rfl, List.filter_cons_of_neg (by rw [hmem]; exact Bool.false_ne_true)]
  | false =>
    have hmem : (Table.keys ledger.cached).contains key = false := by
      rw [List.contains_eq_mem, decide_eq_false_iff_not]
      exact fun hmem => by rw [Table.has_eq_true_iff.2 hmem] at hkey; cases hkey
    have hsame : (Table.keys rest).filter
          (fun k => !(Table.keys ledger.cached ++ [key]).contains k) =
        (Table.keys rest).filter fun k => !(Table.keys ledger.cached).contains k :=
      List.filter_congr fun k hk => by simp [hrest k hk]
    rw [if_neg Bool.false_ne_true, List.filter_cons_of_pos (by rw [hmem]; rfl), hsame,
      List.append_assoc, List.singleton_append]

theorem has_eq_false_of_distinct_cons {t : Table String Value}
    (h : Table.Distinct ((key, data) :: t)) : Table.has t key = false := by
  refine Table.has_eq_false_iff.2 fun p hp => Bool.eq_false_iff.2 fun he => ?_
  have hne := (List.pairwise_cons.1 h).1 p hp
  rw [PartialEquivBEq.symm he] at hne
  cases hne

/-- **What is on record has the same data** when the first of those waiting have moved. -/
theorem data?_moved {stored rest : Table String Value} (hd : Table.Distinct (stored ++ rest))
    (ledger : Ledger) (other : String) :
    (ledger.moved stored rest).data? other =
      Ledger.data? { ledger with uncached := stored ++ rest } other := by
  induction stored generalizing ledger with
  | nil => rfl
  | cons p stored ih =>
    obtain ⟨key, data⟩ := p
    have hnew : Table.has (stored ++ rest) key = false := has_eq_false_of_distinct_cons hd
    rw [List.cons_append, ← data?_move hnew data]
    exact ih (List.pairwise_cons.1 hd).2 { ledger with cached := Table.put ledger.cached key data }

/-- **The same is listed, in the same order,** when the first of those waiting have moved. -/
theorem ids_moved {stored rest : Table String Value} (hd : Table.Distinct (stored ++ rest))
    (ledger : Ledger) :
    (ledger.moved stored rest).ids = Ledger.ids { ledger with uncached := stored ++ rest } := by
  induction stored generalizing ledger with
  | nil => rfl
  | cons p stored ih =>
    obtain ⟨key, data⟩ := p
    have hnew : Table.has (stored ++ rest) key = false := has_eq_false_of_distinct_cons hd
    rw [List.cons_append, ← ids_move hnew data]
    exact ih (List.pairwise_cons.1 hd).2 { ledger with cached := Table.put ledger.cached key data }

/-! ## A flush that stops -/

/-- Where storing what is waiting stops: those that come first can be written, the next one cannot,
and there are those behind it. -/
structure Halt (ledger : Ledger) (host : Host) (fault : Fault) where
  path : String
  place : Path
  stored : Table String Value
  key : String
  data : Value
  rest : Table String Value
  placeAt_eq : placeAt ledger.store = some path
  opens : host.files.Opens path place
  waiting : ledger.uncached = stored ++ (key, data) :: rest
  writable : Writable stored
  unwritable : Json.write data = .error fault

namespace Halt

variable (halt : Halt ledger host fault)

/-- The ledger that is left: those that come first are stored, the others are waiting. -/
def ledgerLeft : Ledger :=
  ledger.moved halt.stored ((halt.key, halt.data) :: halt.rest)

/-- The host that is left: the store ends in the start of a line. -/
def hostLeft : Host :=
  host.putFile halt.place
    (host.files.dataAt halt.place ++ (writeLines halt.stored ++ tornLine halt.key).toUTF8)

end Halt

/-- A ledger has something to store, but its store cannot be opened. -/
def CannotOpen (ledger : Ledger) (host : Host) (fault : Fault) : Prop :=
  ledger.uncached ≠ [] ∧ ∃ path, placeAt ledger.store = some path ∧
    host.files.reach .findOrMake path = .error fault

theorem CannotOpen.outcome_flush (h : CannotOpen ledger host fault) :
    flush.outcome (ledger, host) = (.error fault, ledger, host) := by
  obtain ⟨hu, path, hplace, hreach⟩ := h
  rw [flush, outcome_bind_ok (outcome_get _)]
  simp only [hplace, List.isEmpty_eq_false_iff.2 hu]
  have hopened := outcome_onHost (Host.append path "") ledger host
  rw [Host.outcome_append_eq, hreach] at hopened
  exact outcome_bind_error hopened

/-- **A flush stops at data that cannot be written.** -/
theorem Halt.outcome_flush (halt : Halt ledger host fault) :
    flush.outcome (ledger, host) = (.error fault, halt.ledgerLeft, halt.hostLeft) := by
  have hu : ledger.uncached ≠ [] := by rw [halt.waiting]; simp
  have hlines : (writeLines halt.stored ++ tornLine halt.key).toUTF8 =
      (writeLines halt.stored).toUTF8 ++ (tornLine halt.key).toUTF8 := String.toByteArray_append
  have hrun := outcome_storeWaiting halt.opens halt.writable ((halt.key, halt.data) :: halt.rest)
    (host.files.dataAt halt.place) ledger
  have hline := outcome_storeLine_of_error halt.opens halt.key halt.unwritable
    (host.files.dataAt halt.place ++ (writeLines halt.stored).toUTF8) halt.ledgerLeft
  rw [ByteArray.append_assoc, ← hlines] at hline
  rw [outcome_flush_eq halt.placeAt_eq halt.opens hu, halt.waiting]
  have hsame : { ledger with uncached := halt.stored ++ (halt.key, halt.data) :: halt.rest } =
      ledger := by rw [← halt.waiting]
  rw [hsame] at hrun
  exact hrun.trans (outcome_bind_error hline)

/-- The data of a reservation, of which none count as empty. -/
def dataOf (data : Value) : Except Fault (Table Key Value) :=
  tableFrom (if data = .null then .map [] else data)

/-- The ledger with one more text waiting for the store. -/
def awaiting (ledger : Ledger) (key : String) (data : Value) : Ledger :=
  { ledger with uncached := Table.put ledger.uncached key data }

theorem put_ne_nil (t : Table String Value) (key : String) (data : Value) :
    Table.put t key data ≠ [] := by
  cases t with
  | nil => exact List.cons_ne_nil _ _
  | cons p t =>
    rw [Table.put]
    split <;> exact List.cons_ne_nil _ _

/-- What reserving comes to, up to storing. -/
theorem outcome_reserve_eq (ledger : Ledger) (host : Host) (key : String) (data : Value) :
    (reserve key data).outcome (ledger, host) =
      if ledger.registered key then (.error (.alreadyIssued key), ledger, host)
      else match dataOf data with
        | .error fault => (.error fault, ledger, host)
        | .ok entries =>
          if ledger.flushOnReserve.truthy then
            flush.outcome (ledger.awaiting key (.map entries), host)
          else (.ok ⟨⟩, ledger.awaiting key (.map entries), host) := by
  rw [reserve, outcome_bind_ok (outcome_get _)]
  dsimp only
  split
  · rfl
  · rw [← dataOf, outcome_bind, outcome_ofExcept]
    cases dataOf data with
    | error cause => rfl
    | ok entries =>
      dsimp only
      rw [outcome_bind_ok (outcome_update _ _ _), outcome_bind_ok (outcome_get _)]
      dsimp only
      split <;> rfl

/-- What a ledger is after a reservation that could not be stored: the text is on record and cannot
be reserved again, whatever the host has become, and nothing else is different. -/
structure Stranded (key : String) (data : Value) (ledger ledger' : Ledger) : Prop where
  fresh : ledger.registered key = false
  registered : ∀ other,
    ledger'.registered other = true ↔ other = key ∨ ledger.registered other = true
  data?_self : ledger'.data? key = some data
  data?_of_ne : ∀ other, other ≠ key → ledger'.data? other = ledger.data? other
  ids : ledger'.ids = ledger.ids ++ [key]
  conflict : ∀ again host, (reserve key again).outcome (ledger', host) =
    (.error (.alreadyIssued key), ledger', host)

theorem has_uncached_eq_false (hnew : ledger.registered key = false) :
    Table.has ledger.uncached key = false ∧ Table.has ledger.cached key = false := by
  rw [Ledger.registered, data?, Option.isSome_eq_false_iff, Option.isNone_iff_eq_none,
    Option.or_eq_none_iff] at hnew
  simp [Table.has, hnew]

theorem uncached_awaiting (hnew : ledger.registered key = false) (v : Value) :
    (ledger.awaiting key v).uncached = ledger.uncached ++ [(key, v)] :=
  Table.put_of_has_eq_false (has_uncached_eq_false hnew).1 v

theorem stranded_awaiting (hnew : ledger.registered key = false) (v : Value) :
    Stranded key v ledger (ledger.awaiting key v) := by
  obtain ⟨hwaits, hstored⟩ := has_uncached_eq_false hnew
  have hself : (ledger.awaiting key v).data? key = some v := by
    rw [data?, awaiting, Table.find?_put_self]
    rfl
  refine ⟨hnew, fun other => registered_put, hself, fun other hne => ?_, ?_, ?_⟩
  · rw [data?, awaiting, Table.find?_put_of_ne _ _ (beq_false_of_ne (Ne.symm hne))]
    rfl
  · have hkey : (Table.keys ledger.cached).contains key = false := by
      rw [List.contains_eq_mem, decide_eq_false_iff_not, ← Table.has_eq_true_iff, hstored]
      exact Bool.false_ne_true
    have hfilter : (Table.keys [(key, v)]).filter
        (fun key => !(Table.keys ledger.cached).contains key) = [key] :=
      List.filter_cons_of_pos (by rw [hkey]; rfl)
    rw [Ledger.ids, Ledger.ids, uncached_awaiting hnew, Table.keys_append, List.append_assoc]
    dsimp only [awaiting]
    rw [List.filter_append, hfilter]
  · intro again host
    refine outcome_reserve_of_registered ?_ again host
    rw [Ledger.registered, hself]
    rfl

/-- A text that is on record stays so when what is waiting moves to the store. -/
theorem Stranded.moved {v : Value} {stored rest : Table String Value}
    (h : Stranded key v ledger (ledger.awaiting key v))
    (hu : (ledger.awaiting key v).uncached = stored ++ rest)
    (hd : Table.Distinct (ledger.awaiting key v).uncached) :
    Stranded key v ledger ((ledger.awaiting key v).moved stored rest) := by
  rw [hu] at hd
  have hsame : { ledger.awaiting key v with uncached := stored ++ rest } =
      ledger.awaiting key v := by rw [← hu]
  have hdata (other : String) : ((ledger.awaiting key v).moved stored rest).data? other =
      (ledger.awaiting key v).data? other := by rw [data?_moved hd, hsame]
  have hregistered (other : String) : ((ledger.awaiting key v).moved stored rest).registered other =
      (ledger.awaiting key v).registered other := by rw [Ledger.registered, hdata]; rfl
  refine ⟨h.fresh, fun other => ?_, ?_, fun other hne => ?_, ?_, fun again host => ?_⟩
  · rw [hregistered, h.registered]
  · rw [hdata, h.data?_self]
  · rw [hdata, h.data?_of_ne other hne]
  · rw [ids_moved hd, hsame, h.ids]
  · refine outcome_reserve_of_registered ?_ again host
    rw [hregistered]
    exact (h.registered key).2 (.inl rfl)

/-- A ledger whose store is to be in a directory that is not there. -/
def homeless : Ledger where
  store := some "/d/s/t"
  numberStore := some "/d/pid-sequences.json"

end PersistentId.Ledger
