import PersistentId.Proofs.Ledger.Numbers
import PersistentId.Proofs.Ledger.Store

/-!
# Numbers in sequence

Ledgers that keep their next numbers in one file give out the numbers of a scope one after the
other. `outcome_nextNumber` is what giving out a number comes to, where the path of the stored
numbers opens a place; `numbersOf` is what the bytes there say.

Of any number of ledgers, each with a first number of its own and opened at any time, one after
another is asked for a number of some scope (`Turn`, `play`). The stored next number of a scope is
past all that were given out (`Sequenced`), whatever a ledger remembers, so that

* the numbers given out in a scope increase;
* none comes before the first number of the ledger that gave it;
* giving out a number of one scope changes the stored next number of no other.

`sequences_increase` puts these together.
-/

namespace PersistentId.Ledger

open PersistentId.Action

/-! ## Giving out a number -/

/-- The next numbers in a document, or why it cannot be read. What is no object of members holds
none. -/
def numbersFrom (document : String) : Except Fault (Table Key Counter) :=
  match readNumbers document with
  | .ok numbers => .ok numbers
  | .error (.tooDeep flaw) => .error (.tooDeep flaw.words)
  | .error .unreadable | .error .notAnObject => .ok []

/-- The next numbers that the bytes of a document hold, or why they cannot be read. -/
def numbersOf (data : ByteArray) : Except Fault (Table Key Counter) :=
  (Host.textOf data).bind numbersFrom

/-- The number that a ledger gives out for a scope where the given ones are stored. -/
def given (ledger : Ledger) (stored : Table Key Counter) (scope : String) : Counter :=
  Counter.max (ledger.expected (.str scope)) ((Table.find? stored (.str scope)).getD ledger.start)

/-- The numbers to be stored then. -/
def advanced (ledger : Ledger) (stored : Table Key Counter) (scope : String) : Table Key Counter :=
  Table.put stored (.str scope) (.number ((ledger.given stored scope).toInt + 1))

/-- The ledger that has given out a number. -/
def after (ledger : Ledger) (scope : String) (n : Counter) : Ledger :=
  { ledger with numbers := Table.put ledger.numbers (.str scope) (n.toInt + 1) }

variable {ledger : Ledger} {host : Host} {path : String} {place : Path} {scope : String}

theorem outcome_numbersIn (path document : String) (ledger : Ledger) (host : Host) :
    ∃ entries, (numbersIn path document).outcome (ledger, host) =
      (numbersFrom document, ledger, host.record entries) := by
  rw [numbersIn, numbersFrom]
  cases readNumbers document with
  | ok numbers => exact ⟨[], by simp⟩
  | error fault =>
    cases fault with
    | tooDeep flaw => exact ⟨[], by simp⟩
    | unreadable => exact ⟨_, outcome_bind_ok (outcome_note ..)⟩
    | notAnObject => exact ⟨_, outcome_bind_ok (outcome_note ..)⟩

theorem placeAt_numberStore (hs : ledger.numberStore = some path)
    (h : host.files.Opens path place) : placeAt ledger.numberStore = some path := by
  rw [hs, placeAt]
  exact Option.filter_some_pos (by simpa using h.ne_empty)

/-- **What giving out a number comes to**, where the numbers are stored in a file. -/
theorem outcome_nextNumber (hs : ledger.numberStore = some path)
    (h : host.files.Opens path place) (scope : String) :
    ∃ entries, (nextNumber (.str scope)).outcome (ledger, host) =
      match numbersOf (host.files.dataAt place) with
      | .error fault =>
        (.error fault, ledger, (host.putFile place (host.files.dataAt place)).record entries)
      | .ok stored =>
        match writeNumbers (ledger.advanced stored scope) with
        | .whole document =>
          (.ok (ledger.given stored scope), ledger.after scope (ledger.given stored scope),
            (host.putFile place document.toUTF8).record entries)
        | .cut start fault =>
          (.error fault, ledger, (host.putFile place start.toUTF8).record entries) := by
  set data := host.files.dataAt place with hdata
  set host₁ := host.putFile place data with hhost₁
  have happend : (Host.append path "").outcome host = (.ok ⟨⟩, host₁) := by
    rw [Host.outcome_append h, String.toUTF8, String.toByteArray_empty, ByteArray.append_empty]
  have hopen₁ : host₁.files.Opens path place := h.put h.notDirectory _
  have hread : (Host.read path).outcome host₁ = (Host.textOf data, host₁) := by
    have hnode : host₁.files.node? place = some (.file data) :=
      FileTree.node?_put_self h.ne_nil _
    rw [Host.outcome_read, hopen₁.contents, if_neg (by simp [hnode]), FileTree.dataAt, hnode]
    rfl
  have hkey : (Value.str scope).asKey = .ok (.str scope) := rfl
  simp only [nextNumber, outcome_bind, hkey, outcome_ofExcept, outcome_get,
    placeAt_numberStore hs h, outcome_onHost, happend, hread, numbersOf]
  cases Host.textOf data with
  | error fault => exact ⟨[], by simp [Except.bind]⟩
  | ok document =>
    obtain ⟨entries, hnumbers⟩ := outcome_numbersIn path document ledger host₁
    simp only [hnumbers, Except.bind]
    cases numbersFrom document with
    | error fault => exact ⟨entries, rfl⟩
    | ok stored =>
      refine ⟨entries, ?_⟩
      have hopen₂ : (host₁.record entries).files.Opens path place := hopen₁
      have hwritten (text : String) :
          (host₁.record entries).putFile place text.toUTF8 =
            (host.putFile place text.toUTF8).record entries :=
        congrArg (Host.record · entries) (Host.putFile_putFile ..)
      simp only [outcome_onHost, Host.outcome_write hopen₂, hwritten, advanced, given, after]
      cases writeNumbers _ <;> rfl

theorem scoped_of_numbersOf {data : ByteArray} {stored : Table Key Counter}
    (h : numbersOf data = .ok stored) : Table.Scoped stored := by
  obtain ⟨document, -, h⟩ := exists_of_bind_eq_ok h
  unfold numbersFrom at h
  split at h
  · next hread =>
    rw [← Except.ok.inj h]
    exact scoped_of_readNumbers hread
  · cases h
  · cases h
    exact Table.scoped_nil
  · cases h
    exact Table.scoped_nil

theorem numbersOf_toUTF8 {numbers : Table Key Counter} {document : String}
    (hn : Table.Scoped numbers) (h : writeNumbers numbers = .whole document) :
    numbersOf document.toUTF8 = .ok numbers := by
  have htext : Host.textOf document.toUTF8 = .ok document := by
    rw [Host.textOf, Text.decode?_toUTF8 (return_not_mem_writeNumbers h)]
  simp only [numbersOf, htext, Except.bind, numbersFrom, readNumbers_writeNumbers hn h]

/-- A ledger is asked for a number: the stored numbers cannot be read, or the next one is too long
to be written, or it gives out a number and the next one is stored. -/
theorem nextNumber_cases (hs : ledger.numberStore = some path) (h : host.files.Opens path place)
    (scope : String) :
    ∃ result ledger' host' data,
      (nextNumber (.str scope)).outcome (ledger, host) = (result, ledger', host') ∧
        host'.files = host.files.put place (.file data) ∧
        ((∃ fault, numbersOf (host.files.dataAt place) = .error fault ∧ result = .error fault ∧
            ledger' = ledger ∧ data = host.files.dataAt place) ∨
          result = .error .tooLong ∧ ledger' = ledger ∨
          ∃ stored, numbersOf (host.files.dataAt place) = .ok stored ∧
            result = .ok (ledger.given stored scope) ∧
            ledger' = ledger.after scope (ledger.given stored scope) ∧
            numbersOf data = .ok (ledger.advanced stored scope)) := by
  obtain ⟨entries, hout⟩ := outcome_nextNumber hs h scope
  cases hstored : numbersOf (host.files.dataAt place) with
  | error fault =>
    rw [hstored] at hout
    exact ⟨_, _, _, _, hout, rfl, .inl ⟨fault, rfl, rfl, rfl, rfl⟩⟩
  | ok stored =>
    rw [hstored] at hout
    have hscoped := (scoped_of_numbersOf hstored).put scope
      (.number ((ledger.given stored scope).toInt + 1))
    cases hwrite : writeNumbers (ledger.advanced stored scope) with
    | cut start fault =>
      simp only [hwrite] at hout
      obtain rfl := eq_tooLong_of_writeNumbers hscoped hwrite
      exact ⟨_, _, _, _, hout, rfl, .inr (.inl ⟨rfl, rfl⟩)⟩
    | whole document =>
      simp only [hwrite] at hout
      exact ⟨_, _, _, _, hout, rfl, .inr (.inr ⟨stored, rfl, rfl, rfl,
        numbersOf_toUTF8 hscoped hwrite⟩)⟩

/-! ## Stored next numbers -/

/-- The stored next number of a scope, if there is one. -/
def counter? (files : FileTree) (place : Path) (scope : String) : Option Counter :=
  (numbersOf (files.dataAt place)).toOption.bind (Table.find? · (.str scope))

theorem counter?_eq_find? {files : FileTree} {stored : Table Key Counter}
    (h : numbersOf (files.dataAt place) = .ok stored) (scope : String) :
    counter? files place scope = Table.find? stored (.str scope) := by
  rw [counter?, h]
  rfl

theorem find?_advanced_self (ledger : Ledger) (stored : Table Key Counter) (scope : String) :
    Table.find? (ledger.advanced stored scope) (.str scope) =
      some (.number ((ledger.given stored scope).toInt + 1)) :=
  Table.find?_put_self ..

theorem find?_advanced_of_ne (ledger : Ledger) (stored : Table Key Counter) {other : String}
    (h : scope ≠ other) :
    Table.find? (ledger.advanced stored scope) (.str other) = Table.find? stored (.str other) :=
  Table.find?_put_of_ne _ _ (by simpa using h)

theorem start_le_given (stored : Table Key Counter)
    (h : ∀ n, Table.find? ledger.numbers (.str scope) = some n → ledger.start.toInt ≤ n) :
    ledger.start.toInt ≤ (ledger.given stored scope).toInt := by
  have hexpected : ledger.start.toInt ≤ (ledger.expected (.str scope)).toInt := by
    rw [expected]
    split
    · next n hn => exact h n hn
    · exact Int.le_refl _
  rw [given, Counter.toInt_max]
  exact Int.le_trans hexpected (Int.le_max_left ..)

theorem le_given {stored : Table Key Counter} {counter : Counter}
    (h : Table.find? stored (.str scope) = some counter) (ledger : Ledger) :
    counter.toInt ≤ (ledger.given stored scope).toInt := by
  rw [given, Counter.toInt_max, h]
  exact Int.le_max_right ..

/-! ## Turns -/

/-- What is done with ledgers that share a file of next numbers. -/
inductive Turn where
  /-- One more ledger is opened. -/
  | open (directory config name : Value)
  /-- The ledger of a number among those opened so far is asked for a number of a scope. -/
  | next (i : Nat) (scope : String)

/-- What came of asking for a number. -/
structure Draw where
  scope : String
  /-- The first number of the ledger that was asked. -/
  start : Int
  result : Except Fault Counter

/-- What comes of a turn, and what it leaves. -/
def Turn.take : Turn → List Ledger × Host → List Draw × List Ledger × Host
  | .open directory config name, (ledgers, host) =>
    match (create directory config name).outcome host with
    | (.ok ledger, host) => ([], ledgers ++ [ledger], host)
    | (.error _, host) => ([], ledgers, host)
  | .next i scope, (ledgers, host) =>
    match ledgers[i]? with
    | some ledger =>
      let (result, ledger', host) := (nextNumber (.str scope)).outcome (ledger, host)
      ([⟨scope, ledger.start.toInt, result⟩], ledgers.set i ledger', host)
    | none => ([], ledgers, host)

/-- What comes of turns taken one after another, and what they leave. -/
def play : List Turn → List Ledger × Host → List Draw × List Ledger × Host
  | [], state => ([], state)
  | turn :: turns, state =>
    let (draws, state) := turn.take state
    let (more, state) := play turns state
    (draws ++ more, state)

/-- Whether a ledger that is opened keeps its numbers in the file at a place. -/
def Turn.SharesAt (files : FileTree) (place : Path) : Turn → Prop
  | .open directory config name =>
    ∀ tree ledger, configured tree directory config name = .ok ledger →
      ∃ path, ledger.numberStore = some path ∧ files.Opens path place
  | .next .. => True

/-- The numbers given out in a scope, in their order. -/
def numbersGiven (scope : String) (draws : List Draw) : List Int :=
  draws.filterMap fun draw =>
    if draw.scope = scope then draw.result.toOption.map Counter.toInt else none

/-- The stored numbers are past those that ledgers have given out. -/
structure Sequenced (place : Path) (draws : List Draw) (ledgers : List Ledger) (host : Host) :
    Prop where
  opens : ∀ ledger ∈ ledgers, ∃ path, ledger.numberStore = some path ∧ host.files.Opens path place
  started : ∀ ledger ∈ ledgers, ∀ scope n, Table.find? ledger.numbers (.str scope) = some n →
    ledger.start.toInt ≤ n
  past : ∀ scope, ∀ n ∈ numbersGiven scope draws,
    ∃ counter, counter? host.files place scope = some counter ∧ n < counter.toInt
  increasing : ∀ scope, (numbersGiven scope draws).Pairwise (· < ·)
  atLeast : ∀ draw ∈ draws, ∀ n, draw.result = .ok n → draw.start ≤ n.toInt

theorem numbersGiven_append (scope : String) (draws more : List Draw) :
    numbersGiven scope (draws ++ more) = numbersGiven scope draws ++ numbersGiven scope more :=
  List.filterMap_append ..

theorem numbersGiven_of_error (scope other : String) (start : Int) (fault : Fault) :
    numbersGiven other [⟨scope, start, .error fault⟩] = [] := by
  simp [numbersGiven, Except.toOption]

theorem numbersGiven_self (scope : String) (start : Int) (n : Counter) :
    numbersGiven scope [⟨scope, start, .ok n⟩] = [n.toInt] := by
  simp [numbersGiven, Except.toOption]

theorem numbersGiven_of_ne {scope other : String} (h : scope ≠ other) (start : Int)
    (result : Except Fault Counter) : numbersGiven other [⟨scope, start, result⟩] = [] := by
  simp [numbersGiven, h]

variable {draws : List Draw} {ledgers : List Ledger}

/-- Opening a ledger gives out nothing. -/
theorem Sequenced.open (h : Sequenced place draws ledgers host) (entries : Journal)
    {directory config name : Value} {blank : Ledger} {table : Table String Value}
    (hs : Turn.SharesAt host.files place (.open directory config name))
    (hb : configured host.files directory config name = .ok blank) :
    Sequenced place draws (ledgers ++ [{ blank with cached := table }]) (host.record entries) := by
  refine ⟨?_, ?_, h.past, h.increasing, h.atLeast⟩
  · intro ledger hledger
    rcases List.mem_append.1 hledger with hledger | hledger
    · exact h.opens ledger hledger
    · rw [List.mem_singleton.1 hledger]
      exact hs _ blank hb
  · intro ledger hledger scope n hn
    rcases List.mem_append.1 hledger with hledger | hledger
    · exact h.started ledger hledger scope n hn
    · rw [List.mem_singleton.1 hledger, (configured_eq_ok hb).2.2] at hn
      cases hn

variable {files : FileTree} {data : ByteArray}

/-- A document that is left as it was has the same next numbers. -/
theorem counter?_put_dataAt (hp : place ≠ []) (scope : String) :
    counter? (files.put place (.file (files.dataAt place))) place scope =
      counter? files place scope := by
  rw [counter?, counter?, FileTree.dataAt_put_self hp]

/-- **Giving out a number of one scope leaves the others alone.** -/
theorem counter?_put_of_ne (hp : place ≠ []) {stored : Table Key Counter}
    (hstored : numbersOf (files.dataAt place) = .ok stored)
    (hdata : numbersOf data = .ok (ledger.advanced stored scope)) {other : String}
    (hne : scope ≠ other) :
    counter? (files.put place (.file data)) place other = counter? files place other := by
  have hread : numbersOf ((files.put place (.file data)).dataAt place) =
      .ok (ledger.advanced stored scope) := by rw [FileTree.dataAt_put_self hp, hdata]
  rw [counter?_eq_find? hread, counter?_eq_find? hstored, find?_advanced_of_ne _ _ hne]

theorem counter?_put_self (hp : place ≠ []) {stored : Table Key Counter}
    (hdata : numbersOf data = .ok (ledger.advanced stored scope)) :
    counter? (files.put place (.file data)) place scope =
      some (.number ((ledger.given stored scope).toInt + 1)) := by
  have hread : numbersOf ((files.put place (.file data)).dataAt place) =
      .ok (ledger.advanced stored scope) := by rw [FileTree.dataAt_put_self hp, hdata]
  rw [counter?_eq_find? hread, find?_advanced_self]

theorem Sequenced.opens_set (h : Sequenced place draws ledgers host) {i : Nat}
    (hi : ledgers[i]? = some ledger) (ledger' : Ledger)
    (hs : ledger'.numberStore = ledger.numberStore) {host' : Host}
    (hfiles : host'.files = host.files.put place (.file data)) :
    ∀ other ∈ ledgers.set i ledger', ∃ path, other.numberStore = some path ∧
      host'.files.Opens path place := by
  intro other hother
  have hkept : ∃ path, other.numberStore = some path ∧ host.files.Opens path place := by
    rcases List.mem_or_eq_of_mem_set hother with hmem | rfl
    · exact h.opens other hmem
    · rw [hs]
      exact h.opens ledger (List.mem_of_getElem? hi)
  obtain ⟨path, hpath, hopen⟩ := hkept
  exact ⟨path, hpath, hfiles ▸ hopen.put hopen.notDirectory data⟩

/-- Where the stored numbers cannot be read, all stays as it was. -/
theorem Sequenced.fail (h : Sequenced place draws ledgers host) {i : Nat}
    (hi : ledgers[i]? = some ledger) (scope : String) (fault : Fault) {host' : Host}
    (hfiles : host'.files = host.files.put place (.file (host.files.dataAt place))) :
    Sequenced place (draws ++ [⟨scope, ledger.start.toInt, .error fault⟩]) (ledgers.set i ledger)
      host' := by
  obtain ⟨path, -, hopen⟩ := h.opens ledger (List.mem_of_getElem? hi)
  have hnone (other : String) : numbersGiven other
      (draws ++ [⟨scope, ledger.start.toInt, .error fault⟩]) = numbersGiven other draws := by
    rw [numbersGiven_append, numbersGiven_of_error, List.append_nil]
  refine ⟨h.opens_set hi _ rfl hfiles, ?_, fun other n hn => ?_, fun other => ?_, ?_⟩
  · intro other hother
    rcases List.mem_or_eq_of_mem_set hother with hmem | rfl
    · exact h.started other hmem
    · exact h.started other (List.mem_of_getElem? hi)
  · rw [hfiles, counter?_put_dataAt hopen.ne_nil]
    exact h.past other n (hnone other ▸ hn)
  · rw [hnone]
    exact h.increasing other
  · intro draw hdraw n hn
    rcases List.mem_append.1 hdraw with hdraw | hdraw
    · exact h.atLeast draw hdraw n hn
    · rw [List.mem_singleton.1 hdraw] at hn
      cases hn

/-- **A number that is given out is past all before it.** -/
theorem Sequenced.lt_given (h : Sequenced place draws ledgers host) {stored : Table Key Counter}
    (hstored : numbersOf (host.files.dataAt place) = .ok stored) (ledger : Ledger) {n : Int}
    (hn : n ∈ numbersGiven scope draws) : n < (ledger.given stored scope).toInt := by
  obtain ⟨counter, hcounter, hlt⟩ := h.past scope n hn
  rw [counter?_eq_find? hstored] at hcounter
  exact Int.lt_of_lt_of_le hlt (le_given hcounter ledger)

/-- A ledger that has given out a number remembers none before its first one. -/
theorem started_after {given : Counter} (hgiven : ledger.start.toInt ≤ given.toInt)
    (hs : ∀ scope n, Table.find? ledger.numbers (.str scope) = some n → ledger.start.toInt ≤ n)
    (name : String) {n : Int}
    (hn : Table.find? (ledger.after scope given).numbers (.str name) = some n) :
    ledger.start.toInt ≤ n := by
  by_cases hname : scope = name
  · subst hname
    rw [after, Table.find?_put_self] at hn
    obtain rfl := Option.some.inj hn
    exact Int.le_add_one hgiven
  · rw [after, Table.find?_put_of_ne _ _ (by simpa using hname)] at hn
    exact hs name n hn

/-- The stored number of a scope is past the one given out, as those of others are past theirs. -/
theorem Sequenced.give (h : Sequenced place draws ledgers host) {i : Nat}
    (hi : ledgers[i]? = some ledger) {stored : Table Key Counter}
    (hstored : numbersOf (host.files.dataAt place) = .ok stored)
    (hdata : numbersOf data = .ok (ledger.advanced stored scope)) {host' : Host}
    (hfiles : host'.files = host.files.put place (.file data)) :
    Sequenced place (draws ++ [⟨scope, ledger.start.toInt, .ok (ledger.given stored scope)⟩])
      (ledgers.set i (ledger.after scope (ledger.given stored scope))) host' := by
  have hledger := List.mem_of_getElem? hi
  obtain ⟨path, -, hopen⟩ := h.opens ledger hledger
  have hstart := start_le_given stored (h.started ledger hledger scope)
  refine ⟨h.opens_set hi (ledger.after scope (ledger.given stored scope)) rfl hfiles, ?_,
    fun other n hn => ?_, fun other => ?_, ?_⟩
  · intro other hother name n hn
    rcases List.mem_or_eq_of_mem_set hother with hmem | rfl
    · exact h.started other hmem name n hn
    · exact started_after hstart (h.started ledger hledger) name hn
  · rw [numbersGiven_append, List.mem_append] at hn
    by_cases hname : scope = other
    · subst hname
      rw [numbersGiven_self, List.mem_singleton] at hn
      refine ⟨_, hfiles ▸ counter?_put_self hopen.ne_nil hdata, Int.lt_add_one_of_le ?_⟩
      rcases hn with hn | rfl
      · exact Int.le_of_lt (h.lt_given hstored ledger hn)
      · exact Int.le_refl _
    · rw [numbersGiven_of_ne hname] at hn
      rw [hfiles, counter?_put_of_ne hopen.ne_nil hstored hdata hname]
      exact h.past other n (hn.resolve_right List.not_mem_nil)
  · rw [numbersGiven_append, List.pairwise_append]
    by_cases hname : scope = other
    · subst hname
      rw [numbersGiven_self]
      refine ⟨h.increasing scope, List.pairwise_singleton .., fun n hn m hm => ?_⟩
      rw [List.mem_singleton.1 hm]
      exact h.lt_given hstored ledger hn
    · rw [numbersGiven_of_ne hname]
      exact ⟨h.increasing other, List.Pairwise.nil, fun _ _ _ hm => absurd hm List.not_mem_nil⟩
  · intro draw hdraw n hn
    rcases List.mem_append.1 hdraw with hdraw | hdraw
    · exact h.atLeast draw hdraw n hn
    · obtain rfl := List.mem_singleton.1 hdraw
      rw [← Except.ok.inj hn]
      exact hstart

theorem Turn.SharesAt.mono {turn : Turn} {host' : Host} (h : turn.SharesAt host.files place)
    (hg : host.files.Grown host'.files) : turn.SharesAt host'.files place := by
  cases turn with
  | «open» directory config name =>
    intro tree ledger hl
    obtain ⟨path, hpath, hopen⟩ := h tree ledger hl
    exact ⟨path, hpath, hg.opens path place hopen⟩
  | next => trivial

/-- What a turn leaves: the stored numbers are past those given out, other scopes are as they were,
and what could be read can be read. -/
structure Taken (place : Path) (draws : List Draw) (host : Host) (more : List Draw)
    (ledgers : List Ledger) (host' : Host) : Prop where
  sequenced : Sequenced place (draws ++ more) ledgers host'
  others : ∀ other, (∀ draw ∈ more, draw.scope ≠ other) →
    counter? host'.files place other = counter? host.files place other
  readable : (numbersOf (host.files.dataAt place)).isOk = true →
    (∀ draw ∈ more, draw.result.isOk = true) ∧
      (numbersOf (host'.files.dataAt place)).isOk = true

/-- A turn that gives out nothing. -/
theorem Taken.idle {host' : Host} (h : Sequenced place draws ledgers host')
    (hfiles : host'.files = host.files) : Taken place draws host [] ledgers host' where
  sequenced := by rwa [List.append_nil]
  others other _ := by rw [hfiles]
  readable hok := ⟨by simp, by rwa [hfiles]⟩

/-- A ledger is asked for a number. -/
theorem Sequenced.ask (h : Sequenced place draws ledgers host) {i : Nat}
    (hi : ledgers[i]? = some ledger) (scope : String) :
    ∃ result ledger' host', (nextNumber (.str scope)).outcome (ledger, host) =
        (result, ledger', host') ∧ host.files.Grown host'.files ∧
      (result ≠ .error .tooLong →
        Taken place draws host [⟨scope, ledger.start.toInt, result⟩] (ledgers.set i ledger')
          host') := by
  obtain ⟨path, hstore, hopen⟩ := h.opens ledger (List.mem_of_getElem? hi)
  obtain ⟨result, ledger', host', data, hout, hfiles, hcases⟩ :=
    nextNumber_cases hstore hopen scope
  refine ⟨result, ledger', host', hout, hfiles ▸ FileTree.grown_put hopen.notDirectory data,
    fun hshort => ?_⟩
  rcases hcases with ⟨fault, hread, rfl, rfl, rfl⟩ | ⟨rfl, -⟩ | ⟨stored, hread, rfl, rfl, hdata⟩
  · refine ⟨h.fail hi scope fault hfiles, fun other _ => ?_, fun hok => ?_⟩
    · rw [hfiles, counter?_put_dataAt hopen.ne_nil]
    · rw [hread] at hok
      cases hok
  · exact absurd rfl hshort
  · refine ⟨h.give hi hread hdata hfiles, fun other hne => ?_, fun _ => ⟨?_, ?_⟩⟩
    · rw [hfiles, counter?_put_of_ne hopen.ne_nil hread hdata (hne _ List.mem_cons_self)]
    · intro draw hdraw
      rw [List.mem_singleton.1 hdraw]
      rfl
    · rw [hfiles, FileTree.dataAt_put_self hopen.ne_nil, hdata]
      rfl

/-- **A turn keeps the stored numbers past those given out.** -/
theorem Sequenced.take (h : Sequenced place draws ledgers host) (turn : Turn)
    (hs : turn.SharesAt host.files place) :
    ∃ more ledgers' host', turn.take (ledgers, host) = (more, ledgers', host') ∧
      host.files.Grown host'.files ∧
      ((∀ draw ∈ more, draw.result ≠ .error .tooLong) →
        Taken place draws host more ledgers' host') := by
  cases turn with
  | «open» directory config name =>
    obtain ⟨result, entries, hcreate, hblank⟩ := exists_of_create directory config name host
    cases result with
    | error fault =>
      have hsame : Sequenced place draws ledgers (host.record entries) :=
        ⟨h.opens, h.started, h.past, h.increasing, h.atLeast⟩
      exact ⟨[], ledgers, host.record entries, by simp only [Turn.take, hcreate],
        FileTree.Grown.refl _, fun _ => .idle hsame rfl⟩
    | ok ledger =>
      obtain ⟨blank, table, hb, rfl⟩ := hblank ledger rfl
      exact ⟨[], ledgers ++ [{ blank with cached := table }], host.record entries,
        by simp only [Turn.take, hcreate], FileTree.Grown.refl _,
        fun _ => .idle (h.open entries hs hb) rfl⟩
  | next i scope =>
    cases hi : ledgers[i]? with
    | none =>
      exact ⟨[], ledgers, host, by simp only [Turn.take, hi], FileTree.Grown.refl _,
        fun _ => .idle h rfl⟩
    | some ledger =>
      obtain ⟨result, ledger', host', hout, hgrown, htaken⟩ := h.ask hi scope
      exact ⟨[⟨scope, ledger.start.toInt, result⟩], ledgers.set i ledger', host',
        by simp only [Turn.take, hi, hout], hgrown,
        fun hshort => htaken (hshort _ List.mem_cons_self)⟩

/-- **Turns keep the stored numbers past those given out.** -/
theorem Sequenced.play (h : Sequenced place draws ledgers host) {turns : List Turn}
    (hs : ∀ turn ∈ turns, turn.SharesAt host.files place)
    (hshort : ∀ draw ∈ (play turns (ledgers, host)).1, draw.result ≠ .error .tooLong) :
    ∃ more ledgers' host', Ledger.play turns (ledgers, host) = (more, ledgers', host') ∧
      host.files.Grown host'.files ∧ Sequenced place (draws ++ more) ledgers' host' ∧
      ((numbersOf (host.files.dataAt place)).isOk = true →
        (∀ draw ∈ more, draw.result.isOk = true) ∧
        (numbersOf (host'.files.dataAt place)).isOk = true) := by
  induction turns generalizing draws ledgers host with
  | nil =>
    exact ⟨[], ledgers, host, rfl, FileTree.Grown.refl _, by rwa [List.append_nil],
      fun hok => ⟨by simp, hok⟩⟩
  | cons turn turns ih =>
    obtain ⟨hturn, hrest⟩ := List.forall_mem_cons.1 hs
    obtain ⟨new, ledgers₁, host₁, htake, hgrown, hstep⟩ := h.take turn hturn
    simp only [Ledger.play, htake, List.forall_mem_append] at hshort
    obtain ⟨hnext, -, hok₁⟩ := hstep hshort.1
    obtain ⟨more, ledgers', host', hplay, hgrown', hlast, hok⟩ :=
      ih hnext (fun turn hmem => (hrest turn hmem).mono hgrown) hshort.2
    refine ⟨new ++ more, ledgers', host', ?_, hgrown.trans hgrown', ?_, ?_⟩
    · simp only [Ledger.play, htake, hplay]
    · rwa [← List.append_assoc]
    · intro hread
      obtain ⟨hnew, hread₁⟩ := hok₁ hread
      obtain ⟨hmore, hread'⟩ := hok hread₁
      exact ⟨List.forall_mem_append.2 ⟨hnew, hmore⟩, hread'⟩

theorem scope_of_take {state state' : List Ledger × Host} {i : Nat} {more : List Draw}
    (h : (Turn.next i scope).take state = (more, state')) {draw : Draw} (hd : draw ∈ more) :
    draw.scope = scope := by
  simp only [Turn.take] at h
  split at h
  · obtain ⟨rfl, -⟩ := Prod.mk.inj h
    rw [List.mem_singleton.1 hd]
  · obtain ⟨rfl, -⟩ := Prod.mk.inj h
    cases hd

/-! ## The numbers of a scope -/

theorem storeroom_opens_numbers : storeroom.files.Opens "/d/n" ["d", "n"] :=
  ⟨rfl, by decide⟩

theorem storeroom_shares (start : Int) : Turn.SharesAt storeroom.files ["d", "n"]
    (.open (.str "/d") (twoFiles true start) .null) :=
  fun _ _ h => ⟨"/d/n", (eq_keeper_of_configured h) ▸ rfl, storeroom_opens_numbers⟩

/-- Two ledgers of an empty directory, the second one opened later, give out numbers. -/
def sharedTurns : List Turn :=
  [.open (.str "/d") (twoFiles true) .null, .next 0 "a", .next 0 "b",
    .open (.str "/d") (twoFiles true 5) .null, .next 1 "a", .next 0 "a"]

/-- **The numbers of a scope increase**, whichever ledgers give them out, as long as none is too
long to be written. -/
theorem sequences_increase (turns : List Turn)
    (hs : ∀ turn ∈ turns, turn.SharesAt host.files place)
    (hshort : ∀ draw ∈ (play turns ([], host)).1, draw.result ≠ .error .tooLong) :
    ∃ draws ledgers' host', play turns ([], host) = (draws, ledgers', host') ∧
      (∀ scope, (numbersGiven scope draws).Pairwise (· < ·)) ∧
      (∀ draw ∈ draws, ∀ n, draw.result = .ok n → draw.start ≤ n.toInt) ∧
      (∀ i scope more ledgers'' host'',
        (Turn.next i scope).take (ledgers', host') = (more, ledgers'', host'') →
        (∀ draw ∈ more, draw.result ≠ .error .tooLong) →
        ∀ other, other ≠ scope →
          counter? host''.files place other = counter? host'.files place other) ∧
      ((numbersOf (host.files.dataAt place)).isOk = true →
        ∀ draw ∈ draws, draw.result.isOk = true) := by
  have hnew : Sequenced place [] [] host := ⟨by simp, by simp, by simp [numbersGiven],
    by simp [numbersGiven], by simp⟩
  obtain ⟨draws, ledgers', host', hplay, -, hlast, hok⟩ := hnew.play hs hshort
  rw [List.nil_append] at hlast
  refine ⟨draws, ledgers', host', hplay, hlast.increasing, hlast.atLeast, ?_,
    fun hread => (hok hread).1⟩
  intro i scope more ledgers'' host'' htake hmore other hne
  obtain ⟨more', _, _, htake', -, hstep⟩ := hlast.take (.next i scope) trivial
  rw [htake] at htake'
  obtain ⟨rfl, hstate⟩ := Prod.mk.inj htake'
  obtain ⟨-, rfl⟩ := Prod.mk.inj hstate
  refine (hstep hmore).others other fun draw hdraw he => hne ?_
  exact he.symm.trans (scope_of_take htake hdraw)

/-- Two ledgers in an empty directory that start at different numbers. -/
theorem sequences_increase_keeper :
    ∃ draws ledgers host, play sharedTurns ([], storeroom) = (draws, ledgers, host) ∧
      numbersGiven "a" draws = [1, 5, 6] ∧
      (∀ scope, (numbersGiven scope draws).Pairwise (· < ·)) ∧
      ∀ draw ∈ draws, draw.result.isOk = true := by
  have hshares : ∀ turn ∈ sharedTurns, turn.SharesAt storeroom.files ["d", "n"] := by
    simp only [sharedTurns, List.forall_mem_cons]
    exact ⟨storeroom_shares 1, trivial, trivial, storeroom_shares 5, trivial, trivial, by simp⟩
  have hok : ∀ draw ∈ (play sharedTurns ([], storeroom)).1, draw.result.isOk = true := by
    decide +kernel
  have hnumbers : numbersGiven "a" (play sharedTurns ([], storeroom)).1 = [1, 5, 6] := by
    decide +kernel
  obtain ⟨draws, ledgers, host', hplay, hincreasing, -⟩ :=
    sequences_increase sharedTurns hshares fun draw hdraw he => by
      have hresult := hok draw hdraw
      rw [he] at hresult
      cases hresult
  rw [hplay] at hok hnumbers
  exact ⟨draws, ledgers, host', hplay, hnumbers, hincreasing, hok⟩

end PersistentId.Ledger
