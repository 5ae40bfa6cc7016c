import PersistentId.Proofs.Json.Cut
import PersistentId.Proofs.Ledger.Store

/-!
# Stores that are cut off

The beginning of the lines of a table is the lines of its first identifiers and, behind them, the
beginning of one more line without its ending (`exists_tears_of_prefix`). Such a torn line is read
as an identifier, which need not be the one that was written (`exists_readLine?_of_prefix`), and the
store can be read, as the beginning of data that can be read is never too deep
(`Tears.exists_storeOf`). A line that is added behind it goes on where the torn one ends: the two
are read as one (`exists_readLine?_glued`, `Tears.storeOf_glued`).
-/

namespace PersistentId.Ledger

/-! ## Beginnings of lines -/

theorem exists_of_prefix_writeLines {table : Table String Value} {t : List Char}
    (h : t <+: (writeLines table).toList) :
    ∃ kept torn, t = (writeLines kept).toList ++ torn ∧ kept <+: table ∧
      (torn ≠ [] → ∃ key data, kept ++ [(key, data)] <+: table ∧
        torn <+: key.toList ++ '\t' :: (documentOf data).toList) := by
  induction table generalizing t with
  | nil =>
    obtain rfl := List.prefix_nil.1 h
    exact ⟨[], [], rfl, List.prefix_rfl, fun hne => absurd rfl hne⟩
  | cons p table ih =>
    obtain ⟨key, data⟩ := p
    rw [toList_writeLines_cons] at h
    rcases List.prefix_or_prefix_of_prefix h (List.prefix_append _ _) with hline | ⟨u, rfl⟩
    · exact ⟨[], t, rfl, List.nil_prefix, fun _ =>
        ⟨key, data, List.cons_prefix_cons.2 ⟨rfl, List.nil_prefix⟩, hline⟩⟩
    · rw [List.prefix_append_right_inj] at h
      cases u with
      | nil =>
        rw [List.append_nil]
        exact ⟨[], _, rfl, List.nil_prefix, fun _ =>
          ⟨key, data, List.cons_prefix_cons.2 ⟨rfl, List.nil_prefix⟩, List.prefix_rfl⟩⟩
      | cons c u =>
        obtain ⟨rfl, hu⟩ := List.cons_prefix_cons.1 h
        obtain ⟨kept, torn, rfl, hkept, htorn⟩ := ih hu
        refine ⟨(key, data) :: kept, torn, ?_, List.cons_prefix_cons.2 ⟨rfl, hkept⟩, fun hne => ?_⟩
        · rw [toList_writeLines_cons]
          simp only [List.append_assoc, List.cons_append]
        · obtain ⟨key', data', hnext, hline⟩ := htorn hne
          exact ⟨key', data', List.cons_prefix_cons.2 ⟨rfl, hnext⟩, hline⟩

/-! ## A store with one line more -/

/-- What is added behind the lines of a table is read behind it. -/
theorem readStore_writeLines_append {kept : Table String Value} (h : Lasting kept)
    (more : List Char) :
    readStore (writeLines kept ++ String.ofList more) =
      (kept.map fun (key, data) => (key, .ok data)) ++ (Text.lines more).filterMap readLine? := by
  have hkept := readStore_writeLines h
  rw [readStore] at hkept ⊢
  rw [String.toList_append, String.toList_ofList, Text.lines_append (ended_writeLines kept),
    List.filterMap_append, hkept]

/-- **A store with one line more**, ended or not, says what the line says besides. -/
theorem storeOf_line {kept : Table String Value} (hkept : Lasting kept)
    (hdistinct : Table.Distinct kept) {more line : List Char} (hr : '\r' ∉ more)
    (hlines : Text.lines more = [line]) {key : String} {data : Except Json.Flaw Value}
    (hread : readLine? line = some (key, data)) :
    storeOf (writeLines kept ++ String.ofList more).toUTF8 =
      match Row.depthFlaw? (key, data) with
      | some flaw => .error (.tooDeep flaw.words)
      | none => .ok (Table.put kept key (data.toOption.getD (.map []))) := by
  have hreturn : '\r' ∉ (writeLines kept ++ String.ofList more).toList := by
    rw [String.toList_append, String.toList_ofList, List.mem_append]
    exact not_or.2 ⟨return_not_mem_writeLines hkept, hr⟩
  have hrows : readStore (writeLines kept ++ String.ofList more) =
      (kept.map fun (key, data) => (key, .ok data)) ++ [(key, data)] := by
    rw [readStore_writeLines_append hkept, hlines, List.filterMap_cons, hread, List.filterMap_nil]
  have hflaws : (readStore (writeLines kept ++ String.ofList more)).findSome? Row.depthFlaw? =
      Row.depthFlaw? (key, data) := by
    have hnone := findSome?_depthFlaw?_append [] kept
    rw [List.nil_append, List.findSome?_nil] at hnone
    rw [hrows, List.findSome?_append, hnone, Option.none_or, List.findSome?_singleton]
  have htable : tableOf (readStore (writeLines kept ++ String.ofList more)) =
      Table.put kept key (data.toOption.getD (.map [])) := by
    have hput := tableOf_append [] kept
    have hkept : Table.putAll (tableOf []) kept = kept := Table.ofPairs_of_distinct hdistinct
    rw [List.nil_append, hkept] at hput
    rw [hrows, tableOf, List.map_append, Table.ofPairs_append, ← tableOf, hput]
    rfl
  cases hflaw : Row.depthFlaw? (key, data) <;>
    simp only [storeOf, Host.textOf, Text.decode?_toUTF8 hreturn, hflaws, htable, hflaw]

/-! ## Torn lines -/

section

variable {key : String} {data : Value} {torn : List Char}

theorem exists_cons_of_prefix (hk : isKey key = true) (hne : torn ≠ [])
    (h : torn <+: key.toList ++ '\t' :: (documentOf data).toList) :
    ∃ c s, torn = c :: s ∧ Text.isBlank c = false := by
  obtain ⟨⟨c, s, hkey, hc⟩, -⟩ := exists_of_isKey hk
  cases torn with
  | nil => exact absurd rfl hne
  | cons d t =>
    rw [hkey] at h
    obtain ⟨rfl, -⟩ := List.cons_prefix_cons.1 h
    exact ⟨_, _, rfl, hc⟩

/-- A part of a line up to some place behind the tab has the identifier in front of it. -/
theorem cut_of_prefix (hk : '\t' ∉ key.toList) {s : List Char} (htab : '\t' ∈ s)
    (h : s <+: key.toList ++ '\t' :: (documentOf data).toList) :
    ∃ part, s = key.toList ++ '\t' :: part ∧ part <+: (documentOf data).toList := by
  rcases List.prefix_or_prefix_of_prefix h (List.prefix_append _ _) with hline | ⟨u, rfl⟩
  · exact absurd (hline.mem htab) hk
  · rw [List.prefix_append_right_inj] at h
    cases u with
    | nil => exact absurd (by simpa using htab) hk
    | cons c u =>
      obtain ⟨rfl, hu⟩ := List.cons_prefix_cons.1 h
      exact ⟨u, rfl, hu⟩

theorem readLine?_eq {line : List Char} (h : Text.trimChars line ≠ []) :
    readLine? line = some (match Text.cut ['\t'] (Text.trimChars line) with
      | some (key, document) => (String.ofList key, Json.readChars document)
      | none => (String.ofList (Text.trimChars line), .ok (.map []))) := by
  unfold readLine?
  split
  · next heq => exact absurd heq h
  · cases Text.cut ['\t'] (Text.trimChars line) <;> rfl

/-- **A torn line is read** as the identifier with some data, or as one without any. -/
theorem exists_readLine?_of_prefix (hk : isKey key = true) (hd : isData data = true)
    (hne : torn ≠ []) (h : torn <+: key.toList ++ '\t' :: (documentOf data).toList) :
    ∃ row, readLine? torn = some row ∧ row.depthFlaw? = none ∧
      (row.1 = key ∨ row = (Text.trim (String.ofList torn), .ok (.map []))) := by
  obtain ⟨c, s, rfl, hc⟩ := exists_cons_of_prefix hk hne h
  have htrim := Text.trimChars_cons_ne_nil hc s
  have htrimmed := Text.trimChars_cons_prefix hc s
  have hbegins := htrimmed.trans h
  rw [readLine?_eq htrim]
  by_cases htab : '\t' ∈ Text.trimChars (c :: s)
  · obtain ⟨part, heq, hpart⟩ := cut_of_prefix (exists_of_isKey hk).2.1 htab hbegins
    rw [heq, Text.cut_of_not_mem (exists_of_isKey hk).2.1]
    refine ⟨_, rfl, ?_, .inl String.ofList_toList⟩
    obtain ⟨_, rfl, hstorable, -⟩ := exists_of_isData hd
    obtain ⟨more, hmore⟩ := hpart
    have hwhole := Json.read_write hstorable (write_eq_ok_of_isData hd)
    rw [Json.read, ← hmore] at hwhole
    dsimp only
    cases hread : Json.readChars part with
    | ok v => rfl
    | error flaw =>
      rw [Json.eq_malformed_of_readChars_append hwhole hread]
      rfl
  · rw [Text.cut_eq_none htab]
    exact ⟨_, rfl, rfl, .inr (by rw [Text.trim, String.toList_ofList])⟩

/-- What stands behind a torn line that has no tab makes another identifier of it. -/
theorem isKey_of_torn (hk : isKey key = true) (hne : torn ≠ [])
    (h : torn <+: key.toList ++ '\t' :: (documentOf data).toList) (htab : '\t' ∉ torn)
    {other : String} (hother : isKey other = true) :
    isKey (String.ofList torn ++ other) = true := by
  obtain ⟨c, s, rfl, hc⟩ := exists_cons_of_prefix hk hne h
  obtain ⟨-, -, hn, hr⟩ := exists_of_isKey hk
  obtain ⟨-, htab', hn', hr'⟩ := exists_of_isKey hother
  have hnt : '\n' ∉ c :: s := fun hm => not_mem_line hn (by decide) (by decide) data (h.mem hm)
  have hrt : '\r' ∉ c :: s := fun hm => not_mem_line hr (by decide) (by decide) data (h.mem hm)
  rw [isKey, String.toList_append, String.toList_ofList, List.cons_append]
  simp only [hc, Bool.not_false, Bool.true_and, List.all_eq_true, Bool.and_eq_true, bne_iff_ne]
  intro d hd
  rw [← List.cons_append, List.mem_append] at hd
  refine ⟨⟨?_, ?_⟩, ?_⟩ <;> rintro rfl
  · exact hd.elim htab htab'
  · exact hd.elim hnt hn'
  · exact hd.elim hrt hr'

/-- **A line behind a torn one is read as one with it**: as data of another identifier, or as more
of the torn data. -/
theorem exists_readLine?_glued (hk : isKey key = true) (hne : torn ≠ [])
    (h : torn <+: key.toList ++ '\t' :: (documentOf data).toList) {key' : String} {data' : Value}
    (hk' : isKey key' = true) (hd' : isData data' = true) :
    ∃ k d, readLine? (torn ++ (key'.toList ++ '\t' :: (documentOf data').toList)) = some (k, d) ∧
      (('\t' ∉ torn ∧ k = String.ofList torn ++ key' ∧ d = .ok data') ∨
        ∃ part, torn = k.toList ++ '\t' :: part ∧ k = key) := by
  by_cases htab : '\t' ∈ torn
  · obtain ⟨part, rfl, -⟩ := cut_of_prefix (exists_of_isKey hk).2.1 htab h
    obtain ⟨⟨c, s, hkey, hc⟩, hkeytab, -⟩ := exists_of_isKey hk
    obtain ⟨entries, rfl, -⟩ := exists_of_isData hd'
    set more := part ++ (key'.toList ++ '\t' :: (documentOf (.map entries)).toList) with hmore
    have hline : (key.toList ++ '\t' :: part) ++
        (key'.toList ++ '\t' :: (documentOf (.map entries)).toList) =
          key.toList ++ '\t' :: more := by
      rw [List.append_assoc, List.cons_append]
    have htrim : Text.trimChars (key.toList ++ '\t' :: more) = key.toList ++ '\t' :: more := by
      rw [hkey, hmore]
      simpa using trimChars_documentOf hc (s ++ '\t' :: (part ++ (key'.toList ++ ['\t']))) hd'
    refine ⟨key, Json.readChars more, ?_, .inr ⟨part, rfl, rfl⟩⟩
    rw [hline, readLine?_eq (by simp [htrim]), htrim, Text.cut_of_not_mem hkeytab]
    simp
  · have hkey := isKey_of_torn hk hne h htab hk'
    have hread := readLine?_writeLine hkey hd'
    rw [String.toList_append, String.toList_ofList, List.append_assoc] at hread
    exact ⟨_, _, hread, .inl ⟨htab, rfl, rfl⟩⟩

end

/-! ## Stores that are torn -/

/-- A table has all identifiers of another one, with their data but for one identifier. -/
def Recalls (struck : String) (kept table : Table String Value) : Prop :=
  ∀ p ∈ kept, p.1 ∈ Table.keys table ∧ (p.1 ≠ struck → Table.find? table p.1 = some p.2)

theorem Recalls.refl {kept : Table String Value} (h : Table.Distinct kept) (struck : String) :
    Recalls struck kept kept :=
  fun _ hp => ⟨List.mem_map_of_mem hp, fun _ => (Table.find?_eq_some_iff h).2 hp⟩

/-- Putting in one identifier changes the data of that alone. -/
theorem Recalls.put {struck key : String} {kept table : Table String Value}
    (h : Recalls struck kept table) (data : Value) (hkey : ∀ p ∈ kept, p.1 = key → p.1 = struck) :
    Recalls struck kept (Table.put table key data) := by
  intro p hp
  obtain ⟨hmem, hfind⟩ := h p hp
  refine ⟨Table.mem_keys_put.2 (.inl hmem), fun hne => ?_⟩
  rw [Table.find?_put_of_ne _ _ (beq_false_of_ne fun he => hne (hkey p hp he.symm)), hfind hne]

/-- Putting in other identifiers changes nothing. -/
theorem Recalls.putAll {struck : String} {kept table more : Table String Value}
    (h : Recalls struck kept table) (hmore : Table.Distinct more)
    (hnew : ∀ p ∈ kept, p.1 ∉ Table.keys more) : Recalls struck kept (Table.putAll table more) := by
  intro p hp
  obtain ⟨hmem, hfind⟩ := h p hp
  refine ⟨Table.mem_keys_putAll.2 (.inl hmem), fun hne => ?_⟩
  have hnone : Table.find? more p.1 = none := by
    have := mt Table.has_eq_true_iff.1 (hnew p hp)
    simpa [Table.has] using this
  rw [Table.find?_putAll _ hmore, hnone, Option.none_or, hfind hne]

theorem ended_empty : Ended .empty := by
  intro text htext
  rw [Text.decode?_empty] at htext
  cases htext
  rfl

theorem storeOf_writeLines {table : Table String Value} (h : Lasting table)
    (hdistinct : Table.Distinct table) :
    storeOf (writeLines table).toUTF8 = .ok table ∧ Ended (writeLines table).toUTF8 := by
  have hstore := storeOf_append storeOf_empty ended_empty h
  rw [ByteArray.empty_append, ← Table.ofPairs, Table.ofPairs_of_distinct hdistinct] at hstore
  exact hstore

/-- Two identifiers in front of a tab are the same if they begin the same text. -/
theorem prefix_iff_eq {key other : String} (hk : '\t' ∉ key.toList) (hother : '\t' ∉ other.toList)
    {part : List Char} : key.toList ++ ['\t'] <+: other.toList ++ '\t' :: part ↔ key = other := by
  constructor
  · rintro ⟨more, hmore⟩
    rw [List.append_assoc, List.singleton_append] at hmore
    have hcut := Text.cut_of_not_mem hk more
    rw [hmore, Text.cut_of_not_mem hother] at hcut
    exact String.toList_inj.1 (Prod.mk.inj (Option.some.inj hcut)).1.symm
  · rintro rfl
    exact ⟨part, by simp⟩

variable {table kept : Table String Value} {key : String} {data : Value} {torn : List Char}

/-- The line of an identifier of a table is torn behind the lines of those before it. -/
structure Tears (table kept : Table String Value) (key : String) (data : Value)
    (torn : List Char) : Prop where
  lasting : Lasting table
  distinct : Table.Distinct table
  next : kept ++ [(key, data)] <+: table
  ne_nil : torn ≠ []
  line : torn <+: key.toList ++ '\t' :: (documentOf data).toList

namespace Tears

theorem isKey_and_isData (h : Tears table kept key data torn) :
    isKey key = true ∧ isData data = true :=
  h.lasting (key, data) (h.next.mem (by simp))

theorem lasting_kept (h : Tears table kept key data torn) : Lasting kept :=
  fun p hp => h.lasting p (h.next.mem (List.mem_append_left _ hp))

theorem distinct_append (h : Tears table kept key data torn) :
    Table.Distinct (kept ++ [(key, data)]) :=
  h.distinct.sublist h.next.sublist

theorem distinct_kept (h : Tears table kept key data torn) : Table.Distinct kept :=
  (List.pairwise_append.1 h.distinct_append).1

theorem ne_key (h : Tears table kept key data torn) {p : String × Value} (hp : p ∈ kept) :
    p.1 ≠ key := by
  have := (List.pairwise_append.1 h.distinct_append).2.2 p hp _ (List.mem_singleton_self _)
  simpa using this

theorem not_mem (h : Tears table kept key data torn) {c : Char} (hc : c.toNat < 32)
    (ht : c ≠ '\t') (hk : c ∉ key.toList) : c ∉ torn :=
  fun hm => not_mem_line hk hc ht data (h.line.mem hm)

theorem newline_not_mem (h : Tears table kept key data torn) : '\n' ∉ torn :=
  h.not_mem (by decide) (by decide) (exists_of_isKey h.isKey_and_isData.1).2.2.1

theorem return_not_mem (h : Tears table kept key data torn) : '\r' ∉ torn :=
  h.not_mem (by decide) (by decide) (exists_of_isKey h.isKey_and_isData.1).2.2.2

/-- **A torn store can be read**, and has all identifiers whose lines are whole. -/
theorem exists_storeOf (h : Tears table kept key data torn) :
    ∃ found, storeOf (writeLines kept ++ String.ofList torn).toUTF8 = .ok found ∧
      Recalls (Text.trim (String.ofList torn)) kept found := by
  obtain ⟨⟨k, d⟩, hread, hflaw, hrow⟩ := exists_readLine?_of_prefix h.isKey_and_isData.1
    h.isKey_and_isData.2 h.ne_nil h.line
  have hstore := storeOf_line h.lasting_kept h.distinct_kept h.return_not_mem
    (Text.lines_eq_singleton h.newline_not_mem h.ne_nil) hread
  rw [hflaw] at hstore
  refine ⟨_, hstore, (Recalls.refl h.distinct_kept _).put _ fun p hp he => ?_⟩
  rcases hrow with hk | hrow
  · exact absurd (he.trans hk) (h.ne_key hp)
  · exact he.trans (congrArg (·.1) hrow)

/-- The first line that is added to a torn store ends the torn line, the others stand behind it. -/
theorem storeOf_append (h : Tears table kept key data torn) {first : String × Value}
    {rest : Table String Value} (hmore : Lasting (first :: rest)) {k : String}
    {d : Except Json.Flaw Value}
    (hread : readLine? (torn ++ (first.1.toList ++ '\t' :: (documentOf first.2).toList)) =
      some (k, d)) :
    storeOf ((writeLines kept ++ String.ofList torn).toUTF8 ++
        (writeLines (first :: rest)).toUTF8) =
      match Row.depthFlaw? (k, d) with
      | some flaw => .error (.tooDeep flaw.words)
      | none => .ok (Table.putAll (Table.put kept k (d.toOption.getD (.map []))) rest) := by
  obtain ⟨key', data'⟩ := first
  obtain ⟨⟨hk, -⟩, hrest⟩ := List.forall_mem_cons.1 hmore
  obtain ⟨-, -, hn, hr⟩ := exists_of_isKey hk
  set line := torn ++ (key'.toList ++ '\t' :: (documentOf data').toList) with hline
  have hnline : '\n' ∉ line := fun hm => (List.mem_append.1 hm).elim h.newline_not_mem
    (not_mem_line hn (by decide) (by decide) data')
  have hrline : '\r' ∉ line := fun hm => (List.mem_append.1 hm).elim h.return_not_mem
    (not_mem_line hr (by decide) (by decide) data')
  have hrmore : '\r' ∉ line ++ ['\n'] := by simpa using hrline
  have hbytes : (writeLines kept ++ String.ofList torn).toUTF8 ++
      (writeLines ((key', data') :: rest)).toUTF8 =
        (writeLines kept ++ String.ofList (line ++ ['\n'])).toUTF8 ++ (writeLines rest).toUTF8 := by
    simp only [String.toUTF8, ← String.toByteArray_append, hline, writeLines]
    congr 1
    rw [← String.toList_inj]
    simp [toList_writeLine]
  have hreturn : '\r' ∉ (writeLines kept ++ String.ofList (line ++ ['\n'])).toList := by
    rw [String.toList_append, String.toList_ofList, List.mem_append]
    exact not_or.2 ⟨return_not_mem_writeLines h.lasting_kept, hrmore⟩
  have hended : Text.ended (writeLines kept ++ String.ofList (line ++ ['\n'])).toList = true := by
    rw [String.toList_append, String.toList_ofList]
    exact Text.ended_append (ended_writeLines kept) (Text.ended_append_singleton line)
  rw [hbytes, storeOf_append_eq_map (Text.decode?_toUTF8 hreturn) hended hrest,
    storeOf_line h.lasting_kept h.distinct_kept hrmore (Text.lines_of_not_mem hnline []) hread]
  cases Row.depthFlaw? (k, d) <;> rfl

/-- **What is added to a torn store**: the first line is lost in the torn one, unless that is of the
same identifier, and too deep data may come of the two; what comes behind is as it was added. -/
theorem storeOf_glued (h : Tears table kept key data torn) {first : String × Value}
    {rest : Table String Value} (hmore : Lasting (first :: rest))
    (hdistinct : Table.Distinct (first :: rest))
    (hnew : ∀ p ∈ kept, p.1 ∉ Table.keys (first :: rest)) :
    ('\t' ∈ torn ∧ ∃ words, storeOf ((writeLines kept ++ String.ofList torn).toUTF8 ++
        (writeLines (first :: rest)).toUTF8) = .error (.tooDeep words)) ∨
      ∃ found, storeOf ((writeLines kept ++ String.ofList torn).toUTF8 ++
          (writeLines (first :: rest)).toUTF8) = .ok found ∧
        Recalls (String.ofList torn ++ first.1) kept found ∧
        (first.1 ∈ Table.keys found ↔ first.1.toList ++ ['\t'] <+: torn) ∧
        ∀ p ∈ rest, Table.find? found p.1 = some p.2 := by
  obtain ⟨hk, hd⟩ := (List.forall_mem_cons.1 hmore).1
  obtain ⟨hfirst, hrest⟩ := List.pairwise_cons.1 hdistinct
  have hnotrest : first.1 ∉ Table.keys rest := fun hm => by
    obtain ⟨p, hp, he⟩ := List.mem_map.1 hm
    simpa [he] using hfirst p hp
  have hnotkept : first.1 ∉ Table.keys kept := fun hm => by
    obtain ⟨p, hp, he⟩ := List.mem_map.1 hm
    exact hnew p hp (by simp [Table.keys, he])
  obtain ⟨k, d, hread, hrow⟩ := exists_readLine?_glued h.isKey_and_isData.1 h.ne_nil h.line hk hd
  rw [h.storeOf_append hmore hread]
  cases hflaw : Row.depthFlaw? (k, d) with
  | some flaw =>
    refine .inl ⟨?_, _, rfl⟩
    rcases hrow with ⟨-, -, rfl⟩ | ⟨part, htorn, -⟩
    · cases hflaw
    · simp [htorn]
  | none =>
    refine .inr ⟨_, rfl, ?_, ?_, ?_⟩
    · refine ((Recalls.refl h.distinct_kept _).put _ fun p hp he => ?_).putAll hrest
        fun p hp hm => hnew p hp (List.mem_cons_of_mem _ hm)
      rcases hrow with ⟨-, hk, -⟩ | ⟨-, -, hk⟩
      · exact he.trans hk
      · exact absurd (he.trans hk) (h.ne_key hp)
    · have hmem : first.1 ∈ Table.keys (Table.putAll (Table.put kept k (d.toOption.getD (.map [])))
          rest) ↔ first.1 = k := by
        rw [Table.mem_keys_putAll, Table.mem_keys_put]
        simp [hnotkept, hnotrest]
      rw [hmem]
      rcases hrow with ⟨htab, rfl, -⟩ | ⟨part, rfl, rfl⟩
      · refine iff_of_false (fun he => h.ne_nil ?_) fun hline => htab (hline.mem (by simp))
        have := congrArg String.length he
        simpa using this
      · exact (prefix_iff_eq (exists_of_isKey hk).2.1
          (exists_of_isKey h.isKey_and_isData.1).2.1).symm
    · intro p hp
      rw [Table.find?_putAll _ hrest, (Table.find?_eq_some_iff hrest).2 hp, Option.some_or]

end Tears

/-- **Where a store can be cut off**: between two lines, or in the next line. -/
theorem exists_tears_of_prefix (hlasting : Lasting table) (hdistinct : Table.Distinct table)
    {cut : String} (h : cut.toList <+: (writeLines table).toList) :
    ∃ kept, kept <+: table ∧ (cut = writeLines kept ∨
      ∃ key data torn, cut = writeLines kept ++ String.ofList torn ∧
        Tears table kept key data torn) := by
  obtain ⟨kept, torn, hcut, hkept, htorn⟩ := exists_of_prefix_writeLines h
  have heq : cut = writeLines kept ++ String.ofList torn := by
    rw [← String.toList_inj, hcut, String.toList_append, String.toList_ofList]
  refine ⟨kept, hkept, ?_⟩
  by_cases hne : torn = []
  · subst hne
    exact .inl (heq.trans String.append_empty)
  · obtain ⟨key, data, hnext, hline⟩ := htorn hne
    exact .inr ⟨key, data, torn, heq, hlasting, hdistinct, hnext, hne, hline⟩

end PersistentId.Ledger
