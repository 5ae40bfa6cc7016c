import PersistentId.Ledger.Line
import PersistentId.Proofs.Json.RoundTrip
import PersistentId.Proofs.Json.Visible
import PersistentId.Proofs.Text.Lines

/-!
# Reading store lines back

An identifier can stand in a store if `isKey` holds of it: it is not empty, starts with no blank,
and has no tab and no end of a line in it. Data can stand there if `isData` holds of them: they are
a table that a document can say, no deeper than is read. Such data can be written
(`write_eq_ok_of_isData`), and lines of such identifiers that are added to a store, all of whose
lines are ended, read as what was added (`readStore_append_writeLines`).
-/

namespace PersistentId.Ledger

/-- Whether an identifier can stand in a store. -/
def isKey (key : String) : Bool :=
  match key.toList with
  | [] => false
  | c :: s => !Text.isBlank c && (c :: s).all fun d => d != '\t' && d != '\n' && d != '\r'

/-- Whether data can stand in a store. -/
def isData (data : Value) : Bool :=
  data.map?.isSome && data.storable && decide (data.depth ≤ Json.depthLimit)

/-- Whether all of a table can stand in a store. -/
def Lasting (table : Table String Value) : Prop :=
  ∀ p ∈ table, isKey p.1 = true ∧ isData p.2 = true

instance (table : Table String Value) : Decidable (Lasting table) :=
  inferInstanceAs (Decidable (∀ p ∈ table, isKey p.1 = true ∧ isData p.2 = true))

theorem Lasting.append {t u : Table String Value} (ht : Lasting t) (hu : Lasting u) :
    Lasting (t ++ u) :=
  fun p hp => (List.mem_append.1 hp).elim (ht p) (hu p)

theorem exists_of_isKey {key : String} (h : isKey key = true) :
    (∃ c s, key.toList = c :: s ∧ Text.isBlank c = false) ∧
      '\t' ∉ key.toList ∧ '\n' ∉ key.toList ∧ '\r' ∉ key.toList := by
  unfold isKey at h
  split at h
  · cases h
  · next c s heq =>
    simp only [Bool.and_eq_true, Bool.not_eq_true', List.all_eq_true, bne_iff_ne] at h
    obtain ⟨hc, hs⟩ := h
    rw [heq]
    exact ⟨⟨c, s, rfl, hc⟩, fun hm => (hs _ hm).1.1 rfl, fun hm => (hs _ hm).1.2 rfl,
      fun hm => (hs _ hm).2 rfl⟩

theorem exists_of_isData {data : Value} (h : isData data = true) :
    ∃ entries, data = .map entries ∧ data.storable = true ∧ data.depth ≤ Json.depthLimit := by
  simp only [isData, Bool.and_eq_true, decide_eq_true_eq] at h
  cases data with
  | map entries => exact ⟨entries, rfl, h.1.2, h.2⟩
  | _ => exact absurd h.1.1 (by simp [Value.map?])

/-! ## Lines -/

/-- The document of data, empty if they cannot be written. -/
def documentOf (data : Value) : String :=
  (Json.write data).toOption.getD ""

/-- The line of an identifier and its data. -/
def writeLine (key : String) (data : Value) : String :=
  key ++ "\t" ++ documentOf data ++ "\n"

/-- The lines of a table of identifiers. -/
def writeLines : Table String Value → String
  | [] => ""
  | (key, data) :: rest => writeLine key data ++ writeLines rest

theorem documentOf_of_write {data : Value} {document : String}
    (h : Json.write data = .ok document) : documentOf data = document := by
  rw [documentOf, h]
  rfl

/-- Data that can stand in a store can be written. -/
theorem write_eq_ok_of_isData {data : Value} (h : isData data = true) :
    Json.write data = .ok (documentOf data) := by
  obtain ⟨_, -, hstorable, hdepth⟩ := exists_of_isData h
  obtain ⟨document, hdocument⟩ := Json.exists_write hstorable hdepth
  rw [documentOf_of_write hdocument, hdocument]

theorem toList_writeLine (key : String) (data : Value) :
    (writeLine key data).toList = (key.toList ++ '\t' :: (documentOf data).toList) ++ ['\n'] := by
  simp [writeLine]

/-- Nothing in a written document ends a line. -/
theorem not_mem_documentOf {c : Char} (hc : c.toNat < 32) (data : Value) :
    c ∉ (documentOf data).toList := by
  intro h
  rw [documentOf] at h
  cases hwrite : Json.write data with
  | error fault => simp [hwrite, Except.toOption] at h
  | ok document =>
    rw [hwrite] at h
    have := Json.isVisible_of_mem_writeValue data _ document hwrite c h
    simp only [Text.isVisible, Bool.and_eq_true, decide_eq_true_eq] at this
    omega

/-- The document of a table ends with no blank. -/
theorem trimChars_documentOf {c : Char} (hc : Text.isBlank c = false) (s : List Char)
    {entries : List (Key × Value)} (h : isData (.map entries) = true) :
    Text.trimChars (c :: (s ++ (documentOf (.map entries)).toList)) =
      c :: (s ++ (documentOf (.map entries)).toList) := by
  obtain ⟨_, parts, -, -, hwrite⟩ := Json.toList_writeValue_map (write_eq_ok_of_isData h)
  have htrim := Text.trimChars_eq_self (d := '}') (s := s ++ '{' :: Json.spread [' '] parts) hc
    (by decide)
  rw [hwrite]
  simpa using htrim

theorem readLine?_writeLine {key : String} {data : Value} (hk : isKey key = true)
    (hd : isData data = true) :
    readLine? (key.toList ++ '\t' :: (documentOf data).toList) = some (key, .ok data) := by
  obtain ⟨⟨c, s, hkey, hc⟩, htab, -, -⟩ := exists_of_isKey hk
  obtain ⟨entries, rfl, hstorable, -⟩ := exists_of_isData hd
  have htrim : Text.trimChars (key.toList ++ '\t' :: (documentOf (.map entries)).toList) =
      key.toList ++ '\t' :: (documentOf (.map entries)).toList := by
    rw [hkey]
    simpa using trimChars_documentOf hc (s ++ ['\t']) hd
  have hcut := Text.cut_of_not_mem htab (documentOf (.map entries)).toList
  have hread := Json.read_write hstorable (write_eq_ok_of_isData hd)
  rw [Json.read] at hread
  unfold readLine?
  rw [htrim]
  split
  · next heq => simp at heq
  · rw [hcut]
    simp only [hread, String.ofList_toList]

theorem not_mem_line {key : String} {c : Char} (hk : c ∉ key.toList) (hc : c.toNat < 32)
    (ht : c ≠ '\t') (data : Value) : c ∉ key.toList ++ '\t' :: (documentOf data).toList := by
  intro h
  rcases List.mem_append.1 h with h | h
  · exact hk h
  · rcases List.mem_cons.1 h with h | h
    · exact ht h
    · exact not_mem_documentOf hc data h

/-! ## Stores -/

theorem toList_writeLines_cons (key : String) (data : Value) (rest : Table String Value) :
    (writeLines ((key, data) :: rest)).toList =
      (key.toList ++ '\t' :: (documentOf data).toList) ++ '\n' :: (writeLines rest).toList := by
  rw [writeLines, String.toList_append, toList_writeLine, List.append_assoc, List.singleton_append]

theorem writeLines_append (t u : Table String Value) :
    writeLines (t ++ u) = writeLines t ++ writeLines u := by
  induction t with
  | nil => exact (String.empty_append).symm
  | cons p t ih =>
    obtain ⟨key, data⟩ := p
    rw [List.cons_append, writeLines, writeLines, ih, String.append_assoc]

theorem ended_writeLines (table : Table String Value) :
    Text.ended (writeLines table).toList = true := by
  induction table with
  | nil => rfl
  | cons p rest ih =>
    obtain ⟨key, data⟩ := p
    rw [writeLines, String.toList_append, toList_writeLine]
    exact Text.ended_append (Text.ended_append_singleton _) ih

theorem return_not_mem_writeLines {table : Table String Value} (h : Lasting table) :
    '\r' ∉ (writeLines table).toList := by
  induction table with
  | nil => simp [writeLines]
  | cons p rest ih =>
    obtain ⟨key, data⟩ := p
    obtain ⟨hp, hrest⟩ := List.forall_mem_cons.1 h
    have hline := not_mem_line (exists_of_isKey hp.1).2.2.2 (by decide) (by decide) data
    rw [toList_writeLines_cons]
    intro hm
    rcases List.mem_append.1 hm with hm | hm
    · exact hline hm
    · rcases List.mem_cons.1 hm with hm | hm
      · exact absurd hm (by decide)
      · exact ih hrest hm

theorem head?_writeLines {table : Table String Value} (h : Lasting table) :
    (writeLines table).toList.head? ≠ some '\n' := by
  cases table with
  | nil => simp [writeLines]
  | cons p rest =>
    obtain ⟨key, data⟩ := p
    obtain ⟨⟨c, s, hkey, -⟩, -, hn, -⟩ := exists_of_isKey (List.forall_mem_cons.1 h).1.1
    rw [hkey] at hn
    rw [toList_writeLines_cons, hkey]
    simp only [List.cons_append, List.head?_cons, ne_eq, Option.some.injEq]
    rintro rfl
    exact hn List.mem_cons_self

theorem readStore_writeLines {table : Table String Value} (h : Lasting table) :
    readStore (writeLines table) = table.map fun (key, data) => (key, .ok data) := by
  induction table with
  | nil => rfl
  | cons p rest ih =>
    obtain ⟨key, data⟩ := p
    obtain ⟨hp, hrest⟩ := List.forall_mem_cons.1 h
    have ih := ih hrest
    rw [readStore] at ih ⊢
    have hline := not_mem_line (exists_of_isKey hp.1).2.2.1 (by decide) (by decide) data
    rw [toList_writeLines_cons, Text.lines_of_not_mem hline, List.filterMap_cons,
      readLine?_writeLine hp.1 hp.2, ih]
    rfl

/-- **What is added to an ended store is read behind it.** -/
theorem readStore_append_writeLines {text : String} (ht : Text.ended text.toList = true)
    {table : Table String Value} (h : Lasting table) :
    readStore (text ++ writeLines table) =
      readStore text ++ table.map fun (key, data) => (key, .ok data) := by
  have htable := readStore_writeLines h
  rw [readStore] at htable ⊢
  rw [String.toList_append, Text.lines_append ht, List.filterMap_append, htable, readStore]

theorem tableOf_append (rows : List Row) (table : Table String Value) :
    tableOf (rows ++ table.map fun (key, data) => (key, .ok data)) =
      Table.putAll (tableOf rows) table := by
  have hpairs : (table.map fun (key, data) => ((key, .ok data) : Row)).map
      (fun (key, data) => (key, data.toOption.getD (.map []))) = table := by
    rw [List.map_map]
    exact List.map_id' table
  rw [tableOf, List.map_append, hpairs, Table.ofPairs_append, tableOf]

theorem findSome?_depthFlaw?_append (rows : List Row) (table : Table String Value) :
    (rows ++ table.map fun (key, data) => ((key, .ok data) : Row)).findSome? Row.depthFlaw? =
      rows.findSome? Row.depthFlaw? := by
  have htable : (table.map fun (key, data) => ((key, .ok data) : Row)).findSome? Row.depthFlaw? =
      none := by
    rw [List.findSome?_eq_none_iff]
    intro row hrow
    obtain ⟨p, -, rfl⟩ := List.mem_map.1 hrow
    rfl
  rw [List.findSome?_append, htable, Option.or_none]

end PersistentId.Ledger
