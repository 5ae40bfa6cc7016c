import PersistentId.Proofs.Action
import PersistentId.Proofs.Text.Pieces
import PersistentId.Provider

/-!
# Lists of identifiers

A provider is told by name which identifiers it manages, or does not, in a text or in a list. The
text has the names with commas and blanks between them (`Text.Spells`), and in the list blanks
around a name do not count, nor do items that have none (`Itemizes`). Both forms of the same names
come to the same (`listedPids_forms`): what is read is the names, each of them once.

The names in a text are its pieces, so that any text can be read.
-/

namespace PersistentId

/-- The items of a list that name identifiers, perhaps with blanks around the names and with items
between them that name none. -/
inductive Itemizes : List String → List Value → Prop
  | nil : Itemizes [] []
  | null {names : List String} {items : List Value} (h : Itemizes names items) :
      Itemizes names (.null :: items)
  | blank {names : List String} {items : List Value} {s : String}
      (hs : Text.IsGap Text.isBlank s) (h : Itemizes names items) :
      Itemizes names (.str s :: items)
  | name {names : List String} {items : List Value} {before name after : String}
      (hbefore : Text.IsGap Text.isBlank before) (hname : Text.IsToken isListSeparator name)
      (hafter : Text.IsGap Text.isBlank after) (h : Itemizes names items) :
      Itemizes (name :: names) (.str (before ++ name ++ after) :: items)

/-! ## Items -/

theorem isToken_isBlank {name : String} (h : Text.IsToken isListSeparator name) :
    Text.IsToken Text.isBlank name where
  ne_empty := h.ne_empty
  clear c hc := by
    have hclear := h.clear c hc
    rw [isListSeparator, Bool.or_eq_false_iff] at hclear
    exact hclear.2

theorem listedItem_name {before name after : String} (hbefore : Text.IsGap Text.isBlank before)
    (hname : Text.IsToken isListSeparator name) (hafter : Text.IsGap Text.isBlank after) :
    listedItem (.str (before ++ name ++ after)) = .ok (some name) := by
  have hne : name.isEmpty = false := by simpa using hname.ne_empty
  simp only [listedItem, Text.trim_padded hbefore (isToken_isBlank hname) hafter, hne]
  rfl

theorem listedItem_blank {s : String} (hs : Text.IsGap Text.isBlank s) :
    listedItem (.str s) = .ok none := by
  simp only [listedItem, Text.trim_gap hs]
  rfl

theorem Itemizes.exists_mapM {names : List String} {items : List Value} (h : Itemizes names items) :
    ∃ found, items.mapM listedItem = .ok found ∧ found.filterMap id = names := by
  induction h with
  | nil => exact ⟨[], rfl, rfl⟩
  | null _ ih =>
    obtain ⟨found, hfound, hnames⟩ := ih
    exact ⟨none :: found, by rw [List.mapM_cons, hfound]; rfl, hnames⟩
  | blank hs _ ih =>
    obtain ⟨found, hfound, hnames⟩ := ih
    exact ⟨none :: found, by rw [List.mapM_cons, listedItem_blank hs, hfound]; rfl, hnames⟩
  | @name names items before name after hbefore hname hafter _ ih =>
    obtain ⟨found, hfound, hnames⟩ := ih
    refine ⟨some name :: found, ?_, by rw [← hnames]; rfl⟩
    rw [List.mapM_cons, listedItem_name hbefore hname hafter, hfound]
    rfl

/-! ## Both forms -/

theorem nodup_eraseDups (names : List String) : names.eraseDups.Nodup := by
  induction hn : names.length using Nat.strongRecOn generalizing names with
  | ind n ih =>
    cases names with
    | nil => exact List.nodup_nil
    | cons name names =>
      rw [List.eraseDups_cons, List.nodup_cons, List.mem_eraseDups]
      refine ⟨by simp, ih _ ?_ _ rfl⟩
      have hle := List.length_filter_le (fun other => !other == name) names
      rw [← hn, List.length_cons]
      omega

theorem listedPids_str (s : String) :
    listedPids (.str s) = .ok (Text.pieces isListSeparator s).eraseDups := by
  rw [listedPids]
  split
  · next hs =>
    obtain rfl : s = "" := by simpa [Value.truthy] using hs
    rfl
  · rfl

theorem listedPids_list {names : List String} {items : List Value} (h : Itemizes names items) :
    listedPids (.list items) = .ok names.eraseDups := by
  obtain ⟨found, hfound, rfl⟩ := h.exists_mapM
  unfold listedPids
  split
  · next hempty =>
    obtain rfl : items = [] := by simpa [Value.truthy] using hempty
    cases hfound
    rfl
  · change (items.mapM listedItem >>= fun found => .ok (found.filterMap id).eraseDups) = _
    rw [hfound]
    rfl

/-- A provider has of its lists what is read from them. -/
theorem Provider.ofParts_congr {kind : ProviderKind} {parts : Parts} {source : SourceId}
    {endpoint : RegistryId → Value} {v w : Value} (h : listedPids v = listedPids w) :
    ofParts kind { parts with managed := v } source endpoint =
        ofParts kind { parts with managed := w } source endpoint ∧
      ofParts kind { parts with excluded := v } source endpoint =
        ofParts kind { parts with excluded := w } source endpoint := by
  simp only [ofParts, h, and_self]

/-- **A text and a list that name the same identifiers mean the same**: the set of these names, for
a provider that manages or excludes them too. And any text names just its maximal pieces without
commas and blanks. -/
theorem listedPids_forms {names : List String} {text : String} {items : List Value}
    (htext : Text.Spells isListSeparator names text) (hitems : Itemizes names items) :
    (listedPids (.str text) = .ok names.eraseDups ∧
      listedPids (.list items) = .ok names.eraseDups ∧ names.eraseDups.Nodup ∧
      ∀ name, name ∈ names.eraseDups ↔ name ∈ names) ∧
    (∀ (kind : ProviderKind) (parts : Provider.Parts) (source : SourceId)
      (endpoint : RegistryId → Value),
      Provider.ofParts kind { parts with managed := .str text } source endpoint =
          Provider.ofParts kind { parts with managed := .list items } source endpoint ∧
        Provider.ofParts kind { parts with excluded := .str text } source endpoint =
          Provider.ofParts kind { parts with excluded := .list items } source endpoint) ∧
    ∀ s, ∃ found, listedPids (.str s) = .ok found ∧ found.Nodup ∧
      ∀ piece, piece ∈ found ↔ Text.IsPiece isListSeparator s piece := by
  have hstr : listedPids (.str text) = .ok names.eraseDups := by
    rw [listedPids_str, htext.pieces_eq]
  have hlist := listedPids_list hitems
  refine ⟨⟨hstr, hlist, nodup_eraseDups _, fun name => List.mem_eraseDups⟩,
    fun kind parts source endpoint => Provider.ofParts_congr (hstr.trans hlist.symm),
    fun s => ⟨_, listedPids_str s, nodup_eraseDups _, fun piece => ?_⟩⟩
  rw [List.mem_eraseDups, Text.mem_pieces_iff]

/-- Two names, one of them twice, in either form. -/
theorem listedPids_forms_twice :
    Text.Spells isListSeparator ["hdl:1/A", "doi:10.5072/B", "hdl:1/A"]
        ",\t hdl:1/A ,doi:10.5072/B\x1chdl:1/A " ∧
      Itemizes ["hdl:1/A", "doi:10.5072/B", "hdl:1/A"]
        [.str " hdl:1/A\n", .null, .str "doi:10.5072/B", .str " ", .str "hdl:1/A"] ∧
      listedPids (.str ",\t hdl:1/A ,doi:10.5072/B\x1chdl:1/A ") =
        .ok ["hdl:1/A", "doi:10.5072/B"] ∧
      listedPids (.list [.str " hdl:1/A\n", .null, .str "doi:10.5072/B", .str " ",
        .str "hdl:1/A"]) = .ok ["hdl:1/A", "doi:10.5072/B"] := by
  have hA : Text.IsToken isListSeparator "hdl:1/A" := by decide
  have hB : Text.IsToken isListSeparator "doi:10.5072/B" := by decide
  have htext : Text.Spells isListSeparator ["hdl:1/A", "doi:10.5072/B", "hdl:1/A"]
      (",\t " ++ "hdl:1/A" ++ (" ," ++ "doi:10.5072/B" ++ ("\x1c" ++ "hdl:1/A" ++ " "))) :=
    .token (by decide) hA (by decide)
      (.token (by decide) hB (by decide)
        (.token (by decide) hA (by decide) (.gap (by decide))))
  have hitems : Itemizes ["hdl:1/A", "doi:10.5072/B", "hdl:1/A"]
      [.str (" " ++ "hdl:1/A" ++ "\n"), .null, .str ("" ++ "doi:10.5072/B" ++ ""), .str " ",
        .str ("" ++ "hdl:1/A" ++ "")] :=
    .name (by decide) hA (by decide)
      (.null (.name (by decide) hB (by decide)
        (.blank (by decide) (.name (by decide) hA (by decide) .nil))))
  obtain ⟨⟨hstr, hlist, -, -⟩, -, -⟩ := listedPids_forms htext hitems
  exact ⟨htext, hitems, hstr, hlist⟩

end PersistentId
