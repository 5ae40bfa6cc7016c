import PersistentId.Proofs.Provider.Parse

/-!
# What providers of local permanent links read

Such a provider reads a text in four steps: the protocol takes the place of the provider's own
address (`unlinked`), the colons are decoded, the protocol is taken away (`linkIn`), and what is
left has to begin with the provider's authority, behind which the local part stands, with or without
the separator (`ownPart`). `result_parse_link` says that this is all there is to it.

A canonical form, or a link under the provider's address, is so read by its path alone, with the
colons decoded (`result_parse_link_printed`), unless the provider's address begins with the protocol
itself (`beginsWith_urlStart`). A local part behind authority and separator is read as it is
(`ownPart_append`).
-/

namespace PersistentId.Provider

open PersistentId.Action Identifier

variable {p : Provider} {authority separator name s : String}

theorem protocol_of_perma (hk : p.kind = .perma) : p.protocol = permaProtocol := by
  rw [Provider.protocol, hk]
  rfl

theorem name_of_perma (hk : p.kind = .perma) : p.name = .ok "PERMA" := by
  rw [Provider.name, information, hk]
  rfl

/-! ## Local parts -/

/-- The local part in what stands behind the protocol, if there is a proper one. -/
def ownPart (authority separator path : String) : Option String :=
  ((Text.stripStart? authority path).map fun rest =>
    Part.clean (Text.dropStart separator rest)).filter fun localPart =>
      authority ≠ "" && localPart ≠ "" && (Part.isProper authority && Part.isProper localPart)

theorem ownPart_eq_some_iff {path localPart : String} :
    ownPart authority separator path = some localPart ↔
      (∃ rest, path = authority ++ rest ∧
        Part.clean (Text.dropStart separator rest) = localPart) ∧
      (authority ≠ "" ∧ localPart ≠ "") ∧
        Part.isProper authority = true ∧ Part.isProper localPart = true := by
  rw [ownPart, Option.filter_eq_some_iff, Option.map_eq_some_iff]
  simp only [Text.stripStart?_eq_some_iff, Bool.and_eq_true, decide_eq_true_eq]

/-- **Behind authority and separator a proper local part is read as it is.** -/
theorem ownPart_append {localPart : String} (hne : authority ≠ "" ∧ localPart ≠ "")
    (hproper : Part.isProper authority = true ∧ Part.isProper localPart = true) :
    ownPart authority separator (authority ++ separator ++ localPart) = some localPart :=
  ownPart_eq_some_iff.2 ⟨⟨separator ++ localPart, String.append_assoc, by
    rw [Text.dropStart_append, (Part.isProper_eq_true_iff.1 hproper.2).1]⟩, hne, hproper⟩

theorem dropSeparator_str (separator s : String) :
    dropSeparator (.str separator) s = .ok (Text.dropStart separator s) := by
  by_cases hempty : separator = ""
  · subst hempty
    have hdrop := Text.dropStart_append "" s
    rw [String.empty_append] at hdrop
    rw [hdrop]
    rfl
  · have htruthy : (Value.str separator).truthy = true := by simp [Value.truthy, hempty]
    rw [dropSeparator, htruthy, Bool.not_true, if_neg Bool.false_ne_true]
    rfl

/-- The separator is looked for behind the authority. -/
theorem ownLocalPart_of_authority (ha : p.authority = .str authority) (hne : authority ≠ "")
    (path : String) :
    p.ownLocalPart (.str path) =
      match Text.stripStart? authority path with
      | none => .ok none
      | some rest => (dropSeparator p.separator rest).map fun s => some (Part.clean s) := by
  have htext : (Value.str path).asText "startswith" = .ok path := rfl
  have hown : p.authority.asTextOr Fault.notAStart = .ok authority := by
    rw [ha]
    rfl
  rw [ownLocalPart]
  split
  · next hnone =>
    have hpath : path = "" := by simpa [ha, Value.truthy, hne] using hnone
    have hstrip : Text.stripStart? authority "" = none := by
      rw [Text.stripStart?_eq_none_iff, Bool.eq_false_iff, Ne, Text.beginsWith_eq_true_iff]
      simpa using hne
    rw [hpath, hstrip]
    rfl
  · rw [htext, ok_bind, hown, ok_bind]
    cases Text.stripStart? authority path with
    | none => rfl
    | some rest =>
      dsimp only
      cases dropSeparator p.separator rest <;> rfl

theorem ownLocalPart_str (ha : p.authority = .str authority) (hne : authority ≠ "")
    (hs : p.separator = .str separator) (path : String) :
    p.ownLocalPart (.str path) = .ok ((Text.stripStart? authority path).map fun rest =>
      Part.clean (Text.dropStart separator rest)) := by
  rw [ownLocalPart_of_authority ha hne]
  cases Text.stripStart? authority path with
  | none => rfl
  | some rest =>
    dsimp only
    rw [hs, dropSeparator_str]
    rfl

/-- A provider makes an identifier of its authority and the local part behind it. -/
theorem result_parseOwn (hn : p.name = .ok name) (ha : p.authority = .str authority)
    (hs : p.separator = .str separator) (path : String) :
    (p.parseOwn (.str path)).result = .ok ((ownPart authority separator path).map fun localPart =>
      p.signed name (permaProtocol, authority, localPart)) := by
  have hseparator : p.separator ≠ .null := by simp [hs]
  by_cases hne : authority = ""
  · have hnone : p.ownLocalPart (.str path) = .ok none := by
      rw [ownLocalPart, ha, hne]
      rfl
    have hpart : ownPart authority separator path = none := by
      simp [ownPart, hne]
    rw [parseOwn, Parsing.result_ofExcept_bind hnone, hpart]
    rfl
  · rw [parseOwn, Parsing.result_ofExcept_bind (ownLocalPart_str ha hne hs path), ownPart]
    cases Text.stripStart? authority path with
    | none => rfl
    | some rest =>
      dsimp only [Option.map_some]
      generalize hlocal : Part.clean (Text.dropStart separator rest) = localPart
      have hclean : Part.clean localPart = localPart := by rw [← hlocal, Part.clean_clean]
      have hproper : Part.isProper localPart = !Part.hasTerminator localPart := by
        simp [Part.isProper, hclean]
      rw [ha]
      by_cases hempty : localPart = ""
      · simp [hempty, Option.filter]
      · cases hterm : Part.hasTerminator localPart with
        | true => simp [hterm, hproper, Option.filter]
        | false =>
          rw [hterm] at hproper
          simp [hempty, hne, hproper, Option.filter, result_fromParts hn hseparator]

/-! ## Links and canonical forms -/

/-- The text with the protocol in the place of an address of the provider at its start. -/
def unlinked (p : Provider) (s : String) : String :=
  withoutResolver p.protocol p.acceptedAddresses s

theorem resolves_unlinked (hk : p.kind ≠ .perma) (s : String) : p.Resolves s (p.unlinked s) :=
  resolves_iff.2 (by rw [unlinked, acceptedAddresses_eq hk])

/-- The local part in a decoded text that is a canonical form, if it has one. -/
def linkIn (authority separator s : String) : Option String :=
  (splitProtocol? s).bind fun (protocol, path) =>
    if protocol = permaProtocol then ownPart authority separator path else none

theorem splitProtocol?_perma (path : String) :
    splitProtocol? ("perma:" ++ path) = some (permaProtocol, path) := by
  have hsplit : splitProtocol? (permaProtocol ++ ":" ++ path) = some (permaProtocol, path) :=
    splitProtocol?_append (by decide) (by decide) path
  exact hsplit

theorem linkIn_eq_some_iff {localPart : String} :
    linkIn authority separator s = some localPart ↔
      ∃ path, s = "perma:" ++ path ∧ ownPart authority separator path = some localPart := by
  rw [linkIn, Option.bind_eq_some_iff]
  constructor
  · rintro ⟨⟨protocol, path⟩, hsplit, h⟩
    dsimp only at h
    split at h
    · next hprotocol =>
      subst hprotocol
      exact ⟨path, eq_append_of_splitProtocol? hsplit, h⟩
    · cases h
  · rintro ⟨path, rfl, h⟩
    exact ⟨_, splitProtocol?_perma path, by simpa using h⟩

/-- A provider of local permanent links looks at what stands behind its protocol. -/
theorem result_parse_of_perma (hk : p.kind = .perma) (s : String) :
    (p.parse (.str s)).result =
      match splitProtocol? (decoded (p.unlinked s)) with
      | some (protocol, path) =>
        if protocol = permaProtocol then (p.parseOwn (.str path)).result else .ok none
      | none => .ok none := by
  by_cases hempty : s = ""
  · -- the empty text is no link, and has no protocol
    have hstart : Text.beginsWith p.urlStart "" = false := by
      rw [Bool.eq_false_iff, Ne, Text.beginsWith_eq_true_iff]
      simp [urlStart, hk]
    have hsame : p.unlinked "" = "" :=
      withoutResolver_of_forall (by simp [acceptedAddresses, hk, hstart])
    rw [hempty, hsame]
    rfl
  · have hprotocol := protocol_of_perma hk
    rw [result_parse_str hempty, ← unlinked]
    cases splitProtocol? (decoded (p.unlinked s)) with
    | none => rfl
    | some split =>
      obtain ⟨protocol, path⟩ := split
      dsimp only
      rw [parsePathOf, if_pos hk, Parsing.result_bind_ok (result_say ..)]
      by_cases he : protocol = permaProtocol
      · rw [if_pos he, he, ← hprotocol, speaks_protocol, Bool.not_true, if_neg Bool.false_ne_true,
          hk]
      · have hspeaks : p.speaks (.str protocol) = false := by simp [speaks, hprotocol, he]
        rw [if_neg he, hspeaks]
        rfl

/-- **What a provider of local permanent links reads.** -/
theorem result_parse_link (hk : p.kind = .perma) (ha : p.authority = .str authority)
    (hs : p.separator = .str separator) (s : String) :
    (p.parse (.str s)).result = .ok ((linkIn authority separator (decoded (p.unlinked s))).map
      fun localPart => p.signed "PERMA" (permaProtocol, authority, localPart)) := by
  rw [result_parse_of_perma hk, linkIn]
  cases splitProtocol? (decoded (p.unlinked s)) with
  | none => rfl
  | some split =>
    obtain ⟨protocol, path⟩ := split
    dsimp only [Option.bind_some]
    split
    · exact result_parseOwn (name_of_perma hk) ha hs path
    · rfl

theorem parse_eq_some_iff (hk : p.kind = .perma) (ha : p.authority = .str authority)
    (hs : p.separator = .str separator) {pid : Identifier} :
    (p.parse (.str s)).result = .ok (some pid) ↔
      ∃ localPart, linkIn authority separator (decoded (p.unlinked s)) = some localPart ∧
        p.signed "PERMA" (permaProtocol, authority, localPart) = pid := by
  rw [result_parse_link hk ha hs, Except.ok.injEq, Option.map_eq_some_iff]

/-- A canonical form does not begin with the provider's address. -/
theorem beginsWith_urlStart (hk : p.kind = .perma)
    (hbase : Text.beginsWith "perma:" p.baseUrl = false) (path : String) :
    Text.beginsWith p.urlStart ("perma:" ++ path) = false := by
  rw [Bool.eq_false_iff]
  intro hbegins
  have hnone : '/' ∉ "perma:".toList := by decide
  have hprotocol : "perma:".toList <+: ("perma:" ++ path).toList :=
    ⟨path.toList, String.toList_append.symm⟩
  have hslash : p.baseUrl.toList ++ ['/'] <+: p.urlStart.toList :=
    ⟨"citation?persistentId=perma:".toList, by simp [Provider.urlStart, hk, permaProtocol]⟩
  have hlink := hslash.trans (Text.beginsWith_eq_true_iff.1 hbegins)
  -- the slash behind the base address has no place in the protocol
  rcases List.prefix_or_prefix_of_prefix hprotocol hlink with hlong | hshort
  · rcases List.prefix_concat_iff.1 hlong with heq | hlong
    · exact absurd (heq ▸ List.mem_append_right _ List.mem_cons_self) hnone
    · exact Bool.eq_false_iff.1 hbase (Text.beginsWith_eq_true_iff.2 hlong)
  · exact hnone (hshort.mem (List.mem_append_right _ List.mem_cons_self))

theorem unlinked_canonical (hk : p.kind = .perma)
    (hbase : Text.beginsWith "perma:" p.baseUrl = false) (path : String) :
    p.unlinked ("perma:" ++ path) = "perma:" ++ path := by
  rw [unlinked, acceptedAddresses, hk]
  exact withoutResolver_of_forall (by simp [beginsWith_urlStart hk hbase path])

theorem unlinked_url (hk : p.kind = .perma) (path : String) :
    p.unlinked (p.urlStart ++ path) = "perma:" ++ path := by
  rw [unlinked, acceptedAddresses, hk, protocol_of_perma hk]
  exact withoutResolver_append (List.pairwise_singleton ..) List.mem_cons_self path

/-- **Of a canonical form and of a link the path is read**, with its colons decoded. -/
theorem result_parse_link_printed (hk : p.kind = .perma) (ha : p.authority = .str authority)
    (hs : p.separator = .str separator) (hbase : Text.beginsWith "perma:" p.baseUrl = false)
    (path : String) (hprinted : s = "perma:" ++ path ∨ s = p.urlStart ++ path) :
    (p.parse (.str s)).result = .ok ((ownPart authority separator (decoded path)).map
      fun localPart => p.signed "PERMA" (permaProtocol, authority, localPart)) := by
  have hunlinked : p.unlinked s = "perma:" ++ path := by
    rcases hprinted with rfl | rfl
    · exact unlinked_canonical hk hbase path
    · exact unlinked_url hk path
  rw [result_parse_link hk ha hs, hunlinked, decoded_append_of_not_mem (by decide), linkIn,
    splitProtocol?_perma]
  rfl

end PersistentId.Provider
