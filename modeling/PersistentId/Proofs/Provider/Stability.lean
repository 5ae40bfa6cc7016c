import PersistentId.Proofs.Provider.Print

/-!
# Local permanent links read again and told apart

Two questions about the grammar of local permanent links.

* Is what was read and printed read as the same identifier again? It is exactly if no colon of its
  path is encoded (`reads_printed_iff`). Colons are decoded before blanks, apostrophes and
  semicolons are taken out and before the separator is put in; so an encoded colon comes about where
  one of these stood within it, and is decoded by the next reading (`not_forall_reads_printed`).
* Are two texts read as two identifiers? The grammar does not insist on the separator, so that a
  text with it and the one without it are read as the same identifier. That is the only way in which
  plain texts fall together (`sameAs_iff_of_parse`); but by it an identifier of another authority
  that begins with the provider's own is read as one of the provider's
  (`not_forall_sameAs_eq_false`).
-/

namespace PersistentId.Provider

open PersistentId.Action Identifier

variable {p : Provider} {authority separator name s t : String} {pid other : Identifier}

/-- Identifiers of the same provider and authority are told apart by their local parts. -/
theorem sameAs_signed_iff {protocol localPart localPart' : String} :
    (p.signed name (protocol, authority, localPart)).sameAs
      (p.signed name (protocol, authority, localPart')) = true ↔ localPart = localPart' := by
  rw [Identifier.sameAs, Bool.and_eq_true, Bool.and_eq_true, decide_eq_true_eq, decide_eq_true_eq]
  simp [signed, Value.agrees, Value.key?]

theorem parse_of_ownPart (hk : p.kind = .perma) (ha : p.authority = .str authority)
    (hs : p.separator = .str separator) (hbase : Text.beginsWith "perma:" p.baseUrl = false)
    (path path' : String) {localPart : String} (hcanonical : s = "perma:" ++ path)
    (hpath : decoded path = path') (hown : ownPart authority separator path' = some localPart) :
    (p.parse (.str s)).result =
      .ok (some (p.signed "PERMA" (permaProtocol, authority, localPart))) := by
  rw [result_parse_link_printed hk ha hs hbase path (.inl hcanonical), hpath, hown]
  rfl

/-! ## Reading again -/

/-- Whether a provider reads an identifier in a text. -/
def Reads (p : Provider) (s : String) (pid : Identifier) : Prop :=
  ∃ other, (p.parse (.str s)).result = .ok (some other) ∧ pid.sameAs other = true

theorem count_clean (s : String) :
    (Part.clean s).toList.count ':' = s.toList.count ':' := by
  rw [Part.clean, String.toList_ofList, Part.cleanChars]
  exact List.count_filter (by decide)

/-- No more is dropped than the text in front. -/
theorem count_le_count_dropStart (start s : String) :
    s.toList.count ':' ≤ start.toList.count ':' + (Text.dropStart start s).toList.count ':' := by
  rcases Text.dropStart_cases start s with ⟨-, hkept⟩ | hdropped
  · rw [hkept]
    exact Nat.le_add_left ..
  · rw [← List.count_append, ← String.toList_append, ← hdropped]

/-- **An encoded colon is read as a colon**, and so as part of another local part. -/
theorem ownPart_decoded_ne {localPart : String}
    (h : Text.occursIn "%3A" (authority ++ separator ++ localPart) = true) :
    ownPart authority separator (decoded (authority ++ separator ++ localPart)) ≠
      some localPart := by
  intro hread
  obtain ⟨⟨rest, hrest, hlocal⟩, -⟩ := ownPart_eq_some_iff.1 hread
  have hcut : Text.cut colonCode (authority ++ separator ++ localPart).toList ≠ none :=
    fun hnone => by rw [occursIn_colonCode_eq_false_iff.2 hnone] at h; cases h
  -- decoding adds a colon, and reading takes none away but those of authority and separator
  have hmore := count_lt_count_decodeColons hcut
  have hdecoded : (decodeColons (authority ++ separator ++ localPart).toList).count ':' =
      authority.toList.count ':' + rest.toList.count ':' := by
    rw [← List.count_append, ← String.toList_append, ← hrest, decoded, String.toList_ofList]
  have hdropped := count_le_count_dropStart separator rest
  have hkept : (Text.dropStart separator rest).toList.count ':' = localPart.toList.count ':' := by
    rw [← hlocal, count_clean]
  simp only [String.toList_append, List.count_append] at hmore hdecoded
  omega

/-- In what was read as it stands no colon is encoded. -/
theorem occursIn_path_of_toString_eq (h : pid.toString = decoded s) :
    Text.occursIn "%3A" pid.path = false := by
  have hcut : Text.cut colonCode ((pid.protocol.text ++ ":").toList ++ pid.path.toList) = none := by
    rw [← String.toList_append]
    exact (congrArg (Text.cut colonCode ·.toList) h).trans
      (occursIn_colonCode_eq_false_iff.1 (occursIn_decoded s))
  exact occursIn_colonCode_eq_false_iff.2 (Text.cut_eq_none_of_append hcut)

/-- **What a provider of local permanent links has read it reads again** in the canonical form and
in the link exactly if no colon of the path is encoded there; and none is if the canonical form is
the decoded text. It is then read with all that it had. -/
theorem reads_printed_iff (hk : p.kind = .perma) (ha : p.authority = .str authority)
    (hs : p.separator = .str separator) (hbase : Text.beginsWith "perma:" p.baseUrl = false)
    (h : (p.parse (.str s)).result = .ok (some pid)) :
    (pid.toString = decoded (p.unlinked s) → Text.occursIn "%3A" pid.path = false) ∧
      ∀ printed ∈ [pid.toString, pid.url],
        (p.Reads printed pid ↔ Text.occursIn "%3A" pid.path = false) ∧
        (Text.occursIn "%3A" pid.path = false →
          (p.parse (.str printed)).result = .ok (some pid)) := by
  refine ⟨occursIn_path_of_toString_eq, fun printed hprinted => ?_⟩
  obtain ⟨localPart, hlink, rfl⟩ := (parse_eq_some_iff hk ha hs).1 h
  obtain ⟨_, -, hown⟩ := linkIn_eq_some_iff.1 hlink
  obtain ⟨-, hne, hproper⟩ := ownPart_eq_some_iff.1 hown
  have hpath : (p.signed "PERMA" (permaProtocol, authority, localPart)).path =
      authority ++ separator ++ localPart := by
    rw [Identifier.path, signed, hs, Value.text_str]
  rw [List.mem_cons, List.mem_singleton, Identifier.toString, Identifier.url, hpath] at hprinted
  rw [hpath, Reads, result_parse_link_printed hk ha hs hbase _ hprinted]
  cases hcode : Text.occursIn "%3A" (authority ++ separator ++ localPart) with
  | false =>
    rw [decoded_eq_self hcode, ownPart_append hne hproper, Option.map_some]
    exact ⟨⟨fun _ => rfl, fun _ => ⟨_, rfl, sameAs_signed_iff.2 rfl⟩⟩, fun _ => rfl⟩
  | true =>
    refine ⟨⟨?_, fun h => by cases h⟩, fun h => by cases h⟩
    rintro ⟨other, hother, hsame⟩
    obtain ⟨localPart', hagain, rfl⟩ := Option.map_eq_some_iff.1 (Except.ok.inj hother)
    rw [← sameAs_signed_iff.1 hsame] at hagain
    exact absurd hagain (ownPart_decoded_ne hcode)

theorem reads_printed_iff_linking :
    Text.beginsWith "perma:" linking.baseUrl = false ∧
      ∃ pid, (linking.parse (.str "perma:NISTMDS%3A 1")).result = .ok (some pid) ∧
        pid.toString = "perma:NIST-MDS:1" ∧ linking.Reads pid.toString pid ∧
        linking.Reads pid.url pid := by
  have hbase : Text.beginsWith "perma:" linking.baseUrl = false := by decide
  have hread : (linking.parse (.str "perma:NISTMDS%3A 1")).result =
      .ok (some (linking.signed "PERMA" (permaProtocol, "NIST", "MDS:1"))) :=
    parse_of_ownPart rfl rfl rfl hbase "NISTMDS%3A 1" "NISTMDS: 1" (by decide) (by decide)
      (by decide)
  obtain ⟨-, hagain⟩ := reads_printed_iff rfl rfl rfl hbase hread
  exact ⟨hbase, _, hread, by decide, (hagain _ (by simp)).1.2 (by decide),
    (hagain _ (by simp)).1.2 (by decide)⟩

/-- A blank within an encoded colon is taken out after the colons were decoded. -/
theorem not_forall_reads_printed :
    ¬∀ (p : Provider) (authority separator s : String) (pid : Identifier), p.kind = .perma →
      p.authority = .str authority → p.separator = .str separator →
      separator.toList.all (fun c => !Text.isBlank c) = true →
      Text.occursIn "%3A" separator = false → Text.beginsWith "perma:" p.baseUrl = false →
      (p.parse (.str s)).result = .ok (some pid) →
      p.Reads pid.toString pid ∧ p.Reads pid.url pid := by
  intro h
  let bare : Provider := { linking with permaSeparator := .str "" }
  have hbase : Text.beginsWith "perma:" bare.baseUrl = false := by decide
  have hread : (bare.parse (.str "perma:NIST%3 AX")).result =
      .ok (some (bare.signed "PERMA" (permaProtocol, "NIST", "%3AX"))) :=
    parse_of_ownPart rfl rfl rfl hbase "NIST%3 AX" "NIST%3 AX" (by decide)
      (decoded_eq_self (by decide)) (by decide +kernel)
  have hagain : (bare.parse (.str "perma:NIST%3AX")).result =
      .ok (some (bare.signed "PERMA" (permaProtocol, "NIST", ":X"))) :=
    parse_of_ownPart rfl rfl rfl hbase "NIST%3AX" "NIST:X" (by decide) (by decide) (by decide)
  obtain ⟨⟨other, hother, hsame⟩, -⟩ := h bare "NIST" "" "perma:NIST%3 AX" _ rfl rfl rfl
    (by decide) (by decide) hbase hread
  obtain rfl := Option.some.inj (Except.ok.inj (hagain.symm.trans hother))
  exact absurd (sameAs_signed_iff.1 hsame) (by decide)

/-! ## Texts that are told apart -/

/-- A text without an encoded colon and without characters that have no place in an identifier. -/
def Plain (s : String) : Prop :=
  Text.occursIn "%3A" s = false ∧ Part.clean s = s

theorem Plain.of_append (h : Plain (s ++ t)) : Plain t := by
  obtain ⟨hcode, hclean⟩ := h
  rw [occursIn_colonCode_eq_false_iff, String.toList_append] at hcode
  rw [Part.clean_eq_self_iff, String.toList_append] at hclean
  exact ⟨occursIn_colonCode_eq_false_iff.2 (Text.cut_eq_none_of_append hcode),
    Part.clean_eq_self_iff.2 fun c hc => hclean c (List.mem_append_right _ hc)⟩

/-- What is left of a plain text without another one in front is plain. -/
theorem Plain.dropStart (h : Plain s) (start : String) : Plain (Text.dropStart start s) := by
  rcases Text.dropStart_cases start s with ⟨-, hkept⟩ | hdropped
  · rwa [hkept]
  · exact (hdropped ▸ h).of_append

/-- A plain text that is a link is plain as a canonical form. -/
theorem Plain.unlinked_eq (h : Plain s) (hk : p.kind = .perma) {path : String}
    (hs : decoded (p.unlinked s) = "perma:" ++ path) :
    p.unlinked s = "perma:" ++ path ∧ Plain path := by
  cases hlink : Text.stripStart? p.urlStart s with
  | none =>
    have hsame : p.unlinked s = s := by
      rw [unlinked, acceptedAddresses, hk, withoutResolver, hlink]
      rfl
    rw [hsame, decoded_eq_self h.1] at hs
    rw [hsame]
    exact ⟨hs, (hs ▸ h).of_append⟩
  | some rest =>
    have hrest := Text.stripStart?_eq_some_iff.1 hlink
    have hplain : Plain rest := (hrest ▸ h).of_append
    have hcanonical : p.unlinked s = "perma:" ++ rest := by rw [hrest, unlinked_url hk]
    rw [hcanonical, decoded_append_of_not_mem (by decide), decoded_eq_self hplain.1] at hs
    obtain rfl := (String.append_right_inj _).1 hs
    exact ⟨hcanonical, hplain⟩

/-- In a plain text the local part is what follows the authority, but for the separator. -/
theorem Plain.exists_of_parse (h : Plain s) (hk : p.kind = .perma)
    (ha : p.authority = .str authority) (hs : p.separator = .str separator)
    (hpid : (p.parse (.str s)).result = .ok (some pid)) :
    ∃ rest, p.unlinked s = "perma:" ++ authority ++ rest ∧
      pid = p.signed "PERMA" (permaProtocol, authority, Text.dropStart separator rest) := by
  obtain ⟨localPart, hlink, rfl⟩ := (parse_eq_some_iff hk ha hs).1 hpid
  obtain ⟨path, hpath, hown⟩ := linkIn_eq_some_iff.1 hlink
  obtain ⟨hunlinked, hplain⟩ := h.unlinked_eq hk hpath
  obtain ⟨⟨rest, rfl, hlocal⟩, -⟩ := ownPart_eq_some_iff.1 hown
  refine ⟨rest, by rw [hunlinked, String.append_assoc], ?_⟩
  rw [← hlocal, (hplain.of_append.dropStart separator).2]

/-- The second of two texts that begin alike goes on with the separator, the first does not, and but
for that they are the same. -/
def LacksSeparator (start separator s t : String) : Prop :=
  ∃ rest, Text.beginsWith separator rest = false ∧ s = start ++ rest ∧
    t = start ++ separator ++ rest

theorem lacksSeparator_append_iff {start rest rest' : String} :
    LacksSeparator start separator (start ++ rest) (start ++ rest') ↔
      Text.beginsWith separator rest = false ∧ rest' = separator ++ rest := by
  constructor
  · rintro ⟨r, hr, hs, ht⟩
    obtain rfl := (String.append_right_inj _).1 hs
    rw [String.append_assoc] at ht
    exact ⟨hr, (String.append_right_inj _).1 ht⟩
  · rintro ⟨hr, rfl⟩
    exact ⟨rest, hr, rfl, String.append_assoc.symm⟩

theorem not_lacksSeparator_empty (start s t : String) : ¬LacksSeparator start "" s t := by
  rintro ⟨rest, hrest, -⟩
  have hbegins := Text.beginsWith_append "" rest
  rw [String.empty_append, hrest] at hbegins
  cases hbegins

/-- **Two plain texts are read as the same identifier** exactly if they are the same canonical form,
or the same but for the separator behind the authority. So without a separator different canonical
forms are told apart. -/
theorem sameAs_iff_of_parse (hk : p.kind = .perma) (ha : p.authority = .str authority)
    (hs : p.separator = .str separator) (hplain : Plain s) (hplain' : Plain t)
    (hpid : (p.parse (.str s)).result = .ok (some pid))
    (hother : (p.parse (.str t)).result = .ok (some other)) :
    (pid.sameAs other = true ↔ p.unlinked s = p.unlinked t ∨
      LacksSeparator ("perma:" ++ authority) separator (p.unlinked s) (p.unlinked t) ∨
      LacksSeparator ("perma:" ++ authority) separator (p.unlinked t) (p.unlinked s)) ∧
    (Text.beginsWith "perma:" p.baseUrl = false → separator = "" →
      Text.beginsWith "perma:" s = true → Text.beginsWith "perma:" t = true → s ≠ t →
      pid.sameAs other = false) := by
  have hiff : pid.sameAs other = true ↔ p.unlinked s = p.unlinked t ∨
      LacksSeparator ("perma:" ++ authority) separator (p.unlinked s) (p.unlinked t) ∨
      LacksSeparator ("perma:" ++ authority) separator (p.unlinked t) (p.unlinked s) := by
    obtain ⟨rest, hrest, rfl⟩ := hplain.exists_of_parse hk ha hs hpid
    obtain ⟨rest', hrest', rfl⟩ := hplain'.exists_of_parse hk ha hs hother
    rw [sameAs_signed_iff, Text.dropStart_eq_iff, hrest, hrest', lacksSeparator_append_iff,
      lacksSeparator_append_iff, String.append_right_inj]
  refine ⟨hiff, fun hbase hempty hcanonical hcanonical' hne => ?_⟩
  have hunlinked {s : String} (h : Text.beginsWith "perma:" s = true) : p.unlinked s = s := by
    rcases Text.dropStart_cases "perma:" s with ⟨hnone, -⟩ | hpath
    · rw [h] at hnone
      cases hnone
    · rw [hpath, unlinked_canonical hk hbase]
  rw [Bool.eq_false_iff, Ne, hiff, hunlinked hcanonical, hunlinked hcanonical', hempty]
  rintro (heq | hlacks | hlacks)
  · exact hne heq
  · exact not_lacksSeparator_empty _ _ _ hlacks
  · exact not_lacksSeparator_empty _ _ _ hlacks

/-- Two texts that `linking` reads as the same identifier. -/
theorem parse_linking :
    (linking.parse (.str "perma:NIST2-ABC")).result =
        .ok (some (linking.signed "PERMA" (permaProtocol, "NIST", "2-ABC"))) ∧
      (linking.parse (.str "perma:NIST-2-ABC")).result =
        .ok (some (linking.signed "PERMA" (permaProtocol, "NIST", "2-ABC"))) :=
  ⟨parse_of_ownPart rfl rfl rfl (by decide) "NIST2-ABC" "NIST2-ABC" (by decide) (by decide)
      (by decide),
    parse_of_ownPart rfl rfl rfl (by decide) "NIST-2-ABC" "NIST-2-ABC" (by decide) (by decide)
      (by decide)⟩

theorem sameAs_iff_of_parse_linking :
    (Plain "perma:NIST2-ABC" ∧ Plain "perma:NIST-2-ABC") ∧
      ∃ pid other, (linking.parse (.str "perma:NIST2-ABC")).result = .ok (some pid) ∧
        (linking.parse (.str "perma:NIST-2-ABC")).result = .ok (some other) ∧
        pid.sameAs other = true := by
  have hplain : Plain "perma:NIST2-ABC" ∧ Plain "perma:NIST-2-ABC" :=
    ⟨⟨by decide, by decide⟩, by decide, by decide⟩
  have hlacks : LacksSeparator ("perma:" ++ "NIST") "-" (linking.unlinked "perma:NIST2-ABC")
      (linking.unlinked "perma:NIST-2-ABC") := ⟨"2-ABC", by decide, by decide, by decide⟩
  obtain ⟨hpid, hother⟩ := parse_linking
  exact ⟨hplain, _, _, hpid, hother,
    (sameAs_iff_of_parse rfl rfl rfl hplain.1 hplain.2 hpid hother).1.2 (.inr (.inl hlacks))⟩

/-- An identifier of the authority `NIST2` is read as one of the authority `NIST`. -/
theorem not_forall_sameAs_eq_false :
    ¬∀ (p : Provider) (authority separator s t : String) (pid other : Identifier),
      p.kind = .perma → p.authority = .str authority → p.separator = .str separator →
      Text.beginsWith "perma:" s = true → Text.beginsWith "perma:" t = true →
      Plain s → Plain t → s ≠ t → (p.parse (.str s)).result = .ok (some pid) →
      (p.parse (.str t)).result = .ok (some other) → pid.sameAs other = false := by
  intro h
  obtain ⟨hpid, hother⟩ := parse_linking
  have hsame := h linking "NIST" "-" "perma:NIST2-ABC" "perma:NIST-2-ABC" _ _ rfl rfl rfl
    (by decide) (by decide) ⟨by decide, by decide⟩ ⟨by decide, by decide⟩ (by decide) hpid hother
  rw [sameAs_signed_iff.2 rfl] at hsame
  cases hsame

end PersistentId.Provider
