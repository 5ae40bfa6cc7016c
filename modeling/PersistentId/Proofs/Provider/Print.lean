import PersistentId.Proofs.Provider.Links

/-!
# Printed identifiers are read

A provider that prints an identifier of its own, in its canonical form or as a link, reads the same
identifier again (`parse_printed`). What was printed is the canonical form once an address is taken
away, and none of its colons is encoded; from there on the grammars part. That of DOIs and Handles
finds the authority before the first slash (`Prints.result_parse`), that of local permanent links
takes away the provider's own authority and the separator (`Prints.result_parse_perma`).
-/

namespace PersistentId.Provider

open PersistentId.Action Identifier

variable {p : Provider} {name s : String}

/-- The identifiers that a provider prints and reads: of its protocol, with its separator and its
address, their local part not empty, their authority one of the provider's grammar, and no colon
encoded in them. -/
structure Prints (p : Provider) (pid : Identifier) : Prop where
  fits : wellFormed pid.protocol (.str pid.authority) (.str pid.localPart) = .ok true
  protocol : pid.protocol = .str p.protocol
  separator : pid.separator = p.separator
  urlStart : pid.urlStart = .str p.urlStart
  named : pid.localPart ≠ ""
  plain : Text.occursIn "%3A" pid.path = false
  authority :
    match p.kind with
    | .perma => p.authority = .str pid.authority ∧ pid.authority ≠ "" ∧
        Text.beginsWith "perma:" p.baseUrl = false
    | .handle => pid.authority ≠ "" ∧ '/' ∉ pid.authority.toList
    | .dataCite | .ezid | .fake =>
      isDoiAuthority pid.authority = true ∧ '/' ∉ pid.authority.toList

variable {pid : Identifier}

/-- **No colon of what was printed is encoded.** -/
theorem Prints.decoded_toString (h : p.Prints pid) : decoded pid.toString = pid.toString := by
  have hplain : '%' ∉ (p.protocol ++ ":").toList := by
    rw [Provider.protocol]
    cases p.kind <;> decide
  rw [Identifier.toString, h.protocol, Value.text_str, decoded_append_of_not_mem hplain,
    decoded_eq_self h.plain]

theorem Prints.splitProtocol?_toString (h : p.Prints pid) :
    splitProtocol? pid.toString = some (p.protocol, pid.path) := by
  have hcolon : ':' ∉ p.protocol.toList ∧ p.protocol ≠ "" := by
    rw [Provider.protocol]
    cases p.kind <;> decide
  rw [Identifier.toString, h.protocol]
  exact splitProtocol?_append hcolon.1 hcolon.2 pid.path

theorem Prints.isProper (h : p.Prints pid) :
    Part.isProper pid.authority = true ∧ Part.isProper pid.localPart = true := by
  obtain ⟨-, _, _, ha, hl, hauthority, hlocal⟩ := wellFormed_eq_true_iff.1 h.fits
  cases ha
  cases hl
  exact ⟨hauthority, hlocal⟩

/-- What a provider makes of the parts of an identifier that it prints bears its name. -/
theorem Prints.signed_eq (h : p.Prints pid) :
    p.signed name (p.protocol, pid.authority, pid.localPart) =
      { pid with provider := .str name } := by
  rw [signed, ← h.protocol, ← h.separator, ← h.urlStart]

/-- The parts of what was printed by a provider of DOIs or Handles. -/
theorem Prints.partsIn_toString (h : p.Prints pid) (hk : p.kind ≠ .perma) :
    partsIn "/" pid.toString = some (p.protocol, pid.authority, pid.localPart) := by
  have hauthority : pid.authority ≠ "" ∧ '/' ∉ pid.authority.toList := by
    have h := h.authority
    cases hkind : p.kind with
    | perma => exact absurd hkind hk
    | handle => simpa only [hkind] using h
    | dataCite | ezid | fake =>
      simp only [hkind] at h
      refine ⟨?_, h.2⟩
      intro hempty
      rw [hempty] at h
      exact absurd h.1 (by decide)
  have hsplit : splitAuthority? "/" pid.path = some (pid.authority, pid.localPart) := by
    rw [Identifier.path, h.separator, separator_eq hk]
    exact splitAuthority?_append hauthority.2 hauthority.1 h.named
  rw [partsIn, h.splitProtocol?_toString, Option.bind_some]
  dsimp only [partsBehind]
  rw [hsplit, Option.bind_some, h.isProper.1, h.isProper.2]
  rfl

theorem Prints.accepts (h : p.Prints pid) (hk : p.kind ≠ .perma) :
    p.accepts (p.protocol, pid.authority, pid.localPart) = true := by
  have h := h.authority
  cases hkind : p.kind with
  | perma => exact absurd hkind hk
  | handle => simp [Provider.accepts, hkind]
  | dataCite | ezid | fake =>
    simp only [hkind] at h
    simp [Provider.accepts, h.1]

/-- What has been printed by a provider of DOIs or Handles is read where it resolves to that. -/
theorem Prints.result_parse (h : p.Prints pid) (hk : p.kind ≠ .perma) (hn : p.name = .ok name)
    (hs : p.Resolves s pid.toString) :
    (p.parse (.str s)).result = .ok (some { pid with provider := .str name }) := by
  rw [Provider.result_parse hk hn hs, h.decoded_toString, h.partsIn_toString hk,
    Option.filter_some_pos (h.accepts hk), ← h.signed_eq]
  rfl

/-! ### Local permanent links -/

/-- What has been printed by a provider of local permanent links is read. -/
theorem Prints.result_parse_perma (h : p.Prints pid) (hk : p.kind = .perma)
    (hn : p.name = .ok name) {separator : String} (hs : p.separator = .str separator)
    (hprinted : s = pid.toString ∨ s = pid.url) :
    (p.parse (.str s)).result = .ok (some { pid with provider := .str name }) := by
  have hauthority := h.authority
  rw [hk] at hauthority
  obtain ⟨ha, hne, hbase⟩ := hauthority
  have hprotocol := protocol_of_perma hk
  have hpath : pid.path = pid.authority ++ separator ++ pid.localPart := by
    rw [Identifier.path, h.separator, hs, Value.text_str]
  obtain rfl : "PERMA" = name := Except.ok.inj ((name_of_perma hk).symm.trans hn)
  rw [Identifier.toString, Identifier.url, h.protocol, h.urlStart, hprotocol] at hprinted
  rw [result_parse_link_printed hk ha hs hbase pid.path hprinted, decoded_eq_self h.plain, hpath,
    ownPart_append ⟨hne, h.named⟩ h.isProper, ← hprotocol, Option.map_some, h.signed_eq]

/-- **What a provider prints it reads.** The canonical form of an identifier, its link, and its path
under each of the addresses that resolve identifiers of the kind are all read as that identifier,
with the provider's name, separator and address. -/
theorem parse_printed (hn : p.name = .ok name) {separator : String}
    (hs : p.separator = .str separator) (h : p.Prints pid) :
    ∃ read : Identifier, pid.sameAs read = true ∧ read.provider = .str name ∧
      read.separator = p.separator ∧ read.urlStart = .str p.urlStart ∧
      (p.parse (.str pid.toString)).result = .ok (some read) ∧
      (p.parse (.str pid.url)).result = .ok (some read) ∧
      ∀ address ∈ p.kind.resolvers,
        (p.parse (.str (address ++ pid.path))).result = .ok (some read) := by
  have hsame : pid.sameAs { pid with provider := .str name } = true := by
    simp [Identifier.sameAs, h.protocol, Value.agrees, Value.key?]
  refine ⟨{ pid with provider := .str name }, hsame, rfl, h.separator, h.urlStart, ?_⟩
  by_cases hk : p.kind = .perma
  · refine ⟨h.result_parse_perma hk hn hs (.inl rfl), h.result_parse_perma hk hn hs (.inr rfl), ?_⟩
    rw [hk]
    intro address hmem
    cases hmem
  · exact ⟨h.result_parse hk hn (resolves_toString h.protocol),
      h.result_parse hk hn (resolves_url hk h.protocol h.urlStart),
      fun address hmem => h.result_parse hk hn (resolves_address h.protocol hmem)⟩

/-- A provider of local permanent links with a separator. -/
def linking : Provider where
  kind := .perma
  authority := .str "NIST"
  shoulder := .str "MDS"
  permaSeparator := .str "-"
  baseUrl := "https://data.example.org"
  minter := .random (.str "reeeeee") 594823321 (.bool true) 0

/-- An identifier that `linking` prints. -/
def link : Identifier where
  protocol := .str "perma"
  authority := "NIST"
  localPart := "MDS-1:2/3"
  separator := .str "-"
  urlStart := .str "https://data.example.org/citation?persistentId=perma:"

theorem linking_prints : linking.Prints link where
  fits := by decide
  protocol := rfl
  separator := rfl
  urlStart := by decide
  named := by decide
  plain := by decide
  authority := ⟨rfl, by decide, by decide⟩

theorem parse_printed_linking :
    (linking.name = .ok "PERMA" ∧ linking.separator = .str "-" ∧ linking.Prints link) ∧
      ∃ read : Identifier, link.sameAs read = true ∧
        (linking.parse (.str "perma:NIST-MDS-1:2/3")).result = .ok (some read) := by
  have hn : linking.name = .ok "PERMA" := rfl
  obtain ⟨read, hsame, -, -, -, hread, -⟩ := parse_printed hn rfl linking_prints
  exact ⟨⟨hn, rfl, linking_prints⟩, read, hsame, hread⟩

end PersistentId.Provider
