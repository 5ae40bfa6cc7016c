import PersistentId.Proofs.Identifier.Parse
import PersistentId.Provider.Parse

/-!
# What providers read

Of a text that begins with the address of a resolver a provider of DOIs or Handles reads the text
with the protocol in its place, which `Provider.Resolves` relates to it. What it reads there is what
the shared grammar reads, if the provider accepts that (`result_parse`): so the two have the same
canonical form (`parse_refines_shared`).

A provider has to have a name, which the identifiers that it reads bear; one that was set up has
one (`name_of_ofParts`).
-/

namespace PersistentId

open Identifier

namespace Provider

variable {p : Provider} {name protocol s s' : String} {addresses : List String}

/-! ## Addresses of resolvers -/

theorem withoutResolver_of_forall
    (h : ∀ address ∈ addresses, Text.beginsWith address s = false) :
    withoutResolver protocol addresses s = s := by
  induction addresses with
  | nil => rfl
  | cons address more ih =>
    rw [withoutResolver, Text.stripStart?_eq_none_iff.2 (h address (by simp))]
    exact ih fun a ha => h a (by simp [ha])

/-- Of addresses that are apart each one is taken away. -/
theorem withoutResolver_append (h : addresses.Pairwise Text.Apart) {address : String}
    (hmem : address ∈ addresses) (rest : String) :
    withoutResolver protocol addresses (address ++ rest) = protocol ++ ":" ++ rest := by
  induction addresses with
  | nil => cases hmem
  | cons a more ih =>
    obtain ⟨hapart, hmore⟩ := List.pairwise_cons.1 h
    rcases List.mem_cons.1 hmem with rfl | hmem
    · rw [withoutResolver, Text.stripStart?_eq_some_iff.2 rfl]
    · have hnone := (hapart address hmem).beginsWith_append rest
      rw [withoutResolver, Text.stripStart?_eq_none_iff.2 hnone]
      exact ih hmore hmem

/-- What a text becomes when the protocol takes the place of a resolver's address at its start. -/
def Resolves (p : Provider) (s s' : String) : Prop :=
  (∃ address ∈ p.kind.resolvers, ∃ rest, s = address ++ rest ∧ s' = p.protocol ++ ":" ++ rest) ∨
    (∀ address ∈ p.kind.resolvers, Text.beginsWith address s = false) ∧ s' = s

theorem pairwise_resolvers (kind : ProviderKind) : kind.resolvers.Pairwise Text.Apart := by
  cases kind <;> decide

/-- **Every text becomes just one**, which the provider computes. -/
theorem resolves_iff : p.Resolves s s' ↔ s' = withoutResolver p.protocol p.kind.resolvers s := by
  constructor
  · rintro (⟨address, hmem, rest, rfl, rfl⟩ | ⟨hnone, rfl⟩)
    · exact (withoutResolver_append (pairwise_resolvers p.kind) hmem rest).symm
    · exact (withoutResolver_of_forall hnone).symm
  · rintro rfl
    rcases Text.exists_append_or_forall_beginsWith p.kind.resolvers s with
      ⟨address, hmem, rest, rfl⟩ | hnone
    · exact .inl ⟨address, hmem, rest, rfl,
        withoutResolver_append (pairwise_resolvers p.kind) hmem rest⟩
    · exact .inr ⟨hnone, withoutResolver_of_forall hnone⟩

/-! ## Parts -/

/-- Whether a provider of DOIs or Handles accepts the parts of a text. -/
def accepts (p : Provider) : String × String × String → Bool
  | (protocol, authority, _) =>
    protocol = p.protocol && (p.kind = .handle || isDoiAuthority authority)

/-- The identifier that a provider of a name makes of the parts of a text. -/
def signed (p : Provider) (name : String) : String × String × String → Identifier
  | (protocol, authority, localPart) =>
    ⟨.str protocol, authority, localPart, p.separator, .str p.urlStart, .str name⟩

@[simp]
theorem speaks_protocol (p : Provider) : p.speaks (.str p.protocol) = true := by
  simp [speaks]

theorem result_say (level : Level) (message : String) :
    (p.say level message).result = .ok ⟨⟩ := rfl

/-- A provider makes an identifier of proper parts. -/
theorem result_fromParts (hn : p.name = .ok name) (hs : p.separator ≠ .null)
    (protocol authority localPart : String) :
    (p.fromParts (.str protocol) (.str authority) (.str localPart)).result =
      .ok (if Part.isProper authority && Part.isProper localPart then
        some (p.signed name (protocol, authority, localPart)) else none) := by
  have hp : Value.str protocol ≠ .null := by simp
  rw [fromParts, Parsing.result_ofExcept_bind hn, Parsing.result_bind_ok (result_say ..),
    Parsing.result_ofExcept_bind (wellFormed_str hp ..)]
  by_cases hproper : (Part.isProper authority && Part.isProper localPart) = true
  · have hfits := (wellFormed_str hp authority localPart).trans (congrArg _ hproper)
    have hurl : Value.str p.urlStart ≠ .null := by simp
    rw [if_pos hproper, if_pos hproper, Parsing.result_map, Parsing.result_ofExcept,
      make_of_wellFormed hfits hs hurl]
    rfl
  · rw [if_neg hproper, if_neg hproper, Parsing.result_pure]

theorem separator_eq (hk : p.kind ≠ .perma) : p.separator = .str "/" := by
  cases h : p.kind <;> simp_all [separator]

/-- What stands behind the protocol of a provider is split as the shared grammar splits it. -/
theorem result_parsePath (hk : p.kind ≠ .perma) (hn : p.name = .ok name) (path : String) :
    (p.parsePath (.str p.protocol) (.str path)).result =
      .ok ((partsBehind "/" p.protocol path).map (p.signed name)) := by
  have htext : (Value.str path).asText "find" = .ok path := rfl
  have hnull : Value.str path ≠ .null := by simp
  have hseparator : p.separator ≠ .null := by simp [separator_eq hk]
  rw [parsePath, if_neg hnull, Parsing.result_ofExcept_bind htext, separator_eq hk,
    Value.text_str, partsBehind]
  cases splitAuthority? "/" path with
  | none => rfl
  | some split =>
    obtain ⟨authority, localPart⟩ := split
    dsimp only [Option.bind_some]
    rw [parseParts, if_pos p.speaks_protocol, result_fromParts hn hseparator]
    split <;> rfl

/-- Parts of another protocol are not accepted, and those of its own by their authority. -/
theorem filter_accepts (separator protocol path : String) :
    (partsBehind separator protocol path).filter p.accepts =
      if protocol = p.protocol then
        (partsBehind separator protocol path).filter fun parts =>
          p.kind = .handle || isDoiAuthority parts.2.1
      else none := by
  cases hparts : partsBehind separator protocol path with
  | none => simp
  | some parts =>
    obtain ⟨authority, localPart, -, -, -, rfl⟩ := exists_of_partsBehind hparts
    by_cases hprotocol : protocol = p.protocol <;> simp [Option.filter, accepts, hprotocol]

/-- A provider reads what the shared grammar reads behind a protocol, if it accepts that. -/
theorem result_parsePathOf (hk : p.kind ≠ .perma) (hn : p.name = .ok name)
    (protocol path : String) :
    (p.parsePathOf (.str protocol) (.str path)).result =
      .ok (((partsBehind "/" protocol path).filter p.accepts).map (p.signed name)) := by
  rw [parsePathOf, if_neg hk, filter_accepts]
  dsimp only
  by_cases hprotocol : protocol = p.protocol
  · subst hprotocol
    have hpath := result_parsePath hk hn path
    rw [speaks_protocol, Bool.not_true, if_neg Bool.false_ne_true, if_pos rfl]
    cases hkind : p.kind with
    | perma => exact absurd hkind hk
    | handle =>
      dsimp only
      rw [hpath]
      cases partsBehind "/" p.protocol path <;> rfl
    | dataCite | ezid | fake =>
      dsimp only
      rw [Parsing.result_bind_ok hpath, Parsing.result_pure, Option.filter_map]
      rfl
  · have hspeaks : p.speaks (.str protocol) = false := by simp [speaks, hprotocol]
    rw [hspeaks, if_neg hprotocol]
    rfl

theorem result_parse_str (hs : s ≠ "") :
    (p.parse (.str s)).result =
      match splitProtocol? (decoded (withoutResolver p.protocol p.acceptedAddresses s)) with
      | some (protocol, path) => (p.parsePathOf (.str protocol) (.str path)).result
      | none => .ok none := by
  have htruthy : (Value.str s).truthy = true := by simp [Value.truthy, hs]
  have htext : (Value.str s).asText "startswith" = .ok s := rfl
  rw [parse, htruthy, decoded, Bool.not_true, if_neg Bool.false_ne_true,
    Parsing.result_ofExcept_bind htext]
  dsimp only
  cases splitProtocol?
    (String.ofList (decodeColons (withoutResolver p.protocol p.acceptedAddresses s).toList)) <;> rfl

/-! ## DOIs and Handles -/

theorem acceptedAddresses_eq (hk : p.kind ≠ .perma) : p.acceptedAddresses = p.kind.resolvers := by
  cases h : p.kind <;> simp_all [acceptedAddresses]

/-- **What a provider of DOIs or Handles reads**: what the shared grammar reads in the resolved
text, if the provider accepts it. -/
theorem result_parse (hk : p.kind ≠ .perma) (hn : p.name = .ok name) (h : p.Resolves s s') :
    (p.parse (.str s)).result =
      .ok (((partsIn "/" (decoded s')).filter p.accepts).map (p.signed name)) := by
  rw [resolves_iff] at h
  by_cases hs : s = ""
  · -- nothing is read in the empty text, which has no parts either
    subst hs
    have hnone : ∀ address ∈ p.kind.resolvers, Text.beginsWith address "" = false := by
      cases p.kind <;> decide
    rw [h, withoutResolver_of_forall hnone]
    rfl
  · rw [result_parse_str hs, acceptedAddresses_eq hk, ← h, partsIn]
    cases splitProtocol? (decoded s') with
    | none => rfl
    | some split =>
      obtain ⟨protocol, path⟩ := split
      exact result_parsePathOf hk hn protocol path

/-- Whether a provider of DOIs or Handles is one for an identifier of its protocol. -/
def Covers (p : Provider) (pid : Identifier) : Prop :=
  pid.protocol = .str p.protocol ∧ (p.kind = .handle ∨ isDoiAuthority pid.authority = true)

theorem accepts_iff_covers {parts : String × String × String} :
    p.accepts parts = true ↔ p.Covers (Identifier.ofParts "/" parts) := by
  obtain ⟨protocol, authority, localPart⟩ := parts
  simp [accepts, Covers, Identifier.ofParts]

theorem toString_signed (hk : p.kind ≠ .perma) {parts : String × String × String}
    (h : partsIn "/" s = some parts) : (p.signed name parts).toString = s := by
  obtain ⟨protocol, authority, localPart⟩ := parts
  rw [eq_append_of_partsIn h]
  simp [signed, Identifier.toString, Identifier.path, separator_eq hk]

/-- A canonical form has no address of a resolver in front of it. -/
theorem resolves_toString {pid : Identifier} (h : pid.protocol = .str p.protocol) :
    p.Resolves pid.toString pid.toString := by
  have hapart : ∀ address ∈ p.kind.resolvers, Text.Apart address (p.protocol ++ ":") := by
    rw [protocol]
    cases p.kind <;> decide
  refine .inr ⟨fun address hmem => ?_, rfl⟩
  rw [Identifier.toString, h]
  exact (hapart address hmem).beginsWith_append pid.path

theorem resolves_address {pid : Identifier} (h : pid.protocol = .str p.protocol) {address : String}
    (hmem : address ∈ p.kind.resolvers) : p.Resolves (address ++ pid.path) pid.toString :=
  .inl ⟨address, hmem, pid.path, rfl, by rw [Identifier.toString, h, Value.text_str]⟩

theorem resolves_url (hk : p.kind ≠ .perma) {pid : Identifier}
    (h : pid.protocol = .str p.protocol) (hurl : pid.urlStart = .str p.urlStart) :
    p.Resolves pid.url pid.toString := by
  have hmem : p.urlStart ∈ p.kind.resolvers := by
    cases hkind : p.kind <;> simp_all [urlStart, ProviderKind.resolvers]
  rw [Identifier.url, hurl]
  exact resolves_address h hmem

/-- **DOIs and Handles are read as by the shared grammar, and canonically.** A provider reads an
identifier in a text just where the shared grammar reads one that the provider covers in the
resolved text; both have the same parts and the same canonical form, which is the decoded text, and
the provider reads canonical form and link as the same identifier again. For every separator the
shared grammar reads the canonical form of what it has read as the same identifier again. -/
theorem parse_refines_shared (hk : p.kind ≠ .perma) (hn : p.name = .ok name) :
    ((p.parse .null).result = .ok none ∧ (Identifier.parse .null).result = .ok none) ∧
    (∀ s s', p.Resolves s s' → ∃ found shared,
      (p.parse (.str s)).result = .ok found ∧ (Identifier.parse (.str s')).result = .ok shared ∧
      (found.isSome = true ↔ ∃ other, shared = some other ∧ p.Covers other) ∧
      ∀ pid, found = some pid →
        (∃ other, shared = some other ∧ pid.Alike other) ∧ pid.toString = decoded s' ∧
        (p.parse (.str pid.toString)).result = .ok (some pid) ∧
        (p.parse (.str pid.url)).result = .ok (some pid)) ∧
    ∀ separator s pid, (parseGeneric (.str separator) (.str s)).result = .ok (some pid) →
      pid.toString = decoded s ∧
        (parseGeneric (.str separator) (.str pid.toString)).result = .ok (some pid) := by
  refine ⟨⟨rfl, rfl⟩, fun s s' h => ?_, fun separator s pid h =>
    ⟨toString_of_parseGeneric h, parseGeneric_toString h⟩⟩
  refine ⟨_, _, result_parse hk hn h, Identifier.result_parse s', ?_, ?_⟩
  · cases partsIn "/" (decoded s') with
    | none => simp
    | some parts => simpa [Option.filter] using accepts_iff_covers
  · intro pid hpid
    obtain ⟨parts, hparts, rfl⟩ := Option.map_eq_some_iff.1 hpid
    obtain ⟨hparts, haccepts⟩ := Option.filter_eq_some_iff.1 hparts
    have hprotocol := (accepts_iff_covers.1 haccepts).1
    have hcanonical : (p.signed name parts).toString = decoded s' := toString_signed hk hparts
    have hagain : ∀ t, p.Resolves t (p.signed name parts).toString →
        (p.parse (.str t)).result = .ok (some (p.signed name parts)) := by
      intro t ht
      rw [result_parse hk hn ht, hcanonical, decoded_decoded, hparts,
        Option.filter_some_pos haccepts]
      rfl
    refine ⟨⟨_, congrArg _ hparts, rfl, rfl, rfl, ?_⟩, hcanonical,
      hagain _ (resolves_toString hprotocol), hagain _ (resolves_url hk hprotocol rfl)⟩
    rw [hcanonical, eq_append_of_partsIn hparts]
    rfl

/-- A provider of DOIs that are registered. -/
def registering : Provider where
  kind := .dataCite
  authority := .str "10.5072"
  shoulder := .str "FK2/"
  minter := .random (.str "reeeeee") 594823321 (.bool true) 0
  client := .registry 0
  endpoint? := some (.str "")

theorem parse_refines_shared_registering :
    (registering.kind ≠ .perma ∧ registering.name = .ok "DataCite") ∧
      ∃ pid,
        (registering.parse (.str "http://dx.doi.org/10.5072/FK2%3AX")).result = .ok (some pid) ∧
        pid.localPart = "FK2:X" ∧ pid.toString = "doi:10.5072/FK2:X" ∧
        (registering.parse (.str pid.toString)).result = .ok (some pid) := by
  have hk : registering.kind ≠ .perma := by decide
  have hn : registering.name = .ok "DataCite" := rfl
  refine ⟨⟨hk, hn⟩, ?_⟩
  have hs : registering.Resolves "http://dx.doi.org/10.5072/FK2%3AX" "doi:10.5072/FK2%3AX" :=
    .inl ⟨"http://dx.doi.org/", by decide, "10.5072/FK2%3AX", rfl, rfl⟩
  obtain ⟨-, hparse, -⟩ := parse_refines_shared hk hn
  obtain ⟨found, shared, hfound, hshared, hcovers, hpid⟩ := hparse _ _ hs
  have hparts : partsIn "/" (decoded "doi:10.5072/FK2%3AX") = some ("doi", "10.5072", "FK2:X") := by
    decide
  rw [Identifier.result_parse, hparts] at hshared
  obtain rfl := Except.ok.inj hshared
  obtain ⟨pid, rfl⟩ := Option.isSome_iff_exists.1 (hcovers.2 ⟨_, rfl, rfl, .inr (by decide)⟩)
  obtain ⟨⟨other, hother, halike⟩, -, hagain, -⟩ := hpid pid rfl
  obtain rfl := Option.some.inj hother
  exact ⟨pid, hfound, halike.localPart, halike.canonical, hagain⟩

end Provider

end PersistentId
