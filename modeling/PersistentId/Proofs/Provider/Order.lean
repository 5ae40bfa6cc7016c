import PersistentId.Dispatcher
import PersistentId.Proofs.Provider.Print
import PersistentId.Proofs.Provider.Setup

/-!
# The order of providers does not matter

Several providers are tried in turn, and the first one that finds an identifier in a text decides
(`result_parseWith`). Which one is first makes no difference where any two of them that find
something find the same (`findSome?_perm`). They do:

* what is found in a text is behind the provider's protocol or one of its addresses, at the start of
  the decoded text (`Lettered.exists_start`);
* those of providers of different protocols are apart (`Compatible.apart_of_ne`), by the choice of
  the protocols and resolvers, and for local permanent links if their address does not begin as a
  DOI or a Handle does;
* providers of one protocol read the same, be it DOIs or Handles (`alike_of_protocol_eq`).

So a list of providers and a context that holds them in another order find the same in every text
(`parse_perm`).
-/

namespace PersistentId

open Identifier

namespace Provider

variable {p q : Provider} {providers : List Provider} {s : String} {pid other : Identifier}

/-! ## What one provider finds -/

/-- What a provider has for its grammar: a name, and for local permanent links texts as authority
and separator. -/
structure Lettered (p : Provider) : Prop where
  named : ∃ name, p.name = .ok name
  texts : p.kind = .perma →
    ∃ authority separator, p.authority = .str authority ∧ p.separator = .str separator

/-- **A provider that was set up has what its grammar needs**, if it has a registry service where it
needs one, and authority and separator are texts. -/
theorem lettered_of_ofParts {kind : ProviderKind} {parts : Parts} {source : SourceId}
    {endpoint : RegistryId → Value} (h : ofParts kind parts source endpoint = .ok p)
    (hc : kind.usesRegistry = true → ∃ id, parts.client = .registry id)
    {authority separator : String} (ha : parts.authority.orElse (.str "") = .str authority)
    (hs : parts.separator.orElse (.str "") = .str separator) : p.Lettered := by
  obtain ⟨-, -, -, -, hauthority, -, hseparator, -⟩ := exists_of_ofParts h
  refine ⟨⟨_, name_of_ofParts h hc⟩, fun hk => ⟨authority, separator, hauthority.trans ha, ?_⟩⟩
  rw [Provider.separator, hk]
  exact hseparator.trans hs

/-- What a provider finds in a text. -/
def found (p : Provider) (s : String) : Option Identifier :=
  (p.parse (.str s)).result.toOption.join

theorem Lettered.result_parse (h : p.Lettered) (s : String) :
    (p.parse (.str s)).result = .ok (p.found s) := by
  suffices h : ∃ found, (p.parse (.str s)).result = .ok found by
    obtain ⟨found, h⟩ := h
    rw [Provider.found, h]
    rfl
  by_cases hk : p.kind = .perma
  · obtain ⟨authority, separator, ha, hs⟩ := h.texts hk
    exact ⟨_, result_parse_link hk ha hs s⟩
  · obtain ⟨name, hn⟩ := h.named
    exact ⟨_, Provider.result_parse hk hn (resolves_unlinked hk s)⟩

/-- What a provider of DOIs or Handles finds are parts that it accepts, under its name. -/
theorem Lettered.exists_parts (h : p.Lettered) (hk : p.kind ≠ .perma)
    (hpid : p.found s = some pid) :
    ∃ name parts, partsIn "/" (decoded (p.unlinked s)) = some parts ∧ p.accepts parts = true ∧
      pid = p.signed name parts := by
  obtain ⟨name, hn⟩ := h.named
  have hparse := Provider.result_parse hk hn (resolves_unlinked hk s)
  rw [h.result_parse, Except.ok.injEq, hpid] at hparse
  obtain ⟨parts, hparts, rfl⟩ := Option.map_eq_some_iff.1 hparse.symm
  obtain ⟨hparts, haccepts⟩ := Option.filter_eq_some_iff.1 hparts
  exact ⟨name, parts, hparts, haccepts, rfl⟩

theorem Lettered.exists_path (h : p.Lettered) (hpid : p.found s = some pid) :
    ∃ path, decoded (p.unlinked s) = p.protocol ++ ":" ++ path := by
  by_cases hk : p.kind = .perma
  · obtain ⟨authority, separator, ha, hs⟩ := h.texts hk
    have hparse := h.result_parse s
    rw [hpid, parse_eq_some_iff hk ha hs] at hparse
    obtain ⟨localPart, hlink, -⟩ := hparse
    obtain ⟨path, hpath, -⟩ := linkIn_eq_some_iff.1 hlink
    exact ⟨path, by rw [hpath, protocol_of_perma hk]; rfl⟩
  · obtain ⟨-, ⟨protocol, authority, localPart⟩, hparts, haccepts, -⟩ := h.exists_parts hk hpid
    have hprotocol : protocol = p.protocol := by
      rw [accepts, Bool.and_eq_true, decide_eq_true_eq] at haccepts
      exact haccepts.1
    exact ⟨_, by rw [eq_append_of_partsIn hparts, hprotocol]⟩

/-! ## Where it is found -/

/-- What the decoded texts begin with in which a provider finds something. -/
def starts (p : Provider) : List String :=
  (p.protocol ++ ":") :: p.acceptedAddresses.map decoded

theorem exists_getLast?_of_mem_acceptedAddresses {address : String}
    (h : address ∈ p.acceptedAddresses) : ∃ c ∉ colonCode, address.toList.getLast? = some c := by
  by_cases hk : p.kind = .perma
  · obtain rfl : address = p.urlStart := by simpa [acceptedAddresses, hk] using h
    exact ⟨':', by decide, by simp [urlStart, hk, permaProtocol]⟩
  · have hlast : ∀ address ∈ p.kind.resolvers, address.toList.getLast? = some '/' := by
      cases p.kind <;> decide
    rw [acceptedAddresses_eq hk] at h
    exact ⟨'/', by decide, hlast address h⟩

/-- **What a provider finds is behind its protocol or one of its addresses.** -/
theorem Lettered.exists_start (h : p.Lettered) (hpid : p.found s = some pid) :
    ∃ start ∈ p.starts, Text.beginsWith start (decoded s) = true := by
  obtain ⟨path, hpath⟩ := h.exists_path hpid
  rcases Text.exists_append_or_forall_beginsWith p.acceptedAddresses s with
    ⟨address, hmem, rest, rfl⟩ | hnone
  · obtain ⟨c, hc, hlast⟩ := exists_getLast?_of_mem_acceptedAddresses hmem
    refine ⟨_, List.mem_cons_of_mem _ (List.mem_map_of_mem hmem), ?_⟩
    rw [decoded_append_of_getLast? hlast hc, Text.beginsWith_append]
  · refine ⟨_, List.mem_cons_self, ?_⟩
    rw [← withoutResolver_of_forall hnone, ← unlinked, hpath, Text.beginsWith_append]

/-! ## Providers beside each other -/

/-- What DOIs and their links begin with. -/
def doiStarts : List String :=
  (doiProtocol ++ ":") :: ProviderKind.ezid.resolvers

/-- What Handles and their links begin with. -/
def handleStarts : List String :=
  (handleProtocol ++ ":") :: ProviderKind.handle.resolvers

/-- Any number of providers of DOIs and Handles and at most one of local permanent links, whose
address does not begin as a DOI or a Handle does. -/
structure Compatible (providers : List Provider) : Prop where
  lettered : ∀ p ∈ providers, p.Lettered
  single : ∀ p ∈ providers, ∀ q ∈ providers, p.kind = .perma → q.kind = .perma → p = q
  address : ∀ p ∈ providers, p.kind = .perma → ∀ start ∈ doiStarts ++ handleStarts,
    Text.beginsWith start (decoded p.urlStart) = false

theorem protocol_eq_perma_iff : p.protocol = permaProtocol ↔ p.kind = .perma := by
  rw [protocol]
  cases p.kind <;> decide

theorem starts_cases (hk : p.kind ≠ .perma) :
    (p.protocol = doiProtocol ∧ p.starts = doiStarts) ∨
      (p.protocol = handleProtocol ∧ p.starts = handleStarts) := by
  have hplain : p.kind.resolvers.map decoded = p.kind.resolvers := by
    have hcode : ∀ address ∈ p.kind.resolvers, Text.occursIn "%3A" address = false := by
      cases p.kind <;> decide
    exact (List.map_congr_left fun address hmem => decoded_eq_self (hcode address hmem)).trans
      (List.map_id' _)
  rw [starts, acceptedAddresses_eq hk, hplain, protocol]
  cases hkind : p.kind with
  | perma => exact absurd hkind hk
  | dataCite | ezid | fake => exact .inl ⟨rfl, rfl⟩
  | handle => exact .inr ⟨rfl, rfl⟩

/-- A link of a provider does not begin as a DOI or a Handle does if its address does not. -/
theorem apart_urlStart (hk : p.kind = .perma) {start : String}
    (hmem : start ∈ doiStarts ++ handleStarts)
    (h : Text.beginsWith start (decoded p.urlStart) = false) :
    Text.Apart (decoded p.urlStart) start := by
  refine ⟨?_, h⟩
  -- the question mark of the address has no place in what DOIs and Handles begin with
  have hmark : '?' ∈ (decoded p.urlStart).toList := by
    have hsplit : p.urlStart.toList = (p.baseUrl.toList ++ "/citation".toList) ++
        '?' :: "persistentId=perma:".toList := by
      simp [urlStart, hk, permaProtocol]
    rw [decoded, String.toList_ofList, hsplit, decodeColons_append_cons (by decide)]
    simp
  have hnone : ∀ start ∈ doiStarts ++ handleStarts, '?' ∉ start.toList := by decide
  rw [Bool.eq_false_iff, Ne, Text.beginsWith_eq_true_iff]
  exact fun hbegins => hnone start hmem (hbegins.mem hmark)

theorem apart_of_perma (hk : p.kind = .perma) (hq : q.kind ≠ .perma)
    (h : ∀ start ∈ doiStarts ++ handleStarts, Text.beginsWith start (decoded p.urlStart) = false)
    {start start' : String} (hstart : start ∈ p.starts) (hstart' : start' ∈ q.starts) :
    Text.Apart start start' := by
  have hmem : start' ∈ doiStarts ++ handleStarts := by
    rcases starts_cases hq with ⟨-, he⟩ | ⟨-, he⟩
    · exact List.mem_append_left _ (he ▸ hstart')
    · exact List.mem_append_right _ (he ▸ hstart')
  have hcases : start = "perma:" ∨ start = decoded p.urlStart := by
    simpa [starts, acceptedAddresses, hk, protocol_of_perma hk, permaProtocol] using hstart
  rcases hcases with rfl | rfl
  · have hprotocol : ∀ start ∈ doiStarts ++ handleStarts, Text.Apart "perma:" start := by decide
    exact hprotocol start' hmem
  · exact apart_urlStart hk hmem (h start' hmem)

/-- **What providers of different protocols find begins differently.** -/
theorem Compatible.apart_of_ne (h : Compatible providers) (hp : p ∈ providers) (hq : q ∈ providers)
    (hne : p.protocol ≠ q.protocol) {start start' : String} (hstart : start ∈ p.starts)
    (hstart' : start' ∈ q.starts) : Text.Apart start start' := by
  by_cases hkp : p.kind = .perma
  · have hkq : q.kind ≠ .perma := fun hkq =>
      hne ((protocol_of_perma hkp).trans (protocol_of_perma hkq).symm)
    exact apart_of_perma hkp hkq (h.address p hp hkp) hstart hstart'
  · by_cases hkq : q.kind = .perma
    · exact (apart_of_perma hkq hkp (h.address q hq hkq) hstart' hstart).symm
    · have hapart : ∀ start ∈ doiStarts, ∀ start' ∈ handleStarts, Text.Apart start start' := by
        decide
      rcases starts_cases hkp with ⟨hprotocol, he⟩ | ⟨hprotocol, he⟩ <;>
        rcases starts_cases hkq with ⟨hprotocol', he'⟩ | ⟨hprotocol', he'⟩
      · exact absurd (hprotocol.trans hprotocol'.symm) hne
      · exact hapart start (he ▸ hstart) start' (he' ▸ hstart')
      · exact (hapart start' (he' ▸ hstart') start (he ▸ hstart)).symm
      · exact absurd (hprotocol.trans hprotocol'.symm) hne

/-- **DOIs are read alike by all their providers, and so are Handles.** -/
theorem alike_of_protocol_eq (hp : p.Lettered) (hq : q.Lettered) (hk : p.kind ≠ .perma)
    (he : p.protocol = q.protocol) (hpid : p.found s = some pid)
    (hother : q.found s = some other) : pid.Alike other := by
  have hkq : q.kind ≠ .perma := by
    rwa [Ne, ← protocol_eq_perma_iff, ← he, protocol_eq_perma_iff]
  have hresolvers : p.kind.resolvers = q.kind.resolvers := by
    rw [protocol, protocol] at he
    revert he
    cases p.kind <;> cases q.kind <;> decide
  have hunlinked : p.unlinked s = q.unlinked s := by
    rw [unlinked, unlinked, acceptedAddresses_eq hk, acceptedAddresses_eq hkq, he, hresolvers]
  obtain ⟨name, parts, hparts, -, rfl⟩ := hp.exists_parts hk hpid
  obtain ⟨name', parts', hparts', -, rfl⟩ := hq.exists_parts hkq hother
  have hcanonical : (p.signed name parts).toString = decoded (p.unlinked s) :=
    toString_signed hk hparts
  have hcanonical' : (q.signed name' parts').toString = decoded (q.unlinked s) :=
    toString_signed hkq hparts'
  rw [← hunlinked, hparts, Option.some.injEq] at hparts'
  subst hparts'
  exact ⟨rfl, rfl, rfl, by rw [hcanonical, hcanonical', hunlinked]⟩

/-- **Whatever two providers find in a text is the same identifier.** -/
theorem Compatible.alike_of_found (h : Compatible providers) (hp : p ∈ providers)
    (hq : q ∈ providers) (hpid : p.found s = some pid) (hother : q.found s = some other) :
    pid.Alike other := by
  by_cases he : p.protocol = q.protocol
  · by_cases hk : p.kind = .perma
    · have hkq : q.kind = .perma := by rwa [← protocol_eq_perma_iff, ← he, protocol_eq_perma_iff]
      obtain rfl := h.single p hp q hq hk hkq
      rw [hpid, Option.some.injEq] at hother
      subst hother
      exact .refl pid
    · exact alike_of_protocol_eq (h.lettered p hp) (h.lettered q hq) hk he hpid hother
  · obtain ⟨start, hstart, hbegins⟩ := (h.lettered p hp).exists_start hpid
    obtain ⟨start', hstart', hbegins'⟩ := (h.lettered q hq).exists_start hother
    have hnone := (h.apart_of_ne hp hq he hstart hstart').beginsWith_eq_false hbegins'
    rw [hbegins] at hnone
    cases hnone

/-! ## Several providers -/

/-- The first provider that finds something decides. -/
theorem result_parseFirst (h : ∀ p ∈ providers, p.Lettered) (s : String) :
    (parseFirst (.str s) providers).result = .ok (providers.findSome? (·.found s)) := by
  induction providers with
  | nil => rfl
  | cons p providers ih =>
    have hfound := (h p List.mem_cons_self).result_parse s
    rw [parseFirst, Parsing.result_bind_ok hfound, List.findSome?_cons]
    cases p.found s with
    | none => exact ih fun q hq => h q (List.mem_cons_of_mem _ hq)
    | some pid => rfl

theorem found_empty (p : Provider) : p.found "" = none := rfl

theorem result_parseWith (h : ∀ p ∈ providers, p.Lettered) (s : String) :
    (parseWith providers (.str s)).result = .ok (providers.findSome? (·.found s)) := by
  rw [parseWith]
  split
  · exact result_parseFirst h s
  · next hempty =>
    obtain rfl : s = "" := by simpa [Value.truthy] using hempty
    rw [List.findSome?_eq_none_iff.2 fun p _ => p.found_empty]
    rfl

/-- Where whatever is found agrees, it does not matter where it is found first. -/
theorem findSome?_perm {α β : Type} {r : β → β → Prop} {f : α → Option β} {l l' : List α}
    (hperm : l.Perm l')
    (h : ∀ a ∈ l, ∀ a' ∈ l, ∀ b b', f a = some b → f a' = some b' → r b b') :
    Option.Rel r (l.findSome? f) (l'.findSome? f) := by
  cases hfound : l.findSome? f with
  | none =>
    have hnone := List.findSome?_eq_none_iff.1 hfound
    rw [List.findSome?_eq_none_iff.2 fun a ha => hnone a (hperm.mem_iff.2 ha)]
    exact .none
  | some b =>
    obtain ⟨a, ha, hb⟩ := List.exists_of_findSome?_eq_some hfound
    cases hfound' : l'.findSome? f with
    | none => rw [List.findSome?_eq_none_iff.1 hfound' a (hperm.mem_iff.1 ha)] at hb; cases hb
    | some b' =>
      obtain ⟨a', ha', hb'⟩ := List.exists_of_findSome?_eq_some hfound'
      exact .some (h a ha a' (hperm.mem_iff.2 ha') b b' hb hb')

end Provider

/-- **The order of providers does not matter.** Under the grammars of compatible providers and under
those of a context that holds them in another order a text stands for nothing or for identifiers
with the same parts and the same canonical form. -/
theorem parse_perm {providers : List Provider} {context : Context}
    (h : Provider.Compatible providers) (hperm : providers.Perm context.all) (s : String) :
    ∃ found found', (parseWith providers (.str s)).result = .ok found ∧
      (Dispatcher.parse context (.str s)).result = .ok found' ∧
      Option.Rel Alike found found' := by
  have hlettered : ∀ p ∈ context.all, p.Lettered := fun p hp =>
    h.lettered p (hperm.mem_iff.2 hp)
  exact ⟨_, _, Provider.result_parseWith h.lettered s, Provider.result_parseWith hlettered s,
    Provider.findSome?_perm hperm fun _ hp _ hq _ _ => h.alike_of_found hp hq⟩

/-- A context of two providers that is tried in the other order. -/
def exchange : Context where
  providers := [(.str "perma", Provider.linking), (.str "DataCite", Provider.registering)]

theorem parse_perm_exchange :
    (Provider.Compatible [Provider.registering, Provider.linking] ∧
        [Provider.registering, Provider.linking].Perm exchange.all) ∧
      ∃ found found',
        (parseWith [Provider.registering, Provider.linking]
          (.str "http://dx.doi.org/10.5072/FK2%3AX")).result = .ok found ∧
        (Dispatcher.parse exchange (.str "http://dx.doi.org/10.5072/FK2%3AX")).result = .ok found' ∧
        Option.Rel Alike found found' := by
  have haddress : ∀ start ∈ Provider.doiStarts ++ Provider.handleStarts,
      Text.beginsWith start (decoded Provider.linking.urlStart) = false := by decide
  have hcompatible : Provider.Compatible [Provider.registering, Provider.linking] := by
    refine ⟨fun p hp => ?_, by decide, fun p hp hk => ?_⟩
    all_goals
      rw [List.mem_cons, List.mem_singleton] at hp
      rcases hp with rfl | rfl
    · exact ⟨⟨_, rfl⟩, fun hk => by cases hk⟩
    · exact ⟨⟨_, rfl⟩, fun _ => ⟨_, _, rfl, rfl⟩⟩
    · cases hk
    · exact haddress
  have hperm : [Provider.registering, Provider.linking].Perm exchange.all := List.Perm.swap ..
  exact ⟨⟨hcompatible, hperm⟩, parse_perm hcompatible hperm _⟩

end PersistentId
