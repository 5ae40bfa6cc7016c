import PersistentId.Proofs.Provider.Order
import PersistentId.Proofs.RegistryService

/-!
# What dispatchers choose

A context is in order (`Context.Sound`) if its providers are registered under the names of their
kinds and have what their grammars and their scopes need. The default dispatcher then chooses a
provider by protocol from the name it is registered under (`result_providerFor`), and one for an
identifier as the first that has the protocol and is in charge of it, or else by protocol
(`outcome_providerOf`). What the context reads in a text is read by the provider chosen for it
(`exists_of_parse`).
-/

namespace PersistentId

open PersistentId.Action Identifier

/-! ## Contexts in order -/

/-- What a provider needs to read texts and to tell which identifiers it is in charge of. -/
structure Provider.Equipped (p : Provider) : Prop where
  lettered : p.Lettered
  shoulder : ∃ s, p.shoulder = .str s

/-- The providers of a context are equipped and registered under the names of their kinds. -/
def Context.Sound (context : Context) : Prop :=
  ∀ entry ∈ context.providers,
    entry.1 = .str entry.2.kind.contextName ∧ entry.2.Equipped

namespace Context.Sound

variable {context : Context} {p : Provider} {name : String}

theorem equipped (h : context.Sound) (hp : p ∈ context.all) : p.Equipped := by
  obtain ⟨entry, hentry, rfl⟩ := List.mem_map.1 hp
  exact (h entry hentry).2

/-- What is found under a name is a provider of that name. -/
theorem of_provider? (h : context.Sound) (hp : context.provider? (.str name) = some p) :
    p ∈ context.all ∧ p.kind.contextName = name := by
  obtain ⟨key, hmem, hkey⟩ := Table.exists_of_find?_eq_some hp
  obtain rfl : key = .str p.kind.contextName := (h _ hmem).1
  exact ⟨List.mem_map.2 ⟨_, hmem, rfl⟩, by simpa using hkey⟩

end Context.Sound

/-! ## Choosing by protocol -/

theorem Value.eq_ofKey_of_asKey {v : Value} {key : Key} (h : v.asKey = .ok key) :
    v = .ofKey key := by
  cases v <;> cases h <;> rfl

theorem ProviderKind.protocol_eq_doi_iff {kind : ProviderKind} :
    kind.protocol = doiProtocol ↔
      kind.contextName ∈ [ProviderKind.ezid, .dataCite, .fake].map (·.contextName) := by
  cases kind <;> decide

theorem ProviderKind.protocol_of_contextName {kind : ProviderKind} {name : String}
    (h : kind.contextName = name) (hname : name = handleProtocol ∨ name = permaProtocol) :
    kind.protocol = name := by
  subst h
  revert hname
  cases kind <;> decide

namespace Dispatcher

variable {dispatcher : Dispatcher} {context : Context} {p : Provider} {pid : Identifier}
  {s t : Site}

/-- The provider of DOIs is registered under the name that the settings give. -/
theorem result_doiProvider (h : context.Sound) :
    (Resolver.doiProvider context).result =
      (context.setting .doiProvider (.str "")).map fun name =>
        (context.provider? (.str name.text)).filter (·.protocol = doiProtocol) := by
  cases hname : context.setting .doiProvider (.str "") with
  | error fault =>
    rw [Resolver.doiProvider, Parsing.result_bind, Parsing.result_ofExcept, hname]
    rfl
  | ok name =>
    rw [Resolver.doiProvider, Parsing.result_ofExcept_bind hname]
    dsimp only [Except.map]
    cases hp : context.provider? (.str name.text) with
    | none => split <;> rfl
    | some p =>
      have hiff : p.protocol = doiProtocol ↔ _ := ProviderKind.protocol_eq_doi_iff
      rw [(h.of_provider? hp).2] at hiff
      split
      · next hmem => simp [Option.filter, hiff.2 hmem]
      · next hmem =>
        rw [Option.filter_some_neg (by simpa using mt hiff.1 hmem)]
        rfl

/-- What the resolver for a protocol chooses is chosen, as it can be named. -/
theorem result_providerFor_of_choose {protocol : String} (resolver : Resolver)
    {chosen : Except Fault (Option Provider)}
    (hresolver : dispatcher.resolver? (.str protocol) = .ok (some resolver))
    (hchoice : (resolver.choose context).result = chosen)
    (hchosen : ∀ p, chosen = .ok (some p) → ∃ name, p.name = .ok name) :
    (dispatcher.providerFor context (.str protocol)).result = chosen := by
  have hasked : protocolAsked context (.str protocol) = .ok (.str protocol) := rfl
  rw [providerFor, Parsing.result_ofExcept_bind hasked, Parsing.result_ofExcept_bind hresolver]
  dsimp only
  rw [Parsing.result_bind, hchoice]
  rcases chosen with fault | _ | p
  · rfl
  · rfl
  · obtain ⟨name, hname⟩ := hchosen p rfl
    rw [ok_bind]
    dsimp only
    rw [hname]
    rfl

theorem resolver?_eq (dispatcher : Dispatcher) (protocol : String) :
    dispatcher.resolver? (.str protocol) =
      .ok (dispatcher.resolvers.find? (·.protocol = protocol)) := by
  have hkey : (Value.str protocol).asKey = .ok (.str protocol) := rfl
  rw [resolver?, hkey, ok_bind]
  simp only [Key.beq_str]
  rfl

theorem providerFor_of_resolver?_eq_none {protocol : String}
    (h : dispatcher.resolver? (.str protocol) = .ok none) :
    (dispatcher.providerFor context (.str protocol)).result = .ok none := by
  have hasked : protocolAsked context (.str protocol) = .ok (.str protocol) := rfl
  rw [providerFor, Parsing.result_ofExcept_bind hasked, Parsing.result_ofExcept_bind h]
  rfl

/-- **What the default dispatcher chooses for a protocol.** -/
theorem result_providerFor (h : context.Sound) :
    (∀ protocol ∈ [handleProtocol, permaProtocol],
      (({} : Dispatcher).providerFor context (.str protocol)).result =
        .ok (context.provider? (.str protocol))) ∧
    (({} : Dispatcher).providerFor context (.str doiProtocol)).result =
      (context.setting .doiProvider (.str "")).map (fun name =>
        (context.provider? (.str name.text)).filter (·.protocol = doiProtocol)) ∧
    ∀ protocol ∉ [handleProtocol, permaProtocol, doiProtocol],
      (({} : Dispatcher).providerFor context (.str protocol)).result = .ok none := by
  have hnamed {name : String} {p : Provider} (hp : context.provider? (.str name) = some p) :
      ∃ name, p.name = .ok name := (h.equipped (h.of_provider? hp).1).lettered.named
  refine ⟨fun protocol hprotocol => ?_, ?_, fun protocol hprotocol => ?_⟩
  · rw [List.mem_cons, List.mem_singleton] at hprotocol
    rcases hprotocol with rfl | rfl
    · exact result_providerFor_of_choose .handle (resolver?_eq _ _) rfl fun _ hp =>
        hnamed (Except.ok.inj hp)
    · exact result_providerFor_of_choose .perma (resolver?_eq _ _) rfl fun _ hp =>
        hnamed (Except.ok.inj hp)
  · refine result_providerFor_of_choose .doi (resolver?_eq _ _)
      (result_doiProvider h) fun p hp => ?_
    obtain ⟨name, -, hp⟩ := exists_of_map_eq_ok hp
    exact hnamed (Option.filter_eq_some_iff.1 hp).1
  · simp only [List.mem_cons, List.not_mem_nil, or_false, not_or] at hprotocol
    obtain ⟨hhandle, hperma, hdoi⟩ := hprotocol
    refine providerFor_of_resolver?_eq_none ?_
    rw [resolver?_eq]
    simp [Resolver.protocol, Ne.symm hhandle, Ne.symm hperma, Ne.symm hdoi]

/-- What a resolver chooses is registered under some name, for DOIs under one of theirs. -/
theorem exists_of_choose {resolver : Resolver}
    (hp : (resolver.choose context).result = .ok (some p)) :
    ∃ name, context.provider? (.str name) = some p ∧
      match resolver with
      | .handle | .perma => name = resolver.protocol
      | .doi => name ∈ [ProviderKind.ezid, .dataCite, .fake].map (·.contextName) := by
  cases resolver with
  | handle => exact ⟨_, Except.ok.inj hp, rfl⟩
  | perma => exact ⟨_, Except.ok.inj hp, rfl⟩
  | doi =>
    obtain ⟨name, -, hp⟩ := Parsing.exists_of_result_bind hp
    dsimp only at hp
    split at hp
    · next hlisted =>
      split at hp
      · next found hfound =>
        cases hp
        exact ⟨_, hfound, hlisted⟩
      · cases hp
    · cases hp

/-- A resolver chooses a provider of the context, of its protocol. -/
theorem mem_of_choose (h : context.Sound) {resolver : Resolver}
    (hp : (resolver.choose context).result = .ok (some p)) :
    p ∈ context.all ∧ p.protocol = resolver.protocol := by
  obtain ⟨name, hfound, hlisted⟩ := exists_of_choose hp
  obtain ⟨hmem, hname⟩ := h.of_provider? hfound
  refine ⟨hmem, ?_⟩
  cases resolver with
  | handle => exact ProviderKind.protocol_of_contextName (hname.trans hlisted) (.inl rfl)
  | perma => exact ProviderKind.protocol_of_contextName (hname.trans hlisted) (.inr rfl)
  | doi => exact ProviderKind.protocol_eq_doi_iff.2 (hname ▸ hlisted)

/-- **A provider that is chosen for a protocol has it.** -/
theorem protocol_of_providerFor (h : context.Sound) {protocol : Value} (hnull : protocol ≠ .null)
    (hp : (({} : Dispatcher).providerFor context protocol).result = .ok (some p)) :
    p ∈ context.all ∧ protocol = .str p.protocol := by
  have hasked : protocolAsked context protocol = .ok protocol := by
    cases protocol <;> first | rfl | exact absurd rfl hnull
  rw [providerFor, Parsing.result_ofExcept_bind hasked] at hp
  obtain ⟨resolver?, hresolver, hp⟩ := Parsing.exists_of_result_bind hp
  obtain ⟨key, hkey, hfind⟩ := exists_of_bind_eq_ok hresolver
  cases hfind
  split at hp
  · cases hp
  · next resolver hsome =>
    obtain ⟨found, hfound, hp⟩ := Parsing.exists_of_result_bind hp
    obtain rfl : found = some p := by
      cases found with
      | none => cases hp
      | some q =>
        obtain ⟨name, -, hp⟩ := Parsing.exists_of_result_bind hp
        exact Except.ok.inj hp
    obtain ⟨hmem, hprotocol⟩ := mem_of_choose h hfound
    have hbeq : (Key.ofText? (some resolver.protocol) == key) = true := by
      simpa [Key.ofText?] using List.find?_some hsome
    have hown : key = .str resolver.protocol := Key.eq_of_beq_ofText? hbeq
    rw [Value.eq_ofKey_of_asKey hkey, hown, hprotocol]
    exact ⟨hmem, rfl⟩

/-! ## Choosing for an identifier -/

/-- The first of the providers of a context that has the protocol of an identifier and is in charge
of it. -/
def manager? (context : Context) (pid : Identifier) : Option Provider :=
  context.all.find? fun p => pid.protocol = .str p.protocol && p.canManage pid = .ok true

/-- A provider with a text as its shoulder can tell whether it is in charge. -/
theorem exists_of_canManage (h : p.Equipped) (pid : Identifier) :
    ∃ managed, p.canManage pid = .ok managed := by
  obtain ⟨start, hshoulder⟩ := h.shoulder
  unfold Provider.canManage
  split
  · exact ⟨_, rfl⟩
  split
  · exact ⟨_, rfl⟩
  split
  · rw [hshoulder]
    exact ⟨_, rfl⟩
  · exact ⟨_, rfl⟩

theorem inCharge?_eq {providers : List Provider} (h : ∀ p ∈ providers, p.Equipped)
    (pid : Identifier) :
    inCharge? pid.protocol (.pid pid) providers =
      .ok (providers.find? fun p =>
        pid.protocol = .str p.protocol && p.canManage pid = .ok true) := by
  induction providers with
  | nil => rfl
  | cons p providers ih =>
    have hrest := ih fun q hq => h q (List.mem_cons_of_mem _ hq)
    obtain ⟨managed, hmanaged⟩ := exists_of_canManage (h p List.mem_cons_self) pid
    have hpid : (Operand.pid pid).asPid = .ok pid := rfl
    rw [inCharge?, List.find?_cons]
    by_cases hprotocol : pid.protocol = .str p.protocol
    · rw [if_pos hprotocol, hpid, ok_bind, hmanaged, ok_bind]
      cases managed with
      | true => simp [hprotocol]; rfl
      | false => simpa [hprotocol] using hrest
    · rw [if_neg hprotocol]
      simpa [hprotocol] using hrest

/-- **What the default dispatcher chooses for an identifier**: the first provider of its protocol
that is in charge of it, or else the one for the protocol. -/
theorem outcome_providerOf (h : context.Sound) (pid : Identifier) (s : Site) :
    ((({} : Dispatcher).providerOf context (.pid pid)).outcome s).1 =
      match manager? context pid with
      | some p => .ok (some p)
      | none => (({} : Dispatcher).providerFor context pid.protocol).result := by
  have hprotocol : (protocolOf (.pid pid)).outcome s = (.ok pid.protocol, s) := rfl
  have hcharge := inCharge?_eq (fun p hp => h.equipped hp) pid
  rw [providerOf, outcome_bind_ok hprotocol, hcharge, outcome_bind_ok (outcome_ofExcept _ _),
    ← manager?]
  cases manager? context pid <;> rfl

/-- **A provider that is chosen for an identifier has its protocol.** -/
theorem protocol_of_providerOf (h : context.Sound) (hnull : pid.protocol ≠ .null)
    (hp : (({} : Dispatcher).providerOf context (.pid pid)).outcome s = (.ok (some p), t)) :
    p ∈ context.all ∧ pid.protocol = .str p.protocol := by
  have hchosen := outcome_providerOf h pid s
  rw [hp] at hchosen
  cases hmanager : manager? context pid with
  | none =>
    rw [hmanager] at hchosen
    exact protocol_of_providerFor h hnull hchosen.symm
  | some q =>
    rw [hmanager] at hchosen
    cases hchosen
    refine ⟨List.mem_of_find?_eq_some hmanager, ?_⟩
    have hfound := List.find?_some hmanager
    simp only [Bool.and_eq_true, decide_eq_true_eq] at hfound
    exact hfound.1

end Dispatcher

/-! ## Reading what was read -/

namespace Provider

variable {p q : Provider} {s : String} {pid : Identifier}

theorem Lettered.protocol_of_found (h : p.Lettered) (hpid : p.found s = some pid) :
    pid.protocol = .str p.protocol := by
  by_cases hk : p.kind = .perma
  · obtain ⟨authority, separator, ha, hs⟩ := h.texts hk
    have hparse := h.result_parse s
    rw [hpid, parse_eq_some_iff hk ha hs] at hparse
    obtain ⟨localPart, -, rfl⟩ := hparse
    rw [protocol_of_perma hk]
    rfl
  · obtain ⟨name, parts, -, haccepts, rfl⟩ := h.exists_parts hk hpid
    exact (accepts_iff_covers.1 haccepts).1

/-- Providers of one protocol accept the same parts. -/
theorem accepts_congr (he : p.protocol = q.protocol) (parts : String × String × String) :
    p.accepts parts = q.accepts parts := by
  have hhandle : p.kind = .handle ↔ q.kind = .handle := by
    rw [protocol, protocol] at he
    revert he
    cases p.kind <;> cases q.kind <;> decide
  obtain ⟨protocol, authority, localPart⟩ := parts
  simp [accepts, he, hhandle]

/-- **What one provider of DOIs or Handles finds is read by any other one of its protocol** in the
canonical form, as the same identifier. -/
theorem Lettered.exists_of_found (hq : q.Lettered) (hpid : q.found s = some pid) (hp : p.Lettered)
    (hk : p.kind ≠ .perma) (he : p.protocol = q.protocol) :
    ∃ other, (p.parse (.str pid.toString)).result = .ok (some other) ∧ pid.sameAs other = true := by
  have hkq : q.kind ≠ .perma := by
    rwa [Ne, ← protocol_eq_perma_iff, ← he, protocol_eq_perma_iff]
  have hown : pid.protocol = .str p.protocol := by rw [he, hq.protocol_of_found hpid]
  obtain ⟨name, parts, hparts, haccepts, rfl⟩ := hq.exists_parts hkq hpid
  obtain ⟨name', hname'⟩ := hp.named
  rw [Provider.result_parse hk hname' (resolves_toString hown), toString_signed hkq hparts,
    decoded_decoded, hparts, Option.filter_some_pos (by rw [accepts_congr he, haccepts])]
  refine ⟨_, rfl, ?_⟩
  simp [Identifier.sameAs, signed, Value.agrees, Value.key?]

end Provider

namespace Dispatcher

variable {context : Context} {p : Provider} {pid : Identifier} {s t : Site}

/-- **What a context reads in a text is read by the provider chosen for it** as the same identifier,
be it a DOI or a Handle. -/
theorem exists_of_parse (h : context.Sound) {text : String}
    (hread : (Dispatcher.parse context (.str text)).result = .ok (some pid))
    (hprotocol : pid.protocol = .str doiProtocol ∨ pid.protocol = .str handleProtocol)
    (hp : (({} : Dispatcher).providerOf context (.pid pid)).outcome s = (.ok (some p), t)) :
    ∃ other, (p.parse (.str pid.toString)).result = .ok (some other) ∧
      pid.sameAs other = true := by
  have hnull : pid.protocol ≠ .null := by rcases hprotocol with h | h <;> rw [h] <;> nofun
  obtain ⟨hmem, hown⟩ := protocol_of_providerOf h hnull hp
  have hk : p.kind ≠ .perma := by
    rw [Ne, ← Provider.protocol_eq_perma_iff]
    intro hperma
    rw [hown, hperma] at hprotocol
    revert hprotocol
    decide
  rw [Dispatcher.parse, Provider.result_parseWith fun q hq => (h.equipped hq).lettered] at hread
  obtain ⟨q, hq, hfound⟩ := List.exists_of_findSome?_eq_some (Except.ok.inj hread)
  have hlettered := (h.equipped hq).lettered
  have he : Value.str p.protocol = .str q.protocol :=
    hown.symm.trans (hlettered.protocol_of_found hfound)
  exact hlettered.exists_of_found hfound (h.equipped hmem).lettered hk (Value.str.inj he)

end Dispatcher

end PersistentId
