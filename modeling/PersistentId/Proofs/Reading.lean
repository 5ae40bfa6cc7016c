import PersistentId.Proofs.Context
import PersistentId.Proofs.Provider.Misfit

/-!
# When a created context fails to read or to choose

Creating a context takes values of any type for authority, separator and the settings. All providers
of the context can be named (`named_of_createContext`), so that what they read and what a dispatcher
chooses fails for two causes only:

* a provider of local permanent links stumbles over an authority or separator that is no text;
* a setting that is looked up (`LooksUp`) has a number in it that is too long to be written.

Both are stated as equivalences (`createContext_reads`), from which a context whose providers fit
reads all texts.
-/

namespace PersistentId

open PersistentId.Action

/-! ## Settings -/

section Settings

variable {settings : Settings} {context : Context} {key : SettingKey} {fault : Fault}

/-- The value of a setting has a number in it that is too long to be written. -/
def Context.Unwritable (context : Context) (key : SettingKey) : Prop :=
  ∃ settings v, context.settings? = some settings ∧
    Table.find? settings.values (Settings.bareName key.name) = some v ∧ v.isShort = false

theorem Settings.lookup_eq_error_iff {name : String} {otherwise : Value} :
    settings.lookup name otherwise = .error fault ↔
      (∃ v, Table.find? settings.values (bareName name) = some v ∧ v.isShort = false) ∧
        fault = .tooLong := by
  rw [lookup]
  cases hfind : Table.find? settings.values (bareName name) with
  | none => exact iff_of_false (by simp) (by simp)
  | some v =>
    have hwording : v.wording.map Value.str = .error fault ↔
        v.isShort = false ∧ fault = .tooLong := by
      rw [Value.wording]
      split
      · next hshort => exact iff_of_false (fun h => by cases h) (by simp [hshort])
      · next hlong =>
        rw [Bool.not_eq_true] at hlong
        simp [Except.map, hlong, eq_comm]
    have hvalue : (∃ w, some v = some w ∧ w.isShort = false) ↔ v.isShort = false := by simp
    rw [hvalue, Option.getD_some]
    split
    · exact iff_of_false (fun h => by cases h) (by simp [Value.isShort])
    · exact hwording

/-- Only such a value keeps a setting from being looked up. -/
theorem Context.setting_eq_error_iff (h : context.settings? ≠ none) {otherwise : Value} :
    context.setting key otherwise = .error fault ↔ context.Unwritable key ∧ fault = .tooLong := by
  obtain ⟨settings, hsettings⟩ := Option.ne_none_iff_exists'.1 h
  rw [setting, hsettings, Unwritable, Settings.lookup_eq_error_iff]
  simp [hsettings]

end Settings

/-! ## Choosing a provider -/

namespace Dispatcher

variable {dispatcher : Dispatcher} {context : Context} {fault : Fault}

/-- The settings that are looked up in a choice by protocol. -/
inductive LooksUp (dispatcher : Dispatcher) (context : Context) (protocol : Option String) :
    SettingKey → Prop where
  /-- The protocol, if none is given. -/
  | protocol (h : protocol = none) : LooksUp dispatcher context protocol .protocol
  /-- The provider of DOIs, if these are asked for. -/
  | doiProvider (h : .doi ∈ dispatcher.resolvers)
      (hasked : protocolAsked context (.ofText? protocol) = .ok (.str doiProtocol)) :
      LooksUp dispatcher context protocol .doiProvider

theorem result_doiProvider_eq_error_iff : (Resolver.doiProvider context).result = .error fault ↔
    context.setting .doiProvider (.str "") = .error fault := by
  cases hname : context.setting .doiProvider (.str "") with
  | error cause =>
    rw [Resolver.doiProvider, Parsing.result_bind, Parsing.result_ofExcept, hname]
    constructor <;> intro h <;> cases h <;> rfl
  | ok name =>
    rw [Resolver.doiProvider, Parsing.result_ofExcept_bind hname]
    refine iff_of_false (fun h => ?_) (by simp)
    dsimp only at h
    split at h
    · split at h <;> cases h
    · cases h

theorem result_choose_eq_error_iff {resolver : Resolver} :
    (resolver.choose context).result = .error fault ↔
      resolver = .doi ∧ context.setting .doiProvider (.str "") = .error fault := by
  cases resolver with
  | handle | perma => exact iff_of_false nofun fun h => nomatch h.1
  | doi => exact result_doiProvider_eq_error_iff.trans (and_iff_right rfl).symm

/-- A choice for a protocol that is given fails if the setting for DOIs does. -/
theorem result_providerFor_str_eq_error_iff (hnamed : ∀ p ∈ context.all, p.Named)
    {protocol : String} :
    (dispatcher.providerFor context (.str protocol)).result = .error fault ↔
      protocol = doiProtocol ∧ .doi ∈ dispatcher.resolvers ∧
        context.setting .doiProvider (.str "") = .error fault := by
  have hresolver := dispatcher.resolver?_eq protocol
  cases hfind : dispatcher.resolvers.find? (·.protocol = protocol) with
  | none =>
    rw [hfind] at hresolver
    rw [providerFor_of_resolver?_eq_none hresolver]
    refine iff_of_false nofun ?_
    rintro ⟨rfl, hmem, -⟩
    simpa [Resolver.protocol] using List.find?_eq_none.1 hfind _ hmem
  | some resolver =>
    rw [hfind] at hresolver
    obtain rfl : resolver.protocol = protocol := by simpa using List.find?_some hfind
    have hmem := List.mem_of_find?_eq_some hfind
    have hchosen (p : Provider) (hp : (resolver.choose context).result = .ok (some p)) :
        ∃ name, p.name = .ok name := by
      obtain ⟨name, hfound, -⟩ := exists_of_choose hp
      obtain ⟨key, hentry, -⟩ := Table.exists_of_find?_eq_some hfound
      exact hnamed p (List.mem_map.2 ⟨_, hentry, rfl⟩)
    have hdoi :
        resolver = .doi ↔ resolver.protocol = doiProtocol ∧ .doi ∈ dispatcher.resolvers := by
      constructor
      · rintro rfl
        exact ⟨rfl, hmem⟩
      · rintro ⟨he, -⟩
        revert he
        cases resolver <;> decide
    rw [result_providerFor_of_choose resolver hresolver rfl hchosen, result_choose_eq_error_iff,
      hdoi, and_assoc]

theorem result_providerFor_of_protocolAsked {v : Value} {protocol : String}
    (h : protocolAsked context v = .ok (.str protocol)) :
    (dispatcher.providerFor context v).result =
      (dispatcher.providerFor context (.str protocol)).result := by
  have hasked : protocolAsked context (.str protocol) = .ok (.str protocol) := rfl
  simp only [providerFor, Parsing.result_ofExcept_bind h, Parsing.result_ofExcept_bind hasked]

/-- **A choice by protocol fails over a setting that cannot be written**, and over nothing else. -/
theorem result_providerFor_eq_error_iff (hsettings : context.settings? ≠ none)
    (hnamed : ∀ p ∈ context.all, p.Named) {protocol : Option String} :
    (dispatcher.providerFor context (.ofText? protocol)).result = .error fault ↔
      (∃ key, dispatcher.LooksUp context protocol key ∧ context.Unwritable key) ∧
        fault = .tooLong := by
  cases hasked : protocolAsked context (.ofText? protocol) with
  | error cause =>
    obtain rfl : protocol = none := by
      cases protocol with
      | none => rfl
      | some _ => cases hasked
    obtain ⟨hkey, rfl⟩ := (Context.setting_eq_error_iff hsettings).1 hasked
    rw [providerFor, Parsing.result_bind, Parsing.result_ofExcept, hasked]
    constructor
    · intro h
      cases h
      exact ⟨⟨_, .protocol rfl, hkey⟩, rfl⟩
    · rintro ⟨-, rfl⟩
      rfl
  | ok v =>
    obtain ⟨asked, rfl⟩ : ∃ asked, v = .str asked := by
      cases protocol with
      | none =>
        obtain ⟨settings, hsettings⟩ := Option.ne_none_iff_exists'.1 hsettings
        have hlookup : settings.lookup SettingKey.protocol.name (.str "") = .ok v := by
          rw [← hasked, Value.ofText?, protocolAsked, Context.setting, hsettings]
        exact Settings.exists_of_lookup hlookup
      | some protocol => exact ⟨protocol, (Except.ok.inj hasked).symm⟩
    rw [result_providerFor_of_protocolAsked hasked, result_providerFor_str_eq_error_iff hnamed,
      Context.setting_eq_error_iff hsettings]
    constructor
    · rintro ⟨rfl, hmem, hkey, rfl⟩
      exact ⟨⟨_, .doiProvider hmem hasked, hkey⟩, rfl⟩
    · rintro ⟨⟨_, h | ⟨hmem, hdoi⟩, hkey⟩, rfl⟩
      · -- the setting was looked up, so that it can be written
        subst h
        rw [Value.ofText?, protocolAsked,
          (Context.setting_eq_error_iff hsettings).2 ⟨hkey, rfl⟩] at hasked
        cases hasked
      · rw [hasked, Except.ok.injEq, Value.str.injEq] at hdoi
        exact ⟨hdoi, hmem, hkey, rfl⟩

end Dispatcher

/-! ## Contexts that were created -/

/-- A provider that is set up from a configuration can be named, if it has a registry service where
it needs one. -/
theorem Provider.named_of_createProvider {kind : ProviderKind} {key : Key} {config : Value}
    {settings : Settings} {service client : Operand} {numbers : List Int} {s t : Site}
    {p : Provider} (hkind : ProviderKind.ofKey key = .ok kind)
    (hclient : kind.usesRegistry = true → ∃ id, client = .registry id)
    (h : (Site.createProvider (.ofKey key) config settings service client numbers).outcome s =
      (.ok p, t)) : p.Named := by
  obtain ⟨entries, parts, source, endpoint, -, hparts, h⟩ := exists_of_createProvider hkind h
  refine ⟨_, name_of_ofParts h fun hk => ?_⟩
  rw [Parts.client_of_ofConfig hparts, if_pos hk]
  exact hclient hk

namespace Site

variable {config : Value} {defaults : Config} {settings : Settings} {service : Operand}
  {clients : Table Key Operand} {numbers : List Int} {s t : Site}

theorem named_of_createEntries {entries : Table Key Value} {made providers : Table Key Provider}
    (hclients : ∀ entry ∈ clients, IsClient entry.2) (hmade : ∀ entry ∈ made, entry.2.Named)
    (h : (createEntries defaults settings service clients numbers made entries).outcome s =
      (.ok providers, t)) : ∀ entry ∈ providers, entry.2.Named := by
  induction entries generalizing made s with
  | nil =>
    cases h
    exact hmade
  | cons entry entries ih =>
    obtain ⟨found, _, hfound, h⟩ := exists_of_outcome_bind h
    obtain ⟨kind, hkind, ⟨rfl, -⟩ | ⟨p, client, merged, _, _, rfl, -, hclient, -, hp⟩⟩ :=
      exists_of_createEntry hclients hfound
    · rw [outcome_bind_ok (outcome_pure _ _)] at h
      exact ih hmade h
    · rw [outcome_bind_ok (outcome_pure _ _)] at h
      refine ih (fun other hother => ?_) h
      rcases Table.mem_or_eq_of_mem_put hother with hmem | he
      · exact hmade other hmem
      · rw [he]
        exact Provider.named_of_createProvider hkind hclient hp

/-- All providers of a context that was created can be named. -/
theorem named_of_createContext {context : Context}
    (hclients : ∀ entry ∈ clients, IsClient entry.2)
    (h : (createContext config service clients numbers).outcome s = (.ok context, t)) :
    context.settings? ≠ none ∧ ∀ p ∈ context.all, p.Named := by
  obtain ⟨_, settings, _, _, _, hsettings, hentries⟩ := exists_of_createContext h
  refine ⟨by rw [hsettings]; nofun, fun p hp => ?_⟩
  obtain ⟨entry, hentry, rfl⟩ := List.mem_map.1 hp
  exact named_of_createEntries hclients (List.forall_mem_nil _) hentries entry hentry

/-- **When a created context fails to read or to choose.** A provider of it fails to read a text if
it stumbles over its authority or its separator, and reads all texts if and only if these fit. The
context fails to read a text if a provider stumbles and no provider before it finds anything. A
choice by protocol fails if it looks up a setting that cannot be written. There is no other cause,
and no identifier is put together from parts that make none. -/
theorem createContext_reads {context : Context}
    (hclients : ∀ entry ∈ clients, IsClient entry.2)
    (h : (createContext config service clients numbers).outcome s = (.ok context, t)) :
    (∀ p ∈ context.all,
      (∀ text fault, (p.parse (.ofText? text)).result = .error fault ↔
        ∃ v, p.StumblesOn text v ∧ Fault.notAStart v = fault) ∧
      ((∀ text, ∃ found, (p.parse (.ofText? text)).result = .ok found) ↔ p.Fits)) ∧
    (∀ text fault, (Dispatcher.parse context (.ofText? text)).result = .error fault ↔
      ∃ before p after v, context.all = before ++ p :: after ∧
        (∀ q ∈ before, (q.parse (.ofText? text)).result = .ok none) ∧
        p.StumblesOn text v ∧ Fault.notAStart v = fault) ∧
    ((∀ p ∈ context.all, p.Fits) → ∀ text,
      ∃ found, (Dispatcher.parse context (.ofText? text)).result = .ok found) ∧
    ∀ (dispatcher : Dispatcher) protocol fault,
      (dispatcher.providerFor context (.ofText? protocol)).result = .error fault ↔
        (∃ key, dispatcher.LooksUp context protocol key ∧ context.Unwritable key) ∧
          fault = .tooLong := by
  obtain ⟨hsettings, hnamed⟩ := named_of_createContext hclients h
  have hreads (text : Option String) (fault : Fault) :
      (Dispatcher.parse context (.ofText? text)).result = .error fault ↔
        ∃ before p after v, context.all = before ++ p :: after ∧
          (∀ q ∈ before, (q.parse (.ofText? text)).result = .ok none) ∧
          p.StumblesOn text v ∧ Fault.notAStart v = fault := by
    rw [Dispatcher.parse, Provider.parseWith_eq_error_iff]
    constructor
    · rintro ⟨before, p, after, hall, hbefore, hp⟩
      have hmem : p ∈ context.all := by rw [hall]; simp
      obtain ⟨v, hv, hfault⟩ := (hnamed p hmem).parse_eq_error_iff.1 hp
      exact ⟨before, p, after, v, hall, hbefore, hv, hfault⟩
    · rintro ⟨before, p, after, v, hall, hbefore, hv, hfault⟩
      have hmem : p ∈ context.all := by rw [hall]; simp
      exact ⟨before, p, after, hall, hbefore, (hnamed p hmem).parse_eq_error_iff.2 ⟨v, hv, hfault⟩⟩
  refine ⟨fun p hp => ⟨fun text fault => (hnamed p hp).parse_eq_error_iff,
    (hnamed p hp).reads_iff_fits⟩, hreads, fun hfits text => ?_, fun dispatcher protocol fault =>
    Dispatcher.result_providerFor_eq_error_iff hsettings hnamed⟩
  cases hread : (Dispatcher.parse context (.ofText? text)).result with
  | ok found => exact ⟨found, rfl⟩
  | error fault =>
    obtain ⟨before, p, after, v, hall, -, hv, -⟩ := (hreads text fault).1 hread
    have hmem : p ∈ context.all := by rw [hall]; simp
    obtain ⟨found, hfound⟩ := (hnamed p hmem).reads_iff_fits.2 (hfits p hmem) text
    exact absurd hv ((hnamed p hmem).reads_iff text |>.1 ⟨found, hfound⟩ v)

/-- Where authority and separator are texts, all texts are read. -/
theorem createContext_reads_cataloguing :
    (∃ p ∈ catalogue.all, p.kind = .perma) ∧
      ∀ text, ∃ found, (Dispatcher.parse catalogue (.ofText? text)).result = .ok found := by
  obtain ⟨-, -, hreads, -⟩ := createContext_reads (List.forall_mem_nil _) outcome_cataloguing
  refine ⟨by decide +kernel, hreads fun p hp hk => ?_⟩
  have htexts : ∀ p ∈ catalogue.all, p.kind = .perma →
      p.authority = .str "mds2" ∧ p.separator = .str "" := by
    decide +kernel
  obtain ⟨ha, hs⟩ := htexts p hp hk
  rw [ha, hs]
  exact ⟨Value.not_isMisfit_str _, fun _ _ _ _ => Value.not_isMisfit_str _⟩

/-- A configuration in which an authority is a number, as it is if its quotes are left out. -/
def unquoted : Value :=
  .map [("providers", .map [("perma", .map [
    ("authority", .int 2020), ("base_url", .str "https://data.example.com")])])]

/-- The context that comes of it. -/
def unreading : Context :=
  ((createContext unquoted (.service 0) [] []).outcome {}).1.toOption.getD {}

/-- **A created context need not read all texts**: it fails to if an authority is a number. -/
theorem not_forall_read_of_createContext :
    ¬ ∀ (config : Value) (service : Operand) (clients : Table Key Operand) (numbers : List Int)
      (s t : Site) (context : Context), (∀ entry ∈ clients, IsClient entry.2) →
      (createContext config service clients numbers).outcome s = (.ok context, t) →
      (∀ text, ∃ found, (Dispatcher.parse context (.ofText? text)).result = .ok found) ∧
      (∀ p ∈ context.all, ∀ text, ∃ found, (p.parse (.ofText? text)).result = .ok found) ∧
      ∀ protocol, ∃ found,
        (Dispatcher.providerFor {} context (.ofText? protocol)).result = .ok found := by
  intro h
  have hcreated : ((createContext unquoted (.service 0) [] []).outcome {}).1 = .ok unreading := by
    decide +kernel
  have hread : (Dispatcher.parse unreading (.str "perma:XYZ")).result =
      .error (.notAStart (.int 2020)) := by
    decide +kernel
  obtain ⟨hreads, -⟩ := h unquoted _ _ _ _ _ _ (List.forall_mem_nil _) (Prod.ext hcreated rfl)
  obtain ⟨found, hfound⟩ := hreads (some "perma:XYZ")
  rw [Value.ofText?, hread] at hfound
  cases hfound

end Site

end PersistentId
