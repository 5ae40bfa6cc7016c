import PersistentId.Proofs.Dispatcher

/-!
# Contexts that were created

Creating a context sets up one provider for each configured type that needs no registry service or
has one, in the order of the configuration (`exists_of_createEntries`). If authority, shoulder and
separator are texts where they are given, the context is in order, and what is chosen in it is
determined by its names and its settings (`createContext_agrees`).
-/

namespace PersistentId

open PersistentId.Action

/-! ## Parameters that are texts -/

namespace Config

/-- The parameters that identifiers are formed with. -/
def textNames : List String :=
  ["authority", "shoulder", "separator"]

/-- A value that is a text, or counts as not given. -/
def IsText : Value → Prop
  | .null | .str _ => True
  | _ => False

instance : DecidablePred IsText
  | .null | .str _ => isTrue trivial
  | .bool _ | .int _ | .float _ | .moment _ | .list _ | .map _ => isFalse id

/-- The parameters that identifiers are formed with are texts where they are given. -/
def Lettered (config : Config) : Prop :=
  ∀ name ∈ textNames, ∀ v, Table.find? config (.str name) = some v → IsText v

/-- A provider is configured to have them as texts, if at all. -/
def GivesTexts : Value → Prop
  | .map config => ∀ entry ∈ config, ∀ name ∈ textNames, entry.1 = .str name → IsText entry.2
  | _ => True

instance : DecidablePred GivesTexts
  | .map config => inferInstanceAs (Decidable (∀ entry ∈ config, ∀ name ∈ textNames,
      entry.1 = .str name → IsText entry.2))
  | .null | .bool _ | .int _ | .float _ | .str _ | .moment _ | .list _ => isTrue trivial

variable {config defaults merged : Config} {key : Key} {v : Value}

theorem IsText.exists_orElse (h : IsText v) : ∃ s, v.orElse (.str "") = .str s := by
  cases v with
  | null => exact ⟨_, rfl⟩
  | str s =>
    rw [Value.orElse]
    split <;> exact ⟨_, rfl⟩
  | _ => cases h

theorem mergeValue_of_isText (h : IsText v) (old : Option Value) : mergeValue v old = v := by
  cases v with
  | null | str => rfl
  | _ => cases h

theorem lettered_put (h : Lettered defaults)
    (hv : ∀ name ∈ textNames, key = .str name → IsText v) :
    Lettered (Table.put defaults key v) := by
  intro name hname w hw
  cases hkey : key == .str name with
  | false =>
    rw [Table.find?_put_of_ne _ _ hkey] at hw
    exact h name hname w hw
  | true =>
    rw [← Table.find?_congr _ hkey, Table.find?_put_self] at hw
    cases hw
    have hbeq : (Key.ofText? (some name) == key) = true := BEq.symm hkey
    exact hv name hname (Key.eq_of_beq_ofText? hbeq)

theorem lettered_merge (hd : Lettered defaults)
    (h : ∀ entry ∈ config, ∀ name ∈ textNames, entry.1 = .str name → IsText entry.2) :
    Lettered (merge config defaults) := by
  induction config generalizing defaults with
  | nil => exact hd
  | cons entry config ih =>
    obtain ⟨key, v⟩ := entry
    obtain ⟨hentry, hrest⟩ := List.forall_mem_cons.1 h
    rw [merge]
    refine ih (lettered_put hd fun name hname hkey => ?_) hrest
    rw [mergeValue_of_isText (hentry name hname hkey)]
    exact hentry name hname hkey

/-- The items of a list go by position, so that they stand for no parameter. -/
theorem lettered_mergeItems {items keys : List Value} (hd : Lettered defaults)
    (h : mergeItems items (.map defaults) keys = .ok (.map merged)) : Lettered merged := by
  induction keys generalizing defaults with
  | nil =>
    cases h
    exact hd
  | cons key keys ih =>
    obtain ⟨k, hk, h⟩ := exists_of_bind_eq_ok h
    obtain ⟨v, hv, h⟩ := exists_of_bind_eq_ok h
    have hoverride : override (.map defaults) key v =
        .ok (.map (Table.put defaults k (mergeValue v (Table.find? defaults k)))) := by
      rw [override, hk]
      rfl
    rw [hoverride] at h
    refine ih (lettered_put hd fun name _ hname => ?_) h
    -- a text names no place in a list
    rw [Value.eq_ofKey_of_asKey hk, hname] at hv
    cases hv

/-- **A configuration over one without the parameters has them as texts** where it has them so. -/
theorem lettered_of_mergeWithin (hd : Lettered defaults)
    (h : mergeWithin (v.orElse (.map [])) (.map defaults) = .ok (.map merged))
    (hv : GivesTexts v) : Lettered merged := by
  rw [mergeWithin] at h
  split at h
  · cases h
  rw [Value.orElse] at h
  split at h
  · cases v with
    | map config =>
      cases h
      exact lettered_merge hd hv
    | list items => exact lettered_mergeItems hd h
    | str s =>
      rw [mergeOver] at h
      split at h <;> cases h
      exact hd
    | _ => cases h
  · cases h
    exact hd

theorem lettered_inherited (config : Config) : Lettered (inherited config) := by
  intro name hname v hv
  obtain ⟨key, hmem, hkey⟩ := Table.exists_of_find?_eq_some hv
  obtain ⟨known, hknown, hsome⟩ := List.mem_filterMap.1 hmem
  obtain ⟨_, -, he⟩ := Option.map_eq_some_iff.1 hsome
  obtain rfl : known = key := congrArg (·.1) he
  have hnone : ∀ known ∈ inheritedNames, ∀ name ∈ textNames, (known == .str name) = false := by
    decide
  rw [hnone known hknown name hname] at hkey
  cases hkey

end Config

/-- A setting that is a text by default is one. -/
theorem Settings.exists_of_lookup {settings : Settings} {name start : String} {v : Value}
    (h : settings.lookup name (.str start) = .ok v) : ∃ s, v = .str s := by
  rw [lookup] at h
  split at h
  · cases h
    exact ⟨_, rfl⟩
  · obtain ⟨s, -, rfl⟩ := exists_of_map_eq_ok h
    exact ⟨s, rfl⟩

/-! ## Providers from configurations -/

namespace Provider

variable {kind : ProviderKind} {config : Config} {settings : Settings} {service client : Operand}

/-- A parameter that is a text, or comes from the settings or by default, is one. -/
theorem Parts.isText_of_parameterOr {name start : String} {key : SettingKey} {v : Value}
    (hname : name ∈ Config.textNames) (hc : Config.Lettered config)
    (h : parameterOr config settings name key (.str start) = .ok v) : Config.IsText v := by
  rw [parameterOr] at h
  split at h
  · obtain ⟨s, rfl⟩ := Settings.exists_of_lookup h
    trivial
  · cases h
    cases hfind : Table.find? config (.str name) with
    | none => rw [Ledger.parameter, hfind]; trivial
    | some w => rw [Ledger.parameter, hfind]; exact hc name hname w hfind

/-- Only a provider that needs a registry service gets one. -/
theorem Parts.client_of_ofConfig {parts : Parts}
    (h : ofConfig kind config settings service client = .ok parts) :
    parts.client = if kind.usesRegistry then client else .nothing := by
  obtain ⟨authority, -, h⟩ := exists_of_bind_eq_ok h
  obtain ⟨shoulder, -, h⟩ := exists_of_bind_eq_ok h
  obtain ⟨style, -, h⟩ := exists_of_bind_eq_ok h
  obtain ⟨fileFormat, -, h⟩ := exists_of_bind_eq_ok h
  dsimp only at h
  split at h
  · cases h
  · cases h
    rfl

/-- What a provider is built from according to a configuration whose parameters are texts. -/
theorem Parts.exists_of_ofConfig {parts : Parts} (hc : Config.Lettered config)
    (h : ofConfig kind config settings service client = .ok parts) :
    (∃ s, parts.authority.orElse (.str "") = .str s) ∧
      (∃ s, parts.shoulder.orElse (.str "") = .str s) ∧
      ∃ s, parts.separator.orElse (.str "") = .str s := by
  obtain ⟨authority, hauthority, h⟩ := exists_of_bind_eq_ok h
  obtain ⟨shoulder, hshoulder, h⟩ := exists_of_bind_eq_ok h
  obtain ⟨style, -, h⟩ := exists_of_bind_eq_ok h
  obtain ⟨fileFormat, -, h⟩ := exists_of_bind_eq_ok h
  dsimp only at h
  split at h
  · cases h
  cases h
  refine ⟨(isText_of_parameterOr (by decide) hc hauthority).exists_orElse,
    (isText_of_parameterOr (by decide) hc hshoulder).exists_orElse, ?_⟩
  dsimp only
  rw [Ledger.parameter]
  cases hfind : Table.find? config (.str "separator") with
  | none => exact ⟨_, rfl⟩
  | some w => exact (hc "separator" (by decide) w hfind).exists_orElse

/-- A provider that is set up from a configuration is put together from the parts there. -/
theorem exists_of_createProvider {key : Key} {config : Value} {numbers : List Int} {s t : Site}
    {p : Provider} (hkind : ProviderKind.ofKey key = .ok kind)
    (h : (Site.createProvider (.ofKey key) config settings service client numbers).outcome s =
      (.ok p, t)) :
    ∃ entries parts source endpoint, config = .map entries ∧
      Parts.ofConfig kind entries settings service client = .ok parts ∧
      ofParts kind parts source endpoint = .ok p := by
  have hkey : ((Value.ofKey key).asKey >>= ProviderKind.ofKey) = .ok kind := by
    rw [Value.asKey, Value.key?_ofKey]
    exact hkind
  rw [Site.createProvider, hkey, outcome_bind_ok (outcome_ofExcept _ _)] at h
  obtain ⟨entries, _, hentries, h⟩ := exists_of_outcome_bind h
  have hconfig : config = .map entries := by
    cases config <;> cases hentries
    rfl
  obtain ⟨parts, _, hparts, h⟩ := exists_of_outcome_bind h
  obtain ⟨hparts, -⟩ := Prod.mk.inj hparts
  rw [build] at h
  obtain ⟨_, _, -, h⟩ := exists_of_outcome_bind h
  obtain ⟨_, _, -, h⟩ := exists_of_outcome_bind h
  rw [outcome_ofExcept, Prod.mk.injEq] at h
  exact ⟨entries, parts, _, _, hconfig, hparts, h.1⟩

/-- **A provider that is set up from a configuration whose parameters are texts is equipped**, if it
has a registry service where it needs one. -/
theorem equipped_of_createProvider {key : Key} {config : Value} {numbers : List Int} {s t : Site}
    {p : Provider} (hkind : ProviderKind.ofKey key = .ok kind)
    (hc : ∀ entries, config = .map entries → Config.Lettered entries)
    (hclient : kind.usesRegistry = true → ∃ id, client = .registry id)
    (h : (Site.createProvider (.ofKey key) config settings service client numbers).outcome s =
      (.ok p, t)) : p.kind = kind ∧ p.Equipped := by
  obtain ⟨entries, parts, source, endpoint, hconfig, hparts, h⟩ := exists_of_createProvider hkind h
  obtain ⟨⟨authority, hauthority⟩, ⟨start, hstart⟩, separator, hseparator⟩ :=
    Parts.exists_of_ofConfig (hc entries hconfig) hparts
  obtain ⟨hkind, -, -, -, -, hshoulder, -⟩ := exists_of_ofParts h
  have hregistry (hk : kind.usesRegistry = true) : ∃ id, parts.client = .registry id := by
    rw [Parts.client_of_ofConfig hparts, if_pos hk]
    exact hclient hk
  exact ⟨hkind, lettered_of_ofParts h hregistry hauthority hseparator, start,
    hshoulder.trans hstart⟩

end Provider

/-! ## The providers of a configuration -/

theorem ProviderKind.contextName_injective : Function.Injective contextName := by
  intro kind other
  cases kind <;> cases other <;> decide

theorem ProviderKind.eq_word_of_ofKey {key : Key} {kind : ProviderKind} (h : ofKey key = .ok kind) :
    key = .str kind.word := by
  unfold ofKey at h
  split at h
  · next found hfound =>
    cases h
    obtain ⟨word, hword, hfound⟩ := Option.bind_eq_some_iff.1 hfound
    have hown := List.find?_some hfound
    rw [decide_eq_true_eq] at hown
    cases key <;> cases hword
    rw [hown]
  · obtain ⟨_, -, h⟩ := exists_of_bind_eq_ok h
    cases h

namespace Config

/-- The configured providers, by type. -/
def entriesOf : Value → Table Key Value
  | .map config => (providerEntries config).toOption.getD []
  | _ => []

/-- Whether a provider is configured to have a registry service in memory. -/
def simulates : Value → Bool
  | .map config => Ledger.parameter config "client" .null = .str "sim"
  | _ => false

/-- What the provider of a configured type is registered as: if it needs a registry service, then
only with one that is given, or in memory. -/
def registeredAs? (clients : Table Key Operand) (entry : Key × Value) : Option Key :=
  match ProviderKind.ofKey entry.1 with
  | .ok kind =>
    if !kind.usesRegistry || !((Table.find? clients entry.1).getD .nothing).isNull ||
        simulates entry.2 then some (.str kind.contextName)
    else none
  | .error _ => none

theorem registeredAs?_of_ok {clients : Table Key Operand} {type : Key} {config : Value}
    {kind : ProviderKind} (hkind : ProviderKind.ofKey type = .ok kind) :
    registeredAs? clients (type, config) =
      if !kind.usesRegistry || !((Table.find? clients type).getD .nothing).isNull ||
          simulates config then some (.str kind.contextName)
      else none := by
  rw [registeredAs?, hkind]

theorem simulates_orElse (config : Value) :
    simulates (config.orElse (.map [])) = simulates config := by
  rw [Value.orElse]
  split
  · rfl
  · next hfalsy =>
    cases config with
    | map entries =>
      obtain rfl : entries = [] := by simpa [Value.truthy] using hfalsy
      rfl
    | _ => rfl

end Config

namespace Site

variable {kind : ProviderKind} {type : Key} {config : Value} {defaults : Config}
  {settings : Settings} {service client atHand : Operand} {clients : Table Key Operand}
  {numbers : List Int} {s t : Site}

/-- What is at hand as the registry service of a provider is one, if it is anything. -/
def IsClient (client : Operand) : Prop :=
  client = .nothing ∨ ∃ id, client = .registry id

/-- The registry service for a provider is the one at hand, or one in memory. -/
theorem isNull_of_clientFor (hk : kind.usesRegistry = true) (hhand : IsClient atHand)
    (h : (clientFor kind config atHand).outcome s = (.ok client, t)) :
    IsClient client ∧ client.isNull = (atHand.isNull && !Config.simulates config) := by
  rw [clientFor, hk] at h
  rcases hhand with rfl | ⟨id, rfl⟩
  · obtain ⟨entries, _, hentries, h⟩ := exists_of_outcome_bind h
    cases config <;> cases hentries
    split at h
    · next hsim =>
      obtain ⟨id, _, -, h⟩ := exists_of_outcome_bind h
      obtain ⟨_, _, -, h⟩ := exists_of_outcome_bind h
      cases h
      refine ⟨.inr ⟨id, rfl⟩, ?_⟩
      simp [Config.simulates, hsim, Operand.isNull, Operand.nothing]
    · next hsim =>
      cases h
      refine ⟨.inl rfl, ?_⟩
      simp [Config.simulates, hsim]
  · cases h
    exact ⟨.inr ⟨id, rfl⟩, rfl⟩

/-- A configured type is left out if its provider comes to lack a registry service. -/
theorem registeredAs?_of_clientFor (hclients : ∀ entry ∈ clients, IsClient entry.2)
    (hkind : ProviderKind.ofKey type = .ok kind)
    (h : (clientFor kind (config.orElse (.map []))
      ((Table.find? clients type).getD .nothing)).outcome s = (.ok client, t)) :
    (kind.usesRegistry = true → IsClient client) ∧
      Config.registeredAs? clients (type, config) =
        if kind.usesRegistry && client.isNull then none else some (.str kind.contextName) := by
  have hhand : IsClient ((Table.find? clients type).getD .nothing) := by
    cases hfind : Table.find? clients type with
    | none => exact .inl rfl
    | some client =>
      obtain ⟨key, hmem, -⟩ := Table.exists_of_find?_eq_some hfind
      exact hclients _ hmem
  rw [Config.registeredAs?_of_ok hkind]
  cases hk : kind.usesRegistry with
  | false => exact ⟨nofun, rfl⟩
  | true =>
    obtain ⟨hclient, hnull⟩ := isNull_of_clientFor hk hhand h
    refine ⟨fun _ => hclient, ?_⟩
    rw [hnull, Config.simulates_orElse]
    cases Operand.isNull _ <;> cases Config.simulates config <;> rfl

/-- An entry of a configuration comes to nothing if it lacks a registry service, and to a provider
of its type otherwise. -/
theorem exists_of_createEntry {made : Option (Key × Provider)}
    (hclients : ∀ entry ∈ clients, IsClient entry.2)
    (h : (createEntry type config defaults settings service clients numbers).outcome s =
      (.ok made, t)) :
    ∃ kind, ProviderKind.ofKey type = .ok kind ∧
      ((made = none ∧ Config.registeredAs? clients (type, config) = none) ∨
        ∃ p client merged u v, made = some (.str kind.contextName, p) ∧
          Config.registeredAs? clients (type, config) = some (.str kind.contextName) ∧
          (kind.usesRegistry = true → ∃ id, client = .registry id) ∧
          Config.mergeWithin (config.orElse (.map [])) (.map defaults) = .ok merged ∧
          (createProvider (.ofKey type) merged settings service client numbers).outcome u =
            (.ok p, v)) := by
  obtain ⟨kind, _, hkind, h⟩ := exists_of_outcome_bind h
  obtain ⟨hkind, -⟩ := Prod.mk.inj hkind
  obtain ⟨client, _, hclient, h⟩ := exists_of_outcome_bind h
  obtain ⟨hclient, hregistered⟩ := registeredAs?_of_clientFor hclients hkind hclient
  refine ⟨kind, hkind, ?_⟩
  rw [hregistered]
  split at h
  · next hlacks =>
    obtain ⟨_, _, -, h⟩ := exists_of_outcome_bind h
    rw [outcome_pure, Prod.mk.injEq, Except.ok.injEq] at h
    exact .inl ⟨h.1.symm, if_pos hlacks⟩
  · next hlacks =>
    obtain ⟨merged, _, hmerged, h⟩ := exists_of_outcome_bind h
    obtain ⟨hmerged, -⟩ := Prod.mk.inj hmerged
    obtain ⟨p, _, hp, h⟩ := exists_of_outcome_bind h
    obtain ⟨_, _, -, h⟩ := exists_of_outcome_bind h
    rw [outcome_pure, Prod.mk.injEq, Except.ok.injEq] at h
    refine .inr ⟨p, client, merged, _, _, h.1.symm, if_neg hlacks, fun hk => ?_, hmerged, hp⟩
    rw [hk] at hlacks
    exact (hclient hk).resolve_left fun hnothing => hlacks (hnothing ▸ rfl)

/-- What an entry of a configuration comes to: nothing, or an equipped provider of its type. -/
theorem registeredAs?_of_createEntry {made : Option (Key × Provider)}
    (hclients : ∀ entry ∈ clients, IsClient entry.2) (hdefaults : Config.Lettered defaults)
    (hconfig : Config.GivesTexts config)
    (h : (createEntry type config defaults settings service clients numbers).outcome s =
      (.ok made, t)) :
    made.map (·.1) = Config.registeredAs? clients (type, config) ∧
      ∀ name p, made = some (name, p) → ProviderKind.ofKey type = .ok p.kind ∧
        name = .str p.kind.contextName ∧ p.Equipped := by
  obtain ⟨kind, hkind, ⟨rfl, hregistered⟩ |
    ⟨p, client, merged, u, v, rfl, hregistered, hclient, hmerged, hp⟩⟩ :=
    exists_of_createEntry hclients h
  · exact ⟨hregistered.symm, fun _ _ he => by cases he⟩
  · obtain ⟨rfl, hequipped⟩ := Provider.equipped_of_createProvider hkind
      (fun _ he => Config.lettered_of_mergeWithin hdefaults (he ▸ hmerged) hconfig) hclient hp
    refine ⟨hregistered.symm, fun name q he => ?_⟩
    cases he
    exact ⟨hkind, rfl, hequipped⟩

/-- Entries of a configuration are of different types, so that their providers are registered under
different names. -/
theorem beq_contextName_of_ofKey {other : Key} {kind' : ProviderKind}
    (hne : (type == other) = false) (hkind : ProviderKind.ofKey type = .ok kind)
    (hkind' : ProviderKind.ofKey other = .ok kind') :
    (Key.str kind.contextName == .str kind'.contextName) = false := by
  rw [Key.beq_str, decide_eq_false_iff_not]
  intro he
  obtain rfl := ProviderKind.contextName_injective he
  rw [ProviderKind.eq_word_of_ofKey hkind, ProviderKind.eq_word_of_ofKey hkind'] at hne
  simp at hne

/-- **What the entries of a configuration come to**: equipped providers under the names of their
kinds, in the order of the entries. -/
theorem exists_of_createEntries {entries : Table Key Value} {made providers : Table Key Provider}
    (hclients : ∀ entry ∈ clients, IsClient entry.2) (hdefaults : Config.Lettered defaults)
    (hdistinct : Table.Distinct entries) (hentries : ∀ entry ∈ entries, Config.GivesTexts entry.2)
    (hnew : ∀ entry ∈ entries, ∀ kind, ProviderKind.ofKey entry.1 = .ok kind →
      Table.has made (.str kind.contextName) = false)
    (h : (createEntries defaults settings service clients numbers made entries).outcome s =
      (.ok providers, t)) :
    ∃ more, providers = made ++ more ∧
      Table.keys more = entries.filterMap (Config.registeredAs? clients) ∧
      ({ providers := more } : Context).Sound := by
  induction entries generalizing made s with
  | nil =>
    cases h
    exact ⟨[], (List.append_nil _).symm, rfl, List.forall_mem_nil _⟩
  | cons entry entries ih =>
    obtain ⟨type, config⟩ := entry
    obtain ⟨hne, hdistinct⟩ := List.pairwise_cons.1 hdistinct
    obtain ⟨hconfig, hentries⟩ := List.forall_mem_cons.1 hentries
    obtain ⟨hfirst, hnew⟩ := List.forall_mem_cons.1 hnew
    obtain ⟨found, _, hfound, h⟩ := exists_of_outcome_bind h
    obtain ⟨hname, hfound⟩ := registeredAs?_of_createEntry hclients hdefaults hconfig hfound
    rw [List.filterMap_cons, ← hname]
    cases found with
    | none =>
      rw [outcome_bind_ok (outcome_pure _ _)] at h
      exact ih hdistinct hentries hnew h
    | some found =>
      obtain ⟨name, p⟩ := found
      rw [outcome_bind_ok (outcome_pure _ _)] at h
      obtain ⟨hkind, rfl, hequipped⟩ := hfound _ _ rfl
      have hput := Table.put_of_has_eq_false (hfirst _ hkind) p
      have hnext : ∀ entry ∈ entries, ∀ kind, ProviderKind.ofKey entry.1 = .ok kind →
          Table.has (Table.put made (.str p.kind.contextName) p) (.str kind.contextName) =
            false := by
        intro entry hentry kind hk
        rw [hput, Table.has, Table.find?_append, Option.isSome_or, ← Table.has,
          hnew entry hentry kind hk]
        simp [Table.find?, beq_contextName_of_ofKey (hne entry hentry) hkind hk]
      obtain ⟨more, rfl, hkeys, hsound⟩ := ih hdistinct hentries hnext h
      refine ⟨(.str p.kind.contextName, p) :: more, ?_, ?_, ?_⟩
      · rw [hput, List.append_assoc]
        rfl
      · rw [Table.keys, List.map_cons, ← Table.keys, hkeys]
        rfl
      · exact List.forall_mem_cons.2 ⟨⟨rfl, hequipped⟩, hsound⟩

/-- A context that was created has what the entries of its configuration come to. -/
theorem exists_of_createContext {context : Context}
    (h : (createContext config service clients numbers).outcome s = (.ok context, t)) :
    ∃ table settings service u v, context.settings? = some settings ∧
      (createEntries (Config.inherited table) settings service clients numbers []
        (Config.entriesOf config)).outcome u = (.ok context.providers, v) := by
  have hentriesOf {config : Value} {table entries : Table Key Value}
      (htable : config = .null ∧ table = [] ∨ config.asTable = .ok table)
      (hentries : Config.providerEntries table = .ok entries) :
      Config.entriesOf config = entries := by
    rcases htable with ⟨rfl, rfl⟩ | htable
    · cases hentries
      rfl
    · cases config <;> cases htable
      rw [Config.entriesOf, hentries]
      rfl
  unfold createContext at h
  dsimp only at h
  split at h <;> split at h
  all_goals
    obtain ⟨table, _, htable, h⟩ := exists_of_outcome_bind h
    obtain ⟨htable, -⟩ := Prod.mk.inj htable
    obtain ⟨settings, _, -, h⟩ := exists_of_outcome_bind h
    obtain ⟨service, _, -, h⟩ := exists_of_outcome_bind h
    obtain ⟨entries, _, hentries, h⟩ := exists_of_outcome_bind h
    obtain ⟨hentries, -⟩ := Prod.mk.inj hentries
    obtain ⟨providers, _, hproviders, h⟩ := exists_of_outcome_bind h
    rw [outcome_pure, Prod.mk.injEq, Except.ok.injEq] at h
    obtain ⟨rfl, -⟩ := h
    rw [hentriesOf ?_ hentries]
    · exact ⟨_, _, _, _, _, rfl, hproviders⟩
    · first
      | exact .inr htable
      | exact .inl ⟨rfl, (Except.ok.inj htable).symm⟩

/-- **A context that was created is in order** and has, in the order of the configuration, the names
of the configured types that need no registry service or have one. -/
theorem sound_of_createContext {context : Context}
    (hclients : ∀ entry ∈ clients, IsClient entry.2)
    (hdistinct : Table.Distinct (Config.entriesOf config))
    (htexts : ∀ entry ∈ Config.entriesOf config, Config.GivesTexts entry.2)
    (h : (createContext config service clients numbers).outcome s = (.ok context, t)) :
    context.Sound ∧
      context.names = (Config.entriesOf config).filterMap (Config.registeredAs? clients) := by
  obtain ⟨table, settings, service, u, v, -, hentries⟩ := exists_of_createContext h
  obtain ⟨more, hmore, hkeys, hsound⟩ := exists_of_createEntries hclients
    (Config.lettered_inherited table) hdistinct htexts (fun _ _ _ _ => rfl) hentries
  rw [List.nil_append] at hmore
  rw [Context.Sound, Context.names, hmore]
  exact ⟨hsound, hkeys⟩

/-- **Setting up providers and choosing among them agree.** A context that was created has the names
of the configured types that need no registry service or have one. What the default dispatcher
chooses in it for a protocol has that protocol, and is the provider of DOIs that the settings name.
What it chooses for an identifier is the first provider of its protocol that is in charge of it, or
else the one for the protocol; and what the context reads as a DOI or a Handle is read by the
provider chosen for it, too. -/
theorem createContext_agrees {context : Context}
    (hclients : ∀ entry ∈ clients, IsClient entry.2)
    (hdistinct : Table.Distinct (Config.entriesOf config))
    (htexts : ∀ entry ∈ Config.entriesOf config, Config.GivesTexts entry.2)
    (h : (createContext config service clients numbers).outcome s = (.ok context, t)) :
    context.names = (Config.entriesOf config).filterMap (Config.registeredAs? clients) ∧
    (∀ protocol p, (Dispatcher.providerFor {} context (.str protocol)).result = .ok (some p) →
      p ∈ context.all ∧ p.protocol = protocol) ∧
    (∀ protocol, protocol ≠ doiProtocol →
      ∃ found, (Dispatcher.providerFor {} context (.str protocol)).result = .ok found) ∧
    (Dispatcher.providerFor {} context (.str doiProtocol)).result =
      (context.setting .doiProvider (.str "")).map (fun name =>
        (context.provider? (.str name.text)).filter (·.protocol = doiProtocol)) ∧
    (∀ (pid : Identifier) (site : Site),
      ((Dispatcher.providerOf {} context (.pid pid)).outcome site).1 =
        match Dispatcher.manager? context pid with
        | some p => .ok (some p)
        | none => (Dispatcher.providerFor {} context pid.protocol).result) ∧
    (∀ (pid : Identifier) (p : Provider) (site after : Site), pid.protocol ≠ .null →
      (Dispatcher.providerOf {} context (.pid pid)).outcome site = (.ok (some p), after) →
      p ∈ context.all ∧ pid.protocol = .str p.protocol) ∧
    ∀ (text : String) (pid : Identifier) (p : Provider) (site after : Site),
      (Dispatcher.parse context (.str text)).result = .ok (some pid) →
      pid.protocol = .str doiProtocol ∨ pid.protocol = .str handleProtocol →
      (Dispatcher.providerOf {} context (.pid pid)).outcome site = (.ok (some p), after) →
      ∃ other, (p.parse (.str pid.toString)).result = .ok (some other) ∧
        pid.sameAs other = true := by
  obtain ⟨hsound, hnames⟩ := sound_of_createContext hclients hdistinct htexts h
  obtain ⟨hown, hdoi, hnone⟩ := Dispatcher.result_providerFor hsound
  refine ⟨hnames, fun protocol p hp => ?_, fun protocol hprotocol => ?_, hdoi,
    fun pid site => Dispatcher.outcome_providerOf hsound pid site,
    fun pid p site after hnull hp => Dispatcher.protocol_of_providerOf hsound hnull hp,
    fun text pid p site after hread hprotocol hp =>
      Dispatcher.exists_of_parse hsound hread hprotocol hp⟩
  · have hnull : Value.str protocol ≠ .null := nofun
    obtain ⟨hmem, he⟩ := Dispatcher.protocol_of_providerFor hsound hnull hp
    exact ⟨hmem, (Value.str.inj he).symm⟩
  · by_cases hmem : protocol ∈ [handleProtocol, permaProtocol]
    · exact ⟨_, hown protocol hmem⟩
    · refine ⟨none, hnone protocol ?_⟩
      simp only [List.mem_cons, List.not_mem_nil, or_false, not_or] at hmem ⊢
      exact ⟨hmem.1, hmem.2, hprotocol⟩

/-- A provider of local permanent links, one of DOIs whose registry service is in memory, and one of
Handles that has none. -/
def catalogued : Table Key Value := [
  ("perma", .map [("authority", .str "mds2"), ("base_url", .str "https://data.example.com")]),
  ("datacite", .map [("client", .str "sim"), ("shoulder", .str "FK2/")]),
  ("handle", .null)]

/-- A configuration that asks for these, and for DOIs of DataCite. -/
def cataloguing : Value :=
  .map [
    ("settings", .map [(":DoiProvider", .str "DataCite"), (":Authority", .str "10.5072")]),
    ("providers", .map catalogued)]

/-- The context that comes of it. -/
def catalogue : Context :=
  ((createContext cataloguing (.service 0) [] []).outcome {}).1.toOption.getD {}

theorem outcome_cataloguing :
    (createContext cataloguing (.service 0) [] []).outcome {} =
      (.ok catalogue, ((createContext cataloguing (.service 0) [] []).outcome {}).2) := by
  have hcreated : ((createContext cataloguing (.service 0) [] []).outcome {}).1 =
      .ok catalogue := by
    decide +kernel
  rw [← hcreated]

/-- The provider of Handles is left out, and DOIs go to the one that is set. -/
theorem createContext_agrees_cataloguing :
    catalogue.names = [.str "perma", .str "DataCite"] ∧
      (Dispatcher.providerFor {} catalogue (.str doiProtocol)).result =
        .ok (catalogue.provider? (.str "DataCite")) := by
  have hdistinct : Table.Distinct (Config.entriesOf cataloguing) := by
    unfold Table.Distinct
    decide
  have htexts : ∀ entry ∈ Config.entriesOf cataloguing, Config.GivesTexts entry.2 := by
    decide
  obtain ⟨hnames, -, -, hdoi, -⟩ :=
    createContext_agrees (List.forall_mem_nil _) hdistinct htexts outcome_cataloguing
  have hsetting : catalogue.setting .doiProvider (.str "") = .ok (.str "DataCite") := by
    decide +kernel
  have hkept : (catalogue.provider? (.str "DataCite")).filter (·.protocol = doiProtocol) =
      catalogue.provider? (.str "DataCite") := by
    decide +kernel
  refine ⟨hnames.trans (by decide), hdoi.trans ?_⟩
  rw [hsetting]
  exact congrArg Except.ok hkept

end Site

end PersistentId
