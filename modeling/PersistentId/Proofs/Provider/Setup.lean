import PersistentId.Proofs.Action
import PersistentId.Provider

/-!
# Providers that were set up

What a provider that was put together from its parts has of them (`exists_of_ofParts`). It has a
name, unless it needs a registry service and something else stands in its place
(`name_of_ofParts`).
-/

namespace PersistentId.Provider

open PersistentId.Action

variable {kind : ProviderKind} {parts : Parts} {source : SourceId}
  {endpoint : RegistryId → Value} {p : Provider}

/-- What a provider has of its parts. -/
theorem exists_of_ofParts (h : ofParts kind parts source endpoint = .ok p) :
    p.kind = kind ∧ p.service = parts.service ∧ p.client = parts.client ∧
      p.endpoint? = endpointOf? endpoint parts.client ∧
      p.authority = parts.authority.orElse (.str "") ∧
      p.shoulder = parts.shoulder.orElse (.str "") ∧
      p.permaSeparator = parts.separator.orElse (.str "") ∧ (∃ config, p.config = .map config) ∧
      ∃ config, Minter.forStyle (parts.style.orElse (.str Minter.randomStyle)) parts.service config
        source = .ok p.minter := by
  unfold ofParts at h
  obtain ⟨fileFormat, -, h⟩ := exists_of_bind_eq_ok h
  obtain ⟨managed, -, h⟩ := exists_of_bind_eq_ok h
  obtain ⟨excluded, -, h⟩ := exists_of_bind_eq_ok h
  dsimp only at h
  split at h
  all_goals
    obtain ⟨config, -, h⟩ := exists_of_bind_eq_ok h
    obtain ⟨siteUrl, -, h⟩ := exists_of_bind_eq_ok h
    obtain ⟨minter, hminter, h⟩ := exists_of_bind_eq_ok h
    split at h
    · cases h
    · split at h
      all_goals
        obtain ⟨baseUrl, -, h⟩ := exists_of_bind_eq_ok h
        cases h
        exact ⟨rfl, rfl, rfl, rfl, rfl, rfl, rfl, ⟨_, rfl⟩, _, hminter⟩

/-- **A provider has a name** if it has a registry service where it needs one. -/
theorem name_of_ofParts (h : ofParts kind parts source endpoint = .ok p)
    (hc : kind.usesRegistry = true → ∃ id, parts.client = .registry id) :
    p.name = .ok kind.displayName := by
  obtain ⟨rfl, -, hclient, hendpoint, -, -, -, ⟨config, hconfig⟩, -⟩ := exists_of_ofParts h
  rw [name, information]
  cases hkind : p.kind with
  | perma | fake => rfl
  | dataCite | ezid | handle =>
    obtain ⟨id, hid⟩ := hc (by rw [hkind]; rfl)
    obtain ⟨url, hurl⟩ : ∃ url, p.serviceUrl = .ok url := by
      simp only [serviceUrl, hconfig, hendpoint, hid, Value.asTable, endpointOf?, bind, Except.bind]
      split <;> exact ⟨_, rfl⟩
    rw [hurl]
    rfl

end PersistentId.Provider
