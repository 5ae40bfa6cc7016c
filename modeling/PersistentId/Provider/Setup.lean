import PersistentId.Site

/-!
# Setting providers up

A provider is put together from its parts on a site, where it gets a source of random numbers of its
own and learns the address of its registry service.
-/

namespace PersistentId.Provider

/-- Set up a provider whose random numbers are the given ones. -/
def build (kind : ProviderKind) (parts : Parts) (numbers : List Int) : Site.Use Provider := do
  let source ← Site.addSource numbers
  let site ← get
  Action.ofExcept (ofParts kind parts source fun id => (site.registries.get id).endpoint)

end PersistentId.Provider
