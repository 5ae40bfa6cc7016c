import PersistentId.Minter
import PersistentId.Site
import PersistentId.Text.Upper

/-!
# Minting

What a minter does on a site: it draws a number from its source, or has its local service give out
the next one of a scope, and renders that.
-/

namespace PersistentId.Minter

/-- The next number of a scope, which only a local service can give out. -/
def nextNumber (service : Operand) (scope : Value) : Site.Use Counter :=
  match service with
  | .service id => Site.onLedger id (Ledger.nextNumber (scope.orElse (.str "")))
  | _ => throw .missingPart

/-- A new local part for a scope. -/
def mint (minter : Minter) (scope : Value) : Site.Use String := do
  match minter with
  | .random template capacity upper source =>
    let n ← Site.draw source capacity
    let minted ← Action.ofExcept (Noid.render template (.int n))
    pure (if upper.truthy then Text.upper minted else minted)
  | .sequence template service =>
    let n ← nextNumber service scope
    Action.ofExcept (Noid.render template (.int n.toInt))

end PersistentId.Minter
