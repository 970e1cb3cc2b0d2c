import GroupPolicy.Value

/-!
# Policy stores

What a batch needs of a place that holds policies, whatever the monad in which it acts.
-/

namespace GroupPolicy

/-- A monad that acts on one policy store. -/
class PolicyStore (m : Type → Type) where
  /-- Creates or replaces a value. -/
  setValue (key name : String) (value : RegistryValue) : ExceptT PolicyError m Unit
  /-- Removes a value if it is there, and says whether it was. -/
  deleteValue (key name : String) : ExceptT PolicyError m Bool
  /-- Commits the changes. -/
  save : ExceptT PolicyError m Unit

end GroupPolicy
