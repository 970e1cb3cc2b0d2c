import GroupPolicy.Store.Basic

/-!
# Recorded stores

A recording stands in front of a store. It writes down every call before anything else happens, and
it can make one change or every save fail.
-/

namespace GroupPolicy

/-- A call of a store's operation. -/
inductive StoreCall where
  /-- A value was to be set. -/
  | set (key name : String) (value : RegistryValue)
  /-- A value was to be removed. -/
  | delete (key name : String)
  /-- The changes were to be committed. -/
  | save
  deriving DecidableEq

/-- The calls so far, and the failures to come. -/
structure Recording where
  /-- The calls, the latest first. -/
  calls : List StoreCall := []
  /-- The number of changes that were to be made. -/
  changes : Nat := 0
  /-- The number, counted from zero, of the change that fails. -/
  failAt : Option Nat := none
  /-- Whether saves fail. -/
  failSave : Bool := false

namespace Recording

/-- Writes down a call to change the store. -/
def recordChange (recording : Recording) (call : StoreCall) : Recording :=
  { recording with calls := call :: recording.calls, changes := recording.changes + 1 }

/-- Writes down a call to save the store. -/
def recordSave (recording : Recording) : Recording :=
  { recording with calls := .save :: recording.calls }

variable {m : Type → Type} [Monad m]

/-- Writes down a change, which fails if its turn has come and is made otherwise. -/
def change {α : Type} (call : StoreCall) (action : ExceptT PolicyError m α) :
    ExceptT PolicyError (StateT Recording m) α :=
  ExceptT.mk fun recording => do
    let after := recording.recordChange call
    if recording.failAt = some recording.changes then
      return (.error (.storeFailure "injected store failure"), after)
    else
      return (← action.run, after)

/-- Writes down a save, which fails if saves fail and is made otherwise. -/
def commit (action : ExceptT PolicyError m Unit) : ExceptT PolicyError (StateT Recording m) Unit :=
  ExceptT.mk fun recording => do
    let after := recording.recordSave
    if recording.failSave then
      return (.error (.storeFailure "injected save failure"), after)
    else
      return (← action.run, after)

/-- The store behind a recording. -/
instance [PolicyStore m] : PolicyStore (StateT Recording m) where
  setValue key name value := change (.set key name value) (PolicyStore.setValue key name value)
  deleteValue key name := change (.delete key name) (PolicyStore.deleteValue key name)
  save := commit PolicyStore.save

end Recording

end GroupPolicy
