import GroupPolicy.Store.Basic
import GroupPolicy.Tree

/-!
# Stores in memory

A store in memory is a tree and the number of times that it was saved.
-/

namespace GroupPolicy

/-- A policy store in memory. -/
structure MemoryStore where
  /-- The contents. -/
  tree : RegistryTree
  /-- The number of saves. -/
  saves : Nat
  deriving DecidableEq

namespace MemoryStore

/-- The store of a tree that was not saved yet. -/
def ofTree (tree : RegistryTree) : MemoryStore :=
  { tree, saves := 0 }

/-- Creates or replaces a value; the store stays as it is if the names are not accepted. -/
def setValue (store : MemoryStore) (key name : String) (value : RegistryValue) :
    Except PolicyError Unit × MemoryStore :=
  match store.tree.set key name (.ofValue value) with
  | .ok tree => (.ok (), { store with tree })
  | .error error => (.error error, store)

/-- Removes a value; the store stays as it is if the names are not accepted. -/
def deleteValue (store : MemoryStore) (key name : String) :
    Except PolicyError Bool × MemoryStore :=
  match store.tree.delete key name with
  | .ok (removed, tree) => (.ok removed, { store with tree })
  | .error error => (.error error, store)

/-- Counts a save. -/
def save (store : MemoryStore) : Except PolicyError Unit × MemoryStore :=
  (.ok (), { store with saves := store.saves + 1 })

/-- Computations on a store in memory. -/
instance {m : Type → Type} [Monad m] : PolicyStore (StateT MemoryStore m) where
  setValue key name value := ExceptT.mk (modifyGet (·.setValue key name value))
  deleteValue key name := ExceptT.mk (modifyGet (·.deleteValue key name))
  save := ExceptT.mk (modifyGet (·.save))

end MemoryStore

end GroupPolicy
