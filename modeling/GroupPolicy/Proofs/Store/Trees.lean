import GroupPolicy.Proofs.Batch.Simulation
import GroupPolicy.Proofs.Batch.Splitting
import GroupPolicy.Proofs.Tree.Calls
import GroupPolicy.Store.File

/-!
# Stores that hold a tree

A tree is a store of its own, on which a batch does nothing but change values
(`RegistryTree.afterCommands_of_run`). A computation on stores that hold a tree *follows* the same
computation on trees if it gives the same result, changes the tree in the same way, and has no
effect besides. Batches on stores in memory and on writable stores in files do
(`MemoryStore.followsTree`, `FileStore.followsTree`).
-/

namespace GroupPolicy

open Batch

/-- The change of a tree that a step is. -/
def Step.treeCall : Step → TreeCall
  | write key name value => .set key name (.ofValue value)
  | remove key name => .delete key name

/-- What a step on a tree is counted as. -/
def Step.counts (tree : RegistryTree) : Step → ApplyReport
  | write _ _ _ => { set := 1 }
  | remove key name =>
    if (RegistryTree.findIn (foldedPair key name).1 (foldedPair key name).2 tree.keys).isSome then
      { deleted := 1 }
    else { absent := 1 }

/-- The tree after a command, if the command succeeds. -/
def Command.applyTo (command : Command) (tree : RegistryTree) :
    Except PolicyError RegistryTree := do
  let step ← command.plan
  step.treeCall.apply tree

namespace RegistryTree

/-- The tree after commands in a row, if all of them succeed. -/
def afterCommands (tree : RegistryTree) (commands : List Command) :
    Except PolicyError RegistryTree :=
  commands.foldlM (fun tree command => command.applyTo tree) tree

/-- Sets a value, if the names are accepted. -/
def setValue (tree : RegistryTree) (key name : String) (value : RegistryValue) :
    Except PolicyError Unit × RegistryTree :=
  match tree.set key name (.ofValue value) with
  | .ok next => (.ok (), next)
  | .error error => (.error error, tree)

/-- Removes a value, if the names are accepted. -/
def deleteValue (tree : RegistryTree) (key name : String) :
    Except PolicyError Bool × RegistryTree :=
  match tree.delete key name with
  | .ok (removed, next) => (.ok removed, next)
  | .error error => (.error error, tree)

/-- Computations on a tree, which is never saved. -/
instance : PolicyStore (StateM RegistryTree) where
  setValue key name value := ExceptT.mk (modifyGet (·.setValue key name value))
  deleteValue key name := ExceptT.mk (modifyGet (·.deleteValue key name))
  save := pure ()

variable {tree next : RegistryTree} {error : PolicyError}

/-- A step on a tree is a change of the tree, which stays as it is if the change fails. -/
theorem runPlain_execute (report : ApplyReport) (step : Step) (tree : RegistryTree) :
    (∃ next, runPlain (execute report step) tree = (.ok (report + step.counts tree), next) ∧
      step.treeCall.apply tree = .ok next) ∨
    ∃ error, runPlain (execute report step) tree = (.error error, tree) ∧
      step.treeCall.apply tree = .error error := by
  cases step with
  | write key name value =>
    have asked : runPlain (PolicyStore.setValue key name value) tree =
        tree.setValue key name value := rfl
    rw [execute, runPlain_bind, asked, setValue]
    have change : (Step.write key name value).treeCall.apply tree =
        tree.set key name (.ofValue value) := rfl
    rw [change]
    cases tree.set key name (.ofValue value) with
    | ok next => exact Or.inl ⟨next, rfl, rfl⟩
    | error error => exact Or.inr ⟨error, rfl, rfl⟩
  | remove key name =>
    have asked : runPlain (PolicyStore.deleteValue key name) tree = tree.deleteValue key name := rfl
    rw [execute, runPlain_bind, asked, deleteValue]
    have change : (Step.remove key name).treeCall.apply tree =
        (tree.delete key name).map Prod.snd := rfl
    rw [change]
    cases deleted : tree.delete key name with
    | error error => exact Or.inr ⟨error, rfl, rfl⟩
    | ok result =>
      obtain ⟨removed, next⟩ := result
      obtain ⟨path, accepted, -, present, -⟩ := delete_eq_ok_iff.1 deleted
      obtain ⟨rfl, -⟩ := KeyPath.normalize_eq_ok_iff.1 accepted
      rw [Step.counts, foldedPair, ← present]
      cases removed with
      | true => exact Or.inl ⟨next, rfl, rfl⟩
      | false => exact Or.inl ⟨next, rfl, rfl⟩

/-- A delete that finds no value leaves a tree as it is. -/
theorem eq_of_delete_absent {key name : String}
    (deleted : tree.delete key name = .ok (false, next)) : next = tree := by
  obtain ⟨_, -, -, -, same⟩ := delete_eq_ok_iff.1 deleted
  exact same

theorem afterCommands_cons_of_ok {command : Command} {commands : List Command}
    (applied : command.applyTo tree = .ok next) :
    tree.afterCommands (command :: commands) = next.afterCommands commands := by
  rw [afterCommands, List.foldlM_cons, applied]
  rfl

/-- Commands that succeed are calls on the tree, each one asked for by a command. -/
theorem exists_calls_of_afterCommands {commands : List Command}
    (success : tree.afterCommands commands = .ok next) :
    ∃ calls, tree.after calls = next ∧ ∀ call ∈ calls, ∃ command ∈ commands, ∃ step,
      command.plan = .ok step ∧ step.treeCall = call := by
  induction commands generalizing tree with
  | nil =>
    cases success
    exact ⟨[], rfl, fun _ => nofun⟩
  | cons command commands ih =>
    rw [RegistryTree.afterCommands, List.foldlM_cons, Except.bind_eq_ok_iff] at success
    obtain ⟨middle, applied, rest⟩ := success
    rw [Command.applyTo, Except.bind_eq_ok_iff] at applied
    obtain ⟨step, planned, change⟩ := applied
    obtain ⟨calls, whole, asked⟩ := ih rest
    refine ⟨step.treeCall :: calls, ?_, List.forall_mem_cons.2 ⟨?_, fun call member => ?_⟩⟩
    · rw [after, change]
      exact whole
    · exact ⟨command, List.mem_cons_self, step, planned, rfl⟩
    · obtain ⟨other, among, found⟩ := asked call member
      exact ⟨other, List.mem_cons_of_mem _ among, found⟩

theorem WellFormed.afterCommands {commands : List Command} (wellFormed : tree.WellFormed)
    (success : tree.afterCommands commands = .ok next) : next.WellFormed := by
  obtain ⟨calls, rfl, -⟩ := exists_calls_of_afterCommands success
  exact wellFormed.after calls

/-- Commands that are executed one by one on a tree all succeed, or else the tree is as the commands
before the first that fails have left it. -/
theorem runPlain_planAndExecuteAll (report : ApplyReport) (commands : List Command)
    (tree : RegistryTree) :
    (∃ total next, runPlain (planAndExecuteAll report commands) tree = (.ok total, next) ∧
      tree.afterCommands commands = .ok next) ∨
    ∃ front command later error next,
      runPlain (planAndExecuteAll report commands) tree = (.error error, next) ∧
      commands = front ++ command :: later ∧ tree.afterCommands front = .ok next ∧
      command.applyTo next = .error error := by
  induction commands generalizing report tree with
  | nil => exact Or.inl ⟨report, tree, rfl, rfl⟩
  | cons command commands ih =>
    cases planned : command.plan with
    | error error =>
      refine Or.inr ⟨[], command, commands, error, tree, ?_, rfl, rfl, ?_⟩
      · rw [planAndExecuteAll_cons_of_error planned]
        rfl
      · rw [Command.applyTo, planned]
        rfl
    | ok step =>
      have applied : command.applyTo tree = step.treeCall.apply tree := by
        rw [Command.applyTo, planned]
        rfl
      rw [planAndExecuteAll_cons_of_ok planned, runPlain_bind]
      rcases runPlain_execute report step tree with
        ⟨middle, taken, change⟩ | ⟨error, taken, change⟩
      · rw [taken]
        have first : command.applyTo tree = .ok middle := applied.trans change
        rcases ih _ middle with
          ⟨total, next, ran, all⟩ | ⟨front, bad, later, error, next, ran, rfl, before, failed⟩
        · exact Or.inl ⟨total, next, ran, (afterCommands_cons_of_ok first).trans all⟩
        · exact Or.inr ⟨command :: front, bad, later, error, next, ran, rfl,
            (afterCommands_cons_of_ok first).trans before, failed⟩
      · rw [taken]
        exact Or.inr ⟨[], command, commands, error, tree, rfl, rfl, rfl, applied.trans change⟩

/-- A batch that succeeds on a tree executes all its commands, whatever its mode is. -/
theorem afterCommands_of_run {mode : ApplyMode} {commands : List Command} {report : ApplyReport}
    (ran : runPlain (run mode commands) tree = (.ok report, next)) :
    tree.afterCommands commands = .ok next := by
  have sequential : runPlain (run .sequential commands) tree = (.ok report, next) := by
    cases mode with
    | sequential => exact ran
    | prevalidate =>
      rcases Except.mapM_ok_or_first_error Command.plan commands with
        ⟨steps, planned⟩ | ⟨front, command, later, steps, error, rfl, planned, failed⟩
      · rwa [run_of_planned .prevalidate planned, ← run_of_planned .sequential planned] at ran
      · rw [run_prevalidate_of_fault planned failed] at ran
        cases ran
  rcases runPlain_planAndExecuteAll {} commands tree with
    ⟨total, last, whole, all⟩ | ⟨_, _, _, error, last, whole, -⟩
  · cases sequential.symm.trans whole
    exact all
  · cases sequential.symm.trans whole

end RegistryTree

/-! ## Following a tree -/

section Following

variable {m : Type → Type} [Monad m] {S α β : Type} {tree : S → RegistryTree} {kept : S → Prop}

theorem run_bind_of_ok [LawfulMonad m] {action : ExceptT PolicyError (StateT S m) α}
    {store next : S} {value : α} (ran : action.run.run store = pure (.ok value, next))
    (rest : α → ExceptT PolicyError (StateT S m) β) :
    (action >>= rest).run.run store = (rest value).run.run next := by
  show (action.run.run store >>= fun ended => (ExceptT.bindCont rest ended.1).run ended.2) = _
  rw [ran, pure_bind]
  rfl

theorem run_bind_of_error [LawfulMonad m] {action : ExceptT PolicyError (StateT S m) α}
    {store next : S} {error : PolicyError} (ran : action.run.run store = pure (.error error, next))
    (rest : α → ExceptT PolicyError (StateT S m) β) :
    (action >>= rest).run.run store = pure (.error error, next) := by
  show (action.run.run store >>= fun ended => (ExceptT.bindCont rest ended.1).run ended.2) = _
  rw [ran, pure_bind]
  rfl

theorem run_bind_pure [LawfulMonad m] (action : ExceptT PolicyError (StateT S m) α) (value : β)
    (store : S) :
    (action >>= fun _ => pure value).run.run store =
      (fun ended => (ended.1.map fun _ => value, ended.2)) <$> action.run.run store := by
  rw [map_eq_pure_bind]
  show (action.run.run store >>= fun ended =>
    (ExceptT.bindCont (fun _ => (pure value : ExceptT PolicyError (StateT S m) β)) ended.1).run
      ended.2) = _
  congr 1
  funext ended
  obtain ⟨result, next⟩ := ended
  cases result with
  | ok _ => rfl
  | error _ => rfl

/-- A computation on stores gives the result of a computation on trees and changes the tree of a
store in the same way. It keeps a property of stores, and has no other effect. -/
def Follows (tree : S → RegistryTree) (kept : S → Prop)
    (onStores : ExceptT PolicyError (StateT S m) α)
    (onTrees : ExceptT PolicyError (StateM RegistryTree) α) : Prop :=
  ∀ store, kept store → ∃ result next,
    onStores.run.run store = pure (result, next) ∧
      runPlain onTrees (tree store) = (result, tree next) ∧ kept next

namespace Follows

theorem lift (result : Except PolicyError α) :
    Follows tree kept (liftM result : ExceptT PolicyError (StateT S m) α) (liftM result) :=
  fun store holds => ⟨result, store, rfl, rfl, holds⟩

theorem bind [LawfulMonad m] {onStores : ExceptT PolicyError (StateT S m) α}
    {onTrees : ExceptT PolicyError (StateM RegistryTree) α}
    {restOnStores : α → ExceptT PolicyError (StateT S m) β}
    {restOnTrees : α → ExceptT PolicyError (StateM RegistryTree) β}
    (first : Follows tree kept onStores onTrees)
    (rest : ∀ value, Follows tree kept (restOnStores value) (restOnTrees value)) :
    Follows tree kept (onStores >>= restOnStores) (onTrees >>= restOnTrees) := by
  intro store holds
  obtain ⟨result, middle, ran, same, holds⟩ := first store holds
  rw [runPlain_bind, same]
  cases result with
  | error error =>
    exact ⟨.error error, middle, run_bind_of_error ran restOnStores, rfl, holds⟩
  | ok value =>
    obtain ⟨result, next, ran', same', holds'⟩ := rest value middle holds
    exact ⟨result, next, (run_bind_of_ok ran restOnStores).trans ran', same', holds'⟩

end Follows

/-- Changes of stores follow the changes of their trees. -/
structure FollowsTree (m : Type → Type) [Monad m] {S : Type} [PolicyStore (StateT S m)]
    (tree : S → RegistryTree) (kept : S → Prop) : Prop where
  setValue (key name : String) (value : RegistryValue) :
    Follows tree kept (PolicyStore.setValue key name value : ExceptT PolicyError (StateT S m) Unit)
      (PolicyStore.setValue key name value)
  deleteValue (key name : String) :
    Follows tree kept (PolicyStore.deleteValue key name : ExceptT PolicyError (StateT S m) Bool)
      (PolicyStore.deleteValue key name)

namespace FollowsTree

variable [LawfulMonad m] [PolicyStore (StateT S m)]

/-- Computations on stores that follow their trees are related to those on trees. -/
def simulation (follows : FollowsTree m tree kept) :
    Simulation (StateT S m) (StateM RegistryTree) where
  Related := Follows tree kept
  lift := Follows.lift
  bind := Follows.bind
  setValue := follows.setValue
  deleteValue := follows.deleteValue

/-- The commands of a batch on a store do to its tree what they do to a tree. -/
theorem run (follows : FollowsTree m tree kept) (mode : ApplyMode) (commands : List Command) :
    Follows tree kept (Batch.run mode commands : ExceptT PolicyError (StateT S m) ApplyReport)
      (Batch.run mode commands) :=
  follows.simulation.run mode commands

end FollowsTree

end Following

/-! ## Stores in memory and in files -/

variable {m : Type → Type} [Monad m]

/-- Changes of a store in memory are changes of its tree, and no saves. -/
theorem MemoryStore.followsTree (saves : Nat) :
    FollowsTree m MemoryStore.tree fun store => store.saves = saves where
  setValue key name value store holds := by
    have asked : (PolicyStore.setValue key name value :
        ExceptT PolicyError (StateT MemoryStore m) Unit).run.run store =
          pure (store.setValue key name value) := rfl
    have onTree : runPlain (PolicyStore.setValue key name value) store.tree =
        store.tree.setValue key name value := rfl
    rw [asked, onTree, MemoryStore.setValue, RegistryTree.setValue]
    cases store.tree.set key name (.ofValue value) with
    | ok next => exact ⟨.ok (), { store with tree := next }, rfl, rfl, holds⟩
    | error error => exact ⟨.error error, store, rfl, rfl, holds⟩
  deleteValue key name store holds := by
    have asked : (PolicyStore.deleteValue key name :
        ExceptT PolicyError (StateT MemoryStore m) Bool).run.run store =
          pure (store.deleteValue key name) := rfl
    have onTree : runPlain (PolicyStore.deleteValue key name) store.tree =
        store.tree.deleteValue key name := rfl
    rw [asked, onTree, MemoryStore.deleteValue, RegistryTree.deleteValue]
    cases store.tree.delete key name with
    | ok result => exact ⟨.ok result.1, { store with tree := result.2 }, rfl, rfl, holds⟩
    | error error => exact ⟨.error error, store, rfl, rfl, holds⟩

namespace FileStore

variable {store next : FileStore} {key name : String} {value : RegistryValue} {error : PolicyError}

theorem treeAfterSet_of_writable (writable : store.access = .readWrite) :
    store.treeAfterSet key name value = store.tree.set key name (.ofValue value) := by
  rw [treeAfterSet, ensureWritable, writable]
  rfl

theorem treeAfterDelete_of_writable (writable : store.access = .readWrite) :
    store.treeAfterDelete key name = store.tree.delete key name := by
  rw [treeAfterDelete, ensureWritable, writable]
  rfl

/-- A store for changes in the file at a path, which holds what it held at the start unless it is
marked as changed. -/
structure ChangesFrom (path : Path) (start : RegistryTree) (store : FileStore) : Prop where
  path : store.path = path
  writable : store.access = .readWrite
  clean : store.dirty = false → store.tree = start

theorem ChangesFrom.refl (writable : store.access = .readWrite) :
    ChangesFrom store.path store.tree store :=
  ⟨rfl, writable, fun _ => rfl⟩

/-- Changes of a writable store in a file are changes of its tree, and leave all files alone. -/
theorem followsTree [FileSystem m] (path : Path) (start : RegistryTree) :
    FollowsTree m FileStore.tree (ChangesFrom path start) where
  setValue key name value store holds := by
    have asked : (PolicyStore.setValue key name value :
        ExceptT PolicyError (StateT FileStore m) Unit).run.run store =
          pure (store.setValue key name value) := rfl
    have onTree : runPlain (PolicyStore.setValue key name value) store.tree =
        store.tree.setValue key name value := rfl
    rw [asked, onTree, FileStore.setValue, treeAfterSet_of_writable holds.writable,
      RegistryTree.setValue]
    cases store.tree.set key name (.ofValue value) with
    | ok next =>
      exact ⟨.ok (), { store with tree := next, dirty := true }, rfl, rfl,
        holds.path, holds.writable, nofun⟩
    | error error => exact ⟨.error error, store, rfl, rfl, holds⟩
  deleteValue key name store holds := by
    have asked : (PolicyStore.deleteValue key name :
        ExceptT PolicyError (StateT FileStore m) Bool).run.run store =
          pure (store.deleteValue key name) := rfl
    have onTree : runPlain (PolicyStore.deleteValue key name) store.tree =
        store.tree.deleteValue key name := rfl
    rw [asked, onTree, FileStore.deleteValue, treeAfterDelete_of_writable holds.writable,
      RegistryTree.deleteValue]
    cases deleted : store.tree.delete key name with
    | error error => exact ⟨.error error, store, rfl, rfl, holds⟩
    | ok result =>
      obtain ⟨removed, next⟩ := result
      refine ⟨.ok removed, { store with tree := next, dirty := store.dirty || removed }, rfl, rfl,
        holds.path, holds.writable, fun clean => ?_⟩
      obtain ⟨before, rfl⟩ := Bool.or_eq_false_iff.1 clean
      exact (RegistryTree.eq_of_delete_absent deleted).trans (holds.clean before)

end FileStore

end GroupPolicy
