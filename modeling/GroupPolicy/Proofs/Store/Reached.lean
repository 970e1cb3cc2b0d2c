import GroupPolicy.Proofs.Batch.Discipline
import GroupPolicy.Proofs.Batch.Splitting
import GroupPolicy.Proofs.Store.Memory

/-!
# Trees that batches reach

A batch executes commands if they can be executed one by one, whatever its mode is
(`RegistryTree.exists_run_of_afterCommands`). And whatever comes of a batch, the tree is then as
calls of its commands have left it, and so it is after batches in turn
(`Batch.exists_calls_of_applyInTurn`).
-/

namespace GroupPolicy

open Batch

namespace RegistryTree

variable {tree next : RegistryTree} {commands front later : List Command} {command : Command}
  {error : PolicyError}

theorem afterCommands_eq_error (before : tree.afterCommands front = .ok next)
    (failed : command.applyTo next = .error error) :
    tree.afterCommands (front ++ command :: later) = .error error := by
  rw [afterCommands] at before
  rw [afterCommands, List.foldlM_append, before]
  show (command.applyTo next >>= fun tree => tree.afterCommands later) = _
  rw [failed]
  rfl

/-- Commands that can be executed one by one are executed by a batch, whatever its mode is. -/
theorem exists_run_of_afterCommands (mode : ApplyMode)
    (success : tree.afterCommands commands = .ok next) :
    ∃ report, runPlain (run mode commands) tree = (.ok report, next) := by
  rcases runPlain_planAndExecuteAll {} commands tree with
    ⟨report, last, ran, all⟩ | ⟨front, command, later, error, last, -, rfl, before, failed⟩
  · cases success.symm.trans all
    have sequential : runPlain (run .sequential commands) tree = (.ok report, next) := ran
    obtain ⟨steps, planned⟩ := exists_steps_of_run sequential
    rw [run_of_planned .sequential planned, ← run_of_planned mode planned] at sequential
    exact ⟨report, sequential⟩
  · cases success.symm.trans (afterCommands_eq_error before failed)

/-- A batch leaves a tree as calls of its commands do, whether it succeeds or not. -/
theorem exists_calls_of_run (mode : ApplyMode) (commands : List Command) (tree : RegistryTree) :
    ∃ calls, (runPlain (run mode commands) tree).2 = tree.after calls ∧
      ∀ call ∈ calls, ∃ command ∈ commands, ∃ step,
        command.plan = .ok step ∧ step.treeCall = call := by
  have sequential : ∃ calls, (runPlain (run .sequential commands) tree).2 = tree.after calls ∧
      ∀ call ∈ calls, ∃ command ∈ commands, ∃ step,
        command.plan = .ok step ∧ step.treeCall = call := by
    rcases runPlain_planAndExecuteAll {} commands tree with
      ⟨report, next, ran, all⟩ | ⟨front, command, later, error, next, ran, rfl, before, -⟩
    · obtain ⟨calls, same, asked⟩ := exists_calls_of_afterCommands all
      exact ⟨calls, (congrArg Prod.snd ran).trans same.symm, asked⟩
    · obtain ⟨calls, same, asked⟩ := exists_calls_of_afterCommands before
      refine ⟨calls, (congrArg Prod.snd ran).trans same.symm, fun call member => ?_⟩
      obtain ⟨asker, among, found⟩ := asked call member
      exact ⟨asker, List.mem_append_left _ among, found⟩
  cases mode with
  | sequential => exact sequential
  | prevalidate =>
    rcases Except.mapM_ok_or_first_error Command.plan commands with
      ⟨steps, planned⟩ | ⟨front, command, later, steps, error, rfl, planned, failed⟩
    · rwa [run_of_planned .prevalidate planned, ← run_of_planned .sequential planned]
    · rw [run_prevalidate_of_fault planned failed]
      exact ⟨[], rfl, fun _ => nofun⟩

end RegistryTree

/-- Batches in turn leave a store in memory with the tree that calls of their commands leave. -/
theorem Batch.exists_calls_of_applyInTurn (batches : List (ApplyMode × List Command))
    (store : MemoryStore) :
    ∃ calls, ((applyInTurn batches).run store).2.tree = store.tree.after calls ∧
      ∀ call ∈ calls, ∃ batch ∈ batches, ∃ command ∈ batch.2, ∃ step,
        command.plan = .ok step ∧ step.treeCall = call := by
  induction batches generalizing store with
  | nil => exact ⟨[], rfl, fun _ => nofun⟩
  | cons batch batches ih =>
    obtain ⟨result, middle, applied, ran⟩ := MemoryStore.apply_spec (m := Id) batch.1 batch.2 store
    have first : runPlain (apply batch.1 batch.2) store = (result, middle) := applied
    obtain ⟨calls, left, asked⟩ := RegistryTree.exists_calls_of_run batch.1 batch.2 store.tree
    obtain ⟨others, rest, asked'⟩ := ih middle
    rw [ran] at left
    refine ⟨calls ++ others, ?_, fun call member => ?_⟩
    · rw [applyInTurn_cons, first, RegistryTree.after_append, ← left]
      exact rest
    · rcases List.mem_append.1 member with member | member
      · exact ⟨batch, List.mem_cons_self, asked call member⟩
      · obtain ⟨other, among, found⟩ := asked' call member
        exact ⟨other, List.mem_cons_of_mem _ among, found⟩

end GroupPolicy
