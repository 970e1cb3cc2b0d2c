import GroupPolicy.Command.Preview
import GroupPolicy.Proofs.Store.Trees
import GroupPolicy.Proofs.Value.Layout

/-!
# Batches on a store in memory

A batch on a store in memory does to its tree what its commands do to a tree, and has no effect
besides (`apply_spec`). So a value that was set is read back from the store, split at the NULs in
its items if there are any (`decode_of_set`).
-/

namespace GroupPolicy.MemoryStore

open Batch

/-- A batch on a store in memory gives the result of its commands on the tree, and leaves the tree
that they leave. -/
theorem apply_spec {m : Type → Type} [Monad m] [LawfulMonad m] (mode : ApplyMode)
    (commands : List Command) (store : MemoryStore) :
    ∃ result next,
      (apply mode commands : ExceptT PolicyError (StateT MemoryStore m) ApplyReport).run.run store =
        pure (result, next) ∧
      runPlain (run mode commands) store.tree = (result, next.tree) := by
  obtain ⟨result, next, executed, same, -⟩ :=
    (followsTree (m := m) store.saves).run mode commands store rfl
  cases result with
  | error error => exact ⟨_, next, run_bind_of_error executed _, same⟩
  | ok report =>
    have asked : (PolicyStore.save : ExceptT PolicyError (StateT MemoryStore m) Unit).run.run next =
        pure (.ok (), { next with saves := next.saves + 1 }) := rfl
    refine ⟨.ok report, { next with saves := next.saves + 1 }, ?_, same⟩
    rw [apply, run_bind_of_ok executed, run_bind_of_ok asked]
    rfl

theorem afterCommands_of_apply {mode : ApplyMode} {commands : List Command}
    {store next : MemoryStore} {report : ApplyReport}
    (applied : runPlain (apply mode commands) store = (.ok report, next)) :
    store.tree.afterCommands commands = .ok next.tree := by
  obtain ⟨result, last, ran, same⟩ := apply_spec (m := Id) mode commands store
  cases ran.symm.trans applied
  exact RegistryTree.afterCommands_of_run same

/-! ## Reading back what was set -/

variable {mode : ApplyMode} {key name data : String} {kind : ValueKind} {encoding : InputEncoding}
  {value : RegistryValue} {store next : MemoryStore} {report : ApplyReport}

/-- A command that sets a value leaves its stored form under its names. -/
theorem get?_of_set (resolved : RegistryValue.resolve kind encoding data = .ok value)
    (valued : kind ≠ .none)
    (applied : runPlain (apply mode [.set key name kind encoding data]) store =
      (.ok report, next)) :
    next.tree.get? key name = some (.ofValue value) := by
  have changed := afterCommands_of_apply applied
  rw [RegistryTree.afterCommands, List.foldlM_cons, Except.bind_eq_ok_iff] at changed
  obtain ⟨tree, set, done⟩ := changed
  cases done
  rw [Command.applyTo, Command.plan_set_of_ne_none valued, resolved] at set
  exact RegistryTree.get?_of_set set

/-- A value that a command has set is the value of the command's preview, and it is read back split
at the NULs in its items. So it is read back as it was set if and only if no item holds a NUL, and
only an item that was given as text can hold one. -/
theorem decode_of_set (valued : kind ≠ .none)
    (resolved : RegistryValue.resolve kind encoding data = .ok value)
    (applied : runPlain (apply mode [.set key name kind encoding data]) store =
      (.ok report, next)) :
    (Command.set key name kind encoding data).preview = .ok (.set key name kind encoding value) ∧
    ∃ stored, next.tree.get? key name = some stored ∧ stored.decode = .ok value.splitAtNuls ∧
      (stored.decode = .ok value ↔ value.ItemsNulFree) ∧
      (kind ≠ .multiString ∨ encoding = .hex → stored.decode = .ok value) := by
  have decoded : (StoredValue.ofValue value).decode = .ok value.splitAtNuls := by
    rw [StoredValue.decode, StoredValue.kind?, StoredValue.ofValue, ValueKind.ofCode?_code]
    exact RegistryValue.ofBytes_toBytes value
  have exactly : (StoredValue.ofValue value).decode = .ok value ↔ value.ItemsNulFree := by
    rw [decoded, Except.ok.injEq, RegistryValue.splitAtNuls_eq_self_iff]
  refine ⟨?_, .ofValue value, get?_of_set resolved valued applied, decoded, exactly, ?_⟩
  · rw [Command.preview, if_neg valued, resolved]
    rfl
  · rintro (single | rfl)
    · refine exactly.2 fun items same => absurd ?_ single
      rw [← RegistryValue.kind_of_resolve resolved, same]
      rfl
    · exact exactly.2 (RegistryValue.itemsNulFree_of_resolve_hex resolved)

theorem decode_of_set_items :
    let command : Command := .set "K" "N" .multiString .text "a;;b"
    let store : MemoryStore := .ofTree ⟨[("k", ⟨"k", [("n", ⟨4, [1, 0, 0, 0]⟩)]⟩)]⟩
    ∃ report next stored,
      RegistryValue.resolve .multiString .text "a;;b" = .ok (.multiString ["a", "", "b"]) ∧
      runPlain (apply .sequential [command]) store = (.ok report, next) ∧
      next.tree.get? "K" "N" = some stored ∧ stored.decode = .ok (.multiString ["a", "", "b"]) := by
  intro command store
  have resolved : RegistryValue.resolve .multiString .text "a;;b" =
      .ok (.multiString ["a", "", "b"]) := by rfl
  have applied : runPlain (apply .sequential [command]) store =
      (.ok { set := 1 },
        ⟨⟨[("k", ⟨"k", [("n", ⟨7, [97, 0, 0, 0, 0, 0, 98, 0, 0, 0]⟩)]⟩)]⟩, 1⟩) := by
    rfl
  have free : (RegistryValue.multiString ["a", "", "b"]).ItemsNulFree := by
    intro items same
    cases same
    decide
  obtain ⟨-, stored, found, -, same, -⟩ := decode_of_set (by decide) resolved applied
  exact ⟨_, _, stored, resolved, applied, found, same.2 free⟩

/-- An item that was given as text with a NUL in it is read back as two. -/
theorem not_decode_of_set_nul :
    ¬ ∀ report next stored,
      runPlain (apply .sequential [.set "K" "N" .multiString .text "a\x00b"]) (ofTree .empty) =
        (.ok report, next) →
      next.tree.get? "K" "N" = some stored →
      stored.decode = RegistryValue.resolve .multiString .text "a\x00b" := by
  intro same
  have equal := same { set := 1 } _ _ rfl rfl
  cases equal

end GroupPolicy.MemoryStore
