import GroupPolicy.Listing
import GroupPolicy.Proofs.Command.Line
import GroupPolicy.Proofs.Hex
import GroupPolicy.Proofs.Store.Reached
import GroupPolicy.Proofs.Tree.Parts
import GroupPolicy.Proofs.Tree.Reload
import GroupPolicy.Proofs.Value.Exactness

/-!
# Listings as backups

The record of a listed value has all that a command needs to set the value again
(`ListingRecord.commandLine`). In a tree that batches have made of commands from lines, every such
command can be read from its line and resolved, since the names hold no semicolon and the bytes are
those of a value. Executed in the order of the listing, these commands give the same tree
(`listing_restores_tree`).
-/

namespace GroupPolicy

open Batch

/-! ## What commands from lines bring into a tree -/

/-- Names without semicolons, and the stored forms of values. -/
def writtenParts : Parts where
  path path := ';' ∉ path.toList
  name name := ';' ∉ name.toList
  stored stored := ∃ value, stored = .ofValue value

theorem Command.brings_of_writable {command : Command} {step : Step}
    (writable : command.Writable) (planned : command.plan = .ok step) :
    step.treeCall.Brings writtenParts := by
  have path : ';' ∉ (KeyPath.stripped command.key).toList := by
    rw [KeyPath.stripped, String.toList_ofList]
    exact fun member => writable.key (Text.mem_of_mem_strip member)
  rcases Command.step_of_plan planned with rfl | ⟨value, rfl⟩
  · trivial
  · exact ⟨path, writable.name, value, rfl⟩

/-- The tree that batches of commands from lines have made holds nothing else. -/
theorem Batch.madeOf_applyInTurn {batches : List (ApplyMode × List Command)}
    (parsed : ∀ batch ∈ batches, ∀ command ∈ batch.2, ∃ line, Command.parse line = .ok command) :
    let tree := ((applyInTurn batches).run (.ofTree .empty)).2.tree
    tree.WellFormed ∧ tree.MadeOf writtenParts := by
  obtain ⟨calls, reached, asked⟩ := exists_calls_of_applyInTurn batches (.ofTree .empty)
  dsimp only
  rw [reached]
  refine ⟨RegistryTree.WellFormed.empty.after calls, RegistryTree.MadeOf.empty.after ?_⟩
  intro call member
  obtain ⟨batch, among, command, inBatch, step, planned, rfl⟩ := asked call member
  obtain ⟨line, read⟩ := parsed batch among command inBatch
  exact Command.brings_of_writable (Command.writable_of_parse read) planned

/-! ## Commands that set listed values again -/

namespace ListingRecord

variable {record : ListingRecord} {command : Command}

/-- The line of a command that sets a listed value again. -/
def commandLine (record : ListingRecord) : String :=
  record.key ++ ";" ++ record.name ++ ";" ++ toString record.kind.toNat ++ ";;" ++ record.data

/-- A command is read from the line of a listed value, and sets a value to which the data of the
listing resolves. -/
structure Restores (record : ListingRecord) (command : Command) : Prop where
  read : Command.parse record.commandLine = .ok command
  sets : ∃ kind value, kind.code = record.kind ∧
    command = .set record.key record.name kind .hex record.data ∧
      RegistryValue.resolve kind .hex record.data = .ok value

end ListingRecord

/-- The command that sets the value of an entry again. -/
def PolicyEntry.restoring (entry : PolicyEntry) : Command :=
  .set entry.key entry.name ((ValueKind.ofCode? entry.code).getD .none) .hex
    (Hex.encode entry.data)

/-- An entry has the stored form of a value. -/
def PolicyEntry.Holds (entry : PolicyEntry) (value : RegistryValue) : Prop :=
  (⟨entry.code, entry.data⟩ : StoredValue) = .ofValue value

namespace PolicyEntry.Holds

variable {entry : PolicyEntry} {value : RegistryValue}

theorem restoring_eq (holds : entry.Holds value) :
    entry.restoring = .set entry.key entry.name value.kind .hex (Hex.encode value.toBytes) := by
  obtain ⟨code, data⟩ := StoredValue.mk.inj holds
  rw [restoring, code, data, ValueKind.ofCode?_code, Option.getD_some]

theorem resolve_restoring (value : RegistryValue) :
    RegistryValue.resolve value.kind .hex (Hex.encode value.toBytes) = .ok value.splitAtNuls := by
  rw [RegistryValue.resolve, RegistryValue.ofHex, Hex.decode_encode]
  exact RegistryValue.ofBytes_toBytes value

/-- The value may be split at its NULs, but its stored form is the same. -/
theorem applyTo_restoring (holds : entry.Holds value) (tree : RegistryTree) :
    entry.restoring.applyTo tree = tree.insertEntry entry := by
  have stored : StoredValue.ofValue value.splitAtNuls = ⟨entry.code, entry.data⟩ := by
    rw [StoredValue.ofValue, RegistryValue.kind_splitAtNuls, RegistryValue.toBytes_splitAtNuls]
    exact holds.symm
  rw [holds.restoring_eq, Command.applyTo, Command.plan_set_of_ne_none value.kind_ne_none,
    resolve_restoring, RegistryTree.insertEntry, ← stored]
  rfl

theorem restores (holds : entry.Holds value) (writable : entry.restoring.Writable) :
    (ListingRecord.ofEntry entry).Restores entry.restoring := by
  obtain ⟨code, data⟩ := StoredValue.mk.inj holds
  have line : (ListingRecord.ofEntry entry).commandLine = entry.restoring.display := by
    rw [holds.restoring_eq, ListingRecord.commandLine, Command.display, Command.filterText,
      String.append_empty, ← code, ← data]
    rfl
  refine ⟨?_, value.kind, value.splitAtNuls, code.symm, ?_, ?_⟩
  · rw [line]
    exact Command.parse_display writable
  · rw [holds.restoring_eq, ← data]
    rfl
  · rw [ListingRecord.ofEntry, data]
    exact resolve_restoring value

end PolicyEntry.Holds

namespace RegistryTree

variable {tree : RegistryTree} {entry : PolicyEntry} {entries : List PolicyEntry}

theorem afterCommands_restoring (held : ∀ entry ∈ entries, ∃ value, entry.Holds value)
    (tree : RegistryTree) :
    tree.afterCommands (entries.map PolicyEntry.restoring) = entries.foldlM insertEntry tree := by
  induction entries generalizing tree with
  | nil => rfl
  | cons entry entries ih =>
    obtain ⟨⟨value, holds⟩, held⟩ := List.forall_mem_cons.1 held
    rw [List.map_cons, afterCommands, List.foldlM_cons, List.foldlM_cons,
      holds.applyTo_restoring]
    exact congrArg _ (funext (ih held))

/-- A listed value can be set by a command from a line. -/
theorem writable_restoring (wellFormed : tree.WellFormed) (made : tree.MadeOf writtenParts)
    (member : entry ∈ tree.entries) : entry.restoring.Writable := by
  obtain ⟨path, name, -⟩ := made.of_mem_entries member
  obtain ⟨accepted, -⟩ := wellFormed.accepted_of_mem_entries member
  refine ⟨fun empty => ?_, path, name⟩
  exact (KeyPath.normalize_eq_ok_iff.1 accepted).2.nonempty (congrArg String.toList empty)

/-- What batches of commands from lines have made of a tree is listed so that the listing, read as
commands, makes the same tree of nothing. Every line is read as a command that sets a value from
hex text, every value is resolved, and the commands succeed in either mode. -/
theorem listing_restores_tree {batches : List (ApplyMode × List Command)}
    (parsed : ∀ batch ∈ batches, ∀ command ∈ batch.2, ∃ line, Command.parse line = .ok command)
    (mode : ApplyMode) :
    let tree := ((applyInTurn batches).run (.ofTree .empty)).2.tree
    ∃ commands report next,
      List.Forall₂ ListingRecord.Restores tree.records commands ∧
        runPlain (apply mode commands) (MemoryStore.ofTree .empty) = (.ok report, next) ∧
        next.tree = tree := by
  obtain ⟨wellFormed, made⟩ := madeOf_applyInTurn parsed
  generalize ((applyInTurn batches).run (.ofTree .empty)).2.tree = tree at wellFormed made
  have held : ∀ entry ∈ tree.entries, ∃ value, entry.Holds value := fun entry member =>
    (made.of_mem_entries member).2.2
  have restored : empty.afterCommands (tree.entries.map PolicyEntry.restoring) = .ok tree :=
    (afterCommands_restoring held empty).trans wellFormed.ofEntries_entries
  obtain ⟨report, ran⟩ := exists_run_of_afterCommands mode restored
  obtain ⟨result, next, applied, same⟩ :=
    MemoryStore.apply_spec (m := Id) mode (tree.entries.map PolicyEntry.restoring) (.ofTree .empty)
  obtain ⟨rfl, left⟩ := Prod.mk.inj (same.symm.trans ran)
  refine ⟨_, report, next, ?_, applied, left⟩
  rw [records, List.forall₂_map_left_iff, List.forall₂_map_right_iff, List.forall₂_same]
  intro entry member
  obtain ⟨value, holds⟩ := held entry member
  exact holds.restores (writable_restoring wellFormed made member)

theorem listing_restores_tree_after_failures :
    let batches : List (ApplyMode × List Command) :=
      [(.sequential, [.set "\\K\\" "A" .multiString .text "x;;\x00y",
        .set "k" "" .dword .text "-1", .set "\\" "n" .binary .hex "00", .delete "K" "a"]),
       (.prevalidate, [.set "J" "N" .binary .hex "00", .set "J" "N" .qword .hex "00"])]
    let tree : RegistryTree := ⟨[("k", ⟨"K", [("A", ⟨7, [120, 0, 0, 0, 0, 0, 0, 0, 121, 0, 0, 0]⟩),
      ("", ⟨4, [255, 255, 255, 255]⟩)]⟩)]⟩
    (∀ batch ∈ batches, ∀ command ∈ batch.2, Command.parse command.display = .ok command) ∧
      ∃ commands report next, List.Forall₂ ListingRecord.Restores tree.records commands ∧
        runPlain (apply .prevalidate commands) (MemoryStore.ofTree .empty) = (.ok report, next) ∧
        next.tree = tree := by
  intro batches tree
  have parsed : ∀ batch ∈ batches, ∀ command ∈ batch.2,
      Command.parse command.display = .ok command := by decide
  have reached : ((applyInTurn batches).run (.ofTree .empty)).2.tree = tree := by rfl
  have restored := @listing_restores_tree batches
    (fun batch among command member => ⟨_, parsed batch among command member⟩) .prevalidate
  rw [reached] at restored
  exact ⟨parsed, restored⟩

end RegistryTree

end GroupPolicy
