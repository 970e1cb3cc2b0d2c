import GroupPolicy.Proofs.Cli.Applying
import GroupPolicy.Proofs.Tree.Loading

/-!
# Entries that no command is about

A batch leaves alone what no command is about, whatever program has written the file. The entries
under a pair of names become one when the file is loaded, and from then on no command touches it
(`filter_entries_afterCommands`). The main statement, about the bytes before and after a run of the
subcommand, is `applyToFile_keeps_unaddressed`.
-/

namespace GroupPolicy

/-- The pair of names that a command is about. -/
def Command.pair (command : Command) : String × String :=
  foldedPair command.key command.name

/-- The change that a command asks for is on the pair that the command is about. -/
theorem Command.pair_treeCall {command : Command} {step : Step}
    (planned : command.plan = .ok step) : step.treeCall.pair = command.pair := by
  rcases Command.step_of_plan planned with rfl | ⟨value, rfl⟩
  · rfl
  · rfl

namespace RegistryTree

variable {commands : List Command} {tree next : RegistryTree} {old new : List PolicyEntry}

/-- Commands leave the entries under all pairs that they are not about as they are, in order. -/
theorem filter_entries_afterCommands {p : String × String → Bool} (wellFormed : tree.WellFormed)
    (success : tree.afterCommands commands = .ok next)
    (elsewhere : ∀ command ∈ commands, p command.pair = false) :
    next.entries.filter (fun entry => p entry.pair) =
      tree.entries.filter fun entry => p entry.pair := by
  obtain ⟨calls, rfl, asked⟩ := exists_calls_of_afterCommands success
  refine wellFormed.filter_entries_after fun call member => ?_
  obtain ⟨command, among, step, planned, rfl⟩ := asked call member
  rw [Command.pair_treeCall planned]
  exact elsewhere command among

/-- What the entries of a pair come to is still there after commands that are not about it. -/
theorem merged_afterCommands (wellFormed : tree.WellFormed) (loaded : LoadedFrom old tree)
    (success : tree.afterCommands commands = .ok next) {entry : PolicyEntry} (present : entry ∈ old)
    (elsewhere : ∀ command ∈ commands, command.pair ≠ entry.pair) :
    Merged old next.entries entry.pair := by
  obtain ⟨opener, first, last, opened, begun, ended, alone⟩ := loaded.merged wellFormed present
  refine ⟨opener, first, last, opened, begun, ended, ?_⟩
  rw [← alone]
  exact filter_entries_afterCommands (p := fun pair => pair = entry.pair) wellFormed success
    fun command member => decide_eq_false (elsewhere command member)

/-- Two pairs of one key that no command is about are in the order in which they first came. -/
theorem order_afterCommands (wellFormed : tree.WellFormed) (loaded : LoadedFrom old tree)
    (success : tree.afterCommands commands = .ok next) {left right : String × String}
    (sameKey : left.1 = right.1) (notLeft : ∀ command ∈ commands, command.pair ≠ left)
    (notRight : ∀ command ∈ commands, command.pair ≠ right) :
    (next.entries.map PolicyEntry.pair).idxOf left <
        (next.entries.map PolicyEntry.pair).idxOf right ↔
      (old.map PolicyEntry.pair).idxOf left < (old.map PolicyEntry.pair).idxOf right := by
  let spared (pair : String × String) : Bool := commands.all (·.pair ≠ pair)
  have sparesLeft : spared left = true :=
    List.all_eq_true.2 fun command member => decide_eq_true (notLeft command member)
  have sparesRight : spared right = true :=
    List.all_eq_true.2 fun command member => decide_eq_true (notRight command member)
  have elsewhere : ∀ command ∈ commands, spared command.pair = false := fun command member =>
    List.all_eq_false.2 ⟨command, member, by simp⟩
  have kept : (next.entries.map PolicyEntry.pair).filter spared =
      (tree.entries.map PolicyEntry.pair).filter spared := by
    rw [List.filter_map, List.filter_map]
    exact congrArg _ (filter_entries_afterCommands wellFormed success elsewhere)
  rw [← loaded.order_iff wellFormed sameKey, ← List.idxOf_filter_lt_iff sparesLeft sparesRight,
    kept, List.idxOf_filter_lt_iff sparesLeft sparesRight]

end RegistryTree

namespace Cli

open Batch FileStore

variable {root : Path} {part : PolicySection} {mode : ApplyMode} {commands : List Command}
  {disk : Disk} {mishaps : List (Option Mishap)} {final : FaultyDisk} {report : ApplyReport}
  {bytes : List UInt8} {old : List PolicyEntry}

/-- Entries that no command is about survive a batch that succeeds. If the batch set or removed any
value, then the new file has for each pair of names in the old file that no command is about a
single entry, spelled as in the old file at first and with the data that the old file has last, and
two such pairs of one key are in the order in which they first occur in the old file. If it did not,
then the old file is still there. -/
theorem applyToFile_keeps_unaddressed (wellFormed : disk.WellFormed)
    (there : disk.contents? (part.policyFile root) = some bytes)
    (read : PolicyFile.decode bytes = .ok old)
    (ran : runPlain (applyToFile root part mode commands) ⟨disk, mishaps⟩ = (.ok report, final)) :
    (report.set = 0 ∧ report.deleted = 0 ∧ final.disk = disk) ∨
    ∃ written new, final.disk.contents? (part.policyFile root) = some written ∧
      PolicyFile.decode written = .ok new ∧
      (∀ entry ∈ old, (∀ command ∈ commands, command.pair ≠ entry.pair) →
        RegistryTree.Merged old new entry.pair) ∧
      ∀ left ∈ old, ∀ right ∈ old, left.pair.1 = right.pair.1 →
        (∀ command ∈ commands, command.pair ≠ left.pair ∧ command.pair ≠ right.pair) →
        ((new.map PolicyEntry.pair).idxOf left.pair < (new.map PolicyEntry.pair).idxOf right.pair ↔
          (old.map PolicyEntry.pair).idxOf left.pair <
            (old.map PolicyEntry.pair).idxOf right.pair) := by
  obtain - | - | - | - | ⟨opened, succeeded, persisted⟩ := fileRun_of_applyToFile wellFormed ran
  rename_i tree next
  have sound := wellFormed_of_treeOf opened
  rw [Disk.readFile_of_contents? there, treeOf, loadTree, read] at opened
  obtain ⟨same, changes⟩ :=
    succeeded.spec ⟨disk, mishaps⟩ (changesFrom_opened (part.policyFile root) tree)
  cases persisted with
  | idle clean =>
    obtain ⟨set, deleted⟩ := succeeded.counts_of_clean final clean
    exact Or.inl ⟨set, deleted, rfl⟩
  | written dirty encoded _ there' =>
    have success := RegistryTree.afterCommands_of_run same
    have loaded := RegistryTree.loadedFrom_of_ofEntries opened
    refine Or.inr ⟨_, next.tree.entries, there',
      (sound.afterCommands success).decode_of_encode encoded, fun entry present elsewhere =>
        RegistryTree.merged_afterCommands sound loaded success present elsewhere, ?_⟩
    intro left _ right _ sameKey elsewhere
    exact RegistryTree.order_afterCommands sound loaded success sameKey
      (fun command member => (elsewhere command member).1)
      fun command member => (elsewhere command member).2

theorem applyToFile_keeps_unaddressed_foreign :
    ∃ (disk : Disk) (bytes written : List UInt8) (final : FaultyDisk) (new : List PolicyEntry),
      disk.WellFormed ∧
      disk.contents? (PolicySection.user.policyFile ⟨"GroupPolicy"⟩) = some bytes ∧
      PolicyFile.decode bytes =
        .ok [⟨"\\K\\", "A", 99, [1]⟩, ⟨"k", "B", 3, [2]⟩, ⟨"k", "a", 98, [3]⟩] ∧
      runPlain (applyToFile ⟨"GroupPolicy"⟩ .user .sequential [.delete "K" "b"])
        (⟨disk, []⟩ : FaultyDisk) = (.ok { deleted := 1 }, final) ∧
      final.disk.contents? (PolicySection.user.policyFile ⟨"GroupPolicy"⟩) = some written ∧
      PolicyFile.decode written = .ok new ∧
      new.filter (·.pair = foldedPair "K" "A") = [⟨"K", "A", 98, [3]⟩] := by
  obtain ⟨bytes, holds⟩ : ∃ bytes, bytes = PolicyFile.header ++
      PolicyFile.entryBytes ⟨"\\K\\", "A", 99, [1]⟩ ++
      PolicyFile.entryBytes ⟨"k", "B", 3, [2]⟩ ++ PolicyFile.entryBytes ⟨"k", "a", 98, [3]⟩ :=
    ⟨_, rfl⟩
  have decoded : PolicyFile.decode bytes =
      .ok [⟨"\\K\\", "A", 99, [1]⟩, ⟨"k", "B", 3, [2]⟩, ⟨"k", "a", 98, [3]⟩] := by
    rw [holds]
    exact PolicyFile.decode_of_encode (by simp [PolicyEntry.NulFree]) (by rfl)
  obtain ⟨disk, shape⟩ : ∃ disk : Disk, disk =
      ⟨[(["work", "GroupPolicy", "User", "Registry.pol"], .file bytes),
        (["work", "GroupPolicy", "User"], .directory), (["work", "GroupPolicy"], .directory),
        (["work"], .directory)], ["work"]⟩ := ⟨_, rfl⟩
  have wellFormed : disk.WellFormed := by
    rw [shape, holds]
    exact Disk.wellFormed_of_nodes (by decide) (by rfl)
  have there : disk.contents? (PolicySection.user.policyFile ⟨"GroupPolicy"⟩) = some bytes := by
    rw [shape, holds]
    rfl
  have read : (FileSystem.readFile (PolicySection.user.policyFile ⟨"GroupPolicy"⟩) :
      StateM FaultyDisk _).run ⟨disk, []⟩ = (.ok bytes, ⟨disk, []⟩) := by
    rw [shape, holds]
    rfl
  obtain ⟨final, ran⟩ : ∃ final, runPlain (applyToFile ⟨"GroupPolicy"⟩ .user .sequential
      [.delete "K" "b"]) (⟨disk, []⟩ : FaultyDisk) = (.ok { deleted := 1 }, final) := by
    refine ⟨⟨⟨[(["work", "GroupPolicy", "User", "Registry.pol"],
          .file (PolicyFile.header ++ PolicyFile.entryBytes ⟨"K", "A", 98, [3]⟩)),
        (["work", "GroupPolicy", "User"], .directory), (["work", "GroupPolicy"], .directory),
        (["work"], .directory)], ["work"]⟩, []⟩, ?_⟩
    rw [applyToFile_eq .sequential _ read, treeOf, loadTree, decoded, shape, holds]
    rfl
  rcases applyToFile_keeps_unaddressed wellFormed there decoded ran with
    ⟨-, undeleted, -⟩ | ⟨written, new, there', decoded', survive, -⟩
  · cases undeleted
  · have elsewhere : ∀ command ∈ [Command.delete "K" "b"], command.pair ≠
        PolicyEntry.pair ⟨"\\K\\", "A", 99, [1]⟩ := by
      decide
    obtain ⟨opener, first, last, opened, begun, ended, alone⟩ :=
      survive ⟨"\\K\\", "A", 99, [1]⟩ List.mem_cons_self elsewhere
    cases opened
    cases begun
    cases ended
    exact ⟨disk, bytes, written, final, new, wellFormed, there, decoded, ran, there', decoded',
      alone⟩

end Cli

end GroupPolicy
