import GroupPolicy.Proofs.Store.Memory
import GroupPolicy.Proofs.Store.Reordering

/-!
# What the counts of a batch account for

Every command of a batch that succeeds is counted once, by what it is to do and by whether its value
was in the tree just before it. What one command is counted as, and what it does to the size of the
tree, is `RegistryTree.accounts_of_run_singleton`. The counts of a batch are put together from those
of its commands, each one beside the tree that it found (`RegistryTree.FoundBy`), in
`RegistryTree.exists_accounts_of_run`.
-/

namespace GroupPolicy

open Batch

instance : DecidablePred Command.Removes
  | .set _ _ kind _ _ => inferInstanceAs (Decidable (kind = .none))
  | .delete _ _ => .isTrue trivial

/-- A tree holds a value under the names of a command, in whatever letter case. -/
def Command.LiveIn (command : Command) (tree : RegistryTree) : Prop :=
  (tree.get? command.key command.name).isSome = true

instance (command : Command) (tree : RegistryTree) : Decidable (command.LiveIn tree) :=
  inferInstanceAs (Decidable (_ = true))

namespace Command

variable {command : Command} {step : Step}

/-- The change that a command asks for is on its own names, and sets a value unless the command is
to remove one. -/
theorem treeCall_of_plan (planned : command.plan = .ok step) :
    step.treeCall.key = command.key ∧ step.treeCall.name = command.name ∧
      step.treeCall.stored?.isSome = decide ¬ command.Removes := by
  rcases step_of_plan planned with rfl | ⟨value, rfl⟩
  · have removes : command.Removes := exists_plan_remove_iff.1 ⟨_, _, planned⟩
    exact ⟨rfl, rfl, (decide_eq_false (not_not_intro removes)).symm⟩
  · have sets : ¬ command.Removes := fun removes => by
      obtain ⟨key, name, removed⟩ := exists_plan_remove_iff.2 removes
      cases planned.symm.trans removed
    exact ⟨rfl, rfl, (decide_eq_true sets).symm⟩

end Command

/-- The numbers of a report on commands, each of which has been executed on the tree beside it, from
one tree to the next. -/
structure ApplyReport.Accounts (report : ApplyReport) (commands : List Command)
    (trees : List RegistryTree) (tree next : RegistryTree) : Prop where
  total : report.set + report.deleted + report.absent = commands.length
  deleted : report.deleted =
    (commands.zip trees).countP fun (command, found) => command.Removes ∧ command.LiveIn found
  absent : report.absent =
    (commands.zip trees).countP fun (command, found) => command.Removes ∧ ¬ command.LiveIn found
  set : report.set = commands.countP fun command => ¬ command.Removes
  size : next.size + report.deleted = tree.size +
    (commands.zip trees).countP fun (command, found) => ¬ command.Removes ∧ ¬ command.LiveIn found

namespace ApplyReport.Accounts

variable {command : Command} {commands : List Command} {trees : List RegistryTree}
  {tree middle next : RegistryTree} {before after : ApplyReport}

theorem nil (tree : RegistryTree) : Accounts {} [] [] tree tree :=
  ⟨rfl, rfl, rfl, rfl, rfl⟩

theorem cons (first : Accounts before [command] [tree] tree middle)
    (rest : Accounts after commands trees middle next) :
    Accounts (before + after) (command :: commands) (tree :: trees) tree next := by
  have whole : command :: commands = [command] ++ commands := rfl
  have zipped : (command :: commands).zip (tree :: trees) =
      [command].zip [tree] ++ commands.zip trees := rfl
  have set : (before + after).set = before.set + after.set := rfl
  have deleted : (before + after).deleted = before.deleted + after.deleted := rfl
  have absent : (before + after).absent = before.absent + after.absent := rfl
  refine ⟨?_, ?_, ?_, ?_, ?_⟩
  · have one := first.total
    have others := rest.total
    rw [List.length_singleton] at one
    rw [set, deleted, absent, List.length_cons]
    omega
  · rw [deleted, first.deleted, rest.deleted, zipped, List.countP_append]
  · rw [absent, first.absent, rest.absent, zipped, List.countP_append]
  · rw [set, first.set, rest.set, whole, List.countP_append]
  · have one := first.size
    have others := rest.size
    rw [deleted, zipped, List.countP_append]
    omega

end ApplyReport.Accounts

namespace RegistryTree

variable {mode : ApplyMode} {command : Command} {commands : List Command}
  {tree next middle : RegistryTree} {trees : List RegistryTree} {report : ApplyReport}
  {step : Step}

/-- The trees that commands find, of which each is what the commands before have made of the
first. -/
structure FoundBy (tree : RegistryTree) (commands : List Command) (trees : List RegistryTree) :
    Prop where
  length_eq : trees.length = commands.length
  found : ∀ index found, trees[index]? = some found →
    tree.afterCommands (commands.take index) = .ok found

theorem FoundBy.cons (applied : command.applyTo tree = .ok middle)
    (rest : middle.FoundBy commands trees) :
    tree.FoundBy (command :: commands) (tree :: trees) where
  length_eq := congrArg Nat.succ rest.length_eq
  found
    | 0, found, same => congrArg Except.ok (Option.some.inj same)
    | index + 1, found, same => by
      rw [List.take_succ_cons, afterCommands_cons_of_ok applied]
      exact rest.found index found same

theorem decide_liveIn (accepted : AcceptedNames command.key command.name) :
    decide (command.LiveIn tree) = (findIn (foldedPair command.key command.name).1
      (foldedPair command.key command.name).2 tree.keys).isSome := by
  obtain ⟨⟨path, normalized⟩, -⟩ := accepted
  rw [← get?_eq_findIn normalized]
  exact Bool.decide_eq_true

/-- What the step of a command is counted as. -/
theorem counts_of_plan (planned : command.plan = .ok step)
    (accepted : AcceptedNames command.key command.name) :
    step.counts tree =
      if command.Removes then if command.LiveIn tree then { deleted := 1 } else { absent := 1 }
      else { set := 1 } := by
  obtain ⟨-, -, stores⟩ := Command.treeCall_of_plan planned
  rcases Command.step_of_plan planned with rfl | ⟨value, rfl⟩
  · rw [if_pos (not_not.1 (of_decide_eq_false stores.symm)), Step.counts, ← decide_liveIn accepted]
    simp only [decide_eq_true_eq]
  · rw [if_neg (of_decide_eq_true stores.symm), Step.counts]

theorem acceptedNames_of_plan (planned : command.plan = .ok step)
    (applied : step.treeCall.apply tree = .ok next) : AcceptedNames command.key command.name := by
  obtain ⟨key, name, -⟩ := Command.treeCall_of_plan planned
  rw [← key, ← name]
  exact TreeCall.exists_apply_eq_ok_iff.1 ⟨next, applied⟩

/-- A tree grows by a value that is set and was not there, and shrinks by one that is removed. -/
theorem size_of_plan (wellFormed : tree.WellFormed) (planned : command.plan = .ok step)
    (applied : step.treeCall.apply tree = .ok next) :
    next.size + (decide (command.LiveIn tree)).toNat =
      tree.size + (decide ¬ command.Removes).toNat := by
  obtain ⟨key, name, stores⟩ := Command.treeCall_of_plan planned
  rw [decide_liveIn (acceptedNames_of_plan planned applied), ← stores, ← key, ← name]
  exact TreeCall.size_apply wellFormed applied

/-- A command that succeeds is accounted for. -/
theorem accounts_of_run_singleton (wellFormed : tree.WellFormed)
    (ran : runPlain (run mode [command]) tree = (.ok report, next)) :
    report.Accounts [command] [tree] tree next := by
  obtain ⟨step, planned, applied, rfl⟩ := run_singleton_iff.1 ran
  have size := size_of_plan wellFormed planned applied
  rw [counts_of_plan planned (acceptedNames_of_plan planned applied)]
  by_cases removes : command.Removes
  · by_cases live : command.LiveIn tree
    · have shrunk : next.size + 1 = tree.size := by simpa [removes, live] using size
      constructor <;> simp [removes, live, shrunk]
    · have kept : next.size = tree.size := by simpa [removes, live] using size
      constructor <;> simp [removes, live, kept]
  · by_cases live : command.LiveIn tree
    · have replaced : next.size = tree.size := by simpa [removes, live] using size
      constructor <;> simp [removes, live, replaced]
    · have grown : next.size = tree.size + 1 := by simpa [removes, live] using size
      constructor <;> simp [removes, live, grown]

/-- Commands that succeed are accounted for beside the trees that they found. -/
theorem exists_accounts_of_run (wellFormed : tree.WellFormed)
    (ran : runPlain (run mode commands) tree = (.ok report, next)) :
    ∃ trees, tree.FoundBy commands trees ∧ report.Accounts commands trees tree next := by
  induction commands generalizing tree report with
  | nil =>
    rw [run_of_planned mode (rfl : [].mapM Command.plan = .ok [])] at ran
    cases ran
    exact ⟨[], ⟨rfl, nofun⟩, .nil next⟩
  | cons command commands ih =>
    obtain ⟨before, middle, after, onFirst, others, rfl⟩ := run_cons_iff.1 ran
    obtain ⟨step, planned, change, -⟩ := run_singleton_iff.1 onFirst
    have applied : command.applyTo tree = .ok middle := by
      rw [Command.applyTo, planned]
      exact change
    obtain ⟨trees, found, accounts⟩ := ih (wellFormed.run onFirst) others
    exact ⟨tree :: trees, found.cons applied,
      (accounts_of_run_singleton wellFormed onFirst).cons accounts⟩

end RegistryTree

/-- The report of a batch that succeeds on a store in memory accounts for what happened to the tree.
The store may hold any tree that comes from an empty or loaded one by sets and deletes. -/
theorem MemoryStore.report_accounts {start : RegistryTree}
    (origin : start = .empty ∨ ∃ loaded, RegistryTree.ofEntries loaded = .ok start)
    (calls : List TreeCall) {mode : ApplyMode} {commands : List Command}
    {store next : MemoryStore} {report : ApplyReport} (reached : store.tree = start.after calls)
    (applied : runPlain (apply mode commands) store = (.ok report, next)) :
    ∃ trees, store.tree.FoundBy commands trees ∧
      report.Accounts commands trees store.tree next.tree := by
  have begun : start.WellFormed := by
    rcases origin with rfl | ⟨loaded, opened⟩
    · exact RegistryTree.WellFormed.empty
    · exact RegistryTree.wellFormed_of_ofEntries opened
  have wellFormed : store.tree.WellFormed := reached ▸ begun.after calls
  obtain ⟨result, last, ran, onTree⟩ := apply_spec (m := Id) mode commands store
  cases ran.symm.trans applied
  exact RegistryTree.exists_accounts_of_run wellFormed onTree

theorem MemoryStore.report_accounts_recreated_key :
    let loaded : List PolicyEntry := [⟨"K", "N", 1, []⟩]
    let start : RegistryTree := ⟨[("k", ⟨"K", [("N", ⟨1, []⟩)]⟩)]⟩
    let calls : List TreeCall := [.set "j" "A" ⟨1, []⟩, .delete "j" "b", .set "" "A" ⟨1, []⟩]
    let store : MemoryStore := .ofTree ⟨[("j", ⟨"j", [("A", ⟨1, []⟩)]⟩),
      ("k", ⟨"K", [("N", ⟨1, []⟩)]⟩)]⟩
    let commands : List Command := [.delete "k\\" "n", .set "K" "N" .none .hex "zz",
      .set "\\k" "x" .binary .hex "01", .set "K" "X" .binary .hex "02", .set "J" "a" .none .text ""]
    let next : MemoryStore := ⟨⟨[("k", ⟨"k", [("x", ⟨3, [2]⟩)]⟩)]⟩, 1⟩
    RegistryTree.ofEntries loaded = .ok start ∧ store.tree = start.after calls ∧
      runPlain (apply .sequential commands) store =
        (.ok { set := 2, deleted := 2, absent := 1 }, next) ∧
      ∃ trees, store.tree.FoundBy commands trees ∧
        (commands.zip trees).countP (fun (command, found) =>
          ¬ command.Removes ∧ ¬ command.LiveIn found) = 1 := by
  intro loaded start calls store commands next
  have opened : RegistryTree.ofEntries loaded = .ok start := by rfl
  have reached : store.tree = start.after calls := by rfl
  have applied : runPlain (apply .sequential commands) store =
      (.ok { set := 2, deleted := 2, absent := 1 }, next) := by rfl
  obtain ⟨trees, found, accounts⟩ :=
    MemoryStore.report_accounts (Or.inr ⟨loaded, opened⟩) calls reached applied
  have size : 2 + 1 = 2 + _ := accounts.size
  exact ⟨opened, reached, applied, trees, found, (Nat.add_left_cancel size).symm⟩

end GroupPolicy
