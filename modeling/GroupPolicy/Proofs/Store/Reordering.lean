import GroupPolicy.Proofs.Store.Applying
import GroupPolicy.Proofs.Store.Memory
import GroupPolicy.Proofs.Tree.Commuting

/-!
# Batches in another order

Commands on different keys can change places (`RegistryTree.run_swap`): what a command reads, counts
and changes is in its own key. So a batch that is put in another order in which the commands on each
key keep theirs comes to the same report and the same tree, and on a store in a file to the same
files (`reordered_batch_alike`).
-/

namespace List

variable {α β : Type} {f : α → β}

/-- A list becomes another when neighbours whose images differ change places, again and again. -/
inductive Swapped (f : α → β) : List α → List α → Prop
  | refl (xs : List α) : Swapped f xs xs
  | cons (x : α) {xs ys : List α} : Swapped f xs ys → Swapped f (x :: xs) (x :: ys)
  | swap {x y : α} (xs : List α) : f x ≠ f y → Swapped f (x :: y :: xs) (y :: x :: xs)
  | trans {xs ys zs : List α} : Swapped f xs ys → Swapped f ys zs → Swapped f xs zs

/-- An element is moved past others whose images differ from its own. -/
theorem Swapped.past {x : α} {front : List α} (apart : ∀ y ∈ front, f y ≠ f x) (back : List α) :
    Swapped f (x :: (front ++ back)) (front ++ x :: back) := by
  induction front with
  | nil => exact .refl _
  | cons y front ih =>
    rw [forall_mem_cons] at apart
    exact (Swapped.swap (front ++ back) apart.1.symm).trans (.cons y (ih apart.2))

/-- Two lists in which the elements of each image are the same, in the same order, differ by swaps
of neighbours whose images differ. -/
theorem swapped_of_filter_eq [DecidableEq β] {xs ys : List α}
    (same : ∀ image, ys.filter (f · = image) = xs.filter (f · = image)) : Swapped f xs ys := by
  -- On the first list: its head is the first of its image in the second, too.
  induction xs generalizing ys with
  | nil =>
    cases ys with
    | nil => exact .refl []
    | cons y ys =>
      have none := same (f y)
      rw [filter_cons_of_pos (p := (f · = f y)) (decide_eq_true rfl)] at none
      cases none
  | cons x xs ih =>
    have first := same (f x)
    rw [filter_cons_of_pos (p := (f · = f x)) (decide_eq_true rfl), filter_eq_cons_iff] at first
    obtain ⟨front, back, rfl, before, -, after⟩ := first
    have apart : ∀ y ∈ front, f y ≠ f x := fun y member equal =>
      before y member (decide_eq_true equal)
    refine (Swapped.cons x (ih fun image => ?_)).trans (.past apart back)
    by_cases own : f x = image
    · have none : front.filter (f · = f x) = [] := filter_eq_nil_iff.2 before
      rw [← own, filter_append, none, after]
      rfl
    · have others := same image
      rw [filter_append, filter_cons_of_neg (by rwa [decide_eq_true_eq]),
        filter_cons_of_neg (by rwa [decide_eq_true_eq]), ← filter_append] at others
      exact others

end List

namespace GroupPolicy

open Batch

/-- The folded path of the key that a command is about. -/
def Command.foldedKey (command : Command) : String :=
  fold (KeyPath.stripped command.key)

/-- Commands are put in another order, but those on one key are not. -/
structure Reordered (commands reordered : List Command) : Prop where
  perm : reordered.Perm commands
  keeps : ∀ foldedPath, reordered.filter (·.foldedKey = foldedPath) =
    commands.filter (·.foldedKey = foldedPath)

/-- The change that a command asks for is on the key that the command is about. -/
theorem Command.path_treeCall {command : Command} {step : Step}
    (planned : command.plan = .ok step) : step.treeCall.pair.1 = command.foldedKey := by
  rcases Command.step_of_plan planned with rfl | ⟨value, rfl⟩
  · rfl
  · rfl

theorem Batch.run_cons_iff {σ : Type} [PolicyStore (StateM σ)] {mode : ApplyMode}
    {command : Command} {commands : List Command} {state next : σ} {total : ApplyReport} :
    runPlain (run mode (command :: commands)) state = (.ok total, next) ↔
      ∃ before middle after, runPlain (run mode [command]) state = (.ok before, middle) ∧
        runPlain (run mode commands) middle = (.ok after, next) ∧ total = before + after := by
  rw [← List.singleton_append, run_append_iff mode mode mode]

namespace RegistryTree

variable {mode : ApplyMode} {first second command : Command} {commands reordered : List Command}
  {tree middle next : RegistryTree} {report before after : ApplyReport}

/-- A command that succeeds on a tree takes its step, which is counted. -/
theorem run_singleton_iff :
    runPlain (run mode [command]) tree = (.ok report, next) ↔
      ∃ step, command.plan = .ok step ∧ step.treeCall.apply tree = .ok next ∧
        report = step.counts tree := by
  have taken {step : Step} (planned : command.plan = .ok step) :
      runPlain (run mode [command]) tree = (.ok report, next) ↔
        step.treeCall.apply tree = .ok next ∧ report = step.counts tree := by
    have steps : [command].mapM Command.plan = .ok [step] := by
      rw [List.mapM_cons, planned]
      rfl
    have single : (executeAll {} [step] : ExceptT PolicyError (StateM RegistryTree) ApplyReport) =
        execute {} step := bind_pure _
    rw [run_of_planned mode steps, single]
    rcases runPlain_execute {} step tree with ⟨last, ran, change⟩ | ⟨error, ran, change⟩
    · rw [ran, change, ApplyReport.zero_add]
      simp only [Prod.mk.injEq, Except.ok.injEq]
      exact ⟨fun same => ⟨same.2, same.1.symm⟩, fun same => ⟨same.2.symm, same.1⟩⟩
    · rw [ran, change]
      exact ⟨nofun, nofun⟩
  constructor
  · intro ran
    obtain ⟨steps, planned⟩ := exists_steps_of_run ran
    rw [Except.mapM_eq_ok_iff, List.forall₂_cons_left_iff] at planned
    obtain ⟨step, -, planned, -, -⟩ := planned
    exact ⟨step, planned, (taken planned).1 ran⟩
  · rintro ⟨step, planned, change⟩
    exact (taken planned).2 change

/-- A change of one key does not change what a step on another one is counted as. -/
theorem counts_apply {call : TreeCall} {step : Step} (wellFormed : tree.WellFormed)
    (applied : call.apply tree = .ok next) (apart : call.pair.1 ≠ step.treeCall.pair.1) :
    step.counts next = step.counts tree := by
  cases step with
  | write key name value => rfl
  | remove key name =>
    have elsewhere : foldedPair key name ≠ call.pair := fun same =>
      apart (congrArg Prod.fst same).symm
    rw [Step.counts, Step.counts, TreeCall.findIn_apply wellFormed applied, if_neg elsewhere]

/-- Two commands on different keys that succeed can be executed in the other order, and come to the
same counts and the same tree. -/
theorem run_swap (wellFormed : tree.WellFormed) (apart : first.foldedKey ≠ second.foldedKey)
    (ran : runPlain (run mode [first]) tree = (.ok before, middle))
    (ran' : runPlain (run mode [second]) middle = (.ok after, next)) :
    ∃ other, runPlain (run mode [second]) tree = (.ok after, other) ∧
      runPlain (run mode [first]) other = (.ok before, next) := by
  obtain ⟨step, planned, applied, rfl⟩ := run_singleton_iff.1 ran
  obtain ⟨step', planned', applied', rfl⟩ := run_singleton_iff.1 ran'
  have apart : step.treeCall.pair.1 ≠ step'.treeCall.pair.1 := by
    rwa [Command.path_treeCall planned, Command.path_treeCall planned']
  obtain ⟨other, begun, ended⟩ := TreeCall.apply_swap wellFormed apart applied applied'
  exact ⟨other, run_singleton_iff.2 ⟨step', planned', begun, counts_apply wellFormed applied apart⟩,
    run_singleton_iff.2 ⟨step, planned, ended, (counts_apply wellFormed begun apart.symm).symm⟩⟩

theorem WellFormed.run (wellFormed : tree.WellFormed)
    (ran : runPlain (run mode commands) tree = (.ok report, next)) : next.WellFormed :=
  wellFormed.afterCommands (afterCommands_of_run ran)

/-- Commands whose neighbours on different keys have changed places come to the same. -/
theorem run_swapped (swapped : List.Swapped Command.foldedKey commands reordered)
    (wellFormed : tree.WellFormed)
    (ran : runPlain (run mode commands) tree = (.ok report, next)) :
    runPlain (run mode reordered) tree = (.ok report, next) := by
  induction swapped generalizing tree report next with
  | refl => exact ran
  | cons command _ ih =>
    obtain ⟨before, middle, after, ran, rest, same⟩ := run_cons_iff.1 ran
    exact run_cons_iff.2 ⟨before, middle, after, ran, ih (wellFormed.run ran) rest, same⟩
  | swap commands apart =>
    obtain ⟨first, middle, _, onFirst, others, rfl⟩ := run_cons_iff.1 ran
    obtain ⟨second, last, after, onSecond, rest, rfl⟩ := run_cons_iff.1 others
    obtain ⟨other, begun, ended⟩ := run_swap wellFormed apart onFirst onSecond
    refine run_cons_iff.2 ⟨second, other, first + after, begun, ?_, ?_⟩
    · exact run_cons_iff.2 ⟨first, last, after, ended, rest, rfl⟩
    · exact ApplyReport.add_left_comm first second after
  | trans _ _ ih ih' => exact ih' wellFormed (ih wellFormed ran)

theorem run_reordered (reorder : Reordered commands reordered) (wellFormed : tree.WellFormed)
    (ran : runPlain (run mode commands) tree = (.ok report, next)) :
    runPlain (run mode reordered) tree = (.ok report, next) :=
  run_swapped (List.swapped_of_filter_eq reorder.keeps) wellFormed ran

end RegistryTree

/-! ## On stores -/

/-- Batches whose commands come to the same on a store come to the same there. -/
theorem Batch.apply_congr {σ : Type} [PolicyStore (StateM σ)] {mode : ApplyMode}
    {commands others : List Command} {state : σ}
    (same : runPlain (run mode others) state = runPlain (run mode commands) state) :
    runPlain (apply mode others) state = runPlain (apply mode commands) state := by
  rw [apply, apply, runPlain_bind, runPlain_bind, same]

variable {mode : ApplyMode} {commands reordered : List Command} {report : ApplyReport}

theorem MemoryStore.apply_reordered {store next : MemoryStore}
    (reorder : Reordered commands reordered) (wellFormed : store.tree.WellFormed)
    (applied : runPlain (apply mode commands) store = (.ok report, next)) :
    runPlain (apply mode reordered) store = (.ok report, next) := by
  have follows : FollowsTree Id tree fun other => other.saves = store.saves :=
    followsTree store.saves
  obtain ⟨result, ⟨tree, saves⟩, ran, onTree, unsaved⟩ := follows.run mode commands store rfl
  obtain ⟨result', ⟨tree', saves'⟩, ran', onTree', unsaved'⟩ := follows.run mode reordered store rfl
  have started : runPlain (run mode commands) store = (result, ⟨tree, saves⟩) := ran
  have started' : runPlain (run mode reordered) store = (result', ⟨tree', saves'⟩) := ran'
  cases result with
  | error error =>
    rw [apply, runPlain_bind, started] at applied
    cases applied
  | ok counted =>
    cases onTree'.symm.trans (RegistryTree.run_reordered reorder wellFormed onTree)
    rw [apply_congr (started'.trans ?_), applied]
    rw [started, show saves' = saves from unsaved'.trans unsaved.symm]

namespace FileStore

variable {σ : Type} [FileSystem (StateM σ)] {store next : FileStore}

theorem RunsTo.of_reordered (ran : RunsTo σ mode commands store (.ok report) next) (files : σ)
    (reorder : Reordered commands reordered) (wellFormed : store.tree.WellFormed)
    (writable : store.access = .readWrite) : RunsTo σ mode reordered store (.ok report) next := by
  have start : ChangesFrom store.path store.tree store := .refl writable
  obtain ⟨onTree, kept⟩ := ran.spec files start
  obtain ⟨result, last, ran', onTree', kept'⟩ := exists_runsTo σ mode reordered start
  obtain ⟨rfl, sameTree⟩ := Prod.mk.inj
    (onTree'.symm.trans (RegistryTree.run_reordered reorder wellFormed onTree))
  have sameMark : last.dirty = next.dirty := by
    rw [Bool.eq_iff_iff, (run_progress (ran' files)).dirty_iff,
      (run_progress (ran files)).dirty_iff]
  rwa [kept.eq_opened, ← sameTree, ← sameMark, ← kept'.eq_opened]

theorem apply_reordered {files after : σ} (reorder : Reordered commands reordered)
    (wellFormed : store.tree.WellFormed)
    (applied : ((apply mode commands :
      ExceptT PolicyError (StateT FileStore (StateM σ)) ApplyReport).run.run store).run files =
        ((.ok report, next), after)) :
    ((apply mode reordered :
      ExceptT PolicyError (StateT FileStore (StateM σ)) ApplyReport).run.run store).run files =
        ((.ok report, next), after) := by
  have writable := writable_of_apply applied
  rcases apply_cases writable applied with
    ⟨error, -, failed, -⟩ | ⟨total, middle, answer, ran, -, -⟩
  · cases failed
  · have same : runPlain (run mode reordered) (store, files) =
        runPlain (run mode commands) (store, files) :=
      (ran.of_reordered files reorder wellFormed writable files).trans (ran files).symm
    refine eq_of_joint ?_
    rw [joint_apply, apply_congr same, ← joint_apply]
    exact joint_eq applied

end FileStore

/-- A batch that succeeds on a tree that was loaded also succeeds there in another order that keeps
the commands on each key in theirs, with the same report. It leaves the same store in memory, and
the same store in a file with the same files, whatever the file system is. -/
theorem reordered_batch_alike {loaded : List PolicyEntry} {tree : RegistryTree}
    (opened : RegistryTree.ofEntries loaded = .ok tree) (reorder : Reordered commands reordered)
    (mode : ApplyMode) :
    (∀ (store next : MemoryStore) (report : ApplyReport), store.tree = tree →
      runPlain (apply mode commands) store = (.ok report, next) →
      runPlain (apply mode reordered) store = (.ok report, next)) ∧
    (∀ (σ : Type) [FileSystem (StateM σ)] (store next : FileStore) (files after : σ)
      (report : ApplyReport), store.tree = tree →
      ((apply mode commands :
        ExceptT PolicyError (StateT FileStore (StateM σ)) ApplyReport).run.run store).run files =
          ((.ok report, next), after) →
      ((apply mode reordered :
        ExceptT PolicyError (StateT FileStore (StateM σ)) ApplyReport).run.run store).run files =
          ((.ok report, next), after)) := by
  have wellFormed := RegistryTree.wellFormed_of_ofEntries opened
  constructor
  · rintro store next report rfl applied
    exact MemoryStore.apply_reordered reorder wellFormed applied
  · rintro σ _ store next files after report rfl applied
    exact FileStore.apply_reordered reorder wellFormed applied

theorem reordered_batch_alike_interleaved :
    let loaded : List PolicyEntry := [⟨"J", "A", 1, []⟩]
    let tree : RegistryTree := ⟨[("j", ⟨"J", [("A", ⟨1, []⟩)]⟩)]⟩
    let commands : List Command := [.set "K\\" "x" .binary .hex "01", .delete "j" "a",
      .set "\\k" "X" .binary .hex "02", .set "j" "B" .binary .hex ""]
    let reordered : List Command := [.delete "j" "a", .set "j" "B" .binary .hex "",
      .set "K\\" "x" .binary .hex "01", .set "\\k" "X" .binary .hex "02"]
    let copy : MemoryStore := .ofTree tree
    let file : FileStore := .opened ⟨"Registry.pol"⟩ tree
    RegistryTree.ofEntries loaded = .ok tree ∧ Reordered commands reordered ∧
      (∃ next, runPlain (apply .sequential commands) copy =
          (.ok { set := 3, deleted := 1 }, next) ∧
        runPlain (apply .sequential reordered) copy = (.ok { set := 3, deleted := 1 }, next)) ∧
      ∃ next after, ((apply .sequential commands :
          ExceptT PolicyError (StateT FileStore (StateM Disk)) ApplyReport).run.run file).run
            .empty = ((.ok { set := 3, deleted := 1 }, next), after) ∧
        ((apply .sequential reordered :
          ExceptT PolicyError (StateT FileStore (StateM Disk)) ApplyReport).run.run file).run
            .empty = ((.ok { set := 3, deleted := 1 }, next), after) := by
  intro loaded tree commands reordered copy file
  have opened : RegistryTree.ofEntries loaded = .ok tree := by rfl
  have reorder : Reordered commands reordered := by
    refine ⟨by decide, fun foldedPath => ?_⟩
    by_cases onJ : "j" = foldedPath
    · rw [← onJ]
      rfl
    · by_cases onK : "k" = foldedPath
      · rw [← onK]
        rfl
      · have none (batch : List Command) (keys : batch.map (·.foldedKey) ⊆ ["j", "k"]) :
            batch.filter (·.foldedKey = foldedPath) = [] := by
          refine List.filter_eq_nil_iff.2 fun command member same => ?_
          have among := keys (List.mem_map_of_mem member)
          rw [of_decide_eq_true same] at among
          simp [Ne.symm onJ, Ne.symm onK] at among
        rw [none commands (by decide), none reordered (by decide)]
  obtain ⟨onCopy, onFile⟩ := reordered_batch_alike opened reorder .sequential
  obtain ⟨next, ran⟩ : ∃ next, runPlain (apply .sequential commands) copy =
      (.ok { set := 3, deleted := 1 }, next) := ⟨_, rfl⟩
  obtain ⟨last, after, ran'⟩ : ∃ last after, ((apply .sequential commands :
      ExceptT PolicyError (StateT FileStore (StateM Disk)) ApplyReport).run.run file).run
        .empty = ((.ok { set := 3, deleted := 1 }, last), after) := by
    dsimp +zetaDelta only
    exact ⟨_, _, rfl⟩
  exact ⟨opened, reorder, ⟨next, ran, onCopy copy next _ rfl ran⟩,
    ⟨last, after, ran', onFile Disk file last _ _ _ rfl ran'⟩⟩

end GroupPolicy
