import GroupPolicy.Proofs.Batch.Splitting
import GroupPolicy.Proofs.Store.Recorded
import GroupPolicy.Proofs.Store.SaveCases

/-!
# Batches on a store in a file

The commands of a batch on a store in a file do not depend on the files (`FileStore.RunsTo`), and
whether the store is marked as changed before them makes no difference but to the mark
(`RunsTo.marked`), which they set exactly if they set or remove a value (`Progress`). After commands
that succeed comes the save (`apply_cases`).
-/

namespace GroupPolicy.FileStore

open Batch

variable {σ : Type} [FileSystem (StateM σ)] {mode : ApplyMode} {commands : List Command}
  {store next : FileStore} {result : Except PolicyError ApplyReport}

/-- The store for changes in a file that holds a tree. -/
def opened (path : Path) (tree : RegistryTree) : FileStore :=
  { path, access := .readWrite, tree, dirty := false }

theorem changesFrom_opened (path : Path) (tree : RegistryTree) :
    ChangesFrom path tree (opened path tree) :=
  ⟨rfl, rfl, fun _ => rfl⟩

/-- The commands of a batch on a store in a file come to a result and leave another store, whatever
the files are, and leave the files as they are. -/
def RunsTo (σ : Type) [FileSystem (StateM σ)] (mode : ApplyMode) (commands : List Command)
    (store : FileStore) (result : Except PolicyError ApplyReport) (next : FileStore) : Prop :=
  ∀ files : σ, runPlain (run mode commands) (store, files) = (result, next, files)

/-- The commands of a batch on a writable store come to what they come to on its tree. -/
theorem exists_runsTo (σ : Type) [FileSystem (StateM σ)] (mode : ApplyMode)
    (commands : List Command) {path : Path} {start : RegistryTree}
    (changes : ChangesFrom path start store) :
    ∃ result next, RunsTo σ mode commands store result next ∧
      runPlain (run mode commands) store.tree = (result, next.tree) ∧
      ChangesFrom path start next := by
  obtain ⟨result, next, ran, same, kept⟩ :=
    (followsTree (m := StateM σ) path start).run mode commands store changes
  refine ⟨result, next, fun files => ?_, same, kept⟩
  rw [← joint_run]
  exact joint_eq (by rw [ran]; rfl)

namespace RunsTo

theorem unique {result' : Except PolicyError ApplyReport} {next' : FileStore}
    (ran : RunsTo σ mode commands store result next)
    (ran' : RunsTo σ mode commands store result' next') (files : σ) :
    result = result' ∧ next = next' := by
  have same := (ran files).symm.trans (ran' files)
  exact ⟨congrArg Prod.fst same, congrArg (fun ended => ended.2.1) same⟩

/-- Commands keep a writable store one, and make of its tree what they make of a tree. -/
theorem spec (ran : RunsTo σ mode commands store result next) (files : σ) {path : Path}
    {start : RegistryTree} (changes : ChangesFrom path start store) :
    runPlain (run mode commands) store.tree = (result, next.tree) ∧
      ChangesFrom path start next := by
  obtain ⟨result', next', ran', same, kept⟩ := exists_runsTo σ mode commands changes
  obtain ⟨rfl, rfl⟩ := ran.unique ran' files
  exact ⟨same, kept⟩

/-! ## Two batches in a row -/

variable {first second : List Command} {firstMode secondMode : ApplyMode} {middle : FileStore}
  {before after total : ApplyReport}

theorem append (mode : ApplyMode) (ran : RunsTo σ firstMode first store (.ok before) middle)
    (ran' : RunsTo σ secondMode second middle (.ok after) next) :
    RunsTo σ mode (first ++ second) store (.ok (before + after)) next :=
  fun files => (run_append_iff mode firstMode secondMode).2
    ⟨before, (middle, files), after, ran files, ran' files, rfl⟩

theorem of_append (firstMode secondMode : ApplyMode)
    (ran : RunsTo σ mode (first ++ second) store (.ok total) next) (files : σ) {path : Path}
    {start : RegistryTree} (changes : ChangesFrom path start store) :
    ∃ before middle after, RunsTo σ firstMode first store (.ok before) middle ∧
      RunsTo σ secondMode second middle (.ok after) next := by
  obtain ⟨before, state, after, done, done', -⟩ :=
    (run_append_iff mode firstMode secondMode).1 (ran files)
  obtain ⟨result, middle, ran, -, kept⟩ := exists_runsTo σ firstMode first changes
  cases (ran files).symm.trans done
  obtain ⟨result, last, ran', -, -⟩ := exists_runsTo σ secondMode second kept
  cases (ran' files).symm.trans done'
  exact ⟨before, middle, after, ran, ran'⟩

end RunsTo

/-! ## The mark of changes -/

/-- A store that is marked as changed. -/
def marked (store : FileStore) : FileStore :=
  { store with dirty := true }

theorem setValue_marked (key name : String) (value : RegistryValue) :
    store.marked.setValue key name value =
      ((store.setValue key name value).1, (store.setValue key name value).2.marked) := by
  have same : store.marked.treeAfterSet key name value = store.treeAfterSet key name value := rfl
  rw [setValue, setValue, same]
  cases store.treeAfterSet key name value with
  | ok tree => rfl
  | error error => rfl

theorem deleteValue_marked (key name : String) :
    store.marked.deleteValue key name =
      ((store.deleteValue key name).1, (store.deleteValue key name).2.marked) := by
  have same : store.marked.treeAfterDelete key name = store.treeAfterDelete key name := rfl
  rw [deleteValue, deleteValue, same]
  cases store.treeAfterDelete key name with
  | ok changes => rfl
  | error error => rfl

/-- Computations on a store that does not say whether it is marked are related to themselves. -/
def markedSimulation : Simulation (StateM (FileStore × σ)) (StateM (FileStore × σ)) where
  Related left right := ∀ store files, runPlain right (marked store, files) =
    ((runPlain left (store, files)).1, (runPlain left (store, files)).2.1.marked,
      (runPlain left (store, files)).2.2)
  lift _ _ _ := rfl
  bind first rest store files := by
    rw [runPlain_bind, runPlain_bind, first store files]
    rcases runPlain _ (store, files) with ⟨error | value, middle, after⟩
    · rfl
    · exact rest value middle after
  setValue key name value store files :=
    congrArg (fun ended => (ended.1, ended.2, files)) (setValue_marked key name value)
  deleteValue key name store files :=
    congrArg (fun ended => (ended.1, ended.2, files)) (deleteValue_marked key name)

/-- Commands do on a marked store what they do on the store, and leave it marked. -/
theorem RunsTo.marked (ran : RunsTo σ mode commands store result next) :
    RunsTo σ mode commands store.marked result next.marked := by
  intro files
  rw [markedSimulation.run mode commands store files, ran files]

/-- A store with changes is one that was just opened with its tree, but for the mark. -/
theorem ChangesFrom.eq_opened {path : Path} {start : RegistryTree}
    (changes : ChangesFrom path start store) :
    store = { opened path store.tree with dirty := store.dirty } := by
  obtain ⟨path', access, tree, dirty⟩ := store
  obtain ⟨rfl, rfl, -⟩ := changes
  rfl

/-- Commands do on a store with changes what they do on one that was just opened with its tree. -/
theorem RunsTo.reopened {path : Path} {start : RegistryTree}
    (changes : ChangesFrom path start store)
    (ran : RunsTo σ mode commands (opened path store.tree) result next) :
    ∃ last, RunsTo σ mode commands store result last ∧ last.tree = next.tree ∧
      last.dirty = (store.dirty || next.dirty) := by
  have shape := changes.eq_opened
  cases dirty : store.dirty with
  | false =>
    rw [dirty] at shape
    refine ⟨next, ?_, rfl, (Bool.false_or _).symm⟩
    rw [shape]
    exact ran
  | true =>
    rw [dirty] at shape
    refine ⟨next.marked, ?_, rfl, (Bool.true_or _).symm⟩
    rw [shape]
    exact ran.marked

/-- Steps that succeed lead from a store and counts to another store and counts. The store may be
used for the same, and it is marked exactly if it was marked before or a value that was set or
removed has been counted since. -/
structure Progress (store : FileStore) (before : ApplyReport) (next : FileStore)
    (report : ApplyReport) : Prop where
  access : next.access = store.access
  set_le : before.set ≤ report.set
  deleted_le : before.deleted ≤ report.deleted
  dirty_iff : next.dirty = true ↔
    store.dirty = true ∨ before.set < report.set ∨ before.deleted < report.deleted

namespace Progress

variable {middle : FileStore} {before counted report : ApplyReport}

theorem refl (store : FileStore) (report : ApplyReport) : Progress store report store report :=
  ⟨rfl, le_rfl, le_rfl, by simp⟩

theorem trans (first : Progress store before middle counted)
    (second : Progress middle counted next report) : Progress store before next report := by
  obtain ⟨access, set, deleted, dirty⟩ := first
  obtain ⟨access', set', deleted', dirty'⟩ := second
  have split : before.set < report.set ↔ before.set < counted.set ∨ counted.set < report.set := by
    omega
  have split' : before.deleted < report.deleted ↔
      before.deleted < counted.deleted ∨ counted.deleted < report.deleted := by
    omega
  refine ⟨access'.trans access, set.trans set', deleted.trans deleted', ?_⟩
  rw [dirty', dirty, split, split']
  simp only [or_assoc, or_left_comm]

end Progress

theorem execute_progress {before report : ApplyReport} {step : Step} {files after : σ}
    (ran : runPlain (execute before step) (store, files) = (.ok report, next, after)) :
    Progress store before next report := by
  cases step with
  | write key name value =>
    obtain ⟨_, ⟨middle, _⟩, asked, done⟩ := runPlain_bind_eq_ok_iff.1 ran
    cases done
    have answer : store.setValue key name value = (.ok (), next) :=
      congrArg (fun ended => (ended.1, ended.2.1)) asked
    rw [setValue] at answer
    cases set : store.treeAfterSet key name value with
    | error error =>
      rw [set] at answer
      cases answer
    | ok tree =>
      rw [set] at answer
      cases answer
      exact ⟨rfl, Nat.le_succ _, le_rfl, by simp⟩
  | remove key name =>
    obtain ⟨removed, ⟨middle, _⟩, asked, done⟩ := runPlain_bind_eq_ok_iff.1 ran
    have answer : store.deleteValue key name = (.ok removed, middle) :=
      congrArg (fun ended => (ended.1, ended.2.1)) asked
    rw [deleteValue] at answer
    cases deleted : store.treeAfterDelete key name with
    | error error =>
      rw [deleted] at answer
      cases answer
    | ok changes =>
      rw [deleted] at answer
      cases answer
      cases removed : changes.1 with
      | true =>
        rw [removed] at done
        cases done
        exact ⟨rfl, le_rfl, Nat.le_succ _, by simp⟩
      | false =>
        rw [removed] at done
        cases done
        exact ⟨rfl, le_rfl, le_rfl, by simp⟩

theorem executeAll_progress {before report : ApplyReport} {steps : List Step} {files after : σ}
    (ran : runPlain (executeAll before steps) (store, files) = (.ok report, next, after)) :
    Progress store before next report := by
  induction steps generalizing before store files with
  | nil =>
    cases ran
    exact .refl _ _
  | cons step steps ih =>
    obtain ⟨counted, ⟨middle, _⟩, first, rest⟩ := runPlain_bind_eq_ok_iff.1 ran
    exact (execute_progress first).trans (ih rest)

/-- Commands that succeed make progress from no counts to their report. -/
theorem run_progress {report : ApplyReport} {files after : σ}
    (ran : runPlain (run mode commands) (store, files) = (.ok report, next, after)) :
    Progress store {} next report := by
  obtain ⟨steps, planned⟩ := exists_steps_of_run ran
  rw [run_of_planned mode planned] at ran
  exact executeAll_progress ran

/-- Commands that leave a store without the mark have set nothing and removed nothing. -/
theorem RunsTo.counts_of_clean {report : ApplyReport}
    (ran : RunsTo σ mode commands store (.ok report) next) (files : σ)
    (clean : next.dirty = false) : report.set = 0 ∧ report.deleted = 0 := by
  have unmarked : ¬ next.dirty = true := Bool.eq_false_iff.1 clean
  rw [(run_progress (ran files)).dirty_iff, not_or, not_or] at unmarked
  exact ⟨Nat.eq_zero_of_not_pos unmarked.2.1, Nat.eq_zero_of_not_pos unmarked.2.2⟩

/-! ## Saving at the end -/

/-- A batch whose commands succeed comes to what the save after them comes to. -/
theorem apply_of_runsTo {files after : σ} {report : ApplyReport} {last : FileStore}
    {answer : Except PolicyError Unit} (ran : RunsTo σ mode commands store (.ok report) next)
    (saved : (next.save : StateM σ _).run files = ((answer, last), after)) :
    ((apply mode commands :
      ExceptT PolicyError (StateT FileStore (StateM σ)) ApplyReport).run.run store).run files =
        ((answer.map fun _ => report, last), after) := by
  have asked : runPlain PolicyStore.save (next, files) = (answer, last, after) :=
    answer_save_joint saved
  refine eq_of_joint ?_
  rw [joint_apply, apply, runPlain_bind, ran files]
  dsimp only
  rw [runPlain_bind, asked]
  cases answer with
  | error error => rfl
  | ok done => rfl

/-- A batch fails with its commands, or its commands succeed and it comes to what the save comes
to. -/
theorem apply_cases {files after : σ} (writable : store.access = .readWrite)
    (applied : ((apply mode commands :
      ExceptT PolicyError (StateT FileStore (StateM σ)) ApplyReport).run.run store).run files =
        ((result, next), after)) :
    (∃ error, RunsTo σ mode commands store (.error error) next ∧ result = .error error ∧
      after = files) ∨
    (∃ report middle answer, RunsTo σ mode commands store (.ok report) middle ∧
      Saved middle files answer next after ∧ result = answer.map fun _ => report) := by
  have start : ChangesFrom store.path store.tree store := .refl writable
  obtain ⟨reached, middle, ran, -, kept⟩ := exists_runsTo σ mode commands start
  cases reached with
  | error error =>
    have together := joint_eq applied
    rw [joint_apply, apply, runPlain_bind, ran files] at together
    cases together
    exact Or.inl ⟨error, ran, rfl, rfl⟩
  | ok report =>
    rcases saved : (middle.save : StateM σ _).run files with ⟨⟨answer, last⟩, final⟩
    cases (apply_of_runsTo ran saved).symm.trans applied
    exact Or.inr ⟨report, middle, answer, ran, saved_of_writable kept.writable saved, rfl⟩

/-- A batch succeeds only on a store that may be changed. -/
theorem writable_of_apply {files after : σ} {report : ApplyReport}
    (applied : ((apply mode commands :
      ExceptT PolicyError (StateT FileStore (StateM σ)) ApplyReport).run.run store).run files =
        ((.ok report, next), after)) : store.access = .readWrite := by
  have together := joint_eq applied
  rw [joint_apply, apply, runPlain_bind_eq_ok_iff] at together
  obtain ⟨counted, ⟨middle, later⟩, ran, rest⟩ := together
  obtain ⟨_, ⟨last, final⟩, asked, -⟩ := runPlain_bind_eq_ok_iff.1 rest
  have saved : (middle.save : StateM σ _).run later = ((.ok (), last), final) := eq_of_joint asked
  rw [← (run_progress ran).access]
  cases access : middle.access with
  | readWrite => rfl
  | readOnly =>
    rw [save, pending_of_readOnly access] at saved
    cases saved

end GroupPolicy.FileStore
