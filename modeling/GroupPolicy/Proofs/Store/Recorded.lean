import GroupPolicy.Proofs.Store.Saving

/-!
# Recorded stores that hold a tree

The commands of a batch on a recorded store that follows its tree make the same calls, and come to
the same, as on the recorded tree (`FollowsTree.ran`). So do the commands on two stores with the
same tree. For stores in files, the store and the files together are the state (`FileStore.joint`),
whatever the file system is.
-/

namespace GroupPolicy

open Batch

namespace Recording

variable {recording : Recording}

theorem recordChanges_append (calls later : List StoreCall) :
    recording.recordChanges (calls ++ later) =
      (recording.recordChanges calls).recordChanges later :=
  List.foldl_append

end Recording

section Following

variable {S α β : Type} {tree : S → RegistryTree} {kept : S → Prop}

/-- A computation on a recorded store gives the result of a computation on a recorded tree, makes
the same calls, none of which is a save, and changes the tree of the store in the same way. -/
def FollowsRecorded (tree : S → RegistryTree) (kept : S → Prop)
    (onStores : ExceptT PolicyError (StateT Recording (StateM S)) α)
    (onTrees : ExceptT PolicyError (StateT Recording (StateM RegistryTree)) α) : Prop :=
  ∀ recording store, recording.Quiet → kept store → ∃ result calls next, .save ∉ calls ∧
    runRecorded onStores recording store = ((result, recording.recordChanges calls), next) ∧
    runRecorded onTrees recording (tree store) =
      ((result, recording.recordChanges calls), tree next) ∧
    kept next

namespace FollowsRecorded

theorem lift (result : Except PolicyError α) :
    FollowsRecorded tree kept
      (liftM result : ExceptT PolicyError (StateT Recording (StateM S)) α) (liftM result) :=
  fun _ store _ holds => ⟨result, [], store, List.not_mem_nil, rfl, rfl, holds⟩

theorem bind {onStores : ExceptT PolicyError (StateT Recording (StateM S)) α}
    {onTrees : ExceptT PolicyError (StateT Recording (StateM RegistryTree)) α}
    {restOnStores : α → ExceptT PolicyError (StateT Recording (StateM S)) β}
    {restOnTrees : α → ExceptT PolicyError (StateT Recording (StateM RegistryTree)) β}
    (first : FollowsRecorded tree kept onStores onTrees)
    (rest : ∀ value, FollowsRecorded tree kept (restOnStores value) (restOnTrees value)) :
    FollowsRecorded tree kept (onStores >>= restOnStores) (onTrees >>= restOnTrees) := by
  intro recording store quiet holds
  obtain ⟨result, calls, middle, unsaved, ran, same, holds⟩ := first recording store quiet holds
  rw [runRecorded_bind, runRecorded_bind, ran, same]
  cases result with
  | error error => exact ⟨.error error, calls, middle, unsaved, rfl, rfl, holds⟩
  | ok value =>
    obtain ⟨result, later, next, unsaved', ran', same', holds'⟩ :=
      rest value (recording.recordChanges calls) middle quiet.recordChanges holds
    rw [← Recording.recordChanges_append] at ran' same'
    refine ⟨result, calls ++ later, next, ?_, ran', same', holds'⟩
    rw [List.mem_append, not_or]
    exact ⟨unsaved, unsaved'⟩

/-- A change of recorded stores follows the change of recorded trees if it does so unrecorded. -/
theorem change (call : StoreCall) (unsaved : call ≠ .save)
    {onStores : ExceptT PolicyError (StateM S) α}
    {onTrees : ExceptT PolicyError (StateM RegistryTree) α}
    (follows : Follows tree kept onStores onTrees) :
    FollowsRecorded tree kept (Recording.change call onStores)
      (Recording.change call onTrees) := by
  intro recording store quiet holds
  obtain ⟨result, next, ran, same, holds⟩ := follows store holds
  have plain : runPlain onStores store = (result, next) := ran
  refine ⟨result, [call], next, ?_, ?_, ?_, holds⟩
  · rw [List.mem_singleton]
    exact unsaved.symm
  · rw [runRecorded_change quiet, plain]
    rfl
  · rw [runRecorded_change quiet, same]
    rfl

end FollowsRecorded

namespace Batch.Ran

variable {σ : Type} [PolicyStore (StateM σ)] {mode : ApplyMode} {commands : List Command}
  {state middle middle' : σ} {result result' : Except PolicyError ApplyReport}
  {calls calls' : List StoreCall}

theorem unique (ran : Ran mode commands state result calls middle)
    (ran' : Ran mode commands state result' calls' middle') :
    result = result' ∧ calls = calls' ∧ middle = middle' := by
  have same := ran.recorded.symm.trans ran'.recorded
  have written := congrArg (fun ended => ended.1.2.calls) same
  dsimp only at written
  rw [Recording.calls_recordChanges, Recording.calls_recordChanges, List.append_cancel_right_eq,
    List.reverse_inj] at written
  exact ⟨congrArg (fun ended => ended.1.1) same, written, congrArg Prod.snd same⟩

/-- A batch whose recorded commands are known comes to the same if it is not recorded. -/
theorem of_recorded (recorded : runRecorded (run mode commands) {} state =
    ((result, Recording.recordChanges {} calls), middle)) :
    Ran mode commands state result calls middle := by
  obtain ⟨result', calls', middle', ran⟩ := exists_ran mode commands state
  have same := recorded.symm.trans ran.recorded
  obtain rfl : result = result' := congrArg (fun ended => ended.1.1) same
  obtain rfl : middle = middle' := congrArg Prod.snd same
  exact ⟨ran.plain, recorded⟩

end Batch.Ran

namespace FollowsTree

variable [PolicyStore (StateM S)]

/-- Computations on recorded stores that follow their trees are related to those on recorded
trees. -/
def recordedSimulation (follows : FollowsTree Id tree kept) :
    Simulation (StateT Recording (StateM S)) (StateT Recording (StateM RegistryTree)) where
  Related := FollowsRecorded tree kept
  lift := FollowsRecorded.lift
  bind := FollowsRecorded.bind
  setValue key name value :=
    .change (.set key name value) nofun (follows.setValue key name value)
  deleteValue key name := .change (.delete key name) nofun (follows.deleteValue key name)

/-- The commands of a batch on a store that follows its tree make the calls that they make on the
tree, and come to the same. -/
theorem ran (follows : FollowsTree Id tree kept) (mode : ApplyMode) (commands : List Command)
    {store : S} (holds : kept store) :
    ∃ result calls next, .save ∉ calls ∧ Ran mode commands store result calls next ∧
      Ran mode commands (tree store) result calls (tree next) ∧ kept next := by
  obtain ⟨result, calls, next, unsaved, ran, same, holds⟩ :=
    follows.recordedSimulation.run mode commands {} store Recording.quiet_new holds
  exact ⟨result, calls, next, unsaved, .of_recorded ran, .of_recorded same, holds⟩

end FollowsTree

end Following

/-! ## A store and its files as one state -/

namespace FileStore

variable {σ α β : Type}

/-- A computation on a store in a file, as a computation on the store together with the files. -/
def joint (action : ExceptT PolicyError (StateT FileStore (StateM σ)) α) :
    ExceptT PolicyError (StateM (FileStore × σ)) α :=
  ExceptT.mk fun (store, files) =>
    let ((result, next), after) := (action.run.run store).run files
    (result, (next, after))

theorem joint_eq {action : ExceptT PolicyError (StateT FileStore (StateM σ)) α}
    {store next : FileStore} {files after : σ} {result : Except PolicyError α}
    (ran : (action.run.run store).run files = ((result, next), after)) :
    runPlain (joint action) (store, files) = (result, next, after) := by
  have whole : runPlain (joint action) (store, files) =
      (((action.run.run store).run files).1.1, ((action.run.run store).run files).1.2,
        ((action.run.run store).run files).2) := rfl
  rw [whole, ran]

theorem eq_of_joint {action : ExceptT PolicyError (StateT FileStore (StateM σ)) α}
    {store next : FileStore} {files after : σ} {result : Except PolicyError α}
    (ran : runPlain (joint action) (store, files) = (result, next, after)) :
    (action.run.run store).run files = ((result, next), after) := by
  rcases alone : (action.run.run store).run files with ⟨⟨result', next'⟩, after'⟩
  cases (joint_eq alone).symm.trans ran
  rfl

theorem joint_bind (action : ExceptT PolicyError (StateT FileStore (StateM σ)) α)
    (rest : α → ExceptT PolicyError (StateT FileStore (StateM σ)) β) :
    joint (action >>= rest) = joint action >>= fun value => joint (rest value) := by
  funext ⟨store, files⟩
  show runPlain (joint (action >>= rest)) (store, files) =
    runPlain (joint action >>= fun value => joint (rest value)) (store, files)
  rcases ran : (action.run.run store).run files with ⟨⟨result, next⟩, after⟩
  have whole : ((action >>= rest).run.run store).run files =
      ((ExceptT.bindCont rest ((action.run.run store).run files).1.1).run
        ((action.run.run store).run files).1.2).run ((action.run.run store).run files).2 := rfl
  rw [ran] at whole
  rw [runPlain_bind, joint_eq ran]
  cases result with
  | error error => exact joint_eq whole
  | ok value => exact joint_eq whole

variable [FileSystem (StateM σ)]

/-- Computations on a store in a file together with the files. -/
instance : PolicyStore (StateM (FileStore × σ)) where
  setValue key name value := joint (PolicyStore.setValue key name value)
  deleteValue key name := joint (PolicyStore.deleteValue key name)
  save := joint PolicyStore.save

/-- Computations on a store in a file are related to those on the store together with the files. -/
def jointSimulation : Simulation (StateT FileStore (StateM σ)) (StateM (FileStore × σ)) where
  Related onStores onBoth := joint onStores = onBoth
  lift _ := rfl
  bind := by
    rintro α β onStores _ restOnStores restOnBoth rfl rest
    rw [joint_bind]
    exact congrArg _ (funext rest)
  setValue _ _ _ := rfl
  deleteValue _ _ := rfl

theorem joint_run (mode : ApplyMode) (commands : List Command) :
    joint (run mode commands : ExceptT PolicyError (StateT FileStore (StateM σ)) ApplyReport) =
      run mode commands :=
  jointSimulation.run mode commands

/-- A batch on a store in a file is a batch on the store together with the files. -/
theorem joint_apply (mode : ApplyMode) (commands : List Command) :
    joint (apply mode commands : ExceptT PolicyError (StateT FileStore (StateM σ)) ApplyReport) =
      apply mode commands := by
  rw [apply, apply, joint_bind, joint_run]
  refine congrArg _ (funext fun report => ?_)
  rw [joint_bind]
  rfl

theorem answer_save_joint {store next : FileStore} {files after : σ}
    {answer : Except PolicyError Unit}
    (saved : (store.save : StateM σ _).run files = ((answer, next), after)) :
    StoreCall.save.answer (store, files) = (answer, next, after) := by
  have asked : ((PolicyStore.save : ExceptT PolicyError (StateT FileStore (StateM σ)) Unit).run.run
      store).run files = ((answer, next), after) := saved
  exact joint_eq asked

/-- Changes of a writable store are changes of its tree, and leave all files alone. -/
theorem followsTree_joint (path : Path) (start : RegistryTree) (files : σ) :
    FollowsTree Id (fun state : FileStore × σ => state.1.tree)
      fun state => ChangesFrom path start state.1 ∧ state.2 = files where
  setValue key name value := by
    rintro ⟨store, _⟩ ⟨holds, rfl⟩
    obtain ⟨result, next, ran, same, kept⟩ :=
      (followsTree (m := StateM σ) path start).setValue key name value store holds
    exact ⟨result, (next, _), joint_eq (by rw [ran]; rfl), same, kept, rfl⟩
  deleteValue key name := by
    rintro ⟨store, _⟩ ⟨holds, rfl⟩
    obtain ⟨result, next, ran, same, kept⟩ :=
      (followsTree (m := StateM σ) path start).deleteValue key name store holds
    exact ⟨result, (next, _), joint_eq (by rw [ran]; rfl), same, kept, rfl⟩

end FileStore

end GroupPolicy
