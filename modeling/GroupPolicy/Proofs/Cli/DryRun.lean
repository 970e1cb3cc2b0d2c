import GroupPolicy.Proofs.Cli.Applying

/-!
# Dry runs

A dry run applies a batch to a store in memory, in place of the store in the policy file whose tree
it has. `Batch.ran_alike` compares the two stores: the commands make the same calls on both and come
to the same. So the real run can come to something else only in its save
(`Cli.dryRun_predicts`).
-/

namespace GroupPolicy

open Batch

variable {σ : Type} [FileSystem (StateM σ)]

/-- The commands of a batch come to the same on a store in memory and on a writable store in a file
with the same tree. -/
theorem Batch.ran_alike (mode : ApplyMode) (commands : List Command) {store : FileStore}
    (writable : store.access = .readWrite) (files : σ) :
    ∃ result calls copy next, .save ∉ calls ∧
      Ran mode commands (MemoryStore.ofTree store.tree) result calls copy ∧
      Ran mode commands (store, files) result calls (next, files) ∧
      copy.tree = next.tree ∧ next.access = .readWrite := by
  have start : FileStore.ChangesFrom store.path store.tree store := .refl writable
  have unsavedCopy : (MemoryStore.ofTree store.tree).saves = 0 := rfl
  have joint : FileStore.ChangesFrom store.path store.tree (store, files).1 ∧
      (store, files).2 = files := ⟨start, rfl⟩
  obtain ⟨result, calls, copy, unsaved, inMemory, onTree, -⟩ :=
    (MemoryStore.followsTree (m := Id) 0).ran mode commands unsavedCopy
  obtain ⟨result', calls', ⟨next, after⟩, -, inFile, onTree', kept, rfl⟩ :=
    (FileStore.followsTree_joint store.path store.tree files).ran mode commands joint
  obtain ⟨rfl, rfl, same⟩ := onTree.unique onTree'
  exact ⟨result, calls, copy, next, unsaved, inMemory, inFile, same, kept.writable⟩

/-- What a dry run of a batch on the tree of a store tells about the run on the store. Both are
recorded, which changes nothing about them, and they end with the same tree. If the dry run fails,
then the real run fails in the same way before it saves. If the dry run succeeds, then the real run
comes as far as the save, and so it fails only if the save does. -/
structure Batch.Predicts (mode : ApplyMode) (commands : List Command) (store : FileStore)
    (files : σ) (dry : Recorded MemoryStore) (real : Recorded (FileStore × σ)) : Prop where
  dryRun : runPlain (apply mode commands) (MemoryStore.ofTree store.tree) = (dry.result, dry.state)
  realRun : ((apply mode commands :
    ExceptT PolicyError (StateT FileStore (StateM σ)) ApplyReport).run.run store).run files =
      ((real.result, real.state.1), real.state.2)
  tree : real.state.1.tree = dry.state.tree
  failure : ∀ error, dry.result = .error error → real.result = .error error ∧
    real.calls = dry.calls ∧ .save ∉ real.calls ∧ real.state.2 = files
  success : ∀ report, dry.result = .ok report → ∃ changes middle,
    real.calls = changes ++ [.save] ∧ dry.calls = real.calls ∧ .save ∉ changes ∧
    runPlain (run mode commands) (store, files) = (.ok report, middle, files) ∧
    StoreCall.save.answer (middle, files) = (outcome real.result, real.state) ∧
    (real.result = .ok report ∨ ∃ error, real.result = .error error ∧ error.IsSaveFailure)

theorem Batch.predicts_recorded (mode : ApplyMode) (commands : List Command) {store : FileStore}
    (writable : store.access = .readWrite) (files : σ) :
    Predicts mode commands store files
      (recorded (apply mode commands) (MemoryStore.ofTree store.tree))
      (recorded (apply mode commands) (store, files)) := by
  obtain ⟨result, calls, copy, next, unsaved, inMemory, inFile, same, writable'⟩ :=
    ran_alike mode commands writable files
  have realRun : ((apply mode commands :
      ExceptT PolicyError (StateT FileStore (StateM σ)) ApplyReport).run.run store).run files =
        (((recorded (apply mode commands) (store, files)).result,
          (recorded (apply mode commands) (store, files)).state.1),
          (recorded (apply mode commands) (store, files)).state.2) :=
    FileStore.eq_of_joint (by rw [FileStore.joint_apply, inFile.plain_apply])
  have dryRun := inMemory.plain_apply
  rw [inMemory.recorded_apply] at dryRun ⊢
  rw [inFile.recorded_apply] at realRun ⊢
  cases result with
  | error error =>
    refine ⟨dryRun, realRun, same.symm, fun reason failed => ?_, fun report succeeded => ?_⟩
    · cases failed
      exact ⟨rfl, rfl, unsaved, rfl⟩
    · cases succeeded
  | ok report =>
    rcases saved : (next.save : StateM σ _).run files with ⟨⟨answer, last⟩, after⟩
    have asked := FileStore.answer_save_joint saved
    have ended := FileStore.saved_of_writable writable' saved
    have finished : finish (.ok report) calls (next, files) =
        ⟨calls ++ [.save], answer.map fun _ => report, last, after⟩ := by
      rw [finish, asked]
    rw [finished] at realRun ⊢
    refine ⟨dryRun, realRun, ended.tree_eq.trans same.symm, fun error failed => ?_,
      fun total succeeded => ?_⟩
    · cases failed
    · cases succeeded
      refine ⟨calls, next, rfl, rfl, unsaved, inFile.plain, ?_, ?_⟩
      · rw [asked]
        cases answer with
        | ok done => rfl
        | error error => rfl
      · cases answer with
        | ok done => exact Or.inl rfl
        | error error => exact Or.inr ⟨error, rfl, ended.isSaveFailure⟩

/-! ## The subcommand -/

namespace Cli

/-- A dry run predicts the real run. On a store that may be changed, whatever its tree and the file
system are, both end with the same tree, a dry run that fails means a real run that fails in the
same way before it saves, and after a dry run that succeeds the real run comes to the same report or
fails in its save. The subcommand with and without `--dry-run` starts both from the same file. -/
theorem dryRun_predicts (mode : ApplyMode) (commands : List Command) :
    (∀ (store : FileStore) (files : σ), store.access = .readWrite →
      Predicts mode commands store files
        (recorded (apply mode commands) (MemoryStore.ofTree store.tree))
        (recorded (apply mode commands) (store, files))) ∧
    (∀ (root : Path) (part : PolicySection) (files : σ),
      let dry := runPlain (applyToCopy root part mode commands) files
      let real := runPlain (applyToFile root part mode commands) files
      (∀ error, dry.1 = .error error → real = (.error error, dry.2)) ∧
      (∀ report, dry.1 = .ok report →
        real.1 = .ok report ∨ ∃ error, real.1 = .error error ∧ error.IsSaveFailure)) := by
  refine ⟨fun store files writable => predicts_recorded mode commands writable files,
    fun root part files => ?_⟩
  rcases read : (FileSystem.readFile (part.policyFile root) : StateM σ _).run files
    with ⟨found, after⟩
  rw [applyToCopy_eq mode commands read, applyToFile_eq mode commands read]
  cases FileStore.treeOf found with
  | error error =>
    refine ⟨fun reason failed => ?_, nofun⟩
    cases failed
    rfl
  | ok tree =>
    have writable : (FileStore.opened (part.policyFile root) tree).access = .readWrite := rfl
    have predicted := predicts_recorded mode commands writable after
    dsimp only
    rw [predicted.realRun]
    refine ⟨fun error failed => ?_, fun report succeeded => ?_⟩
    · obtain ⟨same, -, -, unaltered⟩ := predicted.failure error failed
      exact Prod.ext same unaltered
    · obtain ⟨_, _, -, -, -, -, -, result⟩ := predicted.success report succeeded
      exact result

theorem dryRun_predicts_failed_save :
    let store : FileStore :=
      ⟨⟨"Registry.pol"⟩, .readWrite, ⟨[("k", ⟨"K", [("N", ⟨4, [1, 0, 0, 0]⟩)]⟩)]⟩, false⟩
    let files : FaultyDisk := ⟨.empty, [none, some ⟨"no space left", 0, none⟩]⟩
    let commands : List Command := [.set "k" "M" .string .text "x", .delete "K" "n"]
    let dry := recorded (apply .sequential commands) (MemoryStore.ofTree store.tree)
    let real := recorded (apply .sequential commands) (store, files)
    store.access = .readWrite ∧ dry.result = .ok { set := 1, deleted := 1 } ∧
      real.result = .error (.io (.other "no space left")) ∧ real.state.1.tree = dry.state.tree ∧
      ∃ changes, real.calls = changes ++ [.save] ∧ dry.calls = real.calls := by
  refine ⟨rfl, by rfl, by rfl, ?_⟩
  have predicted := (dryRun_predicts .sequential
    [.set "k" "M" .string .text "x", .delete "K" "n"]).1
      ⟨⟨"Registry.pol"⟩, .readWrite, ⟨[("k", ⟨"K", [("N", ⟨4, [1, 0, 0, 0]⟩)]⟩)]⟩, false⟩
      (⟨.empty, [none, some ⟨"no space left", 0, none⟩]⟩ : FaultyDisk) rfl
  obtain ⟨changes, -, calls, same, -⟩ := predicted.success { set := 1, deleted := 1 } rfl
  exact ⟨predicted.tree, changes, calls, same⟩

end Cli

end GroupPolicy
