import GroupPolicy.Cli.Run
import GroupPolicy.Proofs.Store.Applying
import GroupPolicy.Proofs.Store.Memory

/-!
# Applying a batch to the file of a section

The subcommand opens the file of a section and applies a batch to what it finds there, on a store in
memory for a dry run (`applyToCopy_eq`) and otherwise on a store in the file (`applyToFile_eq`). On
a disk, with or without mishaps, `FileRun` lists what the latter can come to.
-/

namespace GroupPolicy

open Batch

namespace Cli

section Sections

variable {σ : Type} [FileSystem (StateM σ)]

variable {root : Path} {part : PolicySection} {files after : σ}
  {found : Except FileFailure (List UInt8)}

theorem openSection_eq (access : Access)
    (read : (FileSystem.readFile (part.policyFile root) : StateM σ _).run files = (found, after)) :
    runPlain (FileStore.openSection root part access) files =
      ((FileStore.treeOf found).map fun tree => ⟨part.policyFile root, access, tree, false⟩,
        after) := by
  have whole : runPlain (FileStore.openSection root part access) files =
      ((FileStore.treeOf
          ((FileSystem.readFile (part.policyFile root) : StateM σ _).run files).1).map
        fun tree => ⟨part.policyFile root, access, tree, false⟩,
        ((FileSystem.readFile (part.policyFile root) : StateM σ _).run files).2) := rfl
  rw [whole, read]

theorem applyToCopy_eq (mode : ApplyMode) (commands : List Command)
    (read : (FileSystem.readFile (part.policyFile root) : StateM σ _).run files = (found, after)) :
    runPlain (applyToCopy root part mode commands) files =
      ((FileStore.treeOf found).bind fun tree =>
        (recorded (apply mode commands) (MemoryStore.ofTree tree)).result, after) := by
  rw [applyToCopy, runPlain_bind, openSection_eq .readOnly read]
  cases FileStore.treeOf found with
  | error error => rfl
  | ok tree =>
    obtain ⟨result, copy, ran, same⟩ :=
      MemoryStore.apply_spec (m := StateM σ) mode commands (.ofTree tree)
    obtain ⟨result', copy', plain, same'⟩ :=
      MemoryStore.apply_spec (m := Id) mode commands (.ofTree tree)
    obtain ⟨rfl, -⟩ := Prod.mk.inj (same.symm.trans same')
    have applied : runPlain (apply mode commands) (MemoryStore.ofTree tree) = (result, copy') :=
      plain
    obtain ⟨_, _, _, recorded⟩ := exists_ran mode commands (MemoryStore.ofTree tree)
    rw [recorded.plain_apply, Prod.mk.injEq] at applied
    show (((apply mode commands :
      ExceptT PolicyError (StateT MemoryStore (StateM σ)) ApplyReport).run.run (.ofTree tree) >>=
        fun ended => pure ended.1).run after) = _
    rw [ran, pure_bind]
    exact congrArg (·, after) applied.1.symm

theorem applyToFile_eq (mode : ApplyMode) (commands : List Command)
    (read : (FileSystem.readFile (part.policyFile root) : StateM σ _).run files = (found, after)) :
    runPlain (applyToFile root part mode commands) files =
      match FileStore.treeOf found with
      | .error error => (.error error, after)
      | .ok tree =>
        let ended := ((apply mode commands :
          ExceptT PolicyError (StateT FileStore (StateM σ)) ApplyReport).run.run
            (.opened (part.policyFile root) tree)).run after
        (ended.1.1, ended.2) := by
  rw [applyToFile, runPlain_bind, openSection_eq .readWrite read]
  cases FileStore.treeOf found with
  | error error => rfl
  | ok tree => rfl

/-- If the commands succeed on what is in the file, then the run comes to what the save after them
comes to. -/
theorem applyToFile_of_runsTo {mode : ApplyMode} {commands : List Command} {tree : RegistryTree}
    {next last : FileStore} {report : ApplyReport} {answer : Except PolicyError Unit} {final : σ}
    (read : (FileSystem.readFile (part.policyFile root) : StateM σ _).run files = (found, after))
    (loaded : FileStore.treeOf found = .ok tree)
    (ran : FileStore.RunsTo σ mode commands (.opened (part.policyFile root) tree) (.ok report) next)
    (saved : (next.save : StateM σ _).run after = ((answer, last), final)) :
    runPlain (applyToFile root part mode commands) files = (answer.map fun _ => report, final) := by
  rw [applyToFile_eq mode commands read, loaded]
  dsimp only
  rw [FileStore.apply_of_runsTo ran saved]

end Sections

/-! ## On a disk -/

/-- The contents of a store are in the file at a path: they were there before, or were written. -/
inductive Persisted (path : Path) (store : FileStore) (disk : Disk) : Disk → Prop
  | idle : store.dirty = false → Persisted path store disk disk
  | written {bytes : List UInt8} {after : Disk} : store.dirty = true →
    PolicyFile.encode store.tree.entries = .ok bytes →
    Disk.Altered [path.temporary, path] disk after → after.contents? path = some bytes →
    Persisted path store disk after

/-- What a batch on the file at a path comes to: the result, and the disk after it. -/
inductive FileRun (path : Path) (mode : ApplyMode) (commands : List Command) (disk : Disk) :
    Except PolicyError ApplyReport → Disk → Prop
  /-- The file does not hold a tree. -/
  | unopened {error : PolicyError} : FileStore.treeOf (disk.readFile path) = .error error →
    FileRun path mode commands disk (.error error) disk
  /-- A command fails. -/
  | refused {tree : RegistryTree} {next : FileStore} {error : PolicyError} :
    FileStore.treeOf (disk.readFile path) = .ok tree →
    FileStore.RunsTo FaultyDisk mode commands (.opened path tree) (.error error) next →
    FileRun path mode commands disk (.error error) disk
  /-- There is something to save that is too large. -/
  | tooLarge {tree : RegistryTree} {next : FileStore} {report : ApplyReport}
    {error : PolicyError} :
    FileStore.treeOf (disk.readFile path) = .ok tree →
    FileStore.RunsTo FaultyDisk mode commands (.opened path tree) (.ok report) next →
    next.dirty = true → PolicyFile.encode next.tree.entries = .error error →
    FileRun path mode commands disk (.error error) disk
  /-- An access to files fails. -/
  | broken {failure : FileFailure} {after : Disk} : Disk.Altered [path.temporary] disk after →
    FileRun path mode commands disk (.error (.io failure)) after
  /-- The commands succeed, and so does the save. -/
  | done {tree : RegistryTree} {next : FileStore} {report : ApplyReport} {after : Disk} :
    FileStore.treeOf (disk.readFile path) = .ok tree →
    FileStore.RunsTo FaultyDisk mode commands (.opened path tree) (.ok report) next →
    Persisted path next disk after → FileRun path mode commands disk (.ok report) after

variable {root : Path} {part : PolicySection} {mode : ApplyMode} {commands : List Command}
  {files after : FaultyDisk} {result : Except PolicyError ApplyReport}

theorem fileRun_of_applyToFile (wellFormed : files.disk.WellFormed)
    (ran : runPlain (applyToFile root part mode commands) files = (result, after)) :
    FileRun (part.policyFile root) mode commands files.disk result after.disk := by
  rcases read : (FileSystem.readFile (part.policyFile root) : StateM FaultyDisk _).run files
    with ⟨found, middle⟩
  obtain ⟨unaltered, found⟩ := FaultyDisk.readFile_spec read
  rw [applyToFile_eq mode commands read] at ran
  rw [← unaltered] at wellFormed found ⊢
  rcases found with rfl | ⟨reason, rfl⟩
  · cases loaded : FileStore.treeOf (middle.disk.readFile (part.policyFile root)) with
    | error error =>
      rw [loaded] at ran
      cases ran
      exact .unopened loaded
    | ok tree =>
      rw [loaded] at ran
      rcases applied : ((apply mode commands :
        ExceptT PolicyError (StateT FileStore (StateM FaultyDisk)) ApplyReport).run.run
          (.opened (part.policyFile root) tree)).run middle with ⟨⟨ended, next⟩, last⟩
      dsimp only at ran
      rw [applied] at ran
      cases ran
      rcases FileStore.apply_cases rfl applied with
        ⟨error, refused, rfl, same⟩ | ⟨report, reached, answer, succeeded, saved, rfl⟩
      · rw [same]
        exact .refused loaded refused
      · have kept := (succeeded.spec middle (FileStore.changesFrom_opened _ tree)).2
        cases saved with
        | idle clean => exact .done loaded succeeded (.idle clean)
        | tooLarge dirty refused => exact .tooLarge loaded succeeded dirty refused
        | failed _ _ replaced =>
          rcases FileStore.replaceFile_spec wellFormed replaced with
            ⟨error, -, altered⟩ | ⟨same, -, -⟩
          · rw [kept.path] at altered
            exact .broken altered
          · cases same
        | written dirty encoded replaced =>
          rcases FileStore.replaceFile_spec wellFormed replaced with
            ⟨error, same, -⟩ | ⟨-, altered, there⟩
          · cases same
          · rw [kept.path] at altered there
            exact .done loaded succeeded (.written dirty encoded altered there)
  · cases ran
    exact .broken .refl

theorem Persisted.altered {path : Path} {store : FileStore} {disk final : Disk}
    (persisted : Persisted path store disk final) :
    Disk.Altered [path.temporary, path] disk final := by
  cases persisted with
  | idle => exact .refl
  | written _ _ altered _ => exact altered

/-- The file is loaded as the tree whose contents are in it. -/
theorem Persisted.loaded {path : Path} {tree : RegistryTree} {store : FileStore}
    {report : ApplyReport} {disk final : Disk}
    (loaded : FileStore.treeOf (disk.readFile path) = .ok tree)
    (ran : FileStore.RunsTo FaultyDisk mode commands (.opened path tree) (.ok report) store)
    (persisted : Persisted path store disk final) :
    FileStore.treeOf (final.readFile path) = .ok store.tree := by
  obtain ⟨same, changes⟩ := ran.spec ⟨disk, []⟩ (FileStore.changesFrom_opened path tree)
  cases persisted with
  | idle clean => rw [changes.clean clean, loaded]
  | written _ encoded _ there =>
    have sound := (FileStore.wellFormed_of_treeOf loaded).afterCommands
      (RegistryTree.afterCommands_of_run same)
    exact FileStore.treeOf_readFile sound encoded there

theorem FileRun.wellFormed {path : Path} {disk final : Disk} (wellFormed : disk.WellFormed)
    (run : FileRun path mode commands disk result final) : final.WellFormed := by
  cases run with
  | broken altered => exact altered.wellFormed wellFormed
  | done _ _ persisted => exact persisted.altered.wellFormed wellFormed
  | _ => exact wellFormed

end Cli

end GroupPolicy
