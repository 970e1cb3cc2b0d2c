import GroupPolicy.Proofs.Store.Saving

/-!
# What a save comes to

Whatever the file system is, a save of a store that may be changed comes to one of the four cases of
`FileStore.Saved`. So it fails only because an access to files fails, or because a value is too
large for a policy file.
-/

namespace GroupPolicy

/-- The failures of a save: an access to files, or a value that does not fit its size field. -/
inductive PolicyError.IsSaveFailure : PolicyError → Prop
  | io (failure : FileFailure) : IsSaveFailure (.io failure)
  | valueTooLarge (key name : String) (length : Nat) :
    IsSaveFailure (.valueTooLarge key name length)

namespace FileSystem

open Batch

variable {σ α β : Type}

/-- A computation fails only if an access to files fails. -/
def FailsOnFiles (action : ExceptT PolicyError (StateM σ) α) : Prop :=
  ∀ files error after, runPlain action files = (.error error, after) →
    ∃ failure, error = .io failure

theorem FailsOnFiles.attempt (access : StateM σ (Except FileFailure α)) :
    FailsOnFiles (attempt access) := by
  intro files error after failed
  have whole : runPlain (FileSystem.attempt access) files =
      ((access.run files).1.mapError .io, (access.run files).2) := rfl
  rw [whole] at failed
  cases reached : (access.run files).1 with
  | error failure =>
    rw [reached] at failed
    cases failed
    exact ⟨failure, rfl⟩
  | ok value =>
    rw [reached] at failed
    cases failed

theorem FailsOnFiles.bind {action : ExceptT PolicyError (StateM σ) α}
    {rest : α → ExceptT PolicyError (StateM σ) β} (first : FailsOnFiles action)
    (others : ∀ value, FailsOnFiles (rest value)) : FailsOnFiles (action >>= rest) := by
  intro files error after failed
  rw [runPlain_bind] at failed
  rcases ran : runPlain action files with ⟨reason | value, middle⟩
  · rw [ran] at failed
    cases failed
    exact first files _ _ ran
  · rw [ran] at failed
    exact others value middle error after failed

end FileSystem

namespace FileStore

open FileSystem

variable {σ : Type} [FileSystem (StateM σ)] {store next : FileStore} {path : Path}
  {bytes : List UInt8} {files after : σ} {answer : Except PolicyError Unit} {error : PolicyError}

theorem replaceFile_failsOnFiles (path : Path) (bytes : List UInt8) :
    FailsOnFiles (replaceFile path bytes : ExceptT PolicyError (StateM σ) Unit) := by
  have created : FailsOnFiles (createParent path : ExceptT PolicyError (StateM σ) Unit) := by
    rw [createParent]
    split
    · exact .attempt _
    · intro files error after failed
      cases failed
  rw [replaceFile_eq]
  exact created.bind fun _ => (FailsOnFiles.attempt _).bind fun _ => .attempt _

theorem pending_of_writable (writable : store.access = .readWrite) :
    store.pending =
      if store.dirty then (PolicyFile.encode store.tree.entries).map some else .ok none := by
  rw [pending, ensureWritable, writable]
  cases store.dirty with
  | false => rfl
  | true =>
    cases PolicyFile.encode store.tree.entries with
    | error error => rfl
    | ok bytes => rfl

/-- What is too large for a policy file is not saved. -/
theorem save_of_refused (writable : store.access = .readWrite) (dirty : store.dirty = true)
    (refused : PolicyFile.encode store.tree.entries = .error error) :
    (store.save : StateM σ _).run files = ((.error error, store), files) := by
  rw [save, pending_of_writable writable, dirty, if_pos rfl, refused]
  rfl

/-- What a save comes to: an answer, and the store and the files after that. -/
inductive Saved (store : FileStore) (files : σ) :
    Except PolicyError Unit → FileStore → σ → Prop
  | idle : store.dirty = false → Saved store files (.ok ()) store files
  | tooLarge {error : PolicyError} : store.dirty = true →
    PolicyFile.encode store.tree.entries = .error error →
    Saved store files (.error error) store files
  | failed {bytes : List UInt8} {failure : FileFailure} {after : σ} : store.dirty = true →
    PolicyFile.encode store.tree.entries = .ok bytes →
    (replaceFile store.path bytes : ExceptT PolicyError (StateM σ) Unit).run.run files =
      (.error (.io failure), after) →
    Saved store files (.error (.io failure)) store after
  | written {bytes : List UInt8} {after : σ} : store.dirty = true →
    PolicyFile.encode store.tree.entries = .ok bytes →
    (replaceFile store.path bytes : ExceptT PolicyError (StateM σ) Unit).run.run files =
      (.ok (), after) →
    Saved store files (.ok ()) { store with dirty := false } after

/-- A save of a store that may be changed has nothing to do, or is refused for a value that is too
large, or tries to replace the file. -/
theorem saved_of_writable (writable : store.access = .readWrite)
    (ran : (store.save : StateM σ _).run files = ((answer, next), after)) :
    Saved store files answer next after := by
  rw [save, pending_of_writable writable] at ran
  cases dirty : store.dirty with
  | false =>
    rw [dirty] at ran
    cases ran
    exact .idle dirty
  | true =>
    rw [dirty, if_pos rfl] at ran
    cases encoded : PolicyFile.encode store.tree.entries with
    | error error =>
      rw [encoded] at ran
      cases ran
      exact .tooLarge dirty encoded
    | ok bytes =>
      rw [encoded] at ran
      dsimp only [Except.map, StateT.run_bind] at ran
      rcases replaced : (replaceFile store.path bytes : ExceptT PolicyError (StateM σ) Unit).run.run
        files with ⟨error | done, last⟩
      · rw [replaced] at ran
        cases ran
        obtain ⟨failure, rfl⟩ := replaceFile_failsOnFiles _ _ files error last replaced
        exact .failed dirty encoded replaced
      · rw [replaced] at ran
        cases ran
        exact .written dirty encoded replaced

namespace Saved

theorem tree_eq (saved : Saved store files answer next after) : next.tree = store.tree := by
  cases saved <;> rfl

theorem isSaveFailure (saved : Saved store files (.error error) next after) :
    error.IsSaveFailure := by
  cases saved with
  | tooLarge _ refused =>
    obtain ⟨entry, -, -, rfl⟩ := PolicyFile.encode_eq_error refused
    exact .valueTooLarge _ _ _
  | failed => exact .io _

end Saved

end FileStore

end GroupPolicy
