import GroupPolicy.Proofs.Files.Faults
import GroupPolicy.Proofs.Store.Trees
import GroupPolicy.Proofs.Tree.Reload

/-!
# What is saved in a policy file

The accesses of a save may fail in any way. If the save does not succeed all the same, then it has
altered nothing but the temporary file and the directories above it (`save_spec`). A store that is
not marked as changed holds what its file holds: `Sound` says so, and every call keeps it. The main
statement, `clean_means_saved`, is about any calls on a store that was opened.
-/

namespace GroupPolicy.FileStore

variable {store next : FileStore} {files after : FaultyDisk} {path : Path} {access : Access}
  {tree : RegistryTree} {bytes : List UInt8} {error : PolicyError}
  {result : Except PolicyError Unit}

/-! ## Loading -/

/-- What was found at a path is loaded as the tree of some entries, which a file can hold. -/
theorem exists_entries_of_treeOf {found : Except FileFailure (List UInt8)}
    (loaded : treeOf found = .ok tree) : ∃ entries, RegistryTree.ofEntries entries = .ok tree ∧
      ∀ entry ∈ entries, entry.data.length < UInt32.size := by
  cases found with
  | ok bytes =>
    rw [treeOf, loadTree, Except.bind_eq_ok_iff] at loaded
    obtain ⟨entries, read, inserted⟩ := loaded
    exact ⟨entries, inserted, PolicyFile.short_of_decode read⟩
  | error failure =>
    cases failure
    case notFound =>
      cases loaded
      exact ⟨[], rfl, fun _ => nofun⟩
    all_goals cases loaded

theorem wellFormed_of_treeOf {found : Except FileFailure (List UInt8)}
    (loaded : treeOf found = .ok tree) : tree.WellFormed := by
  obtain ⟨entries, inserted, -⟩ := exists_entries_of_treeOf loaded
  exact RegistryTree.wellFormed_of_ofEntries inserted

/-- The file that is written for a tree is loaded as that tree. -/
theorem loadTree_of_encode (wellFormed : tree.WellFormed)
    (encoded : PolicyFile.encode tree.entries = .ok bytes) : loadTree bytes = .ok tree := by
  rw [loadTree, wellFormed.decode_of_encode encoded]
  exact wellFormed.ofEntries_entries

theorem treeOf_readFile {disk : Disk} (wellFormed : tree.WellFormed)
    (encoded : PolicyFile.encode tree.entries = .ok bytes)
    (written : disk.contents? path = some bytes) : treeOf (disk.readFile path) = .ok tree := by
  rw [Disk.readFile_of_contents? written]
  exact loadTree_of_encode wellFormed encoded

/-- To open a store leaves the disk as it is. The store holds what is in its file. -/
theorem openFile_spec {opened : Except PolicyError FileStore}
    (ran : (openFile path access : ExceptT PolicyError (StateM FaultyDisk) FileStore).run.run
      files = (opened, after)) :
    after.disk = files.disk ∧ ∀ store, opened = .ok store →
      treeOf (files.disk.readFile path) = .ok store.tree ∧
      store = { path, access, tree := store.tree, dirty := false } := by
  rcases read : (FileSystem.readFile path : StateM FaultyDisk _).run files with ⟨found, later⟩
  rw [openFile] at ran
  dsimp only [ExceptT.run_mk, StateT.run_bind] at ran
  rw [read] at ran
  cases ran
  obtain ⟨unaltered, rfl | ⟨reason, rfl⟩⟩ := FaultyDisk.readFile_spec read
  · refine ⟨unaltered, fun store same => ?_⟩
    cases loaded : treeOf (files.disk.readFile path) with
    | error error =>
      rw [loaded] at same
      cases same
    | ok tree =>
      rw [loaded] at same
      cases same
      exact ⟨rfl, rfl⟩
  · exact ⟨unaltered, nofun⟩

/-! ## Saving -/

theorem pending_of_readOnly (readOnly : store.access = .readOnly) :
    store.pending = .error (.readOnlyStore .save) := by
  rw [pending, ensureWritable, readOnly]
  rfl

theorem pending_eq_ok_some (ready : store.pending = .ok (some bytes)) :
    store.dirty = true ∧ PolicyFile.encode store.tree.entries = .ok bytes := by
  rw [pending, Except.bind_eq_ok_iff] at ready
  obtain ⟨_, -, rest⟩ := ready
  split at rest
  · rename_i dirty
    obtain ⟨encoded, written, done⟩ := Except.bind_eq_ok_iff.1 rest
    cases done
    exact ⟨dirty, written⟩
  · cases rest

theorem pending_eq_ok_none (idle : store.pending = .ok none) : store.dirty = false := by
  rw [pending, Except.bind_eq_ok_iff] at idle
  obtain ⟨_, -, rest⟩ := idle
  split at rest
  · obtain ⟨encoded, -, done⟩ := Except.bind_eq_ok_iff.1 rest
    cases done
  · exact eq_false_of_ne_true ‹_›

/-- Creates the directory of a file, if its path has one. -/
def createParent {m : Type → Type} [Monad m] [FileSystem m] (path : Path) :
    ExceptT PolicyError m Unit :=
  match path.parent? with
  | some parent => FileSystem.attempt (FileSystem.createDirectories parent)
  | none => pure ()

theorem replaceFile_eq {m : Type → Type} [Monad m] [LawfulMonad m] [FileSystem m] :
    (replaceFile path bytes : ExceptT PolicyError m Unit) =
      createParent path >>= fun _ =>
      FileSystem.attempt (FileSystem.writeFile path.temporary bytes) >>= fun _ =>
      FileSystem.attempt (FileSystem.rename path.temporary path) := by
  unfold replaceFile createParent
  cases path.parent? with
  | none => simp [Path.temporary]
  | some parent => rfl

theorem run_attempt {α : Type} {reached : Except FileFailure α}
    {action : StateM FaultyDisk (Except FileFailure α)} (ran : action.run files = (reached, after)) :
    (FileSystem.attempt action).run.run files = pure (reached.mapError .io, after) := by
  show ((action.run files).1.mapError PolicyError.io, (action.run files).2) = _
  rw [ran]
  rfl

theorem createParent_spec (wellFormed : files.disk.WellFormed)
    (created : (createParent path : ExceptT PolicyError (StateM FaultyDisk) Unit).run.run files =
      (result, after)) :
    Disk.Altered [] files.disk after.disk := by
  rw [createParent] at created
  split at created
  · rename_i parent _
    rcases made : (FileSystem.createDirectories parent : StateM FaultyDisk _).run files
      with ⟨reached, grown⟩
    cases created.symm.trans (run_attempt made)
    exact FaultyDisk.createDirectories_spec wellFormed made
  · cases created
    exact .refl

/-- A file is replaced by its bytes, or nothing is altered but the temporary file. -/
theorem replaceFile_spec (wellFormed : files.disk.WellFormed)
    (replaced : (replaceFile path bytes : ExceptT PolicyError (StateM FaultyDisk) Unit).run.run
      files = (result, after)) :
    (∃ error, result = .error error ∧ Disk.Altered [path.temporary] files.disk after.disk) ∨
      (result = .ok () ∧ Disk.Altered [path.temporary, path] files.disk after.disk ∧
        after.disk.contents? path = some bytes) := by
  have less : ([] : List Path) ⊆ [path.temporary] := List.nil_subset _
  have more : [path.temporary] ⊆ [path.temporary, path] := by simp
  rw [replaceFile_eq] at replaced
  rcases created : (createParent path : ExceptT PolicyError (StateM FaultyDisk) Unit).run.run files
    with ⟨made, grown⟩
  have grew := createParent_spec wellFormed created
  cases made with
  | error error =>
    cases replaced.symm.trans (run_bind_of_error created _)
    exact Or.inl ⟨error, rfl, grew.mono less⟩
  | ok done =>
    rw [run_bind_of_ok created] at replaced
    rcases written : (FileSystem.writeFile path.temporary bytes : StateM FaultyDisk _).run grown
      with ⟨wrote, middle⟩
    obtain ⟨altered, holds⟩ := FaultyDisk.writeFile_spec written
    have front : Disk.Altered [path.temporary] files.disk middle.disk :=
      (grew.mono less).trans altered
    cases wrote with
    | error failure =>
      cases replaced.symm.trans (run_bind_of_error (run_attempt written) _)
      exact Or.inl ⟨_, rfl, front⟩
    | ok done =>
      rw [run_bind_of_ok (run_attempt written)] at replaced
      rcases renamed : (FileSystem.rename path.temporary path : StateM FaultyDisk _).run middle
        with ⟨moved, last⟩
      cases replaced.symm.trans (run_attempt renamed)
      rcases FaultyDisk.rename_spec (front.wellFormed wellFormed) renamed with
        ⟨failure, rfl, same⟩ | ⟨rfl, replaced, contents, read, there⟩
      · rw [same]
        exact Or.inl ⟨_, rfl, front⟩
      · -- The temporary file holds the bytes that were written.
        cases (holds rfl).symm.trans read
        exact Or.inr ⟨rfl, (front.mono more).trans replaced, there⟩

/-- A save leaves the tree as it is. If it fails, then it leaves the store as it is, and all files
but the temporary one; if there is nothing to save, then it leaves the disk as it is. -/
theorem save_spec (wellFormed : files.disk.WellFormed) (sound : store.tree.WellFormed)
    (saved : (store.save : StateM FaultyDisk _).run files = ((result, next), after)) :
    (∃ error, result = .error error ∧ next = store ∧
      Disk.Altered [store.path.temporary] files.disk after.disk ∧
      (store.dirty = false → after.disk = files.disk)) ∨
    (result = .ok () ∧ next = { store with dirty := false } ∧
      ((store.dirty = false ∧ after.disk = files.disk) ∨
        (Disk.Altered [store.path.temporary, store.path] files.disk after.disk ∧
          treeOf (after.disk.readFile store.path) = .ok store.tree))) := by
  rw [save] at saved
  cases ready : store.pending with
  | error error =>
    rw [ready] at saved
    cases saved
    exact Or.inl ⟨error, rfl, rfl, .refl, fun _ => rfl⟩
  | ok bytes =>
    rw [ready] at saved
    cases bytes with
    | none =>
      have clean := pending_eq_ok_none ready
      cases saved
      refine Or.inr ⟨rfl, ?_, Or.inl ⟨clean, rfl⟩⟩
      rw [← clean]
    | some bytes =>
      obtain ⟨dirty, encoded⟩ := pending_eq_ok_some ready
      rcases replaced : (replaceFile store.path bytes :
        ExceptT PolicyError (StateM FaultyDisk) Unit).run.run files with ⟨ended, last⟩
      dsimp only [StateT.run_bind] at saved
      rw [replaced] at saved
      rcases replaceFile_spec wellFormed replaced with ⟨error, rfl, altered⟩ | ⟨rfl, altered, there⟩
      · cases saved
        exact Or.inl ⟨error, rfl, rfl, altered, fun clean =>
          (Bool.false_ne_true (clean.symm.trans dirty)).elim⟩
      · cases saved
        exact Or.inr ⟨rfl, rfl, Or.inr ⟨altered, treeOf_readFile sound encoded there⟩⟩

/-! ## Calls on a store -/

/-- What a store answers to a call, and the store and the files after that. -/
def answer (call : StoreCall) (store : FileStore) (files : FaultyDisk) :
    (Except PolicyError Unit × FileStore) × FaultyDisk :=
  ((call.perform : ExceptT PolicyError (StateT FileStore (StateM FaultyDisk)) Unit).run.run
    store).run files

/-- The store and the files after calls in a row, whatever the answers are. -/
def afterCalls : List StoreCall → FileStore → FaultyDisk → FileStore × FaultyDisk
  | [], store, files => (store, files)
  | call :: calls, store, files =>
    let ((_, next), after) := answer call store files
    afterCalls calls next after

/-- A store holds what its file holds, unless it is marked as changed. -/
structure Sound (store : FileStore) (disk : Disk) : Prop where
  onDisk : disk.WellFormed
  tree : store.tree.WellFormed
  clean : store.dirty = false → treeOf (disk.readFile store.path) = .ok store.tree

theorem setValue_sound {disk : Disk} (sound : Sound store disk) (key name : String)
    (value : RegistryValue) : Sound (store.setValue key name value).2 disk := by
  rw [setValue]
  cases changed : store.treeAfterSet key name value with
  | error error => exact sound
  | ok tree =>
    rw [treeAfterSet, Except.bind_eq_ok_iff] at changed
    obtain ⟨_, -, set⟩ := changed
    refine ⟨sound.onDisk, sound.tree.set set, fun clean => ?_⟩
    cases clean

theorem deleteValue_sound {disk : Disk} (sound : Sound store disk) (key name : String) :
    Sound (store.deleteValue key name).2 disk := by
  rw [deleteValue]
  cases changed : store.treeAfterDelete key name with
  | error error => exact sound
  | ok changes =>
    obtain ⟨removed, tree⟩ := changes
    rw [treeAfterDelete, Except.bind_eq_ok_iff] at changed
    obtain ⟨_, -, deleted⟩ := changed
    refine ⟨sound.onDisk, sound.tree.delete deleted, fun clean => ?_⟩
    obtain ⟨before, rfl⟩ := Bool.or_eq_false_iff.1 clean
    cases RegistryTree.eq_of_delete_absent deleted
    exact sound.clean before

theorem save_sound (sound : Sound store files.disk)
    (saved : (store.save : StateM FaultyDisk _).run files = ((result, next), after)) :
    Sound next after.disk := by
  rcases save_spec sound.onDisk sound.tree saved with
    ⟨error, -, rfl, altered, unaltered⟩ | ⟨-, rfl, ⟨clean, unaltered⟩ | ⟨altered, loaded⟩⟩
  · refine ⟨altered.wellFormed sound.onDisk, sound.tree, fun clean => ?_⟩
    rw [unaltered clean]
    exact sound.clean clean
  · rw [unaltered]
    exact ⟨sound.onDisk, sound.tree, fun _ => sound.clean clean⟩
  · exact ⟨altered.wellFormed sound.onDisk, sound.tree, fun _ => loaded⟩

theorem answer_set (key name : String) (value : RegistryValue) :
    answer (.set key name value) store files = (store.setValue key name value, files) := rfl

theorem answer_delete (key name : String) :
    answer (.delete key name) store files =
      (((store.deleteValue key name).1.map fun _ => (), (store.deleteValue key name).2), files) := by
  unfold answer StoreCall.perform
  rw [run_bind_pure]
  rfl

theorem answer_save : answer .save store files = (store.save : StateM FaultyDisk _).run files := rfl

/-- Every call keeps a store sound, and its path and its access as they are. -/
theorem answer_sound {call : StoreCall} (sound : Sound store files.disk)
    (answered : answer call store files = ((result, next), after)) :
    Sound next after.disk ∧ next.path = store.path ∧ next.access = store.access := by
  cases call with
  | set key name value =>
    rw [answer_set] at answered
    obtain ⟨same, rfl⟩ := Prod.mk.inj answered
    obtain rfl : (store.setValue key name value).2 = next := congrArg Prod.snd same
    refine ⟨setValue_sound sound key name value, ?_⟩
    rw [setValue]
    cases store.treeAfterSet key name value with
    | ok tree => exact ⟨rfl, rfl⟩
    | error error => exact ⟨rfl, rfl⟩
  | delete key name =>
    rw [answer_delete] at answered
    obtain ⟨same, rfl⟩ := Prod.mk.inj answered
    obtain rfl : (store.deleteValue key name).2 = next := congrArg Prod.snd same
    refine ⟨deleteValue_sound sound key name, ?_⟩
    rw [deleteValue]
    cases store.treeAfterDelete key name with
    | ok changes => exact ⟨rfl, rfl⟩
    | error error => exact ⟨rfl, rfl⟩
  | save =>
    rw [answer_save] at answered
    refine ⟨save_sound sound answered, ?_⟩
    rcases save_spec sound.onDisk sound.tree answered with ⟨-, -, rfl, -⟩ | ⟨-, rfl, -⟩
    · exact ⟨rfl, rfl⟩
    · exact ⟨rfl, rfl⟩

/-- No call changes a store for looking at values, or its file. -/
theorem answer_of_readOnly {call : StoreCall} (readOnly : store.access = .readOnly)
    (answered : answer call store files = ((result, next), after)) :
    next = store ∧ after = files := by
  have refused (operation : StoreOperation) :
      store.ensureWritable operation = .error (.readOnlyStore operation) := by
    rw [ensureWritable, readOnly]
  cases call with
  | set key name value =>
    rw [answer_set, setValue, treeAfterSet, refused] at answered
    cases answered
    exact ⟨rfl, rfl⟩
  | delete key name =>
    rw [answer_delete, deleteValue, treeAfterDelete, refused] at answered
    cases answered
    exact ⟨rfl, rfl⟩
  | save =>
    rw [answer_save, save, pending_of_readOnly readOnly] at answered
    cases answered
    exact ⟨rfl, rfl⟩

theorem afterCalls_cons {call : StoreCall} {calls : List StoreCall}
    (answered : answer call store files = ((result, next), after)) :
    afterCalls (call :: calls) store files = afterCalls calls next after := by
  rw [afterCalls, answered]

theorem afterCalls_sound {calls : List StoreCall} (sound : Sound store files.disk)
    (called : afterCalls calls store files = (next, after)) :
    Sound next after.disk ∧ next.path = store.path ∧ next.access = store.access := by
  induction calls generalizing store files with
  | nil =>
    cases called
    exact ⟨sound, rfl, rfl⟩
  | cons call calls ih =>
    rcases answered : answer call store files with ⟨⟨result, middle⟩, later⟩
    rw [afterCalls_cons answered] at called
    obtain ⟨first, path, access⟩ := answer_sound sound answered
    obtain ⟨rest, path', access'⟩ := ih first called
    exact ⟨rest, path'.trans path, access'.trans access⟩

theorem afterCalls_of_readOnly {calls : List StoreCall} (readOnly : store.access = .readOnly)
    (called : afterCalls calls store files = (next, after)) : next = store ∧ after = files := by
  induction calls with
  | nil =>
    cases called
    exact ⟨rfl, rfl⟩
  | cons call calls ih =>
    rcases answered : answer call store files with ⟨⟨result, middle⟩, later⟩
    rw [afterCalls_cons answered] at called
    obtain ⟨rfl, rfl⟩ := answer_of_readOnly readOnly answered
    exact ih called

/-! ## Any calls on a store that was opened -/

/-- After any calls on a store that was opened, with any mishaps, a store that is not marked as
changed holds what its file holds. A save that succeeds leaves it so. One that fails leaves the
store as it is, and the bytes at the path, unless the path goes up from a missing directory. A store
for looking at values and its file stay as they are. -/
theorem clean_means_saved {disk : Disk} {mishaps : List (Option Mishap)} {opened : FaultyDisk}
    (wellFormed : disk.WellFormed)
    (started : (openFile path access : ExceptT PolicyError (StateM FaultyDisk) FileStore).run.run
      ⟨disk, mishaps⟩ = (.ok store, opened))
    (calls : List StoreCall) (called : afterCalls calls store opened = (next, files)) :
    (next.dirty = false → treeOf (files.disk.readFile path) = .ok next.tree) ∧
    (∀ result saved after, answer .save next files = ((result, saved), after) →
      (result = .ok () → saved = { next with dirty := false } ∧
        treeOf (after.disk.readFile path) = .ok next.tree) ∧
      (∀ error, result = .error error → saved = next ∧
        (files.disk.Settled path → after.disk.contents? path = files.disk.contents? path))) ∧
    (access = .readOnly → next = store ∧ files.disk = disk) := by
  obtain ⟨unaltered, holds⟩ := openFile_spec started
  obtain ⟨loaded, shape⟩ := holds store rfl
  have samePath : store.path = path := by rw [shape]
  have sameAccess : store.access = access := by rw [shape]
  have sound : Sound store opened.disk := by
    refine ⟨unaltered ▸ wellFormed, wellFormed_of_treeOf loaded, fun _ => ?_⟩
    rw [unaltered, samePath]
    exact loaded
  obtain ⟨kept, path', -⟩ := afterCalls_sound sound called
  rw [samePath] at path'
  refine ⟨fun clean => path' ▸ kept.clean clean, fun result saved after answered => ?_, ?_⟩
  · have whole := save_sound kept answered
    rcases save_spec kept.onDisk kept.tree answered with
      ⟨error, rfl, rfl, altered, -⟩ | ⟨rfl, rfl, -⟩
    · refine ⟨nofun, fun _ _ => ⟨rfl, fun settled => ?_⟩⟩
      rw [path'] at altered
      refine altered.contents?_eq kept.onDisk settled fun other member file => ?_
      obtain rfl := List.mem_singleton.1 member
      exact (Path.beside_temporary file).diverge
    · refine ⟨fun _ => ⟨rfl, ?_⟩, nofun⟩
      exact path' ▸ whole.clean rfl
  · rintro rfl
    obtain ⟨rfl, rfl⟩ := afterCalls_of_readOnly sameAccess called
    exact ⟨rfl, unaltered⟩

theorem clean_means_saved_after_retry :
    let path : Path := ⟨"Machine/Registry.pol"⟩
    let mishaps : List (Option Mishap) := [none, none, some ⟨"no space left", 0, some [80]⟩]
    let change : StoreCall := .set "K" "" (.binary [])
    ∃ store opened next files saved after last final,
      (openFile path .readWrite : ExceptT PolicyError (StateM FaultyDisk) FileStore).run.run
        ⟨.empty, mishaps⟩ = (.ok store, opened) ∧
      afterCalls [change] store opened = (next, files) ∧
      answer .save next files = ((.error (.io (.other "no space left")), saved), after) ∧
      saved = next ∧ after.disk.contents? path = files.disk.contents? path ∧
      afterCalls [change, .save, .save] store opened = (last, final) ∧
      last.dirty = false ∧ treeOf (final.disk.readFile path) = .ok last.tree := by
  have wellFormed : Disk.empty.WellFormed := Disk.wellFormed_of_nodes (by decide) (by rfl)
  have started : (openFile ⟨"Machine/Registry.pol"⟩ .readWrite :
      ExceptT PolicyError (StateM FaultyDisk) FileStore).run.run
        ⟨.empty, [none, none, some ⟨"no space left", 0, some [80]⟩]⟩ =
          (.ok ⟨⟨"Machine/Registry.pol"⟩, .readWrite, .empty, false⟩,
            ⟨.empty, [none, some ⟨"no space left", 0, some [80]⟩]⟩) := by
    rfl
  have refused : answer .save
      ⟨⟨"Machine/Registry.pol"⟩, .readWrite, ⟨[("k", ⟨"K", [("", ⟨3, []⟩)]⟩)]⟩, true⟩
      ⟨.empty, [none, some ⟨"no space left", 0, some [80]⟩]⟩ =
        ((.error (.io (.other "no space left")),
          ⟨⟨"Machine/Registry.pol"⟩, .readWrite, ⟨[("k", ⟨"K", [("", ⟨3, []⟩)]⟩)]⟩, true⟩),
          ⟨⟨[(["work", "Machine", "Registry.pol.tmp"], .file [80]),
            (["work", "Machine"], .directory), (["work"], .directory)], ["work"]⟩, []⟩) := by
    rfl
  have retried : (afterCalls [.set "K" "" (.binary []), .save, .save]
      ⟨⟨"Machine/Registry.pol"⟩, .readWrite, .empty, false⟩
      ⟨.empty, [none, some ⟨"no space left", 0, some [80]⟩]⟩).1.dirty = false := by
    rfl
  have settled : Disk.empty.Settled ⟨"Machine/Registry.pol"⟩ := Disk.settled_of_down _ (by decide)
  obtain ⟨-, failing, -⟩ := clean_means_saved wellFormed started [.set "K" "" (.binary [])] rfl
  obtain ⟨same, unaltered⟩ := (failing _ _ _ refused).2 _ rfl
  obtain ⟨clean, -⟩ :=
    clean_means_saved wellFormed started [.set "K" "" (.binary []), .save, .save] rfl
  intro path mishaps change
  exact ⟨_, _, _, _, _, _, _, _, started, rfl, refused, same, unaltered settled, rfl,
    retried, clean retried⟩

/-- A path that leads nowhere for want of a directory may lead to a file once a save has created
that directory, though the save fails in the end. -/
theorem not_failed_save_keeps_bytes :
    let written := PolicyFile.header ++ PolicyFile.entryBytes ⟨"K", "N", 1, []⟩
    let disk : Disk :=
      { nodes := [(["work"], .directory), (["work", "Registry.pol"], .file written),
          (["work", "Registry.pol.tmp"], .directory)]
        working := ["work"] }
    let path : Path := ⟨"missing/../Registry.pol"⟩
    disk.WellFormed ∧
    ¬ ∀ store opened next files error saved after,
      (openFile path .readWrite : ExceptT PolicyError (StateM FaultyDisk) FileStore).run.run
        ⟨disk, []⟩ = (.ok store, opened) →
      afterCalls [.set "A" "B" (.dword 1)] store opened = (next, files) →
      answer .save next files = ((.error error, saved), after) →
      after.disk.contents? path = files.disk.contents? path := by
  refine ⟨Disk.wellFormed_of_nodes (by decide) (by rfl), fun keeps => ?_⟩
  have same := keeps _ _ _ _ (.io .isDirectory)
    ⟨⟨"missing/../Registry.pol"⟩, .readWrite, ⟨[("a", ⟨"A", [("B", ⟨4, [1, 0, 0, 0]⟩)]⟩)]⟩, true⟩
    ⟨_, []⟩ rfl rfl rfl
  cases same

end GroupPolicy.FileStore
