import GroupPolicy.Proofs.Files.Contents

/-!
# Disks whose accesses fail

An access may fail besides for what is on the disk: the system refuses it, or it gets stuck midway.
A `FaultyDisk` is a disk with the mishaps of the accesses to come. The laws of its accesses hold for
all mishaps: what an access alters whatever its result is, and what there is if it succeeds.
-/

namespace GroupPolicy

/-- What happens to an access that the system does not let succeed. -/
structure Mishap where
  /-- The failure, in the words of the system. -/
  reason : String
  /-- How many of the names of a path were followed, if directories were to be created. -/
  depth : Nat
  /-- What was put into a file, if it was to be written and has been opened. -/
  remains : Option (List UInt8)

/-- A disk, and what happens to the accesses to come. -/
structure FaultyDisk where
  /-- The disk. -/
  disk : Disk
  /-- A mishap or none for each access. Those that are not listed have none. -/
  mishaps : List (Option Mishap)

/-- The disk after only some of the names of a path were followed to create directories. -/
def Disk.createSome (disk : Disk) (path : Path) (depth : Nat) : Disk :=
  match checkPath path with
  | .error _ => disk
  | .ok () => (disk.createAlong (disk.start path) (path.names.take depth)).2

/-- The disk after a file was opened to be written and other bytes were put into it. -/
def Disk.writeSome (disk : Disk) (path : Path) : Option (List UInt8) → Disk
  | none => disk
  | some remains => (disk.changed (disk.writeFile path remains)).2

namespace FaultyDisk

/-- Makes an access to the disk, unless a mishap is due. -/
def access {α : Type} (succeed : Disk → Except FileFailure α × Disk)
    (fail : Disk → Mishap → Disk) : StateM FaultyDisk (Except FileFailure α) := fun files =>
  match files.mishaps with
  | [] => ((succeed files.disk).1, ⟨(succeed files.disk).2, []⟩)
  | none :: later => ((succeed files.disk).1, ⟨(succeed files.disk).2, later⟩)
  | some mishap :: later => (.error (.other mishap.reason), ⟨fail files.disk mishap, later⟩)

/-- Computations on a disk whose accesses fail when a mishap is due. -/
instance : FileSystem (StateM FaultyDisk) where
  readFile path := access (fun disk => (disk.readFile path, disk)) fun disk _ => disk
  writeFile path contents :=
    access (fun disk => disk.changed (disk.writeFile path contents)) fun disk mishap =>
      disk.writeSome path mishap.remains
  createDirectories path :=
    access (·.createDirectories path) fun disk mishap => disk.createSome path mishap.depth
  rename old new :=
    access (fun disk => disk.changed (disk.rename old new)) fun disk _ => disk
  isFile path := return (← get).disk.isFile path

variable {α : Type} {files after : FaultyDisk} {path old new : Path} {contents : List UInt8}

theorem access_spec (succeed : Disk → Except FileFailure α × Disk)
    (fail : Disk → Mishap → Disk) (files : FaultyDisk) :
    ∃ later, (access succeed fail).run files =
        ((succeed files.disk).1, ⟨(succeed files.disk).2, later⟩) ∨
      ∃ mishap, (access succeed fail).run files =
        (.error (.other mishap.reason), ⟨fail files.disk mishap, later⟩) := by
  obtain ⟨disk, mishaps⟩ := files
  rcases mishaps with _ | ⟨mishap, later⟩
  · exact ⟨[], Or.inl rfl⟩
  · cases mishap with
    | none => exact ⟨later, Or.inl rfl⟩
    | some mishap => exact ⟨later, Or.inr ⟨mishap, rfl⟩⟩

theorem readFile_spec {result : Except FileFailure (List UInt8)}
    (read : (FileSystem.readFile path : StateM FaultyDisk _).run files = (result, after)) :
    after.disk = files.disk ∧
      (result = files.disk.readFile path ∨ ∃ reason, result = .error (.other reason)) := by
  obtain ⟨later, whole | ⟨mishap, whole⟩⟩ := access_spec
    (fun disk => (disk.readFile path, disk)) (fun disk _ => disk) files
  · cases read.symm.trans whole
    exact ⟨rfl, Or.inl rfl⟩
  · cases read.symm.trans whole
    exact ⟨rfl, Or.inr ⟨_, rfl⟩⟩

theorem createDirectories_spec (wellFormed : files.disk.WellFormed)
    {result : Except FileFailure Unit}
    (created : (FileSystem.createDirectories path : StateM FaultyDisk _).run files =
      (result, after)) :
    Disk.Altered [] files.disk after.disk := by
  obtain ⟨later, whole | ⟨mishap, whole⟩⟩ := access_spec
    (·.createDirectories path) (fun disk mishap => disk.createSome path mishap.depth) files
  · cases created.symm.trans whole
    exact Disk.createDirectories_altered wellFormed path
  · cases created.symm.trans whole
    show Disk.Altered [] files.disk (files.disk.createSome path mishap.depth)
    rw [Disk.createSome]
    split
    · exact .refl
    · exact Disk.createAlong_altered wellFormed path _

theorem writeFile_spec {result : Except FileFailure Unit}
    (written : (FileSystem.writeFile path contents : StateM FaultyDisk _).run files =
      (result, after)) :
    Disk.Altered [path] files.disk after.disk ∧
      (result = .ok () → after.disk.contents? path = some contents) := by
  obtain ⟨later, whole | ⟨mishap, whole⟩⟩ := access_spec
    (fun disk => disk.changed (disk.writeFile path contents))
    (fun disk mishap => disk.writeSome path mishap.remains) files
  · cases written.symm.trans whole
    refine ⟨Disk.changed_writeFile_altered files.disk path contents, fun success => ?_⟩
    cases done : files.disk.writeFile path contents with
    | error failure =>
      rw [done] at success
      cases success
    | ok after => exact (Disk.writeFile_altered done).2
  · cases written.symm.trans whole
    refine ⟨?_, nofun⟩
    cases mishap.remains with
    | none => exact .refl
    | some remains => exact Disk.changed_writeFile_altered files.disk path remains

theorem rename_spec (wellFormed : files.disk.WellFormed) {result : Except FileFailure Unit}
    (renamed : (FileSystem.rename old new : StateM FaultyDisk _).run files = (result, after)) :
    (∃ failure, result = .error failure ∧ after.disk = files.disk) ∨
      (result = .ok () ∧ Disk.Altered [old, new] files.disk after.disk ∧
        ∃ contents, files.disk.contents? old = some contents ∧
          after.disk.contents? new = some contents) := by
  obtain ⟨later, whole | ⟨mishap, whole⟩⟩ := access_spec
    (fun disk => disk.changed (disk.rename old new)) (fun disk _ => disk) files
  · cases renamed.symm.trans whole
    cases done : files.disk.rename old new with
    | error failure => exact Or.inl ⟨failure, rfl, rfl⟩
    | ok after => exact Or.inr ⟨rfl, Disk.rename_altered wellFormed done⟩
  · cases renamed.symm.trans whole
    exact Or.inl ⟨_, rfl, rfl⟩

end FaultyDisk

end GroupPolicy
