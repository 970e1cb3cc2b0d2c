import GroupPolicy.Proofs.Files.Disk
import Mathlib.Logic.Relation

/-!
# Which files an access changes

Each access to a disk is a row of alterations (`Altered`): the disk gets directories, or the file at
one of some given paths changes. What is in the file at any other path stays the same
(`Altered.contents?_eq`), with one exception: a path that goes up from a directory which is missing
leads nowhere, and may lead to a file as soon as the directory is there (`Settled`).
-/

namespace GroupPolicy.Disk

variable {disk middle after : Disk} {place other : Place} {names : List String}
  {path old new : Path} {paths : List Path} {contents bytes : List UInt8}

/-- What is in the file at a path, if the path leads to a file. -/
def contents? (disk : Disk) (path : Path) : Option (List UInt8) :=
  (disk.readFile path).toOption

theorem readFile_eq_ok_iff :
    disk.readFile path = .ok contents ↔ ∃ place, disk.locate path = .ok place ∧
      disk.node? place = some (.file contents) ∧ path.endsInDirectory = false := by
  rw [readFile, Except.bind_eq_ok_iff]
  refine exists_congr fun place => and_congr_right fun _ => ?_
  cases found : disk.node? place with
  | none => exact ⟨nofun, nofun⟩
  | some node =>
    cases node with
    | directory => exact ⟨nofun, nofun⟩
    | file inside =>
      cases path.endsInDirectory with
      | true => exact ⟨nofun, nofun⟩
      | false =>
        constructor
        · intro read
          cases read
          exact ⟨rfl, rfl⟩
        · rintro ⟨same, -⟩
          cases same
          rfl

theorem contents?_eq_some_iff :
    disk.contents? path = some contents ↔ ∃ place, disk.locate path = .ok place ∧
      disk.node? place = some (.file contents) ∧ path.endsInDirectory = false := by
  rw [← readFile_eq_ok_iff, contents?]
  cases disk.readFile path with
  | error failure => exact ⟨nofun, nofun⟩
  | ok inside => simp [Except.toOption]

theorem readFile_of_contents? (found : disk.contents? path = some contents) :
    disk.readFile path = .ok contents :=
  readFile_eq_ok_iff.2 (contents?_eq_some_iff.1 found)

/-! ## Getting directories -/

/-- A disk has got directories and is the same otherwise. -/
structure Grows (disk after : Disk) : Prop where
  working : after.working = disk.working
  kept : ∀ {place node}, disk.node? place = some node → after.node? place = some node
  files : ∀ {place contents}, after.node? place = some (.file contents) →
    disk.node? place = some (.file contents)
  wellFormed : disk.WellFormed → after.WellFormed

namespace Grows

theorem refl (disk : Disk) : disk.Grows disk :=
  ⟨rfl, id, id, id⟩

theorem trans (first : disk.Grows middle) (second : middle.Grows after) : disk.Grows after :=
  ⟨second.working.trans first.working, fun found => second.kept (first.kept found),
    fun found => first.files (second.files found),
    fun wellFormed => second.wellFormed (first.wellFormed wellFormed)⟩

end Grows

theorem grows_put (absent : disk.node? place = none)
    (parent : disk.node? place.dropLast = some .directory) :
    disk.Grows (disk.put place .directory) := by
  have below : place ≠ [] := by
    rintro rfl
    cases absent
  have kept : ∀ {other node}, disk.node? other = some node →
      (disk.put place .directory).node? other = some node := by
    intro other node found
    have elsewhere : other ≠ place := by
      rintro rfl
      cases absent.symm.trans found
    rw [node?_put below, if_neg elsewhere, found]
  refine ⟨rfl, kept, ?_, fun wellFormed => ⟨?_, kept wellFormed.working⟩⟩
  · intro other contents found
    rw [node?_put below] at found
    split at found
    · cases found
    · exact found
  · intro other node found
    rw [node?_put below] at found
    split at found
    · rename_i same
      rw [same]
      exact kept parent
    · exact kept (wellFormed.parents found)

theorem createAlong_grows (wellFormed : disk.WellFormed)
    (directory : disk.node? place = some .directory) (names : List String) :
    disk.Grows (disk.createAlong place names).2 := by
  induction names generalizing disk place with
  | nil => exact .refl disk
  | cons name names ih =>
    rw [createAlong]
    cases led : step place name with
    | error failure => exact .refl disk
    | ok inner =>
      dsimp only
      cases found : disk.node? inner with
      | some node =>
        cases node with
        | directory => exact ih wellFormed found
        | file contents => exact .refl disk
      | none =>
        have created := grows_put found (wellFormed.step_parent directory led)
        have below : inner ≠ [] := by
          rintro rfl
          cases found
        have there : (disk.put inner .directory).node? inner = some .directory := by
          rw [node?_put below, if_pos rfl]
        exact created.trans (ih (created.wellFormed wellFormed) there)

/-- A path goes up through directories that are there, if it goes up at all. -/
def Settled (disk : Disk) (path : Path) : Prop :=
  ∃ front rest inner, path.names = front ++ rest ∧
    front.foldlM disk.enter (disk.start path) = .ok inner ∧ ".." ∉ rest

theorem settled_of_down (disk : Disk) (down : ".." ∉ path.names) : disk.Settled path :=
  ⟨[], path.names, disk.start path, rfl, rfl, down⟩

theorem Settled.mono (settled : disk.Settled path) (working : after.working = disk.working)
    (directories : ∀ place, disk.node? place = some .directory →
      after.node? place = some .directory) : after.Settled path := by
  obtain ⟨front, rest, inner, names, descended, down⟩ := settled
  have same : after.start path = disk.start path := by
    rw [start, start, working]
  exact ⟨front, rest, inner, names, same ▸ descend_mono directories descended, down⟩

/-- A settled path leads to a file whenever it does so on a disk with more directories. -/
theorem Grows.locate_of_file (grows : disk.Grows after) (wellFormed : disk.WellFormed)
    (settled : disk.Settled path) (located : after.locate path = .ok place)
    (file : disk.node? place = some (.file contents)) : disk.locate path = .ok place := by
  obtain ⟨front, rest, inner, names, descended, down⟩ := settled
  obtain ⟨checked, nonempty, walked⟩ := locate_eq_ok_iff.1 located
  have same : after.start path = disk.start path := by
    rw [start, start, grows.working]
  refine locate_eq_ok_iff.2 ⟨checked, nonempty, ?_⟩
  rw [same, names] at walked
  rw [names]
  rcases List.eq_nil_or_concat' rest with rfl | ⟨middle, last, rfl⟩
  · rw [List.append_nil] at walked ⊢
    have whole := walk_of_descend descended
    cases walked.symm.trans (walk_mono (fun _ => grows.kept) whole)
    exact whole
  · -- The file was there before, so that the rest of the way to it led through directories.
    rw [List.mem_append, List.mem_singleton, not_or] at down
    rw [← List.append_assoc, walk_concat_eq_ok_iff] at walked ⊢
    obtain ⟨parent, entered, led⟩ := walked
    obtain rfl := step_eq_ok_of_down (Ne.symm down.2) led
    have directory := wellFormed.above file (List.cons_ne_nil last [])
    rw [List.foldlM_append, Except.bind_eq_ok_iff] at entered
    obtain ⟨inner', first, second⟩ := entered
    cases first.symm.trans (descend_mono (fun _ => grows.kept) descended)
    refine ⟨parent, ?_, led⟩
    rw [List.foldlM_append, Except.bind_eq_ok_iff]
    exact ⟨inner, descended, wellFormed.descend down.1 second directory⟩

/-- A settled path leads to nothing else on a disk with more directories. -/
theorem Grows.contents?_eq (grows : disk.Grows after) (wellFormed : disk.WellFormed)
    (settled : disk.Settled path) : after.contents? path = disk.contents? path := by
  ext contents
  rw [contents?_eq_some_iff, contents?_eq_some_iff]
  refine exists_congr fun place => ⟨?_, ?_⟩
  · rintro ⟨located, file, plain⟩
    have before := grows.files file
    exact ⟨grows.locate_of_file wellFormed settled located before, before, plain⟩
  · rintro ⟨located, file, plain⟩
    exact ⟨locate_mono grows.working (fun _ => grows.kept) located, grows.kept file, plain⟩

/-! ## Changing a file -/

/-- Two disks are the same but for the file at a place. -/
structure DiffersAt (place : Place) (disk after : Disk) : Prop where
  working : after.working = disk.working
  elsewhere : ∀ {other}, other ≠ place → after.node? other = disk.node? other
  old : disk.node? place ≠ some .directory
  new : after.node? place ≠ some .directory

namespace DiffersAt

theorem directory_iff (differs : DiffersAt place disk after) :
    after.node? other = some .directory ↔ disk.node? other = some .directory := by
  by_cases same : other = place
  · subst same
    exact ⟨fun found => absurd found differs.new, fun found => absurd found differs.old⟩
  · rw [differs.elsewhere same]

theorem locate_iff (differs : DiffersAt place disk after) :
    after.locate path = .ok other ↔ disk.locate path = .ok other :=
  ⟨locate_mono differs.working.symm fun _ => differs.directory_iff.1,
    locate_mono differs.working fun _ => differs.directory_iff.2⟩

theorem contents?_eq (differs : DiffersAt place disk after)
    (elsewhere : disk.locate path ≠ .ok place) :
    after.contents? path = disk.contents? path := by
  ext contents
  rw [contents?_eq_some_iff, contents?_eq_some_iff]
  refine exists_congr fun other => ?_
  rw [differs.locate_iff]
  refine and_congr_right fun located => ?_
  have apart : other ≠ place := by
    rintro rfl
    exact elsewhere located
  rw [differs.elsewhere apart]

theorem wellFormed (differs : DiffersAt place disk after) (wellFormed : disk.WellFormed)
    (parent : disk.node? place.dropLast = some .directory) : after.WellFormed := by
  refine ⟨?_, ?_⟩
  · intro other node found
    rw [differs.directory_iff]
    by_cases same : other = place
    · rwa [same]
    · rw [differs.elsewhere same] at found
      exact wellFormed.parents found
  · rw [differs.working]
    exact differs.directory_iff.2 wellFormed.working

end DiffersAt

theorem ne_root_of_file (file : disk.node? place ≠ some .directory) : place ≠ [] := by
  rintro rfl
  exact file rfl

theorem differsAt_put (file : disk.node? place ≠ some .directory) (contents : List UInt8) :
    DiffersAt place disk (disk.put place (.file contents)) := by
  have below := ne_root_of_file file
  refine ⟨rfl, fun elsewhere => ?_, file, ?_⟩
  · rw [node?_put below, if_neg elsewhere]
  · rw [node?_put below, if_pos rfl]
    exact nofun

theorem differsAt_erase (wellFormed : disk.WellFormed)
    (file : disk.node? place = some (.file contents)) :
    DiffersAt place disk (disk.erase place) := by
  have notDirectory : disk.node? place ≠ some .directory := by
    rw [file]
    exact nofun
  have below := ne_root_of_file notDirectory
  refine ⟨rfl, fun {other} elsewhere => ?_, notDirectory, ?_⟩
  · rw [node?_erase below]
    split
    · -- Nothing is below a file.
      rename_i within
      obtain ⟨rest, rfl⟩ := within
      cases found : disk.node? (place ++ rest) with
      | none => rfl
      | some node =>
        have more : rest ≠ [] := by
          rintro rfl
          exact elsewhere (List.append_nil place)
        exact absurd (wellFormed.above found more) notDirectory
    · rfl
  · rw [node?_erase below, if_pos (List.prefix_refl place)]
    exact nofun

/-! ## Alterations in a row -/

/-- A disk gets directories, or the file at one of the paths changes. -/
inductive Alteration (paths : List Path) : Disk → Disk → Prop
  | growth {disk after : Disk} : disk.Grows after → Alteration paths disk after
  | file {disk after : Disk} {path : Path} {place : Place} :
      path ∈ paths → disk.locate path = .ok place → DiffersAt place disk after →
      Alteration paths disk after

/-- Alterations in a row. -/
abbrev Altered (paths : List Path) : Disk → Disk → Prop :=
  Relation.ReflTransGen (Alteration paths)

theorem Alteration.wellFormed (altered : Alteration paths disk after)
    (wellFormed : disk.WellFormed) : after.WellFormed := by
  cases altered with
  | growth grows => exact grows.wellFormed wellFormed
  | file member located differs => exact differs.wellFormed wellFormed (wellFormed.locate_parent located)

theorem Alteration.settled (altered : Alteration paths disk after) (settled : disk.Settled path) :
    after.Settled path := by
  cases altered with
  | growth grows => exact settled.mono grows.working fun _ => grows.kept
  | file member located differs =>
    exact settled.mono differs.working fun _ => differs.directory_iff.2

/-- A path parts from all given ones that could lead to a file. -/
def Apart (path : Path) (paths : List Path) : Prop :=
  ∀ other ∈ paths, other.CouldBeFile → path.Diverge other

theorem Alteration.contents?_eq (altered : Alteration paths disk after)
    (wellFormed : disk.WellFormed) (settled : disk.Settled path) (apart : Apart path paths) :
    after.contents? path = disk.contents? path := by
  cases altered with
  | growth grows => exact grows.contents?_eq wellFormed settled
  | file member located differs =>
    have diverge := apart _ member (wellFormed.couldBeFile located differs.old)
    refine differs.contents?_eq fun same => ?_
    exact ne_of_diverge diverge same located rfl

namespace Altered

theorem mono {more : List Path} (subset : paths ⊆ more) (altered : Altered paths disk after) :
    Altered more disk after := by
  refine Relation.ReflTransGen.mono (fun _ _ step => ?_) _ _ altered
  cases step with
  | growth grows => exact .growth grows
  | file member located differs => exact .file (subset member) located differs

theorem wellFormed (altered : Altered paths disk after) (wellFormed : disk.WellFormed) :
    after.WellFormed := by
  induction altered with
  | refl => exact wellFormed
  | tail _ step ih => exact step.wellFormed ih

theorem settled (altered : Altered paths disk after) (settled : disk.Settled path) :
    after.Settled path := by
  induction altered with
  | refl => exact settled
  | tail _ step ih => exact step.settled ih

theorem contents?_eq (altered : Altered paths disk after) (wellFormed : disk.WellFormed)
    (settled : disk.Settled path) (apart : Apart path paths) :
    after.contents? path = disk.contents? path := by
  induction altered with
  | refl => rfl
  | @tail middle after before step ih =>
    have settled' := Altered.settled before settled
    rw [step.contents?_eq (Altered.wellFormed before wellFormed) settled' apart, ih]

end Altered

/-! ## Accesses -/

theorem createAlong_altered (wellFormed : disk.WellFormed) (path : Path) (names : List String) :
    Altered [] disk (disk.createAlong (disk.start path) names).2 :=
  .single (.growth (createAlong_grows wellFormed (wellFormed.start path) names))

theorem createDirectories_altered (wellFormed : disk.WellFormed) (path : Path) :
    Altered [] disk (disk.createDirectories path).2 := by
  rw [createDirectories]
  split
  · exact .refl
  · exact createAlong_altered wellFormed path path.names

/-- A file that was put where a path leads is what the path leads to. -/
theorem contents?_put (located : disk.locate path = .ok place)
    (file : disk.node? place ≠ some .directory) (plain : path.endsInDirectory = false)
    (contents : List UInt8) :
    (disk.put place (.file contents)).contents? path = some contents := by
  refine contents?_eq_some_iff.2 ⟨place, ?_, ?_, plain⟩
  · exact (differsAt_put file contents).locate_iff.2 located
  · rw [node?_put (ne_root_of_file file), if_pos rfl]

theorem writeFile_eq_ok (written : disk.writeFile path contents = .ok after) :
    ∃ place, disk.locate path = .ok place ∧ disk.node? place ≠ some .directory ∧
      path.endsInDirectory = false ∧ after = disk.put place (.file contents) := by
  rw [writeFile, Except.bind_eq_ok_iff] at written
  obtain ⟨place, located, done⟩ := written
  refine ⟨place, located, ?_⟩
  split at done
  · cases done
  all_goals
    rename_i found
    split at done
    · cases done
    · cases done
      exact ⟨by simp [found], eq_false_of_ne_true ‹_›, rfl⟩

theorem writeFile_altered (written : disk.writeFile path contents = .ok after) :
    Altered [path] disk after ∧ after.contents? path = some contents := by
  obtain ⟨place, located, file, plain, rfl⟩ := writeFile_eq_ok written
  refine ⟨.single (.file (List.mem_singleton_self path) located (differsAt_put file contents)), ?_⟩
  exact contents?_put located file plain contents

theorem changed_writeFile_altered (disk : Disk) (path : Path) (contents : List UInt8) :
    Altered [path] disk (disk.changed (disk.writeFile path contents)).2 := by
  cases written : disk.writeFile path contents with
  | error failure => exact .refl
  | ok after => exact (writeFile_altered written).1

theorem rename_altered (wellFormed : disk.WellFormed) (renamed : disk.rename old new = .ok after) :
    Altered [old, new] disk after ∧
      ∃ contents, disk.contents? old = some contents ∧ after.contents? new = some contents := by
  simp only [rename, Except.bind_eq_ok_iff] at renamed
  obtain ⟨contents, read, source, fromSource, target, toTarget, done⟩ := renamed
  obtain ⟨source', located, file, -⟩ := readFile_eq_ok_iff.1 read
  cases fromSource.symm.trans located
  have erased := differsAt_erase wellFormed file
  have toTarget' : (disk.erase source).locate new = .ok target := erased.locate_iff.2 toTarget
  split at done
  · cases done
  · rename_i notDirectory
    split at done
    · cases done
    · rename_i plain
      cases done
      have free : (disk.erase source).node? target ≠ some .directory := fun found =>
        notDirectory (erased.directory_iff.1 found)
      refine ⟨.tail (.single (.file ?_ located erased)) (.file ?_ toTarget' (differsAt_put free _)),
        contents, ?_, contents?_put toTarget' free (eq_false_of_ne_true plain) contents⟩
      · exact List.mem_cons_self
      · exact List.mem_cons_of_mem _ (List.mem_singleton_self new)
      · rw [contents?, read]
        rfl

end GroupPolicy.Disk
