import GroupPolicy.Proofs.Cli.Applying

/-!
# The batch subcommand on a disk

A batch reads all its commands, opens a store, executes the commands on what the store holds, and
saves last. So if anything fails on the way, with or without mishaps, then the policy files of both
sections keep their bytes, and if nothing fails, then the file of the chosen section is loaded as
the tree that the commands have made (`runBatch_all_or_nothing`).
-/

namespace GroupPolicy

variable {files after : FaultyDisk} {root path : Path} {part other : PolicySection}

/-! ## The policy files of the sections -/

namespace PolicySection

/-- The name of the directory of a section. -/
def directoryName : PolicySection → String
  | machine => "Machine"
  | user => "User"

theorem directoryName_ne (differ : part ≠ other) : part.directoryName ≠ other.directoryName := by
  cases part <;> cases other <;> first | exact absurd rfl differ | decide

theorem directoryName_ne_up (part : PolicySection) : part.directoryName ≠ ".." := by
  cases part <;> decide

theorem names_policyFile (part : PolicySection) (root : Path) :
    (part.policyFile root).names = root.names ++ [part.directoryName, "Registry.pol"] := by
  have relative : part.directory.isAbsolute = false := by cases part <;> rfl
  have directory : part.directory.names = [part.directoryName] := by cases part <;> rfl
  have file : (⟨"Registry.pol"⟩ : Path).names = ["Registry.pol"] := by rfl
  rw [policyFile, Path.names_join (by rfl), Path.names_join relative, directory, file,
    List.append_assoc, List.singleton_append]

theorem isAbsolute_policyFile (part : PolicySection) (root : Path) :
    (part.policyFile root).isAbsolute = root.isAbsolute := by
  have relative : part.directory.isAbsolute = false := by cases part <;> rfl
  rw [policyFile, Path.isAbsolute_join (by rfl), Path.isAbsolute_join relative]

theorem diverge_policyFile (differ : part ≠ other) :
    (part.policyFile root).Diverge (other.policyFile root) := by
  refine ⟨?_, root.names, part.directoryName, ["Registry.pol"], other.directoryName,
    ["Registry.pol"], names_policyFile part root, names_policyFile other root,
    directoryName_ne differ, ?_, ?_⟩
  · rw [isAbsolute_policyFile, isAbsolute_policyFile]
  · simp [(directoryName_ne_up part).symm]
  · simp [(directoryName_ne_up other).symm]

theorem diverge_temporary (differ : part ≠ other)
    (file : (other.policyFile root).temporary.CouldBeFile) :
    (part.policyFile root).Diverge (other.policyFile root).temporary := by
  obtain ⟨same, front, name, name', names, names', -, -, down⟩ := Path.beside_temporary file
  have shape : root.names ++ [other.directoryName] ++ ["Registry.pol"] = front ++ [name] := by
    rw [← names, names_policyFile, List.append_assoc, List.singleton_append]
  obtain ⟨rfl, -⟩ := List.append_inj' shape rfl
  refine ⟨?_, root.names, part.directoryName, ["Registry.pol"], other.directoryName, [name'],
    names_policyFile part root, ?_, directoryName_ne differ, ?_, ?_⟩
  · rw [← same, isAbsolute_policyFile, isAbsolute_policyFile]
  · rw [names', List.append_assoc, List.singleton_append]
  · simp [(directoryName_ne_up part).symm]
  · simp [(directoryName_ne_up other).symm, down.symm]

/-- Nothing that replaces the policy file of a section is at the path of the other one's. -/
theorem apart_policyFile (differ : part ≠ other) :
    Disk.Apart (part.policyFile root)
      [(other.policyFile root).temporary, other.policyFile root] := by
  intro path member file
  rcases List.mem_cons.1 member with same | member
  · rw [same] at file ⊢
    exact diverge_temporary differ file
  · rw [List.mem_singleton.1 member]
    exact diverge_policyFile differ

/-- The temporary file of a section is at the path of neither policy file. -/
theorem apart_temporary (part other : PolicySection) (root : Path) :
    Disk.Apart (part.policyFile root) [(other.policyFile root).temporary] := by
  intro path member file
  rw [List.mem_singleton.1 member] at file ⊢
  by_cases same : part = other
  · subst same
    exact (Path.beside_temporary file).diverge
  · exact diverge_temporary same file

end PolicySection

namespace Cli

variable {config : Config} {source : CommandSource} {mode : ApplyMode} {commands : List Command}
  {input : Except FileFailure (List UInt8)} {report : Except PolicyError ApplyReport}

/-! ## Reading the commands -/

/-- The commands of a source: those of its lines, and then those of its script, which is in a file
of the disk or comes in as bytes. -/
def CommandSource.Gives (source : CommandSource) (disk : Disk)
    (input : Except FileFailure (List UInt8)) (commands : List Command) : Prop :=
  ∃ given scripted, commands = given ++ scripted ∧ source.lines.mapM Command.parse = .ok given ∧
    match source.script with
    | none => scripted = []
    | some path => ∃ text, Script.parse text = .ok scripted ∧
        ((if path.isName standardInputName then input else disk.readFile path).bind
          FileSystem.decodeText) = .ok text

theorem readScript_spec {found : Except FileFailure String}
    (read : (readScript (pure input) path : StateM FaultyDisk _).run files = (found, after)) :
    after.disk = files.disk ∧ ∀ text, found = .ok text →
      ((if path.isName standardInputName then input else files.disk.readFile path).bind
        FileSystem.decodeText) = .ok text := by
  rw [readScript] at read
  split at read
  · rename_i standard
    cases read
    refine ⟨rfl, fun text success => ?_⟩
    rw [if_pos standard]
    exact success
  · rename_i standard
    rcases inFile : (FileSystem.readFile path : StateM FaultyDisk _).run files with ⟨bytes, later⟩
    rw [FileSystem.readText] at read
    dsimp only [StateT.run_bind] at read
    rw [inFile] at read
    cases read
    obtain ⟨same, rfl | ⟨reason, rfl⟩⟩ := FaultyDisk.readFile_spec inFile
    · refine ⟨same, fun text success => ?_⟩
      rw [if_neg standard]
      exact success
    · exact ⟨same, nofun⟩

theorem commands_spec {read : Except PolicyError (List Command)}
    (ran : (source.commands (pure input) :
      ExceptT PolicyError (StateM FaultyDisk) (List Command)).run.run files = (read, after)) :
    after.disk = files.disk ∧
      ∀ commands, read = .ok commands → source.Gives files.disk input commands := by
  rw [CommandSource.commands] at ran
  cases parsed : source.lines.mapM Command.parse with
  | error error =>
    rw [parsed] at ran
    cases ran
    exact ⟨rfl, nofun⟩
  | ok given =>
    rw [parsed] at ran
    have lifted : (liftM (Except.ok given : Except PolicyError (List Command)) :
        ExceptT PolicyError (StateM FaultyDisk) (List Command)).run.run files =
          pure (.ok given, files) := rfl
    rw [run_bind_of_ok lifted] at ran
    cases script : source.script with
    | none =>
      rw [script] at ran
      cases ran
      refine ⟨rfl, fun commands same => ?_⟩
      cases same
      refine ⟨given, [], (List.append_nil given).symm, parsed, ?_⟩
      rw [script]
    | some path =>
      rw [script] at ran
      rcases found : (readScript (pure input) path : StateM FaultyDisk _).run files
        with ⟨text, later⟩
      obtain ⟨same, decoded⟩ := readScript_spec found
      cases text with
      | error failure =>
        cases ran.symm.trans (run_bind_of_error (FileStore.run_attempt found) _)
        exact ⟨same, nofun⟩
      | ok text =>
        dsimp only at ran
        rw [run_bind_of_ok (FileStore.run_attempt found)] at ran
        cases others : Script.parse text with
        | error error =>
          rw [others] at ran
          cases ran
          exact ⟨same, nofun⟩
        | ok scripted =>
          rw [others] at ran
          cases ran
          refine ⟨same, fun commands whole => ?_⟩
          cases whole
          refine ⟨given, scripted, rfl, parsed, ?_⟩
          rw [script]
          exact ⟨text, others, decoded text rfl⟩

/-! ## Applying the commands -/

/-- A dry run leaves the disk as it is. -/
theorem applyToCopy_spec
    (ran : (applyToCopy root part mode commands :
      ExceptT PolicyError (StateM FaultyDisk) ApplyReport).run.run files = (report, after)) :
    after.disk = files.disk := by
  rcases read : (FileSystem.readFile (part.policyFile root) : StateM FaultyDisk _).run files
    with ⟨found, middle⟩
  cases (applyToCopy_eq mode commands read).symm.trans ran
  exact (FaultyDisk.readFile_spec read).1

/-- Either nothing is altered but the temporary file, or all commands are executed and saved. -/
theorem applyToFile_spec (wellFormed : files.disk.WellFormed)
    (ran : (applyToFile root part mode commands :
      ExceptT PolicyError (StateM FaultyDisk) ApplyReport).run.run files = (report, after)) :
    (∃ error, report = .error error ∧
      Disk.Altered [(part.policyFile root).temporary] files.disk after.disk) ∨
    (∃ counts before final, report = .ok counts ∧
      FileStore.treeOf (files.disk.readFile (part.policyFile root)) = .ok before ∧
      before.afterCommands commands = .ok final ∧
      FileStore.treeOf (after.disk.readFile (part.policyFile root)) = .ok final ∧
      Disk.Altered [(part.policyFile root).temporary, part.policyFile root] files.disk
        after.disk) := by
  have run := fileRun_of_applyToFile wellFormed ran
  generalize after.disk = disk at run ⊢
  cases run with
  | unopened => exact Or.inl ⟨_, rfl, .refl⟩
  | refused => exact Or.inl ⟨_, rfl, .refl⟩
  | tooLarge => exact Or.inl ⟨_, rfl, .refl⟩
  | broken altered => exact Or.inl ⟨_, rfl, altered⟩
  | done loaded succeeded persisted =>
    obtain ⟨plain, -⟩ := succeeded.spec files (FileStore.changesFrom_opened _ _)
    exact Or.inr ⟨_, _, _, rfl, loaded, RegistryTree.afterCommands_of_run plain,
      persisted.loaded loaded succeeded, persisted.altered⟩

/-! ## All or nothing -/

/-- A dry run leaves the disk as it is. A batch that fails leaves the bytes of both policy files,
unless their paths go up from a missing directory. One that succeeds leaves a file that is loaded as
the tree which all commands in order have made of what was loaded before, and leaves the bytes of
the other section's file with the same proviso. -/
theorem runBatch_all_or_nothing {disk : Disk} {mishaps : List (Option Mishap)}
    {chosen : Option PolicySection} {dryRun prevalidate : Bool}
    {result : Except PolicyError BatchSummary} (wellFormed : disk.WellFormed)
    (ran : (runBatch config (pure input) chosen source dryRun prevalidate :
      ExceptT PolicyError (StateM FaultyDisk) BatchSummary).run.run ⟨disk, mishaps⟩ =
        (result, after)) :
    (dryRun = true → after.disk = disk) ∧
    (∀ error, result = .error error → ∀ part : PolicySection,
      disk.Settled (part.policyFile config.root) →
      after.disk.contents? (part.policyFile config.root) =
        disk.contents? (part.policyFile config.root)) ∧
    (∀ summary, result = .ok summary → dryRun = false →
      (∃ commands before final, source.Gives disk input commands ∧
        FileStore.treeOf
          (disk.readFile ((chosen.getD config.defaultSection).policyFile config.root)) =
            .ok before ∧
        before.afterCommands commands = .ok final ∧
        FileStore.treeOf
          (after.disk.readFile ((chosen.getD config.defaultSection).policyFile config.root)) =
            .ok final) ∧
      ∀ other : PolicySection, other ≠ chosen.getD config.defaultSection →
        disk.Settled (other.policyFile config.root) →
        after.disk.contents? (other.policyFile config.root) =
          disk.contents? (other.policyFile config.root)) := by
  rw [runBatch] at ran
  generalize chosen.getD config.defaultSection = part at ran ⊢
  generalize (if prevalidate then ApplyMode.prevalidate else config.applyMode) = mode at ran
  rcases given : (source.commands (pure input) :
    ExceptT PolicyError (StateM FaultyDisk) (List Command)).run.run ⟨disk, mishaps⟩
      with ⟨read, middle⟩
  obtain ⟨unaltered, gives⟩ := commands_spec given
  cases read with
  | error error =>
    cases ran.symm.trans (run_bind_of_error given _)
    exact ⟨fun _ => unaltered, fun _ _ _ _ => by rw [unaltered], nofun⟩
  | ok commands =>
    rw [run_bind_of_ok given] at ran
    cases dryRun with
    | true =>
      rcases copied : (applyToCopy config.root part mode commands :
        ExceptT PolicyError (StateM FaultyDisk) ApplyReport).run.run middle with ⟨report, last⟩
      have same := (applyToCopy_spec copied).trans unaltered
      have final : after = last := by
        cases report with
        | error error => cases ran.symm.trans (run_bind_of_error copied _); rfl
        | ok counts => cases ran.symm.trans (run_bind_of_ok copied _); rfl
      subst final
      exact ⟨fun _ => same, fun _ _ _ _ => by rw [same], nofun⟩
    | false =>
      rcases applied : (applyToFile config.root part mode commands :
        ExceptT PolicyError (StateM FaultyDisk) ApplyReport).run.run middle with ⟨report, last⟩
      have onDisk : middle.disk.WellFormed := unaltered ▸ wellFormed
      rcases applyToFile_spec onDisk applied with
        ⟨error, rfl, altered⟩ | ⟨counts, before, final, rfl, loaded, all, reloaded, altered⟩
      · cases ran.symm.trans (run_bind_of_error applied _)
        rw [unaltered] at altered
        refine ⟨nofun, fun _ _ other settled => ?_, nofun⟩
        exact altered.contents?_eq wellFormed settled
          (PolicySection.apart_temporary other part config.root)
      · cases ran.symm.trans (run_bind_of_ok applied _)
        rw [unaltered] at altered loaded
        refine ⟨nofun, nofun, fun _ _ _ => ⟨?_, fun other differ settled => ?_⟩⟩
        · exact ⟨commands, before, final, gives commands rfl, loaded, all, reloaded⟩
        · exact altered.contents?_eq wellFormed settled (PolicySection.apart_policyFile differ)

theorem runBatch_all_or_nothing_last_command :
    (∃ error after,
      (runBatch {} (pure (.ok [])) none ⟨["A;B;3;;", "\\;B;;;"], none⟩ false false :
        ExceptT PolicyError (StateM FaultyDisk) BatchSummary).run.run ⟨.empty, []⟩ =
          (.error error, after) ∧
      ∀ part : PolicySection, after.disk.contents? (part.policyFile ⟨"GroupPolicy"⟩) =
        Disk.empty.contents? (part.policyFile ⟨"GroupPolicy"⟩)) ∧
    ∃ summary after commands before final,
      (runBatch {} (pure (.ok [])) none ⟨["A;B;3;;"], none⟩ false false :
        ExceptT PolicyError (StateM FaultyDisk) BatchSummary).run.run ⟨.empty, []⟩ =
          (.ok summary, after) ∧
      CommandSource.Gives ⟨["A;B;3;;"], none⟩ .empty (.ok []) commands ∧
      FileStore.treeOf (Disk.empty.readFile (PolicySection.user.policyFile ⟨"GroupPolicy"⟩)) =
        .ok before ∧
      before.afterCommands commands = .ok final ∧
      FileStore.treeOf (after.disk.readFile (PolicySection.user.policyFile ⟨"GroupPolicy"⟩)) =
        .ok final := by
  have wellFormed : Disk.empty.WellFormed := Disk.wellFormed_of_nodes (by decide) (by rfl)
  have failed : (runBatch {} (pure (.ok [])) none
      ⟨["A;B;3;;", "\\;B;;;"], none⟩ false false :
        ExceptT PolicyError (StateM FaultyDisk) BatchSummary).run.run ⟨.empty, []⟩ =
          (.error (.invalidKeyPath "\\"), ⟨.empty, []⟩) := by
    rfl
  have succeeded : (runBatch {} (pure (.ok [])) none ⟨["A;B;3;;"], none⟩ false false :
      ExceptT PolicyError (StateM FaultyDisk) BatchSummary).run.run ⟨.empty, []⟩ =
        (.ok ⟨.user, .sequential, false, { set := 1 }⟩,
          ⟨⟨[(["work", "GroupPolicy", "User", "Registry.pol"],
              .file (PolicyFile.header ++ PolicyFile.entryBytes ⟨"A", "B", 3, []⟩)),
            (["work", "GroupPolicy", "User"], .directory), (["work", "GroupPolicy"], .directory),
            (["work"], .directory)], ["work"]⟩, []⟩) := by
    rfl
  obtain ⟨-, unaltered, -⟩ := runBatch_all_or_nothing wellFormed failed
  obtain ⟨-, -, done⟩ := runBatch_all_or_nothing wellFormed succeeded
  obtain ⟨⟨commands, before, final, given, loaded, all, reloaded⟩, -⟩ := done _ rfl rfl
  have settled (part : PolicySection) : Disk.empty.Settled (part.policyFile ⟨"GroupPolicy"⟩) := by
    cases part
    · exact Disk.settled_of_down _ (by decide)
    · exact Disk.settled_of_down _ (by decide)
  exact ⟨⟨_, _, failed, fun part => unaltered _ rfl part (settled part)⟩,
    _, _, commands, before, final, succeeded, given, loaded, all, reloaded⟩

/-- The other section's file can come to light when directories are created for this section's. -/
theorem not_runBatch_keeps_other_section :
    let written := PolicyFile.header ++ PolicyFile.entryBytes ⟨"K", "N", 1, []⟩
    let disk : Disk :=
      { nodes := [(["work"], .directory), (["work", "Machine"], .directory),
          (["work", "Machine", "Registry.pol"], .file written)]
        working := ["work"] }
    let root : Path := ⟨"missing/.."⟩
    disk.WellFormed ∧
    ¬ ∀ summary after,
      (runBatch { root := root } (pure (.ok [])) (some .user) ⟨["A;B;3;;"], none⟩ false
        false : ExceptT PolicyError (StateM FaultyDisk) BatchSummary).run.run ⟨disk, []⟩ =
          (.ok summary, after) →
      after.disk.contents? (PolicySection.machine.policyFile root) =
        disk.contents? (PolicySection.machine.policyFile root) := by
  refine ⟨Disk.wellFormed_of_nodes (by decide) (by rfl), fun keeps => ?_⟩
  have same := keeps ⟨.user, .sequential, false, { set := 1 }⟩ ⟨_, []⟩ rfl
  cases same

end Cli

end GroupPolicy
