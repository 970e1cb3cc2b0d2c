import GroupPolicy.Proofs.Cli.Applying
import GroupPolicy.Proofs.Store.Reordering
import GroupPolicy.Proofs.Tree.Undoing

/-!
# One batch in two runs

A batch may be split into two runs of the subcommand. The second run opens the file that the first
has saved, and finds the tree that the first has made (`Persisted.loaded`), so it does what the rest
of the batch would have done, up to the mark of changes. The main statement is
`applyToFile_append`. What no policy file can hold is the exception: it is refused when a run saves
it (`applyToFile_singleton_of_large`), and so not if the same run takes it away again.
-/

namespace GroupPolicy

/-- The value that a command sets, if it sets one, fits the size field of a policy file. -/
def Command.Fits (command : Command) : Prop :=
  ∀ key name value, command.plan = .ok (.write key name value) →
    value.toBytes.length < UInt32.size

namespace Cli

open Batch FileStore

variable {path : Path} {mode firstMode secondMode : ApplyMode} {first second : List Command}
  {disk between after : Disk} {tree : RegistryTree} {middle next joined : FileStore}
  {report before total : ApplyReport}

/-- What a batch does on a store is what its second part does on the store that was opened after its
first part, but that changes of the first part are not marked there any more. -/
theorem exists_runsTo_append (mode : ApplyMode)
    (ran : RunsTo FaultyDisk firstMode first (opened path tree) (.ok before) middle)
    (ran' : RunsTo FaultyDisk secondMode second (opened path middle.tree) (.ok report) next)
    (files : FaultyDisk) :
    ∃ joined, RunsTo FaultyDisk mode (first ++ second) (opened path tree)
        (.ok (before + report)) joined ∧
      joined.tree = next.tree ∧ joined.dirty = (middle.dirty || next.dirty) := by
  obtain ⟨-, changes⟩ := ran.spec files (changesFrom_opened path tree)
  obtain ⟨joined, rest, sameTree, sameMark⟩ := ran'.reopened changes
  exact ⟨joined, ran.append mode rest, sameTree, sameMark⟩

/-- Commands that succeed on a tree succeed on the store that was opened with it. -/
theorem exists_runsTo_opened {commands : List Command} {final : RegistryTree} (path : Path)
    (ran : runPlain (Batch.run mode commands) tree = (.ok report, final)) :
    ∃ next, RunsTo FaultyDisk mode commands (opened path tree) (.ok report) next ∧
      next.tree = final ∧ ChangesFrom path tree next := by
  obtain ⟨result, next, reached, same, changes⟩ :=
    exists_runsTo FaultyDisk mode commands (changesFrom_opened path tree)
  cases same.symm.trans ran
  exact ⟨next, reached, rfl, changes⟩

/-- The second part of a batch that succeeds does so on the store that was opened after its first
part. -/
theorem of_runsTo_append (firstMode secondMode : ApplyMode)
    (ran : RunsTo FaultyDisk mode (first ++ second) (opened path tree) (.ok total) joined)
    (files : FaultyDisk) :
    ∃ before middle report next,
      RunsTo FaultyDisk firstMode first (opened path tree) (.ok before) middle ∧
      RunsTo FaultyDisk secondMode second (opened path middle.tree) (.ok report) next ∧
      joined.tree = next.tree ∧ joined.dirty = (middle.dirty || next.dirty) := by
  obtain ⟨before, middle, report, started, rest⟩ :=
    ran.of_append firstMode secondMode files (changesFrom_opened path tree)
  obtain ⟨-, changes⟩ := started.spec files (changesFrom_opened path tree)
  obtain ⟨result, next, reopened, -⟩ :=
    exists_runsTo FaultyDisk secondMode second (changesFrom_opened path middle.tree)
  obtain ⟨last, rest', sameTree, sameMark⟩ := reopened.reopened changes
  obtain ⟨rfl, rfl⟩ := rest'.unique rest files
  exact ⟨before, middle, report, next, started, reopened, sameTree, sameMark⟩

/-! ## What is in the file -/

/-- What two runs in a row put into the file is what one run would put there. -/
theorem Persisted.trans {final : Disk}
    (ran : RunsTo FaultyDisk secondMode second (opened path middle.tree) (.ok report) next)
    (sameTree : joined.tree = next.tree) (sameMark : joined.dirty = (middle.dirty || next.dirty))
    (started : Persisted path middle disk between) (ended : Persisted path next between final) :
    Persisted path joined disk final := by
  obtain ⟨-, changes⟩ := ran.spec ⟨disk, []⟩ (changesFrom_opened path middle.tree)
  cases ended with
  | written dirty encoded altered there =>
    rw [dirty, Bool.or_true] at sameMark
    rw [← sameTree] at encoded
    exact .written sameMark encoded (started.altered.trans altered) there
  | idle clean =>
    rw [clean, Bool.or_false] at sameMark
    cases started with
    | written dirty encoded altered there =>
      rw [← changes.clean clean, ← sameTree] at encoded
      exact .written (sameMark.trans dirty) encoded altered there
    | idle clean' => exact .idle (sameMark.trans clean')

/-- Two files that hold a store have the same bytes, or the store was in the file before. -/
theorem Persisted.agree {final last : Disk} (persisted : Persisted path joined disk final)
    (persisted' : Persisted path joined disk last) :
    (final = disk ∧ last = disk) ∨
      ∃ bytes, final.contents? path = some bytes ∧ last.contents? path = some bytes := by
  cases persisted with
  | idle clean =>
    cases persisted' with
    | idle => exact Or.inl ⟨rfl, rfl⟩
    | written dirty => cases clean.symm.trans dirty
  | written dirty encoded _ there =>
    cases persisted' with
    | idle clean => cases clean.symm.trans dirty
    | written _ encoded' _ there' =>
      cases encoded.symm.trans encoded'
      exact Or.inr ⟨_, there, there'⟩

theorem Persisted.encodes (persisted : Persisted path joined disk after)
    (dirty : joined.dirty = true) : ∃ bytes, PolicyFile.encode joined.tree.entries = .ok bytes := by
  cases persisted with
  | idle clean => cases clean.symm.trans dirty
  | written _ encoded => exact ⟨_, encoded⟩

/-- What commands with fitting values make of a file fits a policy file. -/
theorem exists_encode_afterCommands {next : RegistryTree}
    (loaded : treeOf (disk.readFile path) = .ok tree)
    (success : tree.afterCommands first = .ok next) (fits : ∀ command ∈ first, command.Fits) :
    ∃ bytes, PolicyFile.encode next.entries = .ok bytes := by
  obtain ⟨calls, rfl, asked⟩ := RegistryTree.exists_calls_of_afterCommands success
  obtain ⟨entries, inserted, short⟩ := exists_entries_of_treeOf loaded
  have whole : tree.after calls =
      RegistryTree.empty.after (entries.map TreeCall.ofEntry ++ calls) := by
    rw [RegistryTree.after_append, RegistryTree.after_of_foldlM_insertEntry inserted]
  rw [whole]
  refine RegistryTree.exists_encode_of_short fun call member stored leaves => ?_
  rcases List.mem_append.1 member with member | member
  · obtain ⟨entry, inEntries, rfl⟩ := List.mem_map.1 member
    cases leaves
    exact short entry inEntries
  · obtain ⟨command, among, step, planned, rfl⟩ := asked call member
    cases step with
    | write key name value =>
      cases leaves
      exact fits command among key name value planned
    | remove key name => cases leaves

/-! ## Values that no policy file can hold -/

theorem length_toBytes_replicate (count : Nat) :
    (RegistryValue.string (String.ofList (List.replicate count 'a'))).toBytes.length =
      2 * count := by
  have units : Text.Utf16.encode (List.replicate count 'a') = List.replicate count 97 := by
    have one : Text.Utf16.ofChar 'a' = [97] := rfl
    rw [Text.Utf16.encode, List.flatMap_replicate, one, List.flatten_replicate_singleton]
  rw [RegistryValue.toBytes, Utf16Bytes.ofText, String.toList_ofList, units,
    Utf16Bytes.length_ofUnits, List.length_replicate]

/-- Where there is no file, a run that sets one value is stopped if that is too large. -/
theorem applyToFile_singleton_of_large {root : Path} {part : PolicySection} {command : Command}
    {key name : String} {value : RegistryValue} {files after : FaultyDisk}
    (read : (FileSystem.readFile (part.policyFile root) : StateM FaultyDisk _).run files =
      (.error .notFound, after))
    (planned : command.plan = .ok (.write key name value))
    (accepted : KeyPath.normalize key = .ok key) (checked : ValueName.check name = .ok ())
    (large : UInt32.size ≤ value.toBytes.length) :
    runPlain (applyToFile root part mode [command]) files =
      (.error (.valueTooLarge key name value.toBytes.length), after) := by
  have set : runPlain (Batch.run mode [command]) RegistryTree.empty = (.ok { set := 1 }, _) :=
    RegistryTree.run_singleton_iff.2
      ⟨_, planned, RegistryTree.set_empty_of_accepted accepted checked, rfl⟩
  obtain ⟨next, ran, tree, changes⟩ := exists_runsTo_opened (part.policyFile root) set
  have dirty : next.dirty = true := by
    refine Bool.eq_true_of_not_eq_false fun clean => ?_
    cases tree.symm.trans (changes.clean clean)
  have refused : PolicyFile.encode next.tree.entries =
      .error (.valueTooLarge key name value.toBytes.length) := by
    rw [tree]
    exact PolicyFile.encode_singleton_of_large large
  exact applyToFile_of_runsTo read rfl ran (save_of_refused changes.writable dirty refused)

/-! ## Two runs and one -/

variable {firstResult secondResult result : Except PolicyError ApplyReport} {final last : Disk}

/-- Where the commands succeed, a run with no failing access to files succeeds too, unless there is
something to save that is too large. -/
theorem FileRun.of_succeeded (run : FileRun path mode first disk result last)
    (loaded : treeOf (disk.readFile path) = .ok tree)
    (ran : RunsTo FaultyDisk mode first (opened path tree) (.ok report) next)
    (accessible : ∀ failure, result ≠ .error (.io failure)) :
    (result = .ok report ∧ Persisted path next disk last) ∨
      ∃ error, result = .error error ∧ next.dirty = true ∧
        PolicyFile.encode next.tree.entries = .error error := by
  cases run with
  | unopened unreadable => cases loaded.symm.trans unreadable
  | broken => exact absurd rfl (accessible _)
  | refused loaded' failed =>
    cases loaded.symm.trans loaded'
    cases (ran.unique failed ⟨disk, []⟩).1
  | tooLarge loaded' ran' dirty refused =>
    cases loaded.symm.trans loaded'
    obtain ⟨-, rfl⟩ := ran.unique ran' ⟨disk, []⟩
    exact Or.inr ⟨_, rfl, dirty, refused⟩
  | done loaded' ran' persisted =>
    cases loaded.symm.trans loaded'
    obtain ⟨same, rfl⟩ := ran.unique ran' ⟨disk, []⟩
    exact Or.inl ⟨same.symm, persisted⟩

/-- After two runs that succeed, one run does so too if no access to files fails. -/
theorem FileRun.append (started : FileRun path firstMode first disk (.ok before) between)
    (ended : FileRun path secondMode second between (.ok report) final)
    (whole : FileRun path mode (first ++ second) disk result last)
    (accessible : ∀ failure, result ≠ .error (.io failure)) :
    result = .ok (before + report) ∧
      ((final = disk ∧ last = disk) ∨
        ∃ bytes, final.contents? path = some bytes ∧ last.contents? path = some bytes) := by
  obtain - | - | - | - | ⟨loaded, ran, persisted⟩ := started
  obtain - | - | - | - | ⟨reloaded, ran', persisted'⟩ := ended
  cases reloaded.symm.trans (persisted.loaded loaded ran)
  obtain ⟨joined, both, sameTree, sameMark⟩ := exists_runsTo_append mode ran ran' ⟨disk, []⟩
  have together := persisted.trans ran' sameTree sameMark persisted'
  rcases whole.of_succeeded loaded both accessible with
    ⟨same, persisted''⟩ | ⟨error, -, dirty, refused⟩
  · exact ⟨same, together.agree persisted''⟩
  · obtain ⟨bytes, encoded⟩ := together.encodes dirty
    cases encoded.symm.trans refused

/-- If one run succeeds, then the first of two does so too if no access to files fails and all that
the first part sets fits a policy file. -/
theorem FileRun.of_append_first (firstMode : ApplyMode)
    (whole : FileRun path mode (first ++ second) disk (.ok total) last)
    (started : FileRun path firstMode first disk firstResult between)
    (accessible : ∀ failure, firstResult ≠ .error (.io failure))
    (fits : ∀ command ∈ first, command.Fits) : ∃ before, firstResult = .ok before := by
  obtain - | - | - | - | ⟨loaded, both, -⟩ := whole
  obtain ⟨before, middle, report, next, ran, -⟩ :=
    of_runsTo_append firstMode firstMode both ⟨disk, []⟩
  rcases started.of_succeeded loaded ran accessible with ⟨same, -⟩ | ⟨error, -, -, refused⟩
  · exact ⟨before, same⟩
  · obtain ⟨same, -⟩ := ran.spec ⟨disk, []⟩ (changesFrom_opened _ _)
    obtain ⟨bytes, encoded⟩ :=
      exists_encode_afterCommands loaded (RegistryTree.afterCommands_of_run same) fits
    cases encoded.symm.trans refused

/-- If one run and the first of two succeed, then the second does so too if no access to files
fails. -/
theorem FileRun.of_append_second
    (whole : FileRun path mode (first ++ second) disk (.ok total) last)
    (started : FileRun path firstMode first disk (.ok before) between)
    (ended : FileRun path secondMode second between secondResult final)
    (accessible : ∀ failure, secondResult ≠ .error (.io failure)) :
    ∃ after, secondResult = .ok after := by
  obtain - | - | - | - | ⟨loaded, both, persisted⟩ := whole
  obtain - | - | - | - | ⟨loaded', begun, persisted'⟩ := started
  cases loaded.symm.trans loaded'
  have reloaded := persisted'.loaded loaded begun
  obtain ⟨_, middle, report, next, ran, ran', sameTree, sameMark⟩ :=
    of_runsTo_append firstMode secondMode both ⟨disk, []⟩
  obtain ⟨-, rfl⟩ := begun.unique ran ⟨disk, []⟩
  rcases ended.of_succeeded reloaded ran' accessible with ⟨same, -⟩ | ⟨error, -, dirty, refused⟩
  · exact ⟨report, same⟩
  · -- What is too large now was too large for the one run.
    rw [dirty, Bool.or_true] at sameMark
    obtain ⟨bytes, encoded⟩ := persisted.encodes sameMark
    rw [sameTree] at encoded
    cases encoded.symm.trans refused

/-- Splitting a batch into two runs changes nothing, if no access to files fails and every command
of the first part fits: both runs succeed if and only if one run does. A value that no policy file
can hold stops the first of two runs, even where the second part takes it away again. If both runs
succeed, then their reports add up to that of one run, and the file has the same bytes or was not
touched by any of the runs. -/
theorem applyToFile_append {root : Path} {part : PolicySection}
    {firstMishaps secondMishaps mishaps : List (Option Mishap)} {between final last : FaultyDisk}
    (wellFormed : disk.WellFormed)
    (firstRun : runPlain (applyToFile root part firstMode first) ⟨disk, firstMishaps⟩ =
      (firstResult, between))
    (secondRun : runPlain (applyToFile root part secondMode second)
      ⟨between.disk, secondMishaps⟩ = (secondResult, final))
    (wholeRun : runPlain (applyToFile root part mode (first ++ second)) ⟨disk, mishaps⟩ =
      (result, last))
    (accessible : ∀ failure, firstResult ≠ .error (.io failure) ∧
      secondResult ≠ .error (.io failure) ∧ result ≠ .error (.io failure)) :
    ((∀ command ∈ first, command.Fits) →
      ((∃ before, firstResult = .ok before) ∧ (∃ after, secondResult = .ok after) ↔
        ∃ total, result = .ok total)) ∧
    ∀ before after, firstResult = .ok before → secondResult = .ok after →
      result = .ok (before + after) ∧
        ((final.disk = disk ∧ last.disk = disk) ∨
          ∃ bytes, final.disk.contents? (part.policyFile root) = some bytes ∧
            last.disk.contents? (part.policyFile root) = some bytes) := by
  have started := fileRun_of_applyToFile wellFormed firstRun
  have sound : (⟨between.disk, secondMishaps⟩ : FaultyDisk).disk.WellFormed :=
    started.wellFormed wellFormed
  have ended := fileRun_of_applyToFile sound secondRun
  have whole := fileRun_of_applyToFile wellFormed wholeRun
  have together (before after : ApplyReport) (first : firstResult = .ok before)
      (second : secondResult = .ok after) := by
    rw [first] at started
    rw [second] at ended
    exact started.append ended whole fun failure => (accessible failure).2.2
  refine ⟨fun fits => ⟨?_, ?_⟩, together⟩
  · rintro ⟨⟨before, first⟩, after, second⟩
    exact ⟨_, (together before after first second).1⟩
  · rintro ⟨total, rfl⟩
    obtain ⟨before, rfl⟩ := whole.of_append_first firstMode started
      (fun failure => (accessible failure).1) fits
    exact ⟨⟨before, rfl⟩,
      whole.of_append_second started ended fun failure => (accessible failure).2.1⟩

theorem applyToFile_append_recreated :
    (∀ command ∈ [Command.set "K" "A" .binary .hex "01"], command.Fits) ∧
    ∃ between final last : FaultyDisk, Disk.empty.WellFormed ∧
      runPlain (applyToFile ⟨"GroupPolicy"⟩ .user .sequential [.set "K" "A" .binary .hex "01"])
        (⟨.empty, []⟩ : FaultyDisk) = (.ok { set := 1 }, between) ∧
      runPlain (applyToFile ⟨"GroupPolicy"⟩ .user .prevalidate
        [.delete "k" "a", .set "k" "a" .binary .hex "02"])
        (⟨between.disk, []⟩ : FaultyDisk) = (.ok { set := 1, deleted := 1 }, final) ∧
      runPlain (applyToFile ⟨"GroupPolicy"⟩ .user .sequential
        ([.set "K" "A" .binary .hex "01"] ++ [.delete "k" "a", .set "k" "a" .binary .hex "02"]))
        (⟨.empty, []⟩ : FaultyDisk) = (.ok { set := 2, deleted := 1 }, last) ∧
      ∃ bytes, final.disk.contents? (PolicySection.user.policyFile ⟨"GroupPolicy"⟩) = some bytes ∧
        last.disk.contents? (PolicySection.user.policyFile ⟨"GroupPolicy"⟩) = some bytes := by
  have fits : ∀ command ∈ [Command.set "K" "A" .binary .hex "01"], command.Fits := by
    intro command member key name value planned
    cases List.mem_singleton.1 member
    cases planned
    decide
  have wellFormed : Disk.empty.WellFormed := Disk.wellFormed_of_nodes (by decide) (by rfl)
  obtain ⟨between, holds⟩ : ∃ disk : Disk, disk =
      ⟨[(["work", "GroupPolicy", "User", "Registry.pol"],
          .file (PolicyFile.header ++ PolicyFile.entryBytes ⟨"K", "A", 3, [1]⟩)),
        (["work", "GroupPolicy", "User"], .directory), (["work", "GroupPolicy"], .directory),
        (["work"], .directory)], ["work"]⟩ := ⟨_, rfl⟩
  have firstRun : runPlain (applyToFile ⟨"GroupPolicy"⟩ .user .sequential
      [.set "K" "A" .binary .hex "01"]) (⟨.empty, []⟩ : FaultyDisk) =
        (.ok { set := 1 }, ⟨between, []⟩) := by
    rw [holds]
    rfl
  -- The second run decodes the file that the first has written.
  have read : (FileSystem.readFile (PolicySection.user.policyFile ⟨"GroupPolicy"⟩) :
      StateM FaultyDisk _).run ⟨between, []⟩ =
        (.ok (PolicyFile.header ++ PolicyFile.entryBytes ⟨"K", "A", 3, [1]⟩), ⟨between, []⟩) := by
    rw [holds]
    rfl
  have sound : (⟨[("k", ⟨"K", [("A", ⟨3, [1]⟩)]⟩)]⟩ : RegistryTree).WellFormed :=
    RegistryTree.WellFormed.empty.after [.set "K" "A" ⟨3, [1]⟩]
  have loaded : treeOf (.ok (PolicyFile.header ++ PolicyFile.entryBytes ⟨"K", "A", 3, [1]⟩)) =
      .ok ⟨[("k", ⟨"K", [("A", ⟨3, [1]⟩)]⟩)]⟩ := loadTree_of_encode sound rfl
  obtain ⟨final, secondRun⟩ : ∃ final, runPlain (applyToFile ⟨"GroupPolicy"⟩ .user .prevalidate
      [.delete "k" "a", .set "k" "a" .binary .hex "02"]) (⟨between, []⟩ : FaultyDisk) =
        (.ok { set := 1, deleted := 1 }, final) := by
    rw [applyToFile_eq .prevalidate _ read, loaded, holds]
    exact ⟨_, rfl⟩
  obtain ⟨last, wholeRun, written⟩ : ∃ last,
      runPlain (applyToFile ⟨"GroupPolicy"⟩ .user .sequential
        ([.set "K" "A" .binary .hex "01"] ++ [.delete "k" "a", .set "k" "a" .binary .hex "02"]))
        (⟨.empty, []⟩ : FaultyDisk) = (.ok { set := 2, deleted := 1 }, last) ∧
      last.disk.nodes.length = 4 := ⟨_, rfl, rfl⟩
  obtain ⟨-, together⟩ := applyToFile_append wellFormed firstRun secondRun wholeRun
    fun failure => ⟨nofun, nofun, nofun⟩
  obtain ⟨-, ⟨-, unaltered⟩ | same⟩ := together _ _ rfl rfl
  · rw [unaltered] at written
    cases written
  · exact ⟨fits, _, final, last, wellFormed, firstRun, secondRun, wholeRun, same⟩

/-- A value that no policy file can hold is refused in the save at the end of a run, and so not in a
run that takes it away again before. -/
theorem not_applyToFile_append_of_large :
    let text := String.ofList (List.replicate 0x80000000 'a')
    let first := [Command.set "K" "N" .string .text text]
    let second := [Command.delete "K" "N"]
    Disk.empty.WellFormed ∧
    ¬ ∀ firstResult secondResult result between final last,
      runPlain (applyToFile ⟨"GroupPolicy"⟩ .user .sequential first) (⟨.empty, []⟩ : FaultyDisk) =
        (firstResult, between) →
      runPlain (applyToFile ⟨"GroupPolicy"⟩ .user .sequential second)
        (⟨between.disk, []⟩ : FaultyDisk) = (secondResult, final) →
      runPlain (applyToFile ⟨"GroupPolicy"⟩ .user .sequential (first ++ second))
        (⟨.empty, []⟩ : FaultyDisk) = (result, last) →
      (∀ failure, firstResult ≠ .error (.io failure) ∧ secondResult ≠ .error (.io failure) ∧
        result ≠ .error (.io failure)) →
      ((∃ before, firstResult = .ok before) ∧ (∃ after, secondResult = .ok after) ↔
        ∃ total, result = .ok total) := by
  intro text first second
  have long : (RegistryValue.string text).toBytes.length = UInt32.size :=
    length_toBytes_replicate 0x80000000
  -- From here on only the length counts.
  clear_value text
  refine ⟨Disk.wellFormed_of_nodes (by decide) (by rfl), fun alike => ?_⟩
  have read : (FileSystem.readFile (PolicySection.user.policyFile ⟨"GroupPolicy"⟩) :
      StateM FaultyDisk _).run ⟨.empty, []⟩ = (.error .notFound, ⟨.empty, []⟩) := by
    rfl
  have normalized : KeyPath.normalize "K" = .ok "K" := by rfl
  have checked : ValueName.check "N" = .ok () := by rfl
  have firstRun : runPlain (applyToFile ⟨"GroupPolicy"⟩ .user .sequential first)
      (⟨.empty, []⟩ : FaultyDisk) = (.error (.valueTooLarge "K" "N" _), ⟨.empty, []⟩) :=
    applyToFile_singleton_of_large read rfl normalized checked long.ge
  have secondRun : runPlain (applyToFile ⟨"GroupPolicy"⟩ .user .sequential
      [Command.delete "K" "N"]) (⟨.empty, []⟩ : FaultyDisk) =
        (.ok { absent := 1 }, ⟨.empty, []⟩) := by
    rfl
  -- The one run saves a file without values.
  have success : RegistryTree.empty.set "K" "N" (.ofValue (.string text)) = .ok _ :=
    RegistryTree.set_empty_of_accepted normalized checked
  have undone := RegistryTree.WellFormed.empty.delete_of_set success rfl
    ⟨⟨_, normalized⟩, checked⟩ rfl
  have set : runPlain (Batch.run .sequential first) RegistryTree.empty = (.ok { set := 1 }, _) :=
    RegistryTree.run_singleton_iff.2 ⟨_, rfl, success, rfl⟩
  have deleted : runPlain (Batch.run .sequential second) (_ : RegistryTree) =
      (.ok _, RegistryTree.empty) :=
    RegistryTree.run_singleton_iff.2 ⟨_, rfl, congrArg (Except.map Prod.snd) undone, rfl⟩
  have both := (run_append_iff .sequential .sequential .sequential).2 ⟨_, _, _, set, deleted, rfl⟩
  obtain ⟨next, ran, tree, changes⟩ :=
    exists_runsTo_opened (PolicySection.user.policyFile ⟨"GroupPolicy"⟩) both
  obtain ⟨last, final, saved⟩ : ∃ last final, (next.save : StateM FaultyDisk _).run ⟨.empty, []⟩ =
      ((.ok (), last), final) := by
    rw [changes.eq_opened, tree]
    cases next.dirty with
    | false => exact ⟨_, _, rfl⟩
    | true => exact ⟨_, _, rfl⟩
  have wholeRun := applyToFile_of_runsTo read rfl ran saved
  obtain ⟨⟨before, same⟩, -⟩ := (alike _ _ _ _ _ _ firstRun secondRun wholeRun
    fun failure => ⟨nofun, nofun, nofun⟩).2 ⟨_, rfl⟩
  cases same

end Cli

end GroupPolicy
