import GroupPolicy.Command.Script
import GroupPolicy.Proofs.Command.Grammar
import GroupPolicy.Proofs.Text.Lines

/-!
# Scripts, line by line

A script gives the commands of its lines that are not skipped, or the first failure among them with
the number of its line (`parseLines_eq_ok_iff`, `parseLines_eq_error_iff`). How the lines end makes
no difference (`parse_of_written`). The commands of a script, each written as its canonical line,
are a script of the same commands (`canonical_script_reads_back`): a canonical line starts as the
line from which its command was read, so it is not skipped either.
-/

namespace GroupPolicy

namespace Script

variable {line : List Char} {lines : List (List Char)} {number : Nat} {commands : List Command}
  {error : PolicyError}

/-! ## Lines that are skipped -/

/-- A line without a command: it is blank, or has a comment after blanks. -/
def Skipped (line : List Char) : Prop :=
  (∀ c ∈ line, Text.isBlank c = true) ∨
    ∃ blanks comment, line = blanks ++ '#' :: comment ∧ ∀ c ∈ blanks, Text.isBlank c = true

theorem isSkipped_iff : isSkipped line = true ↔ Skipped line := by
  rw [isSkipped, Bool.or_eq_true, List.isEmpty_iff, beq_iff_eq, Skipped]
  refine or_congr List.dropWhile_eq_nil_iff ⟨fun marked => ?_, ?_⟩
  · obtain ⟨comment, rest⟩ := List.head?_eq_some_iff.1 marked
    refine ⟨line.takeWhile Text.isBlank, comment, ?_, fun c => List.mem_takeWhile_imp⟩
    rw [← rest, Text.trimStart, List.takeWhile_append_dropWhile]
  · rintro ⟨blanks, comment, rfl, blank⟩
    rw [Text.trimStart_of_blanks blank]
    rfl

instance : DecidablePred Skipped := fun line =>
  decidable_of_iff (isSkipped line = true) isSkipped_iff

/-- A line with a field in it is skipped or not for the sake of that field alone. -/
theorem skipped_append_iff (key rest : List Char) :
    Skipped (key ++ ';' :: rest) ↔ (Text.trimStart key).head? = some '#' := by
  have shape : Text.trimStart (key ++ ';' :: rest) = Text.trimStart key ++ ';' :: rest := by
    rw [Text.trimStart, Text.trimStart, List.dropWhile_append]
    split
    · rename_i empty
      rw [List.isEmpty_iff.1 empty]
      rfl
    · rfl
  rw [← isSkipped_iff, isSkipped, shape]
  cases Text.trimStart key with
  | nil => simp
  | cons c front => simp

/-! ## Lines that are read -/

theorem parseLines_cons_of_skipped (skipped : Skipped line) :
    parseLines number (line :: lines) = parseLines (number + 1) lines := by
  rw [parseLines, if_pos (isSkipped_iff.2 skipped)]

theorem parseLines_cons_of_error {source : PolicyError} (read : ¬ Skipped line)
    (failed : Command.parse (String.ofList line) = .error source) :
    parseLines number (line :: lines) = .error (.scriptLine number source) := by
  rw [parseLines, if_neg (by rwa [isSkipped_iff]), failed]

theorem parseLines_cons_of_ok {command : Command} (read : ¬ Skipped line)
    (parsed : Command.parse (String.ofList line) = .ok command) :
    parseLines number (line :: lines) =
      (parseLines (number + 1) lines).map fun commands => command :: commands := by
  rw [parseLines, if_neg (by rwa [isSkipped_iff]), parsed]
  cases parseLines (number + 1) lines <;> rfl

theorem parseLines_append_blank (number : Nat) (lines : List (List Char)) :
    parseLines number (lines ++ [[]]) = parseLines number lines := by
  induction lines generalizing number with
  | nil => rfl
  | cons line lines ih => rw [List.cons_append, parseLines, parseLines, ih]

/-- The commands of lines are those of the lines that are not skipped, in order. -/
theorem parseLines_eq_ok_iff :
    parseLines number lines = .ok commands ↔
      List.Forall₂ (fun line command => Command.parse (String.ofList line) = .ok command)
        (lines.filter fun line => ¬ Skipped line) commands := by
  induction lines generalizing number commands with
  | nil =>
    rw [List.filter_nil, List.forall₂_nil_left_iff, parseLines, Except.ok.injEq]
    exact eq_comm
  | cons line lines ih =>
    by_cases skipped : Skipped line
    · rw [parseLines_cons_of_skipped skipped, List.filter_cons_of_neg (by simpa using skipped), ih]
    rw [List.filter_cons_of_pos (by simpa using skipped), List.forall₂_cons_left_iff]
    cases parsed : Command.parse (String.ofList line) with
    | error source =>
      rw [parseLines_cons_of_error skipped parsed]
      exact ⟨nofun, fun ⟨_, _, success, _⟩ => nomatch success⟩
    | ok command =>
      rw [parseLines_cons_of_ok skipped parsed, Except.map_eq_ok_iff]
      constructor
      · rintro ⟨later, read, rfl⟩
        exact ⟨command, later, rfl, ih.1 read, rfl⟩
      · rintro ⟨_, later, same, read, rfl⟩
        cases same
        exact ⟨later, ih.2 read, rfl⟩

/-- The line with a given index, counted from zero, fails, and every line before it is skipped or
gives a command. -/
structure FirstFailure (lines : List (List Char)) (index : Nat) (source : PolicyError) : Prop where
  failed : ∃ line, lines[index]? = some line ∧ ¬ Skipped line ∧
    Command.parse (String.ofList line) = .error source
  passed : ∀ earlier < index, ∀ line, lines[earlier]? = some line → ¬ Skipped line →
    ∃ command, Command.parse (String.ofList line) = .ok command

theorem firstFailure_zero_iff {source : PolicyError} :
    FirstFailure (line :: lines) 0 source ↔
      ¬ Skipped line ∧ Command.parse (String.ofList line) = .error source := by
  constructor
  · rintro ⟨⟨_, same, failed⟩, -⟩
    cases same
    exact failed
  · intro failed
    exact ⟨⟨line, rfl, failed⟩, nofun⟩

theorem firstFailure_succ_iff {index : Nat} {source : PolicyError} :
    FirstFailure (line :: lines) (index + 1) source ↔
      (¬ Skipped line → ∃ command, Command.parse (String.ofList line) = .ok command) ∧
        FirstFailure lines index source := by
  constructor
  · rintro ⟨failed, passed⟩
    exact ⟨passed 0 (Nat.succ_pos index) line rfl, failed,
      fun earlier before => passed (earlier + 1) (Nat.succ_lt_succ before)⟩
  · rintro ⟨first, failed, passed⟩
    refine ⟨failed, fun earlier before other found => ?_⟩
    cases earlier with
    | zero =>
      cases found
      exact first
    | succ earlier => exact passed earlier (Nat.lt_of_succ_lt_succ before) other found

/-- A line that passes leaves a failure to the lines after it. -/
theorem parseLines_cons_eq_error_iff
    (passes : ¬ Skipped line → ∃ command, Command.parse (String.ofList line) = .ok command) :
    parseLines number (line :: lines) = .error error ↔
      parseLines (number + 1) lines = .error error := by
  by_cases skipped : Skipped line
  · rw [parseLines_cons_of_skipped skipped]
  · obtain ⟨command, parsed⟩ := passes skipped
    rw [parseLines_cons_of_ok skipped parsed, Except.map_eq_error_iff]

/-- Reading lines fails with the first line that is not skipped and fails, and with its number. -/
theorem parseLines_eq_error_iff :
    parseLines number lines = .error error ↔
      ∃ index source, FirstFailure lines index source ∧
        error = .scriptLine (number + index) source := by
  -- The number of the first line is free: behind a line that passes, the next line has index zero
  -- and a number that is one larger, so the sum of the two stays.
  induction lines generalizing number with
  | nil =>
    refine ⟨nofun, ?_⟩
    rintro ⟨_, _, ⟨⟨_, none, -⟩, -⟩, -⟩
    cases none
  | cons line lines ih =>
    have next (index : Nat) : number + 1 + index = number + (index + 1) := by omega
    constructor
    · intro failed
      by_cases passes :
        ¬ Skipped line → ∃ command, Command.parse (String.ofList line) = .ok command
      · rw [parseLines_cons_eq_error_iff passes] at failed
        obtain ⟨index, source, first, rfl⟩ := ih.1 failed
        exact ⟨index + 1, source, firstFailure_succ_iff.2 ⟨passes, first⟩, by rw [next]⟩
      · obtain ⟨read, fails⟩ := Classical.not_imp.1 passes
        cases parsed : Command.parse (String.ofList line) with
        | ok command => exact absurd ⟨command, parsed⟩ fails
        | error source =>
          rw [parseLines_cons_of_error read parsed] at failed
          cases failed
          exact ⟨0, source, firstFailure_zero_iff.2 ⟨read, parsed⟩, rfl⟩
    · rintro ⟨index, source, first, rfl⟩
      cases index with
      | zero =>
        obtain ⟨read, failed⟩ := firstFailure_zero_iff.1 first
        exact parseLines_cons_of_error read failed
      | succ index =>
        obtain ⟨passes, first⟩ := firstFailure_succ_iff.1 first
        rw [parseLines_cons_eq_error_iff passes, ih]
        exact ⟨index, source, first, by rw [next]⟩

/-! ## Scripts -/

variable {text : String}

/-- A script is read from the lines of which it is made. -/
theorem parse_eq_parseLines (written : Text.WrittenAs text.toList lines) :
    parse text = parseLines 1 lines := by
  rw [parse]
  rcases Text.lines_of_written written with same | same
  · rw [same]
  · rw [same, parseLines_append_blank]

/-- A script that is made of lines gives the commands of those that are neither blank nor comments,
in order, if all of them give one, whatever the lines end in. Otherwise it fails with the least
number of a line that does not, counted from one over all lines, and with the cause and the category
of that line's failure. -/
theorem parse_of_written (written : Text.WrittenAs text.toList lines) :
    (∀ commands, parse text = .ok commands ↔
      List.Forall₂ (fun line command => Command.parse (String.ofList line) = .ok command)
        (lines.filter fun line => ¬ Skipped line) commands) ∧
    ∀ error, parse text = .error error ↔
      ∃ index source, FirstFailure lines index source ∧
        error = .scriptLine (index + 1) source ∧ error.category = source.category := by
  rw [parse_eq_parseLines written]
  refine ⟨fun commands => parseLines_eq_ok_iff, fun error => ?_⟩
  rw [parseLines_eq_error_iff]
  refine exists_congr fun index => exists_congr fun source => and_congr_right fun _ => ?_
  rw [Nat.add_comm]
  exact ⟨fun same => ⟨same, by rw [same]; rfl⟩, And.left⟩

theorem parse_of_written_mixed_endings :
    let text := "# a;\r\n\u2003\nK;A;4:text;;1\r\r\nbroken\n;also"
    let lines := ["# a;".toList, "\u2003".toList, "K;A;4:text;;1\r".toList, "broken".toList,
      ";also".toList]
    Text.WrittenAs text.toList lines ∧
      parse text = .error (.scriptLine 4 (.missingFields "broken")) := by
  intro text lines
  have unended : Text.WrittenAs ";also".toList [";also".toList] := .unended (by decide)
  have broken := @Text.WrittenAs.feed "broken".toList _ _ (by decide) (by decide) unended
  have returned := @Text.WrittenAs.returnFeed "K;A;4:text;;1\r".toList _ _ (by decide) broken
  have blank := @Text.WrittenAs.feed "\u2003".toList _ _ (by decide) (by decide) returned
  have comment := @Text.WrittenAs.returnFeed "# a;".toList _ _ (by decide) blank
  have written : Text.WrittenAs text.toList lines := by simpa [text, lines] using comment
  have first : FirstFailure lines 3 (.missingFields "broken") :=
    firstFailure_succ_iff.2 ⟨fun read => absurd (by decide) read,
      firstFailure_succ_iff.2 ⟨fun read => absurd (by decide) read,
        firstFailure_succ_iff.2 ⟨fun _ => ⟨.set "K" "A" .dword .text "1\r", by decide⟩,
          firstFailure_zero_iff.2 (by decide)⟩⟩⟩
  exact ⟨written, ((parse_of_written written).2 _).2 ⟨3, _, first, rfl, rfl⟩⟩

/-! ## Canonical scripts -/

/-- The script that is made of the canonical lines of commands. -/
def canonical (commands : List Command) : String :=
  String.join (commands.map fun command => command.display ++ "\r\n")

/-- The canonical line of a command gives that command to a script: it is read as the command, it is
not taken for a comment, and it is one line. -/
structure Carried (command : Command) : Prop where
  writable : command.Writable
  unmarked : (Text.trimStart command.key.toList).head? ≠ some '#'
  unbroken : '\n' ∉ command.display.toList

variable {command : Command}

theorem skipped_display_iff :
    Skipped command.display.toList ↔ (Text.trimStart command.key.toList).head? = some '#' := by
  rw [Command.toList_display, Command.Fields.line, skipped_append_iff, Command.key_fields]

/-- A command that was read from a line of a script is carried by its canonical line, as the two
lines start with the same key path. -/
theorem carried_of_parse (free : '\n' ∉ line) (read : ¬ Skipped line)
    (parsed : Command.parse (String.ofList line) = .ok command) : Carried command := by
  obtain ⟨fields, found, -, made⟩ := Command.parse_eq_ok_iff.1 parsed
  rw [String.toList_ofList, Command.Fields.ofLine?_eq_some_iff] at found
  obtain ⟨key, name⟩ := Command.names_of_ofFields made
  refine ⟨Command.writable_of_parse parsed, ?_, fun broken => ?_⟩
  · obtain ⟨-, rest, rfl⟩ := found.exists_rest
    rwa [key, String.toList_ofList, ne_eq, ← skipped_append_iff]
  · have kind : '\n' ∉ command.fields.kind := fun member =>
      absurd (command.kind_fields_subset member) (by decide)
    have data : '\n' ∈ command.fields.data → '\n' ∈ fields.data := fun member =>
      Command.data_subset_of_ofFields made member
    have fieldsBroken : '\n' ∈ fields.key ∨ '\n' ∈ fields.name ∨ '\n' ∈ fields.data := by
      rw [Command.toList_display, Command.Fields.line, Command.key_fields, Command.name_fields, key,
        name] at broken
      simp [kind] at broken
      tauto
    exact free (found.mem fieldsBroken)

theorem carried_of_forall₂ (kept : ∀ line ∈ lines, '\n' ∉ line ∧ ¬ Skipped line)
    (read : List.Forall₂ (fun line command => Command.parse (String.ofList line) = .ok command)
      lines commands) : ∀ command ∈ commands, Carried command := by
  induction read with
  | nil => exact nofun
  | cons parsed _ ih =>
    rw [List.forall_mem_cons] at kept ⊢
    exact ⟨carried_of_parse kept.1.1 kept.1.2 parsed, ih kept.2⟩

/-- The commands of a script are carried by their canonical lines. -/
theorem carried_of_read (read : parse text = .ok commands) :
    ∀ command ∈ commands, Carried command := by
  have written := Text.written_lines text.toList
  rw [parse_eq_parseLines written, parseLines_eq_ok_iff] at read
  refine carried_of_forall₂ (fun line member => ?_) read
  obtain ⟨member, kept⟩ := List.mem_filter.1 member
  exact ⟨written.not_mem member, by simpa using kept⟩

theorem written_canonical (carried : ∀ command ∈ commands, Carried command) :
    Text.WrittenAs (canonical commands).toList
      (commands.map fun command => command.display.toList) := by
  induction commands with
  | nil => exact .empty
  | cons command commands ih =>
    rw [List.forall_mem_cons] at carried
    have rest := ih carried.2
    have whole : (canonical (command :: commands)).toList =
        command.display.toList ++ '\r' :: '\n' :: (canonical commands).toList := by
      simp [canonical]
    rw [whole]
    exact .returnFeed carried.1.unbroken rest

/-- The canonical lines of commands give the commands, if all of these are carried. -/
theorem forall₂_display (carried : ∀ command ∈ commands, Carried command) :
    List.Forall₂ (fun line command => Command.parse (String.ofList line) = .ok command)
      ((commands.map fun command => command.display.toList).filter fun line => ¬ Skipped line)
      commands := by
  induction commands with
  | nil => exact .nil
  | cons command commands ih =>
    rw [List.forall_mem_cons] at carried
    have read : ¬ Skipped command.display.toList := fun skipped =>
      carried.1.unmarked (skipped_display_iff.1 skipped)
    rw [List.map_cons, List.filter_cons_of_pos (by simpa using read)]
    refine .cons ?_ (ih carried.2)
    rw [String.ofList_toList]
    exact Command.parse_display carried.1.writable

/-- If a script is read as commands, so is the script of their canonical lines. -/
theorem canonical_script_reads_back (read : parse text = .ok commands) :
    parse (canonical commands) = .ok commands := by
  have carried := carried_of_read read
  rw [parse_eq_parseLines (written_canonical carried), parseLines_eq_ok_iff]
  exact forall₂_display carried

theorem canonical_script_reads_back_returns :
    let text := "  # start\n \t;A;01: text;x;a\rb;c\r\r\n\r\nK;;\nK;V;+4:hex:text;;#1"
    let commands : List Command := [.set " \t" "A" .string .hex "a\rb;c\r", .delete "K" "",
      .set "K" "V" .dword .text "#1"]
    parse text = .ok commands ∧
      canonical commands = " \t;A;1;;a\rb;c\r\r\nK;;;;\r\nK;V;4:text;;#1\r\n" ∧
      parse (canonical commands) = .ok commands := by
  intro text commands
  have read : parse text = .ok commands := by decide
  exact ⟨read, by decide, canonical_script_reads_back read⟩

end Script

end GroupPolicy
