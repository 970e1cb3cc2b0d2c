import GroupPolicy.Command
import GroupPolicy.Proofs.Success
import GroupPolicy.Proofs.Text.Split

/-!
# Canonical lines of commands

A line is read as the fields from which it was put together if no field but the last holds a
semicolon (`Fields.ofLine?_line`), and the fields of a command are read as that command
(`ofFields_fields`). So the canonical line of a command is read as the command if it can be written
at all: its key path must not be empty, and neither of its names may hold a semicolon. Every
command that was read can be written (`writable_of_parse`).
-/

namespace GroupPolicy

namespace Command

namespace Fields

/-- The line that is made of fields, with nothing in the reserved one. -/
def line (fields : Fields) : List Char :=
  fields.key ++ ';' :: (fields.name ++ ';' :: (fields.kind ++ ';' :: ';' :: fields.data))

theorem ofLine?_line {fields : Fields} (key : ';' ∉ fields.key) (name : ';' ∉ fields.name)
    (kind : ';' ∉ fields.kind) : ofLine? fields.line = some fields := by
  rw [ofLine?, line, Text.cut_append_cons key]
  dsimp only
  rw [Text.cut_append_cons name, Option.getD_some, Text.cut_append_cons kind, Option.getD_some]
  rfl

theorem not_mem_of_ofLine? {line : List Char} {fields : Fields}
    (read : ofLine? line = some fields) :
    ';' ∉ fields.key ∧ ';' ∉ fields.name := by
  rw [ofLine?] at read
  split at read
  · cases read
  · rename_i key afterKey found
    cases read
    refine ⟨?_, Text.not_mem_cut ';' afterKey⟩
    rw [show key = (Text.cut ';' line).1 by rw [found]]
    exact Text.not_mem_cut ';' line

end Fields

/-- The fields of a command's canonical line. -/
def fields : Command → Fields
  | set key name kind encoding data =>
    { key := key.toList
      name := name.toList
      kind := (toString kind.code.toNat ++ filterText encoding).toList
      data := data.toList }
  | delete key name => { key := key.toList, name := name.toList, kind := [], data := [] }

theorem toList_display (command : Command) : command.display.toList = command.fields.line := by
  cases command with
  | set key name kind encoding data =>
    simp [display, fields, Fields.line]
  | delete key name =>
    simp [display, fields, Fields.line]

theorem key_fields (command : Command) : command.fields.key = command.key.toList := by
  cases command <;> rfl

theorem name_fields (command : Command) : command.fields.name = command.name.toList := by
  cases command <;> rfl

/-- A kind and its filter are written with digits, a colon and the letters of the filter. -/
theorem kind_fields_subset (command : Command) :
    command.fields.kind ⊆ "0123456789:text".toList := by
  cases command with
  | set key name kind encoding data =>
    show (toString kind.code.toNat ++ filterText encoding).toList ⊆ _
    cases kind <;> cases encoding <;> decide
  | delete key name => exact List.nil_subset _

theorem not_mem_kind_fields (command : Command) : ';' ∉ command.fields.kind := fun member =>
  absurd (command.kind_fields_subset member) (by decide)

theorem ofFields_fields (command : Command) : ofFields command.fields = .ok command := by
  cases command with
  | set key name kind encoding data =>
    rw [fields, ofFields, String.ofList_toList, String.ofList_toList, String.ofList_toList]
    cases kind <;> cases encoding <;> rfl
  | delete key name =>
    rw [fields, ofFields, String.ofList_toList, String.ofList_toList]
    rfl

theorem names_of_ofFields {fields : Fields} {command : Command}
    (read : ofFields fields = .ok command) :
    command.key = String.ofList fields.key ∧ command.name = String.ofList fields.name := by
  rw [ofFields] at read
  dsimp only at read
  split at read
  · cases read
    exact ⟨rfl, rfl⟩
  · obtain ⟨kind, -, done⟩ := Except.bind_eq_ok_iff.1 read
    cases done
    exact ⟨rfl, rfl⟩

/-- The data of a command that was read are those of the line, or were dropped with a removal. -/
theorem data_subset_of_ofFields {fields : Fields} {command : Command}
    (read : ofFields fields = .ok command) : command.fields.data ⊆ fields.data := by
  rw [ofFields] at read
  dsimp only at read
  split at read
  · cases read
    exact List.nil_subset _
  · obtain ⟨kind, -, done⟩ := Except.bind_eq_ok_iff.1 read
    cases done
    simp [Command.fields]

/-- The names of a command can stand in a line. -/
structure Writable (command : Command) : Prop where
  keyed : command.key ≠ ""
  key : ';' ∉ command.key.toList
  name : ';' ∉ command.name.toList

variable {command : Command} {line : String}

theorem parse_eq_ok_iff :
    parse line = .ok command ↔ ∃ fields, Fields.ofLine? line.toList = some fields ∧
      fields.key ≠ [] ∧ ofFields fields = .ok command := by
  rw [parse]
  cases Fields.ofLine? line.toList with
  | none => exact ⟨nofun, nofun⟩
  | some fields =>
    dsimp only
    by_cases unkeyed : fields.key = []
    · rw [if_pos (List.isEmpty_iff.2 unkeyed)]
      refine ⟨nofun, ?_⟩
      rintro ⟨_, same, keyed, -⟩
      cases same
      exact absurd unkeyed keyed
    · rw [if_neg (by rwa [List.isEmpty_iff])]
      refine ⟨fun read => ⟨fields, rfl, unkeyed, read⟩, ?_⟩
      rintro ⟨_, same, -, read⟩
      cases same
      exact read

/-- A command that can be written is read from its canonical line. -/
theorem parse_display (writable : command.Writable) : parse command.display = .ok command := by
  refine parse_eq_ok_iff.2 ⟨command.fields, ?_, ?_, ofFields_fields command⟩
  · rw [toList_display]
    refine Fields.ofLine?_line ?_ ?_ command.not_mem_kind_fields
    · rw [key_fields]
      exact writable.key
    · rw [name_fields]
      exact writable.name
  · rw [key_fields, ne_eq, String.toList_eq_nil_iff]
    exact writable.keyed

/-- A command that was read can be written. -/
theorem writable_of_parse (read : parse line = .ok command) : command.Writable := by
  obtain ⟨fields, found, keyed, read⟩ := parse_eq_ok_iff.1 read
  obtain ⟨key, name⟩ := Fields.not_mem_of_ofLine? found
  obtain ⟨sameKey, sameName⟩ := names_of_ofFields read
  refine ⟨?_, ?_, ?_⟩
  · rw [sameKey, ne_eq, ← String.toList_inj, String.toList_ofList]
    exact keyed
  · rwa [sameKey, String.toList_ofList]
  · rwa [sameName, String.toList_ofList]

/-- A command is read from its canonical line if and only if its key path is not empty and neither
of its names holds a semicolon. Every command that was read from a line is such a command. -/
theorem canonical_line_reads_back (command : Command) :
    (parse command.display = .ok command ↔
      command.key ≠ "" ∧ ';' ∉ command.key.toList ∧ ';' ∉ command.name.toList) ∧
    ∀ line, parse line = .ok command → parse command.display = .ok command := by
  refine ⟨⟨fun read => ?_, fun ⟨keyed, key, name⟩ => parse_display ⟨keyed, key, name⟩⟩,
    fun line read => parse_display (writable_of_parse read)⟩
  obtain ⟨keyed, key, name⟩ := writable_of_parse read
  exact ⟨keyed, key, name⟩

theorem canonical_line_reads_back_filters :
    let line := " k;n ;+04: x:text;junk;a;b"
    let command := set " k" "n " .dword .text "a;b"
    let foreign := set "k" "n;4" .dword .hex "a"
    parse line = .ok command ∧ parse command.display = .ok command ∧
      parse foreign.display ≠ .ok foreign := by
  intro line command foreign
  have read : parse line = .ok command := by decide
  refine ⟨read, (canonical_line_reads_back command).2 line read, fun same => ?_⟩
  obtain ⟨-, -, name⟩ := (canonical_line_reads_back foreign).1.1 same
  exact name (by decide)

end Command

end GroupPolicy
