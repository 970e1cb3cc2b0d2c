import GroupPolicy.Proofs.Command.Grammar

/-!
# How kind codes are classified

A code of digits has a number of any size, but a kind is looked up under a number of 32 bits. The
two agree below `4294967296`: a code that denotes the number of a kind selects it, however many
zeros it leads with, and another number is reported as the code of no kind. From there on a code is
reported as no number at all (`kind_codes_classified`), so that the categories of the failures part
at the width and not at what is a numeral.
-/

namespace GroupPolicy

namespace Command

variable {code : List Char} {filters : List (List Char)} {error : PolicyError}

/-- Reading a kind fails in one of two ways, told apart by whether a number that fits is written. -/
theorem readKind_eq_error_cases (failed : readKind code = .error error) :
    (∃ number, Text.Unsigned code number ∧ number < UInt32.size ∧
      error = .unsupportedKind (UInt32.ofNat number)) ∨
    (¬ ∃ number, Text.Unsigned code number ∧ number < UInt32.size) ∧
      error = .invalidKindCode (String.ofList code) := by
  by_cases numbered : ∃ number, Text.Unsigned code number ∧ number < UInt32.size
  · obtain ⟨number, written, small⟩ := numbered
    rw [readKind_of_unsigned written small] at failed
    cases found : ValueKind.ofCode? (UInt32.ofNat number) with
    | none =>
      rw [found] at failed
      exact Or.inl ⟨number, written, small, (Except.error.inj failed).symm⟩
    | some kind =>
      rw [found] at failed
      cases failed
  · rw [readKind_of_no_number numbered] at failed
    exact Or.inr ⟨numbered, (Except.error.inj failed).symm⟩

variable {line : String} {fields : Fields}

/-- Once a line has a key, only its kind can be at fault. -/
theorem readKind_of_parse_eq_error (spelled : fields.Spells line.toList) (keyed : fields.key ≠ [])
    (field : KindField fields.kind code filters) (failed : parse line = .error error) :
    readKind code = .error error := by
  rw [parse_of_spells spelled keyed, ofFields_of_kindField field] at failed
  split at failed
  · cases failed
  · cases read : readKind code with
    | ok kind =>
      rw [read] at failed
      cases failed
    | error cause =>
      rw [read] at failed
      cases failed
      rfl

/-- In a line with a key, a code of digits that denotes the number of a kind gives a `set` with the
fields of the line; one that denotes another number of 32 bits is the code of no kind, and one that
denotes a greater number is no code. A failure is that of an unknown kind exactly if a number that
fits in 32 bits is written, and it is that of parsing exactly if none is. -/
theorem kind_codes_classified (spelled : fields.Spells line.toList) (keyed : fields.key ≠ [])
    (field : KindField fields.kind code filters) :
    (∀ number, Text.Decimal code number →
      (number ∈ [0, 1, 2, 3, 4, 7, 11] → ∃ (kind : ValueKind) (encoding : InputEncoding),
        kind.code.toNat = number ∧ (encoding = .text ↔ "text".toList ∈ filters) ∧
        parse line = .ok (.set (String.ofList fields.key) (String.ofList fields.name) kind encoding
          (String.ofList fields.data))) ∧
      (number ∉ [0, 1, 2, 3, 4, 7, 11] → number < 4294967296 →
        parse line = .error (.unsupportedKind (UInt32.ofNat number))) ∧
      (4294967296 ≤ number → parse line = .error (.invalidKindCode (String.ofList code)))) ∧
    ∀ error, parse line = .error error →
      (error.category = .unsupportedKind ↔
        ∃ number, Text.Unsigned code number ∧ number < 4294967296) ∧
      (error.category = .parse ↔
        ¬ ∃ number, Text.Unsigned code number ∧ number < 4294967296) ∧
      (error.category = .parse → error = .invalidKindCode (String.ofList code)) := by
  refine ⟨fun number digits => ⟨fun known => ?_, fun unknown small => ?_, fun large => ?_⟩,
    fun error failed => ?_⟩
  · obtain ⟨kind, same⟩ := exists_code_eq_iff.2 known
    have written : Text.Unsigned code kind.code.toNat := same ▸ digits.unsigned
    have encoded := encodingOf_eq_iff.1 (Eq.refl (encodingOf filters))
    exact ⟨kind, _, same, encoded, (Reads.set spelled keyed field written encoded).parse_eq⟩
  · exact (Reads.unsupported spelled keyed field digits.unsigned small unknown).parse_eq
  · refine (Reads.invalid spelled keyed field digits.nonempty ?_).parse_eq
    -- A numeral denotes one number, so none that fits is written if this one does not fit.
    rintro ⟨other, written, small⟩
    rw [written.unique digits.unsigned] at small
    exact absurd small (Nat.not_lt.2 large)
  · rcases readKind_eq_error_cases (readKind_of_parse_eq_error spelled keyed field failed) with
      ⟨number, written, small, rfl⟩ | ⟨none, rfl⟩
    · have numbered : ∃ number, Text.Unsigned code number ∧ number < 4294967296 :=
        ⟨number, written, small⟩
      exact ⟨iff_of_true rfl numbered, iff_of_false nofun (not_not_intro numbered), nofun⟩
    · exact ⟨iff_of_false nofun none, iff_of_true rfl none, fun _ => rfl⟩

theorem kind_codes_classified_padded :
    let fields : Fields := ⟨['k'], ['n'], "\t004294967295 :text:x".toList, ";d".toList⟩
    let code := "004294967295".toList
    let filters := ["text".toList, ['x']]
    fields.Spells "k;n;\t004294967295 :text:x;;;d".toList ∧ fields.key ≠ [] ∧
      KindField fields.kind code filters ∧ Text.Decimal code 4294967295 ∧
      parse "k;n;\t004294967295 :text:x;;;d" = .error (.unsupportedKind 4294967295) := by
  intro fields code filters
  have spelled : fields.Spells "k;n;\t004294967295 :text:x;;;d".toList :=
    Fields.ofLine?_eq_some_iff.1 (by rfl)
  have keyed : fields.key ≠ [] := by decide
  have field : KindField fields.kind code filters := kindField_iff.2 ⟨by decide, by decide⟩
  have digits : Text.Decimal code 4294967295 :=
    Text.decimal?_eq_some_iff_decimal.1 (by decide)
  obtain ⟨-, unknown, -⟩ := (kind_codes_classified spelled keyed field).1 4294967295 digits
  exact ⟨spelled, keyed, field, digits, unknown (by decide) (by decide)⟩

/-- A code of digits that denotes the number of no kind is not always reported as that. -/
theorem not_every_unknown_code_unsupported :
    ¬ ∀ (line : String) (fields : Fields) (code : List Char) (filters : List (List Char))
      (number : Nat), fields.Spells line.toList → fields.key ≠ [] →
      KindField fields.kind code filters → Text.Decimal code number →
      number ∉ [0, 1, 2, 3, 4, 7, 11] →
      ∃ error, parse line = .error error ∧ error.category = .unsupportedKind := by
  intro claimed
  obtain ⟨error, failed, category⟩ := claimed "K;N;4294967296;;" ⟨['K'], ['N'], "4294967296".toList,
    []⟩ "4294967296".toList [] 4294967296 (Fields.ofLine?_eq_some_iff.1 (by rfl)) (by decide)
    (kindField_iff.2 ⟨by decide, by decide⟩) (Text.decimal?_eq_some_iff_decimal.1 (by decide))
    (by decide)
  have invalid : parse "K;N;4294967296;;" = .error (.invalidKindCode "4294967296") := by rfl
  rw [invalid, Except.error.injEq] at failed
  subst failed
  cases category

end Command

end GroupPolicy
