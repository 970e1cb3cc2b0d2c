import GroupPolicy.Proofs.Value.Exactness

/-!
# Sequences are texts that are split

A sequence is cut into items before its code units are checked, a single text is checked as a whole.
It is the same check: a surrogate is no NUL, so the items of units are texts exactly if the units
are a text, and then they are the pieces of that text (`mapM_readText_items_iff`). Main statement:
`sequences_read_as_split_texts`, for all bytes.
-/

namespace GroupPolicy

/-- An error with another kind in place of the one that it names. -/
def PolicyError.naming (kind : ValueKind) : PolicyError → PolicyError
  | .invalidInteger _ text => .invalidInteger kind text
  | .invalidValueLength _ expected actual => .invalidValueLength kind expected actual
  | .oddUtf16Length _ length => .oddUtf16Length kind length
  | .invalidUtf16 _ => .invalidUtf16 kind
  | error => error

namespace RegistryValue

/-- A text without one NUL at its end. -/
def withoutLastNul (text : String) : String :=
  if text.toList.getLast? = some '\x00' then String.ofList text.toList.dropLast else text

/-- The items of a sequence whose units are those of a text: none if the text is empty, and else its
pieces between NULs, of which the last ends the text. -/
def PiecesOf (text : String) (items : List String) : Prop :=
  (text = "" ∧ items = []) ∨ (text ≠ "" ∧ PiecesBetweenNuls (withoutLastNul text) items)

end RegistryValue

namespace Utf16Bytes

open RegistryValue

variable {kind : ValueKind} {units : List UInt16} {texts : List String}

theorem dropTerminator_encode (text : String) :
    dropTerminator (Text.Utf16.encode text.toList) =
      Text.Utf16.encode (withoutLastNul text).toList := by
  unfold dropTerminator withoutLastNul
  by_cases ending : text.toList.getLast? = some '\x00'
  · obtain ⟨front, shape⟩ := List.getLast?_eq_some_iff.1 ending
    rw [if_pos (Text.Utf16.getLast?_encode_iff.2 ending), if_pos ending, shape,
      Text.Utf16.encode_concat_nul, List.dropLast_concat, List.dropLast_concat,
      String.toList_ofList]
  · rw [if_neg (mt Text.Utf16.getLast?_encode_iff.1 ending), if_neg ending]

/-- The items in the units of a text are the pieces of the text. -/
theorem items_encode_iff {text : String} :
    (items (Text.Utf16.encode text.toList) =
      texts.map fun item => Text.Utf16.encode item.toList) ↔ PiecesOf text texts := by
  unfold PiecesOf
  by_cases empty : text = ""
  · have none : items (Text.Utf16.encode text.toList) = [] := by
      rw [empty]
      rfl
    rw [none, eq_comm, List.map_eq_nil_iff]
    simp [empty]
  · have nonempty : Text.Utf16.encode text.toList ≠ [] := by
      simpa [Text.Utf16.encode_eq_nil_iff] using empty
    have pieces : items (Text.Utf16.encode text.toList) =
        ((Text.split '\x00' (withoutLastNul text).toList).map String.ofList).map
          fun item => Text.Utf16.encode item.toList := by
      rw [items, if_neg (by simpa using nonempty), dropTerminator_encode,
        Text.Utf16.split_encode, List.map_map]
      simp [Function.comp_def]
    have injective : Function.Injective fun item : String => Text.Utf16.encode item.toList :=
      fun _ _ same => String.toList_inj.1 (Text.Utf16.encode_injective same)
    rw [pieces, List.map_inj_right injective, ← piecesBetweenNuls_iff]
    simp [empty]

/-- A text has one list of items. -/
theorem exists_piecesOf (text : String) :
    ∃ items, ∀ other, PiecesOf text other ↔ other = items := by
  unfold PiecesOf
  by_cases empty : text = ""
  · exact ⟨[], fun other => by simp [empty]⟩
  · refine ⟨(Text.split '\x00' (withoutLastNul text).toList).map String.ofList, fun other => ?_⟩
    rw [piecesBetweenNuls_iff]
    simp [empty, eq_comm]

/-- Units whose items are texts are the units of a text: with the last NUL, which may be missing,
they are those of the items in a row, each with a NUL after it. -/
theorem exists_text_of_items
    (read : items units = texts.map fun item => Text.Utf16.encode item.toList) :
    ∃ text : String, units = Text.Utf16.encode text.toList := by
  let chars := texts.flatMap fun item => item.toList ++ ['\x00']
  have terminated : (items units).flatMap (· ++ [0]) = Text.Utf16.encode chars := by
    rw [read, List.flatMap_map, Text.Utf16.encode, List.flatMap_assoc]
    exact List.flatMap_congr fun item _ => (Text.Utf16.encode_concat_nul item.toList).symm
  have whole := terminated_items units
  rw [terminated] at whole
  split at whole
  · have ending : chars.getLast? = some '\x00' := by
      rw [← Text.Utf16.getLast?_encode_iff, whole, List.getLast?_concat]
    obtain ⟨front, shape⟩ := List.getLast?_eq_some_iff.1 ending
    rw [shape, Text.Utf16.encode_concat_nul, List.append_cancel_right_eq] at whole
    exact ⟨String.ofList front, by rw [String.toList_ofList, whole]⟩
  · exact ⟨String.ofList chars, by rw [String.toList_ofList, whole]⟩

/-- The items of units are read as texts exactly if the units are read as a text, and then as its
pieces. -/
theorem mapM_readText_items_iff {other : ValueKind} :
    (items units).mapM (readText kind) = .ok texts ↔
      ∃ text, readText other units = .ok text ∧ PiecesOf text texts := by
  rw [mapM_readText_eq_ok_iff]
  simp only [readText_eq_ok_iff]
  constructor
  · intro read
    obtain ⟨text, rfl⟩ := exists_text_of_items read
    exact ⟨text, rfl, items_encode_iff.1 read⟩
  · rintro ⟨text, rfl, pieces⟩
    exact items_encode_iff.2 pieces

/-- If the items of units cannot be read, then for the same reason for which the first bad one
cannot. -/
theorem mapM_readText_eq_error {lists : List (List UInt16)} {error : PolicyError}
    (failed : lists.mapM (readText kind) = .error error) : error = .invalidUtf16 kind := by
  rcases Except.mapM_ok_or_first_error (readText kind) lists with
    ⟨texts, read⟩ | ⟨front, bad, later, texts, cause, rfl, before, first⟩
  · rw [read] at failed
    cases failed
  · rw [Except.mapM_append_cons_error before first] at failed
    cases failed
    exact (readText_eq_error_iff.1 first).2

end Utf16Bytes

namespace RegistryValue

open Utf16Bytes

/-- Bytes are read as a text and as a sequence, or as neither and for the same reason. -/
theorem read_cases (bytes : List UInt8) :
    (∃ error, ofBytes .string bytes = .error error ∧ error.naming .string = error ∧
      ofBytes .multiString bytes = .error (error.naming .multiString)) ∨
    ∃ text items, ofBytes .string bytes = .ok (string text) ∧
      ofBytes .multiString bytes = .ok (multiString items) ∧
      ∀ other, PiecesOf text other ↔ other = items := by
  unfold ofBytes readUnits
  cases toUnits? bytes with
  | none => exact Or.inl ⟨_, rfl, rfl, rfl⟩
  | some units =>
    dsimp only [bind, Except.bind]
    cases whole : readText .string units with
    | ok text =>
      obtain ⟨texts, only⟩ := exists_piecesOf text
      have read : (items units).mapM (readText .multiString) = .ok texts :=
        mapM_readText_items_iff.2 ⟨text, whole, (only texts).2 rfl⟩
      rw [read]
      exact Or.inr ⟨text, texts, rfl, rfl, only⟩
    | error error =>
      obtain ⟨-, rfl⟩ := readText_eq_error_iff.1 whole
      cases read : (items units).mapM (readText .multiString) with
      | ok texts =>
        obtain ⟨text, found, -⟩ :
            ∃ text, readText .string units = .ok text ∧ PiecesOf text texts :=
          mapM_readText_items_iff.1 read
        rw [whole] at found
        cases found
      | error error =>
        cases mapM_readText_eq_error read
        exact Or.inl ⟨_, rfl, rfl, rfl⟩

/-- Bytes are read as a sequence exactly if they are read as a text, and they are refused with the
same error but for the kind in it. The items are the pieces of the text between the NULs in it, of
which one at its end does not count, and the empty text has none. -/
theorem sequences_read_as_split_texts (bytes : List UInt8) :
    ((∃ value, ofBytes .multiString bytes = .ok value) ↔
      ∃ value, ofBytes .string bytes = .ok value) ∧
    (∀ error, ofBytes .string bytes = .error error →
      error.naming .string = error ∧
        ofBytes .multiString bytes = .error (error.naming .multiString)) ∧
    ∀ text, ofBytes .string bytes = .ok (string text) →
      ∀ items, ofBytes .multiString bytes = .ok (multiString items) ↔
        (text = "" ∧ items = []) ∨ (text ≠ "" ∧ PiecesBetweenNuls (withoutLastNul text) items) := by
  rcases read_cases bytes with ⟨error, single, named, sequence⟩ |
    ⟨text, items, single, sequence, only⟩
  · rw [single, sequence]
    refine ⟨?_, ?_, ?_⟩
    · simp
    · intro other same
      cases same
      exact ⟨named, rfl⟩
    · intro text read
      cases read
  · rw [single, sequence]
    refine ⟨?_, ?_, ?_⟩
    · simp
    · intro error failed
      cases failed
    · intro other same others
      cases same
      rw [← PiecesOf, only others]
      simp [eq_comm]

theorem sequences_read_as_split_texts_at_nuls :
    let bytes : List UInt8 := [0x3D, 0xD8, 0x00, 0xDE, 0, 0, 0, 0, 97, 0, 0, 0]
    let broken : List UInt8 := [0x3D, 0xD8, 0, 0, 0x00, 0xDE, 0, 0]
    ofBytes .string bytes = .ok (string "😀\x00\x00a\x00") ∧
      ofBytes .multiString bytes = .ok (multiString ["😀", "", "a"]) ∧
      ofBytes .string broken = .error (.invalidUtf16 .string) ∧
      ofBytes .multiString broken = .error (.invalidUtf16 .multiString) := by
  intro bytes broken
  have read : ofBytes .string bytes = .ok (string "😀\x00\x00a\x00") := by rfl
  have refused : ofBytes .string broken = .error (.invalidUtf16 .string) := by rfl
  obtain ⟨-, -, pieces⟩ := sequences_read_as_split_texts bytes
  obtain ⟨-, same, -⟩ := sequences_read_as_split_texts broken
  have between : PiecesBetweenNuls (withoutLastNul "😀\x00\x00a\x00") ["😀", "", "a"] :=
    ⟨by decide, by decide, by decide⟩
  exact ⟨read, (pieces _ read _).2 (Or.inr ⟨by decide, between⟩), refused, (same _ refused).2⟩

end RegistryValue

end GroupPolicy
