import GroupPolicy.Proofs.Hex
import GroupPolicy.Proofs.Value.Integer
import GroupPolicy.Proofs.Value.Layout

/-!
# Readable forms are read back

The readable form of a value is text in which a command could give the value. It is read as the
value, unless the value is a sequence that no text splits into: an empty one, or one with the
separator in an item (`display_reads_back`). A value that was read from a text is no such sequence.
-/

namespace GroupPolicy

namespace RegistryValue

variable {kind : ValueKind} {value : RegistryValue} {text : String} {items : List String}

theorem denotes_toString (number : Int) : Denotes (toString number) number := by
  have written := Text.signed_toString number
  refine ⟨(toString number).toList, Text.trim_eq_iff.1 (Text.trim_eq_self ?_ ?_), written⟩
  · intro c first
    exact written.visible c (List.mem_of_mem_head? first)
  · intro c last
    exact written.visible c (List.mem_of_getLast? last)

/-- A text is split into items exactly if they make the text with semicolons between them, there is
one at least, and none holds a semicolon. -/
theorem ofText_multiString_eq_ok_iff :
    ofText .multiString text = .ok (multiString items) ↔
      text = ";".intercalate items ∧ items ≠ [] ∧ ∀ item ∈ items, ';' ∉ item.toList := by
  have split : ofText .multiString text =
      .ok (multiString ((Text.split ';' text.toList).map String.ofList)) := rfl
  rw [split, Except.ok.injEq, multiString.injEq]
  constructor
  · rintro rfl
    refine ⟨?_, by simp, fun item member => ?_⟩
    · rw [← String.toList_inj, String.toList_intercalate, List.map_map, Text.split_eq_splitOn]
      simp [Function.comp_def, List.intercalate_splitOn]
    · obtain ⟨piece, among, rfl⟩ := List.mem_map.1 member
      rw [String.toList_ofList]
      exact Text.not_mem_of_mem_split among
  · rintro ⟨rfl, nonempty, free⟩
    rw [String.toList_intercalate, show ";".toList = [';'] from rfl,
      Text.split_eq_splitOn,
      List.splitOn_intercalate ';' (by simpa using free) (by simpa using nonempty), List.map_map]
    simp [Function.comp_def]

/-- A value that is no sequence is read back from its readable form. -/
theorem ofText_display (single : value.kind ≠ .multiString) :
    ofText value.kind value.display = .ok value := by
  cases value with
  | string text => rfl
  | expandString text => rfl
  | binary bytes =>
    unfold kind display ofText
    rw [Hex.decode_encode]
    rfl
  | dword number => exact ofText_dword_eq_ok_iff.2 (denotes_toString number.toInt)
  | qword number => exact ofText_qword_eq_ok_iff.2 (denotes_toString number.toInt)
  | multiString items => exact absurd rfl single

theorem sequence_or_single (value : RegistryValue) :
    (∃ items, value = multiString items) ∨ value.kind ≠ .multiString := by
  cases value with
  | multiString items => exact Or.inl ⟨items, rfl⟩
  | _ => exact Or.inr nofun

/-- The readable form of a value is read as the value, unless that is a sequence that has no item or
an item with a semicolon. What was read from a text is read again from its readable form, however
that text was written. -/
theorem display_reads_back (value : RegistryValue) :
    (ofText value.kind value.display = .ok value ↔
      ¬ ∃ items, value = multiString items ∧ (items = [] ∨ ∃ item ∈ items, ';' ∈ item.toList)) ∧
    ∀ kind text, ofText kind text = .ok value → ofText kind value.display = .ok value := by
  constructor
  · rcases sequence_or_single value with ⟨items, rfl⟩ | single
    · rw [kind, display, ofText_multiString_eq_ok_iff]
      simp
    · refine iff_of_true (ofText_display single) ?_
      rintro ⟨items, rfl, -⟩
      exact single rfl
  · intro kind text read
    have resolved : resolve kind .text text = .ok value := read
    obtain rfl := kind_of_resolve resolved
    rcases sequence_or_single value with ⟨items, rfl⟩ | single
    · -- The items of a text, with semicolons between them, are the text itself.
      obtain ⟨rfl, -⟩ := ofText_multiString_eq_ok_iff.1 read
      exact read
    · exact ofText_display single

theorem display_reads_back_least :
    let value := dword Int32.minValue
    let foreign := multiString ["a", "b;c"]
    ofText .dword " -0002147483648\n" = .ok value ∧ value.display = "-2147483648" ∧
      ofText .dword value.display = .ok value ∧
      ofText .multiString foreign.display ≠ .ok foreign := by
  intro value foreign
  have read : ofText .dword " -0002147483648\n" = .ok value := by decide
  refine ⟨read, by decide, (display_reads_back value).2 _ _ read, fun same => ?_⟩
  exact (display_reads_back foreign).1.1 same ⟨_, rfl, Or.inr ⟨"b;c", by decide, by decide⟩⟩

end RegistryValue

end GroupPolicy
