import GroupPolicy.Proofs.PolicyFile.Extension
import GroupPolicy.Proofs.Value.Exactness

/-!
# Texts as bytes

Texts are UTF-16 in two places. In a value the text is all of the bytes, in a policy file it goes up
to the first NUL. In both, a text is read from exactly the bytes in which it is written, so that no
two texts have the same bytes, and other bytes are refused for one reason each: they are no whole
units, or a surrogate in them is part of no pair (`texts_coded_exactly`).
-/

namespace GroupPolicy

open Text.Utf16 (HasLoneSurrogate decode?_eq_none_iff)

namespace Utf16Bytes

variable {kind : ValueKind} {bytes : List UInt8} {error : PolicyError}

/-- A text is read from exactly its bytes. -/
theorem readUnits_bind_readText_eq_ok_iff {text : String} :
    readUnits kind bytes >>= readText kind = .ok text ↔ bytes = ofText text := by
  simp only [Except.bind_eq_ok_iff, readUnits_eq_ok_iff, readText_eq_ok_iff]
  exact exists_eq_right

/-- Bytes that are no text are no whole units, or units with a lone surrogate. -/
theorem readUnits_bind_readText_eq_error_iff :
    readUnits kind bytes >>= readText kind = .error error ↔
      (bytes.length % 2 = 1 ∧ error = .oddUtf16Length kind bytes.length) ∨
      ∃ units, bytes = ofUnits units ∧ HasLoneSurrogate units ∧ error = .invalidUtf16 kind := by
  simp only [Except.bind_eq_error_iff, readUnits_eq_error_iff, readUnits_eq_ok_iff,
    readText_eq_error_iff]

end Utf16Bytes

namespace PolicyFile

open Utf16Bytes (ofUnits)

variable {cursor next : Cursor} {fault : EntryFault} {error : PolicyError}

/-- Bytes are units up to the first NUL, behind which more bytes may follow, or units without a NUL
and at most one byte more. -/
theorem exists_units_before_nul : ∀ bytes : List UInt8, ∃ units tail,
    0 ∉ units ∧ bytes = ofUnits units ++ tail ∧
      (tail.length < 2 ∨ ∃ rest, tail = ofUnits [0] ++ rest)
  | [] => ⟨[], [], by simp, rfl, Or.inl (by simp)⟩
  | [byte] => ⟨[], [byte], by simp, rfl, Or.inl (by simp)⟩
  | low :: high :: rest => by
    have front := Utf16Bytes.ofUnits_unit low high
    by_cases nul : Utf16Bytes.unit low high = 0
    · refine ⟨[], low :: high :: rest, by simp, rfl, Or.inr ⟨rest, ?_⟩⟩
      rw [← nul, front]
      rfl
    · obtain ⟨units, tail, noNul, split, ending⟩ := exists_units_before_nul rest
      refine ⟨Utf16Bytes.unit low high :: units, tail, ?_, ?_, ending⟩
      · rw [List.mem_cons, not_or]
        exact ⟨Ne.symm nul, noNul⟩
      · rw [Utf16Bytes.ofUnits_cons, front, List.append_assoc, ← split]
        rfl

/-- The file ends behind the units that it still has, if none of them is a NUL. -/
theorem unitsFrom_of_short {units : List UInt16} {tail : List UInt8} (noNul : 0 ∉ units)
    (short : tail.length < 2) (offset : Nat) :
    unitsFrom offset (ofUnits units ++ tail) =
      .error (.unexpectedEnd (offset + 2 * units.length) 2 tail.length) := by
  induction units generalizing offset with
  | nil =>
    rcases tail with _ | ⟨byte, _ | ⟨other, tail⟩⟩
    · rfl
    · rfl
    · rw [List.length_cons, List.length_cons] at short
      omega
  | cons unit units ih =>
    rw [List.mem_cons, not_or] at noNul
    obtain ⟨low, high, bytes, same⟩ := Utf16Bytes.exists_bytes_of_unit unit
    have place : offset + 2 + 2 * units.length = offset + 2 * (units.length + 1) := by omega
    rw [Utf16Bytes.ofUnits_cons, bytes, List.append_assoc, List.cons_append, List.cons_append,
      List.nil_append, unitsFrom, same, if_neg (Ne.symm noNul.1), ih noNul.2 (offset + 2), place]
    rfl

theorem takeUnits_of_short {units : List UInt16} {tail : List UInt8} (noNul : 0 ∉ units)
    (split : cursor.rest = ofUnits units ++ tail) (short : tail.length < 2) :
    takeUnits cursor =
      .error (.unexpectedEnd (cursor.offset + 2 * units.length) 2 tail.length) := by
  rw [takeUnits, split]
  exact unitsFrom_of_short noNul short cursor.offset

/-- Units up to a NUL are not found only if the file ends before a NUL does. -/
theorem takeUnits_eq_error_iff :
    takeUnits cursor = .error error ↔ ∃ units tail, 0 ∉ units ∧
      cursor.rest = ofUnits units ++ tail ∧ tail.length < 2 ∧
        error = .unexpectedEnd (cursor.offset + 2 * units.length) 2 tail.length := by
  constructor
  · intro failed
    obtain ⟨units, tail, noNul, split, short | ⟨rest, rfl⟩⟩ := exists_units_before_nul cursor.rest
    · cases failed.symm.trans (takeUnits_of_short noNul split short)
      exact ⟨units, tail, noNul, split, short, rfl⟩
    · rw [← List.append_assoc] at split
      let next : Cursor := ⟨cursor.offset + (ofUnits units ++ ofUnits [0]).length, rest⟩
      have taken : takeUnits cursor = .ok (units, next) :=
        takeUnits_eq_ok_iff.2 ⟨noNul, split, rfl⟩
      cases failed.symm.trans taken
  · rintro ⟨units, tail, noNul, split, short, rfl⟩
    exact takeUnits_of_short noNul split short

/-- A text is not found if the file ends before its NUL, or refused for a lone surrogate. -/
theorem takeText_eq_error_iff :
    takeText fault cursor = .error error ↔
      (∃ units tail, 0 ∉ units ∧ cursor.rest = ofUnits units ++ tail ∧ tail.length < 2 ∧
        error = .unexpectedEnd (cursor.offset + 2 * units.length) 2 tail.length) ∨
      ∃ units rest, 0 ∉ units ∧ cursor.rest = ofUnits units ++ ofUnits [0] ++ rest ∧
        HasLoneSurrogate units ∧ error = .malformedEntry cursor.offset fault := by
  have refused (units : List UInt16) (next : Cursor) :
      (Text.Utf16.decode? units).elim (Except.error (.malformedEntry cursor.offset fault))
          (fun text => .ok (String.ofList text, next)) = .error error ↔
        HasLoneSurrogate units ∧ error = .malformedEntry cursor.offset fault := by
    rw [← decode?_eq_none_iff]
    cases Text.Utf16.decode? units with
    | none => simp [eq_comm]
    | some text => simp
  rw [takeText_eq_bind, Except.bind_eq_error_iff, takeUnits_eq_error_iff]
  refine or_congr_right ⟨?_, ?_⟩
  · rintro ⟨⟨units, next⟩, taken, failed⟩
    obtain ⟨noNul, split, -⟩ := takeUnits_eq_ok_iff.1 taken
    exact ⟨units, next.rest, noNul, split, (refused units next).1 failed⟩
  · rintro ⟨units, rest, noNul, split, lone⟩
    exact ⟨(units, ⟨_, rest⟩), takeUnits_eq_ok_iff.2 ⟨noNul, split, rfl⟩, (refused units _).2 lone⟩

end PolicyFile

open Utf16Bytes PolicyFile

/-- A text is read from exactly its bytes, and bytes are refused exactly if they are no whole units
or if a surrogate in them is part of no pair. In a policy file the same holds of the bytes up to the
first NUL, for the texts without a NUL, and no NUL there means that the file ended too early. -/
theorem texts_coded_exactly :
    (∀ kind bytes,
      (∀ text, readUnits kind bytes >>= readText kind = .ok text ↔ bytes = ofText text) ∧
      ∀ error, readUnits kind bytes >>= readText kind = .error error ↔
        (bytes.length % 2 = 1 ∧ error = .oddUtf16Length kind bytes.length) ∨
        ∃ units, bytes = ofUnits units ∧ HasLoneSurrogate units ∧ error = .invalidUtf16 kind) ∧
    ∀ fault cursor,
      (∀ text next, takeText fault cursor = .ok (text, next) ↔
        '\x00' ∉ text.toList ∧ cursor.rest = encodeText text ++ next.rest ∧
          next.offset = cursor.offset + (encodeText text).length) ∧
      ∀ error, takeText fault cursor = .error error ↔
        (∃ units tail, 0 ∉ units ∧ cursor.rest = ofUnits units ++ tail ∧ tail.length < 2 ∧
          error = .unexpectedEnd (cursor.offset + 2 * units.length) 2 tail.length) ∨
        ∃ units rest, 0 ∉ units ∧ cursor.rest = ofUnits units ++ ofUnits [0] ++ rest ∧
          HasLoneSurrogate units ∧ error = .malformedEntry cursor.offset fault :=
  ⟨fun _ _ => ⟨fun _ => readUnits_bind_readText_eq_ok_iff,
      fun _ => readUnits_bind_readText_eq_error_iff⟩,
    fun _ _ => ⟨fun _ _ => takeText_eq_ok_iff, fun _ => takeText_eq_error_iff⟩⟩

theorem texts_coded_exactly_swapped_pair :
    let swapped : List UInt8 := [0x00, 0xDE, 0x3D, 0xD8]
    readUnits .string (ofText "a😀") >>= readText .string = .ok "a😀" ∧
    readUnits .string swapped >>= readText .string = .error (.invalidUtf16 .string) ∧
    takeText .keyText ⟨10, encodeText "a😀" ++ swapped⟩ = .ok ("a😀", ⟨18, swapped⟩) ∧
    takeText .keyText ⟨10, swapped ++ [0, 0, 0x3B, 0]⟩ = .error (.malformedEntry 10 .keyText) ∧
    takeText .keyText ⟨10, swapped ++ [0]⟩ = .error (.unexpectedEnd 14 2 1) := by
  intro swapped
  obtain ⟨values, fields⟩ := texts_coded_exactly
  have split : swapped = ofUnits [0xDE00, 0xD83D] := by decide
  have lone : HasLoneSurrogate [0xDE00, 0xD83D] := by decide
  have noNul : (0 : UInt16) ∉ [0xDE00, 0xD83D] := by decide
  refine ⟨((values ..).1 _).2 rfl, ((values ..).2 _).2 (Or.inr ⟨_, split, lone, rfl⟩),
    ((fields ..).1 _ _).2 ⟨by decide, rfl, by decide⟩,
    ((fields ..).2 _).2 (Or.inr ⟨_, [0x3B, 0], noNul, by decide, lone, rfl⟩),
    ((fields ..).2 _).2 (Or.inl ⟨_, [0], noNul, by decide, by decide, by decide⟩)⟩

end GroupPolicy
