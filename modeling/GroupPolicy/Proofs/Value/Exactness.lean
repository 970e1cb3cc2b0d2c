import GroupPolicy.Proofs.Text.Surrogate
import GroupPolicy.Proofs.Value.Layout

/-!
# How exact the layout of values is

A value is read back from its bytes as it was, except that an item of a sequence is read back as its
pieces between NULs (`reads_back_up_to_nuls`). Bytes from which a value was read are the value's
bytes, except that the last item of a sequence gets the NUL that may be missing after it
(`written_as_it_was_read`).
-/

namespace GroupPolicy

namespace Utf16Bytes

variable {kind : ValueKind} {bytes : List UInt8} {units : List UInt16} {error : PolicyError}

theorem ofUnits_of_toUnits? (read : toUnits? bytes = some units) : ofUnits units = bytes := by
  induction bytes using toUnits?.induct generalizing units with
  | case1 =>
    cases read
    rfl
  | case2 byte => cases read
  | case3 low high rest ih =>
    rw [toUnits?, Option.map_eq_some_iff] at read
    obtain ⟨tail, later, rfl⟩ := read
    rw [ofUnits_cons, ofUnits_unit, ih later]
    rfl

/-- Units are read from exactly their bytes. -/
theorem readUnits_eq_ok_iff : readUnits kind bytes = .ok units ↔ bytes = ofUnits units := by
  refine ⟨fun read => ?_, fun written => written ▸ readUnits_ofUnits units⟩
  rw [readUnits] at read
  split at read
  · rename_i found
    cases read
    exact (ofUnits_of_toUnits? found).symm
  · cases read

theorem toUnits?_eq_none_iff : toUnits? bytes = none ↔ bytes.length % 2 = 1 := by
  induction bytes using toUnits?.induct with
  | case1 => simp [toUnits?]
  | case2 byte => simp [toUnits?]
  | case3 low high rest ih =>
    rw [toUnits?, Option.map_eq_none_iff, ih, List.length_cons, List.length_cons]
    omega

theorem readUnits_eq_error_iff :
    readUnits kind bytes = .error error ↔
      bytes.length % 2 = 1 ∧ error = .oddUtf16Length kind bytes.length := by
  rw [readUnits, ← toUnits?_eq_none_iff]
  cases toUnits? bytes with
  | none => simp [eq_comm]
  | some units => simp

theorem readText_eq_error_iff :
    readText kind units = .error error ↔
      Text.Utf16.HasLoneSurrogate units ∧ error = .invalidUtf16 kind := by
  rw [readText, ← Text.Utf16.decode?_eq_none_iff]
  cases Text.Utf16.decode? units with
  | none => simp [eq_comm]
  | some text => simp

theorem ofUnits_append (left right : List UInt16) :
    ofUnits (left ++ right) = ofUnits left ++ ofUnits right :=
  List.flatMap_append

theorem ofUnits_eq_nil_iff : ofUnits units = [] ↔ units = [] := by
  cases units with
  | nil => exact iff_of_true rfl rfl
  | cons unit units => exact ⟨nofun, nofun⟩

/-- Bytes end in two zeros, as units, if and only if the last unit is a NUL. -/
theorem zeros_suffix_ofUnits_iff : [0, 0] <:+ ofUnits units ↔ units.getLast? = some 0 := by
  rcases List.eq_nil_or_concat units with rfl | ⟨front, last, rfl⟩
  · refine ⟨fun zeros => ?_, nofun⟩
    exact absurd (List.suffix_nil.1 zeros) (List.cons_ne_nil _ _)
  · have lengths : (ofUnits [0]).length = (ofUnits [last]).length := rfl
    rw [show [0, 0] = [] ++ ofUnits [0] by decide, List.concat_eq_append, ofUnits_append,
      List.suffix_append_inj_of_length_eq lengths, and_iff_right List.nil_suffix,
      List.getLast?_concat, Option.some.injEq]
    refine ⟨fun sameBytes => ?_, fun nul => by rw [nul]⟩
    have read := toUnits?_ofUnits [last]
    rw [← sameBytes, toUnits?_ofUnits] at read
    cases read
    rfl

/-- The items in units, each with a NUL after it, are these units again. The last NUL comes back
even if it was missing. -/
theorem terminated_items (units : List UInt16) :
    (items units).flatMap (· ++ [0]) =
      if units ≠ [] ∧ units.getLast? ≠ some 0 then units ++ [0] else units := by
  by_cases empty : units = []
  · subst empty
    rfl
  · rw [items, if_neg (by rwa [List.isEmpty_iff]), Text.flatMap_terminated (Text.split_ne_nil 0 _),
      Text.split_eq_splitOn, List.intercalate_splitOn, dropTerminator]
    by_cases terminated : units.getLast? = some 0
    · rw [if_pos terminated, if_neg fun lacks => lacks.2 terminated]
      exact List.dropLast_append_getLast? 0 terminated
    · rw [if_neg terminated, if_pos ⟨empty, terminated⟩]

end Utf16Bytes

namespace RegistryValue

open Utf16Bytes

variable {kind : ValueKind} {value : RegistryValue} {bytes : List UInt8}

/-! ## Values that are written and read -/

/-- Texts are the pieces of a text between the NULs in it. -/
structure PiecesBetweenNuls (text : String) (pieces : List String) : Prop where
  nonempty : pieces ≠ []
  joined : "\x00".intercalate pieces = text
  nulFree : ∀ piece ∈ pieces, '\x00' ∉ piece.toList

/-- A text has one list of pieces, those into which it is split. -/
theorem piecesBetweenNuls_iff {text : String} {pieces : List String} :
    PiecesBetweenNuls text pieces ↔
      (Text.split '\x00' text.toList).map String.ofList = pieces := by
  constructor
  · rintro ⟨nonempty, rfl, nulFree⟩
    rw [String.toList_intercalate, show "\x00".toList = ['\x00'] from rfl,
      Text.split_intercalate (by rwa [ne_eq, List.map_eq_nil_iff]), List.flatMap_map,
      List.map_flatMap, List.flatMap_congr fun piece member =>
        split_of_nulFree (nulFree piece member), List.flatMap_singleton']
  · rintro rfl
    refine ⟨?_, ?_, fun piece member => ?_⟩
    · rw [ne_eq, List.map_eq_nil_iff]
      exact Text.split_ne_nil _ _
    · have chars : ((Text.split '\x00' text.toList).map String.ofList).map String.toList =
          Text.split '\x00' text.toList := by
        rw [List.map_map]
        exact List.map_id'' (fun _ => String.toList_ofList) _
      rw [← String.toList_inj, String.toList_intercalate, chars, Text.split_eq_splitOn]
      exact List.intercalate_splitOn '\x00'
    · obtain ⟨chars, among, rfl⟩ := List.mem_map.1 member
      rw [String.toList_ofList]
      exact Text.not_mem_of_mem_split among

/-- A value is read back from its bytes as it was, except that an item of a sequence is read back as
its pieces between NULs. -/
theorem reads_back_up_to_nuls (value : RegistryValue) :
    ∃ read, ofBytes value.kind value.toBytes = .ok read ∧
      (value.kind ≠ .multiString → read = value) ∧
      (∀ items, value = multiString items →
        ∃ pieces, (∀ other, List.Forall₂ PiecesBetweenNuls items other ↔ other = pieces) ∧
          read = multiString pieces.flatten) ∧
      (read = value ↔ value.ItemsNulFree) := by
  refine ⟨value.splitAtNuls, ofBytes_toBytes value, fun single => ?_, ?_, splitAtNuls_eq_self_iff⟩
  · refine splitAtNuls_eq_self_iff.2 fun items same => absurd ?_ single
    rw [same]
    rfl
  · rintro items rfl
    refine ⟨items.map fun item => (Text.split '\x00' item.toList).map String.ofList,
      fun other => ?_, ?_⟩
    · have split : PiecesBetweenNuls = fun item pieces =>
          (Text.split '\x00' item.toList).map String.ofList = pieces :=
        funext₂ fun _ _ => propext piecesBetweenNuls_iff
      rw [split, ← List.forall₂_map_left_iff (R := Eq), List.forall₂_eq_eq_eq]
      exact eq_comm
    · rw [splitAtNuls, List.flatMap_def]

theorem reads_back_up_to_nuls_items :
    let value := multiString ["", "a\x00😀\x00", "b"]
    ∃ read, ofBytes .multiString value.toBytes = .ok read ∧
      read = multiString ["", "a", "😀", "", "b"] ∧ read ≠ value := by
  intro value
  obtain ⟨read, success, -, items, same⟩ := reads_back_up_to_nuls value
  obtain ⟨pieces, only, whole⟩ := items _ rfl
  have split : List.Forall₂ PiecesBetweenNuls ["", "a\x00😀\x00", "b"]
      [[""], ["a", "😀", ""], ["b"]] :=
    .cons ⟨by decide, by decide, by decide⟩
      (.cons ⟨by decide, by decide, by decide⟩ (.cons ⟨by decide, by decide, by decide⟩ .nil))
  rw [← (only _).1 split] at whole
  refine ⟨read, success, whole, fun equal => ?_⟩
  exact absurd (same.1 equal _ rfl "a\x00😀\x00" (by decide)) (by decide)

/-! ## Values that are read and written -/

theorem toBytes_of_readNumber {width number : Nat}
    (read : readNumber kind width bytes = .ok number) :
    number < LittleEndian.capacity width ∧ LittleEndian.toBytes width number = bytes := by
  rw [readNumber] at read
  split at read
  · rename_i length
    cases read
    subst length
    exact ⟨LittleEndian.ofBytes_lt bytes, LittleEndian.toBytes_ofBytes bytes⟩
  · cases read

/-- Bytes of a value, with the NUL that may be missing after the last item of a sequence. -/
def withTerminator (kind : ValueKind) (bytes : List UInt8) : List UInt8 :=
  if kind = .multiString ∧ bytes ≠ [] ∧ ¬ [0, 0] <:+ bytes then bytes ++ [0, 0] else bytes

theorem withTerminator_of_ne (single : kind ≠ .multiString) (bytes : List UInt8) :
    withTerminator kind bytes = bytes :=
  if_neg fun lacks => single lacks.1

/-- The NUL of a sequence is missing if there are units, of which the last is none. -/
theorem withTerminator_ofUnits (units : List UInt16) :
    withTerminator .multiString (ofUnits units) =
      ofUnits (if units ≠ [] ∧ units.getLast? ≠ some 0 then units ++ [0] else units) := by
  by_cases lacks : units ≠ [] ∧ units.getLast? ≠ some 0
  · rw [if_pos lacks, ofUnits_append]
    refine if_pos ⟨rfl, ?_, ?_⟩
    · rw [ne_eq, ofUnits_eq_nil_iff]
      exact lacks.1
    · rw [zeros_suffix_ofUnits_iff]
      exact lacks.2
  · rw [if_neg lacks]
    refine if_neg fun ⟨_, nonempty, unterminated⟩ => lacks ⟨?_, ?_⟩
    · rwa [ne_eq, ofUnits_eq_nil_iff] at nonempty
    · rwa [zeros_suffix_ofUnits_iff] at unterminated

/-- The bytes of a value that was read are those from which it was read, with the terminator. -/
theorem toBytes_of_ofBytes (read : ofBytes kind bytes = .ok value) :
    value.toBytes = withTerminator kind bytes := by
  cases kind with
  | none => cases read
  | binary =>
    cases read
    rfl
  | string | expandString =>
    obtain ⟨units, found, read⟩ := Except.bind_eq_ok_iff.1 read
    obtain ⟨text, decoded, done⟩ := Except.bind_eq_ok_iff.1 read
    cases done
    rw [withTerminator_of_ne (by decide), readUnits_eq_ok_iff.1 found,
      readText_eq_ok_iff.1 decoded]
    rfl
  | dword =>
    obtain ⟨number, found, done⟩ := Except.bind_eq_ok_iff.1 read
    cases done
    obtain ⟨small, written⟩ := toBytes_of_readNumber found
    rw [withTerminator_of_ne (by decide), toBytes, UInt32.toUInt32_toInt32,
      UInt32.toNat_ofNat_of_lt' small, written]
  | qword =>
    obtain ⟨number, found, done⟩ := Except.bind_eq_ok_iff.1 read
    cases done
    obtain ⟨small, written⟩ := toBytes_of_readNumber found
    rw [withTerminator_of_ne (by decide), toBytes, UInt64.toUInt64_toInt64,
      UInt64.toNat_ofNat_of_lt' small, written]
  | multiString =>
    obtain ⟨units, found, read⟩ := Except.bind_eq_ok_iff.1 read
    obtain ⟨texts, decoded, done⟩ := Except.bind_eq_ok_iff.1 read
    cases done
    rw [toBytes_multiString, ← mapM_readText_eq_ok_iff.1 decoded, terminated_items,
      readUnits_eq_ok_iff.1 found, withTerminator_ofUnits]

/-- No terminator is missing in the bytes of a value. -/
theorem withTerminator_toBytes (value : RegistryValue) :
    withTerminator value.kind value.toBytes = value.toBytes := by
  cases value with
  | multiString texts =>
    rw [toBytes_multiString, kind, withTerminator_ofUnits, if_neg]
    rintro ⟨nonempty, unterminated⟩
    refine unterminated ?_
    rw [Text.flatMap_terminated fun none => nonempty (by rw [none]; rfl), List.getLast?_concat]
  | _ => rw [kind, withTerminator_of_ne (by decide)]

theorem kind_splitAtNuls (value : RegistryValue) : value.splitAtNuls.kind = value.kind := by
  cases value <;> rfl

/-- A NUL in an item and the NUL after an item are the same bytes. -/
theorem toBytes_splitAtNuls (value : RegistryValue) :
    value.splitAtNuls.toBytes = value.toBytes := by
  rw [toBytes_of_ofBytes (ofBytes_toBytes value), withTerminator_toBytes]

/-- The bytes of a value that was read from bytes are these bytes, with the terminator that a
sequence may lack. So the value is read from its own bytes too, and from no other bytes than those
from which it was read unless it is a sequence. -/
theorem written_as_it_was_read (read : ofBytes kind bytes = .ok value) :
    value.kind = kind ∧ value.toBytes = withTerminator kind bytes ∧
      ofBytes kind value.toBytes = .ok value ∧
      (kind ≠ .multiString → ∀ other, ofBytes kind other = .ok value → other = bytes) := by
  have sameKind := kind_of_ofBytes read
  refine ⟨sameKind, toBytes_of_ofBytes read, ?_, fun single other readOther => ?_⟩
  · have again := ofBytes_toBytes value
    rwa [splitAtNuls_eq_self_iff.2 (itemsNulFree_of_ofBytes read), sameKind] at again
  · rw [← withTerminator_of_ne single other, ← toBytes_of_ofBytes readOther,
      toBytes_of_ofBytes read, withTerminator_of_ne single]

theorem written_as_it_was_read_unterminated :
    let bytes : List UInt8 := [0x3D, 0xD8, 0x00, 0xDE, 0, 0, 0, 0, 97, 0]
    let value := multiString ["😀", "", "a"]
    ofBytes .multiString bytes = .ok value ∧ value.toBytes = bytes ++ [0, 0] ∧
      ofBytes .multiString (bytes ++ [0, 0]) = .ok value := by
  intro bytes value
  have read : ofBytes .multiString bytes = .ok value := by rfl
  obtain ⟨-, written, again, -⟩ := written_as_it_was_read read
  have lacks : withTerminator .multiString bytes = bytes ++ [0, 0] := by decide
  rw [lacks] at written
  exact ⟨read, written, written ▸ again⟩

end RegistryValue

end GroupPolicy
