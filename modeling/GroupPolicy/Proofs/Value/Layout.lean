import GroupPolicy.Proofs.Success
import GroupPolicy.Proofs.Text.Split
import GroupPolicy.Proofs.Text.Utf16
import GroupPolicy.Value.Input

/-!
# Values as bytes

The bytes of a value are read as that value, unless an item of a sequence holds a NUL: a NUL ends an
item, so what is read are the pieces of the items (`ofBytes_toBytes`). No value that was read from
bytes has such an item (`itemsNulFree_of_ofBytes`).
-/

namespace GroupPolicy

namespace Utf16Bytes

variable {kind : ValueKind}

theorem toUnits?_ofUnits (units : List UInt16) : toUnits? (ofUnits units) = some units := by
  induction units with
  | nil => rfl
  | cons number units ih =>
    obtain ⟨low, high, bytes, same⟩ := exists_bytes_of_unit number
    rw [ofUnits_cons, bytes, List.cons_append, List.cons_append, List.nil_append, toUnits?, ih, same,
      Option.map_some]

theorem readUnits_ofUnits (units : List UInt16) : readUnits kind (ofUnits units) = .ok units := by
  rw [readUnits, toUnits?_ofUnits]

theorem readText_eq_ok_iff {units : List UInt16} {text : String} :
    readText kind units = .ok text ↔ units = Text.Utf16.encode text.toList := by
  rw [readText]
  cases read : Text.Utf16.decode? units with
  | none =>
    refine ⟨nofun, fun written => ?_⟩
    rw [Text.Utf16.decode?_eq_some_iff.2 written] at read
    cases read
  | some chars =>
    rw [Text.Utf16.decode?_eq_some_iff.1 read]
    refine ⟨fun same => ?_, fun written => ?_⟩
    · cases same
      rw [String.toList_ofList]
    · rw [Text.Utf16.encode_injective written]
      exact congrArg Except.ok String.ofList_toList

theorem mapM_readText_eq_ok_iff {lists : List (List UInt16)} {texts : List String} :
    lists.mapM (readText kind) = .ok texts ↔
      lists = texts.map fun text => Text.Utf16.encode text.toList := by
  simp only [Except.mapM_eq_ok_iff, readText_eq_ok_iff]
  refine (List.forall₂_map_right_iff (R := Eq)).symm.trans ?_
  rw [List.forall₂_eq_eq_eq]

/-- No item holds the NUL that would end it. -/
theorem zero_not_mem_of_mem_items {units item : List UInt16} (member : item ∈ items units) :
    0 ∉ item := by
  rw [items] at member
  split at member
  · cases member
  · exact Text.not_mem_of_mem_split member

/-- Items of which each ends in a NUL are read as their pieces between NULs. -/
theorem items_terminated (lists : List (List UInt16)) :
    items (lists.flatMap (· ++ [0])) = lists.flatMap (Text.split 0) := by
  cases lists with
  | nil => rfl
  | cons first rest =>
    have nonempty : first :: rest ≠ [] := List.cons_ne_nil _ _
    have dropped : dropTerminator ([0].intercalate (first :: rest) ++ [0]) =
        [0].intercalate (first :: rest) := by
      rw [dropTerminator, List.getLast?_concat, if_pos rfl, List.dropLast_concat]
    rw [Text.flatMap_terminated nonempty, items, if_neg, dropped, Text.split_intercalate nonempty]
    simp

end Utf16Bytes

namespace Text.Utf16

/-- The code units of a text are split at the NULs of the text. -/
theorem split_encode (text : List Char) :
    split 0 (encode text) = (split '\x00' text).map encode := by
  refine split_flatMap (by decide) (fun c other zero => other ?_) text
  have member : 0 ∈ encode [c] := List.mem_flatMap.2 ⟨c, List.mem_singleton_self c, zero⟩
  exact (List.mem_singleton.1 (zero_mem_encode.1 member)).symm

end Text.Utf16

namespace RegistryValue

open Utf16Bytes

variable {kind : ValueKind} {value : RegistryValue} {bytes : List UInt8} {data : String}

/-- The value in which the items of a sequence are split at their NULs. -/
def splitAtNuls : RegistryValue → RegistryValue
  | multiString items =>
    multiString (items.flatMap fun item => (Text.split '\x00' item.toList).map String.ofList)
  | value => value

/-- No item of a sequence holds a NUL. -/
def ItemsNulFree (value : RegistryValue) : Prop :=
  ∀ items, value = multiString items → ∀ item ∈ items, '\x00' ∉ item.toList

theorem split_of_nulFree {text : String} (free : '\x00' ∉ text.toList) :
    (Text.split '\x00' text.toList).map String.ofList = [text] := by
  rw [Text.split_eq_splitOn, List.splitOn_eq_singleton free, List.map_singleton,
    String.ofList_toList]

/-- Splitting changes exactly the values that have an item with a NUL. -/
theorem splitAtNuls_eq_self_iff : value.splitAtNuls = value ↔ value.ItemsNulFree := by
  constructor
  · rintro same items rfl item member
    rw [← multiString.inj same] at member
    obtain ⟨whole, -, piece⟩ := List.mem_flatMap.1 member
    obtain ⟨chars, among, rfl⟩ := List.mem_map.1 piece
    rw [String.toList_ofList]
    exact Text.not_mem_of_mem_split among
  · intro free
    cases value with
    | multiString items =>
      rw [splitAtNuls, List.flatMap_congr fun item member =>
        split_of_nulFree (free items rfl item member), List.flatMap_singleton']
    | _ => rfl

/-- Every number of a width is read from its own bytes. -/
theorem readNumber_toBytes (width number : Nat) :
    readNumber kind width (LittleEndian.toBytes width number) =
      .ok (number % LittleEndian.capacity width) := by
  rw [readNumber, if_pos (LittleEndian.length_toBytes width number), LittleEndian.ofBytes_toBytes]

/-- The bytes of a sequence of texts are its texts in UTF-16, each with a NUL after it. -/
theorem toBytes_multiString (items : List String) :
    (multiString items).toBytes =
      ofUnits ((items.map fun item => Text.Utf16.encode item.toList).flatMap (· ++ [0])) := by
  conv_rhs => rw [ofUnits, List.flatMap_assoc, List.flatMap_map]
  refine List.flatMap_congr fun item _ => ?_
  rw [List.flatMap_append]
  rfl

/-- The bytes of a value are read as the value, split at the NULs in its items. -/
theorem ofBytes_toBytes (value : RegistryValue) :
    ofBytes value.kind value.toBytes = .ok value.splitAtNuls := by
  have read (kind : ValueKind) (text : String) :
      readText kind (Text.Utf16.encode text.toList) = .ok text := readText_eq_ok_iff.2 rfl
  cases value with
  | string text =>
    rw [kind, toBytes, ofBytes, Utf16Bytes.ofText, readUnits_ofUnits]
    dsimp only [bind, Except.bind]
    rw [read]
    rfl
  | expandString text =>
    rw [kind, toBytes, ofBytes, Utf16Bytes.ofText, readUnits_ofUnits]
    dsimp only [bind, Except.bind]
    rw [read]
    rfl
  | binary bytes => rfl
  | dword number =>
    have small : number.toUInt32.toNat % LittleEndian.capacity 4 = number.toUInt32.toNat :=
      Nat.mod_eq_of_lt number.toUInt32.toNat_lt_size
    rw [kind, toBytes, ofBytes, readNumber_toBytes, small]
    dsimp only [bind, Except.bind]
    rw [UInt32.ofNat_toNat, Int32.toInt32_toUInt32]
    rfl
  | multiString texts =>
    rw [toBytes_multiString, kind, ofBytes, readUnits_ofUnits]
    dsimp only [bind, Except.bind]
    have pieces : items ((texts.map fun text => Text.Utf16.encode text.toList).flatMap
        (· ++ [0])) = (texts.flatMap fun text =>
          (Text.split '\x00' text.toList).map String.ofList).map fun text =>
            Text.Utf16.encode text.toList := by
      rw [items_terminated, List.flatMap_map, List.map_flatMap]
      refine List.flatMap_congr fun text _ => ?_
      rw [Text.Utf16.split_encode, List.map_map]
      refine List.map_congr_left fun piece _ => ?_
      rw [Function.comp, String.toList_ofList]
    rw [mapM_readText_eq_ok_iff.2 pieces]
    rfl
  | qword number =>
    have small : number.toUInt64.toNat % LittleEndian.capacity 8 = number.toUInt64.toNat :=
      Nat.mod_eq_of_lt number.toUInt64.toNat_lt_size
    rw [kind, toBytes, ofBytes, readNumber_toBytes, small]
    dsimp only [bind, Except.bind]
    rw [UInt64.ofNat_toNat, Int64.toInt64_toUInt64]
    rfl

/-! ## Values that were read -/

theorem kind_of_ofBytes (read : ofBytes kind bytes = .ok value) : value.kind = kind := by
  cases kind with
  | none => cases read
  | binary =>
    cases read
    rfl
  | string | expandString | multiString =>
    obtain ⟨units, -, read⟩ := Except.bind_eq_ok_iff.1 read
    obtain ⟨text, -, done⟩ := Except.bind_eq_ok_iff.1 read
    cases done
    rfl
  | dword | qword =>
    obtain ⟨number, -, done⟩ := Except.bind_eq_ok_iff.1 read
    cases done
    rfl

/-- No item that was read from bytes holds a NUL. -/
theorem itemsNulFree_of_ofBytes (read : ofBytes kind bytes = .ok value) : value.ItemsNulFree := by
  rintro texts rfl text member
  obtain rfl : ValueKind.multiString = kind := kind_of_ofBytes read
  obtain ⟨units, -, read⟩ := Except.bind_eq_ok_iff.1 read
  obtain ⟨_, decoded, done⟩ := Except.bind_eq_ok_iff.1 read
  cases done
  have written : Text.Utf16.encode text.toList ∈ items units := by
    rw [mapM_readText_eq_ok_iff.1 decoded]
    exact List.mem_map_of_mem member
  rw [← Text.Utf16.zero_mem_encode]
  exact zero_not_mem_of_mem_items written

/-! ## Values of commands -/

theorem kind_of_resolve {encoding : InputEncoding}
    (resolved : resolve kind encoding data = .ok value) : value.kind = kind := by
  cases encoding with
  | hex =>
    obtain ⟨bytes, -, read⟩ := Except.bind_eq_ok_iff.1 resolved
    exact kind_of_ofBytes read
  | text =>
    cases kind with
    | none => cases resolved
    | string | expandString | multiString =>
      cases resolved
      rfl
    | binary | dword | qword =>
      obtain ⟨_, -, done⟩ := Except.bind_eq_ok_iff.1 resolved
      cases done
      rfl

/-- A value whose bytes a command gives in hex has no item with a NUL. -/
theorem itemsNulFree_of_resolve_hex (resolved : resolve kind .hex data = .ok value) :
    value.ItemsNulFree := by
  obtain ⟨bytes, -, read⟩ := Except.bind_eq_ok_iff.1 resolved
  exact itemsNulFree_of_ofBytes read

end RegistryValue

end GroupPolicy
