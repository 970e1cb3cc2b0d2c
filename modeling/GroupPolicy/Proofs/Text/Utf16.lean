import GroupPolicy.Value.Layout
import Mathlib.Data.List.Basic

/-!
# UTF-16 is exact

Reading code units and writing them undo each other: `decode?_eq_some_iff` says that the units from
which a text is read are the units in which it is written. Both directions rest on facts about one
character, `decode?_ofChar_append` and `ofChar_ofPair`. `Utf16Bytes.unit_eq_iff` is the same for the
two bytes of a unit.
-/

namespace GroupPolicy

namespace Text.Utf16

/-! ## Numbers of characters -/

theorem toNat_valid (c : Char) : c.toNat < 0xD800 ∨ 0xDFFF < c.toNat ∧ c.toNat < 0x110000 :=
  c.valid

theorem toNat_ofNat_of_valid {number : Nat}
    (valid : number < 0xD800 ∨ 0xDFFF < number ∧ number < 0x110000) :
    (Char.ofNat number).toNat = number := by
  have ofNat : Char.ofNat number = Char.ofNatAux number valid := dif_pos valid
  rw [ofNat]
  rfl

theorem isHigh_iff {unit : UInt16} :
    isHigh unit = true ↔ 0xD800 ≤ unit.toNat ∧ unit.toNat < 0xDC00 := by
  simp [isHigh, UInt16.le_iff_toNat_le, UInt16.lt_iff_toNat_lt]

theorem isLow_iff {unit : UInt16} :
    isLow unit = true ↔ 0xDC00 ≤ unit.toNat ∧ unit.toNat < 0xE000 := by
  simp [isLow, UInt16.le_iff_toNat_le, UInt16.lt_iff_toNat_lt]

/-! ## One character -/

/-- A pair of surrogates is the written form of the character that it stands for. -/
theorem ofChar_ofPair {high low : UInt16} (isHigh : isHigh high = true)
    (isLow : isLow low = true) : ofChar (ofPair high low) = [high, low] := by
  rw [isHigh_iff] at isHigh
  rw [isLow_iff] at isLow
  have number : (ofPair high low).toNat =
      0x10000 + (high.toNat - 0xD800) * 0x400 + (low.toNat - 0xDC00) :=
    toNat_ofNat_of_valid (by omega)
  have large : ¬ (ofPair high low).toNat < 0x10000 := by omega
  have first : 0xD800 + ((ofPair high low).toNat - 0x10000) / 0x400 = high.toNat := by omega
  have second : 0xDC00 + ((ofPair high low).toNat - 0x10000) % 0x400 = low.toNat := by omega
  rw [ofChar, if_neg large, first, second, UInt16.ofNat_toNat, UInt16.ofNat_toNat]

/-- A unit that is no surrogate is the written form of the character with its number. -/
theorem ofChar_ofNat {unit : UInt16} (notHigh : isHigh unit = false)
    (notLow : isLow unit = false) : ofChar (Char.ofNat unit.toNat) = [unit] := by
  rw [← Bool.not_eq_true, isHigh_iff] at notHigh
  rw [← Bool.not_eq_true, isLow_iff] at notLow
  have bound := unit.toNat_lt
  have number : (Char.ofNat unit.toNat).toNat = unit.toNat := toNat_ofNat_of_valid (by omega)
  rw [ofChar, number, if_pos bound, UInt16.ofNat_toNat]

/-- The written form of a character is one unit that is no surrogate, or a pair of surrogates. -/
theorem ofChar_cases (c : Char) :
    (∃ unit : UInt16, ofChar c = [unit] ∧ unit.toNat = c.toNat ∧
      isHigh unit = false ∧ isLow unit = false) ∨
    (∃ high low : UInt16, ofChar c = [high, low] ∧ ofPair high low = c ∧
      isHigh high = true ∧ isLow low = true) := by
  have valid := toNat_valid c
  by_cases small : c.toNat < 0x10000
  · left
    have number : (UInt16.ofNat c.toNat).toNat = c.toNat := UInt16.toNat_ofNat_of_lt small
    refine ⟨UInt16.ofNat c.toNat, if_pos small, number, ?_, ?_⟩
    · rw [← Bool.not_eq_true, isHigh_iff]
      omega
    · rw [← Bool.not_eq_true, isLow_iff]
      omega
  · right
    have first : (UInt16.ofNat (0xD800 + (c.toNat - 0x10000) / 0x400)).toNat =
        0xD800 + (c.toNat - 0x10000) / 0x400 := by
      apply UInt16.toNat_ofNat_of_lt
      change _ < 0x10000
      omega
    have second : (UInt16.ofNat (0xDC00 + (c.toNat - 0x10000) % 0x400)).toNat =
        0xDC00 + (c.toNat - 0x10000) % 0x400 := by
      apply UInt16.toNat_ofNat_of_lt
      change _ < 0x10000
      omega
    refine ⟨_, _, if_neg small, ?_, ?_, ?_⟩
    · have number : 0x10000 + (0xD800 + (c.toNat - 0x10000) / 0x400 - 0xD800) * 0x400 +
          (0xDC00 + (c.toNat - 0x10000) % 0x400 - 0xDC00) = c.toNat := by omega
      rw [ofPair, first, second, number, Char.ofNat_toNat]
    · rw [isHigh_iff, first]
      omega
    · rw [isLow_iff, second]
      omega

/-- A character in front of other units is read as it was written. -/
theorem decode?_ofChar_append (c : Char) (rest : List UInt16) :
    decode? (ofChar c ++ rest) = (decode? rest).map (c :: ·) := by
  rcases ofChar_cases c with ⟨unit, written, number, notHigh, notLow⟩ |
    ⟨high, low, written, pair, isHigh, isLow⟩
  · rw [written, List.singleton_append]
    cases rest with
    | nil => simp [decode?, notHigh, notLow, number]
    | cons next rest => simp [decode?, notHigh, notLow, number]
  · rw [written]
    simp [decode?, isHigh, isLow, pair]

/-! ## Texts -/

theorem encode_cons (c : Char) (text : List Char) : encode (c :: text) = ofChar c ++ encode text :=
  List.flatMap_cons

theorem decode?_encode (text : List Char) : decode? (encode text) = some text := by
  induction text with
  | nil => rfl
  | cons c text ih => rw [encode_cons, decode?_ofChar_append, ih, Option.map_some]

theorem encode_of_decode? {units : List UInt16} {text : List Char}
    (read : decode? units = some text) : encode text = units := by
  induction units using decode?.induct generalizing text with
  | case1 =>
    cases read
    rfl
  | case2 unit surrogate =>
    rw [decode?, if_pos surrogate] at read
    cases read
  | case3 unit single =>
    rw [decode?, if_neg single] at read
    rw [Bool.not_eq_true, Bool.or_eq_false_iff] at single
    cases read
    exact congrArg (· ++ []) (ofChar_ofNat single.1 single.2)
  | case4 unit next rest isHigh isLow ih =>
    rw [decode?, if_pos isHigh, if_pos isLow, Option.map_eq_some_iff] at read
    obtain ⟨tail, later, rfl⟩ := read
    rw [encode_cons, ofChar_ofPair isHigh isLow]
    exact congrArg (unit :: next :: ·) (ih later)
  | case5 unit next rest isHigh notLow =>
    rw [decode?, if_pos isHigh, if_neg notLow] at read
    cases read
  | case6 unit next rest notHigh isLow =>
    rw [decode?, if_neg notHigh, if_pos isLow] at read
    cases read
  | case7 unit next rest notHigh notLow ih =>
    rw [decode?, if_neg notHigh, if_neg notLow, Option.map_eq_some_iff] at read
    obtain ⟨tail, later, rfl⟩ := read
    rw [Bool.not_eq_true] at notHigh notLow
    rw [encode_cons, ofChar_ofNat notHigh notLow]
    exact congrArg (unit :: ·) (ih later)

/-- A text is read from exactly the units in which it is written. -/
theorem decode?_eq_some_iff {units : List UInt16} {text : List Char} :
    decode? units = some text ↔ units = encode text :=
  ⟨fun read => (encode_of_decode? read).symm, fun written => written ▸ decode?_encode text⟩

theorem encode_injective {left right : List Char} (same : encode left = encode right) :
    left = right := by
  have read := decode?_encode left
  rw [same, decode?_encode, Option.some.injEq] at read
  exact read.symm

/-- The units of a text hold a NUL exactly if the text does. -/
theorem zero_mem_encode {text : List Char} : 0 ∈ encode text ↔ '\x00' ∈ text := by
  simp only [encode, List.mem_flatMap]
  refine ⟨fun found => ?_, fun member => ⟨_, member, by decide⟩⟩
  obtain ⟨c, member, zero⟩ := found
  suffices nul : c = '\x00' from nul ▸ member
  rcases ofChar_cases c with ⟨unit, written, number, -, -⟩ |
    ⟨high, low, written, -, isHigh, isLow⟩
  · rw [written, List.mem_singleton] at zero
    subst zero
    exact Char.toNat_inj.1 number.symm
  · rw [written, List.mem_pair] at zero
    rcases zero with rfl | rfl
    · cases isHigh
    · cases isLow

theorem encode_eq_nil_iff {text : List Char} : encode text = [] ↔ text = [] := by
  cases text with
  | nil => simp [encode]
  | cons c text =>
    rcases ofChar_cases c with ⟨unit, written, -⟩ | ⟨high, low, written, -⟩ <;>
      simp [encode, written]

theorem encode_concat_nul (text : List Char) : encode (text ++ ['\x00']) = encode text ++ [0] :=
  encode_append text ['\x00']

/-- The last unit is a NUL exactly if the last character is. -/
theorem getLast?_encode_iff {text : List Char} :
    (encode text).getLast? = some 0 ↔ text.getLast? = some '\x00' := by
  rcases List.eq_nil_or_concat text with rfl | ⟨front, last, rfl⟩
  · simp [encode]
  · have single : encode [last] = ofChar last := List.append_nil _
    have nul : 0 ∈ ofChar last ↔ last = '\x00' := by
      rw [← single, zero_mem_encode]
      simp [eq_comm]
    rw [List.concat_eq_append, encode_append, single, List.getLast?_append]
    rcases ofChar_cases last with ⟨unit, written, -⟩ | ⟨high, low, written, -, isHigh, -⟩
    · rw [written] at nul ⊢
      simpa [eq_comm] using nul
    · have surrogate : 0 ≠ high := by
        intro same
        rw [← same] at isHigh
        cases isHigh
      rw [written] at nul ⊢
      simpa [surrogate, eq_comm] using nul

end Text.Utf16

namespace Utf16Bytes

/-- Two bytes hold the unit whose bytes they are. -/
theorem unit_eq_iff {low high : UInt8} {number : UInt16} :
    unit low high = number ↔ LittleEndian.toBytes 2 number.toNat = [low, high] := by
  have bound : LittleEndian.ofBytes [low, high] < 0x10000 := LittleEndian.ofBytes_lt [low, high]
  constructor
  · intro same
    have value : (unit low high).toNat = LittleEndian.ofBytes [low, high] :=
      UInt16.toNat_ofNat_of_lt bound
    rw [← same, value]
    exact LittleEndian.toBytes_ofBytes [low, high]
  · intro bytes
    have small : number.toNat < LittleEndian.capacity 2 := number.toNat_lt
    rw [unit, ← bytes, LittleEndian.ofBytes_toBytes, Nat.mod_eq_of_lt small, UInt16.ofNat_toNat]

theorem ofUnits_nil : ofUnits [] = [] := rfl

theorem ofUnits_singleton (unit : UInt16) :
    ofUnits [unit] = LittleEndian.toBytes 2 unit.toNat :=
  List.append_nil _

theorem ofUnits_cons (unit : UInt16) (units : List UInt16) :
    ofUnits (unit :: units) = ofUnits [unit] ++ ofUnits units := by
  rw [ofUnits_singleton]
  rfl

theorem length_ofUnits (units : List UInt16) : (ofUnits units).length = 2 * units.length := by
  induction units with
  | nil => rfl
  | cons unit units ih =>
    rw [ofUnits_cons, ofUnits_singleton, List.length_append, LittleEndian.length_toBytes, ih,
      List.length_cons, Nat.mul_succ, Nat.add_comm]

theorem ofUnits_unit (low high : UInt8) : ofUnits [unit low high] = [low, high] := by
  rw [ofUnits_singleton, unit_eq_iff.1 rfl]

/-- A unit is that of the two bytes in which it is written. -/
theorem exists_bytes_of_unit (number : UInt16) :
    ∃ low high, ofUnits [number] = [low, high] ∧ unit low high = number :=
  ⟨_, _, ofUnits_singleton number, unit_eq_iff.2 rfl⟩

end Utf16Bytes

end GroupPolicy
