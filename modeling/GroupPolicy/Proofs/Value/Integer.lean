import GroupPolicy.Proofs.Success
import GroupPolicy.Proofs.Text.Numeral
import GroupPolicy.Value.Input

/-!
# Integers in text and in bytes

A text is read as the number that it denotes if the kind can hold that number, and is refused
otherwise; nothing wraps around. `readInteger_eq_ok_iff` says so for any bounds, and
`integers_read_exactly` for the two kinds of integers, with how the kinds go together and which
bytes a number has.
-/

namespace GroupPolicy

/-- Bytes denote the number of which they are the digits to the base 256, the lowest first. -/
theorem LittleEndian.ofBytes_eq_ofDigits (bytes : List UInt8) :
    ofBytes bytes = Nat.ofDigits 256 (bytes.map UInt8.toNat) := by
  induction bytes with
  | nil => rfl
  | cons byte rest ih => simp [ofBytes, Nat.ofDigits_cons, ih]

theorem LittleEndian.ofDigits_toBytes {width number : Nat} (small : number < capacity width) :
    Nat.ofDigits (256 : Int) ((toBytes width number).map UInt8.toNat) = number := by
  have digits := Nat.coe_ofDigits Int 256 ((toBytes width number).map UInt8.toNat)
  rw [← ofBytes_eq_ofDigits, ofBytes_toBytes, Nat.mod_eq_of_lt small] at digits
  exact digits.symm

namespace RegistryValue

variable {kind : ValueKind} {least greatest number : Int} {text : String}

/-- A text denotes a number if what is left of it without the blanks around it is decimal digits
with at most one sign. -/
def Denotes (text : String) (number : Int) : Prop :=
  ∃ numeral, Text.TrimsTo text.toList numeral ∧ Text.Signed numeral number

theorem denotes_iff : Denotes text number ↔ Text.signed? (Text.trim text.toList) = some number := by
  unfold Denotes
  simp only [← Text.trim_eq_iff, ← Text.signed?_eq_some_iff, exists_eq_left']

theorem readInteger_of_denotes (denoted : Denotes text number) (lower : least ≤ number)
    (upper : number ≤ greatest) : readInteger kind least greatest text = .ok number := by
  rw [denotes_iff] at denoted
  simp [readInteger, denoted, lower, upper]

theorem readInteger_of_none
    (none : ¬ ∃ number, Denotes text number ∧ least ≤ number ∧ number ≤ greatest) :
    readInteger kind least greatest text = .error (.invalidInteger kind text) := by
  unfold readInteger
  split
  · rename_i number found
    exact if_neg fun bounds => none ⟨number, denotes_iff.2 found, bounds⟩
  · rfl

theorem readInteger_eq_ok_iff :
    readInteger kind least greatest text = .ok number ↔
      Denotes text number ∧ least ≤ number ∧ number ≤ greatest := by
  constructor
  · intro read
    by_cases held : ∃ number, Denotes text number ∧ least ≤ number ∧ number ≤ greatest
    · obtain ⟨other, denoted, lower, upper⟩ := held
      rw [readInteger_of_denotes denoted lower upper] at read
      cases read
      exact ⟨denoted, lower, upper⟩
    · rw [readInteger_of_none held] at read
      cases read
  · intro ⟨denoted, lower, upper⟩
    exact readInteger_of_denotes denoted lower upper

theorem readInteger_eq_error_iff :
    readInteger kind least greatest text = .error (.invalidInteger kind text) ↔
      ¬ ∃ number, Denotes text number ∧ least ≤ number ∧ number ≤ greatest := by
  constructor
  · intro failed ⟨number, denoted, lower, upper⟩
    rw [readInteger_of_denotes denoted lower upper] at failed
    cases failed
  · exact readInteger_of_none

/-- Integers of a type that holds what lies between the bounds are read as they are. -/
theorem map_readInteger_eq_ok_iff {α : Type} {toInt : α → Int} {ofInt : Int → α}
    {value : α → RegistryValue} (injective : Function.Injective value)
    (inside : ∀ x, least ≤ toInt x ∧ toInt x ≤ greatest ∧ ofInt (toInt x) = x)
    (kept : ∀ number, least ≤ number → number ≤ greatest → toInt (ofInt number) = number) {x : α} :
    (readInteger kind least greatest text).map (fun number => value (ofInt number)) =
      .ok (value x) ↔ Denotes text (toInt x) := by
  rw [Except.map_eq_ok_iff]
  constructor
  · intro ⟨number, read, same⟩
    obtain ⟨denoted, lower, upper⟩ := readInteger_eq_ok_iff.1 read
    rwa [← injective same, kept number lower upper]
  · intro denoted
    obtain ⟨lower, upper, same⟩ := inside x
    exact ⟨toInt x, readInteger_of_denotes denoted lower upper, congrArg value same⟩

/-! ## The two kinds of integers -/

theorem ofText_dword (text : String) :
    ofText .dword text = (readInteger .dword Int32.minValue.toInt Int32.maxValue.toInt text).map
      fun number => dword (.ofInt number) := by
  unfold ofText
  cases readInteger .dword Int32.minValue.toInt Int32.maxValue.toInt text <;> rfl

theorem ofText_qword (text : String) :
    ofText .qword text = (readInteger .qword Int64.minValue.toInt Int64.maxValue.toInt text).map
      fun number => qword (.ofInt number) := by
  unfold ofText
  cases readInteger .qword Int64.minValue.toInt Int64.maxValue.toInt text <;> rfl

theorem ofText_dword_eq_ok_iff {number : Int32} :
    ofText .dword text = .ok (dword number) ↔ Denotes text number.toInt := by
  rw [ofText_dword]
  refine map_readInteger_eq_ok_iff (fun _ _ => dword.inj) (fun number => ?_)
    fun number lower upper => ?_
  · exact ⟨number.minValue_le_toInt, number.toInt_le, number.ofInt_toInt⟩
  · rw [← Int32.ofIntLE_eq_ofInt lower upper, Int32.toInt_ofIntLE]

theorem ofText_qword_eq_ok_iff {number : Int64} :
    ofText .qword text = .ok (qword number) ↔ Denotes text number.toInt := by
  rw [ofText_qword]
  refine map_readInteger_eq_ok_iff (fun _ _ => qword.inj) (fun number => ?_)
    fun number lower upper => ?_
  · exact ⟨number.minValue_le_toInt, number.toInt_le, number.ofInt_toInt⟩
  · rw [← Int64.ofIntLE_eq_ofInt lower upper, Int64.toInt_ofIntLE]

/-- Numbers within the bounds of the narrow kind are those that it has. -/
theorem exists_toInt_eq_iff :
    (∃ narrow : Int32, narrow.toInt = number) ↔ -2147483648 ≤ number ∧ number ≤ 2147483647 := by
  have least : Int32.minValue.toInt = -2147483648 := by decide
  have greatest : Int32.maxValue.toInt = 2147483647 := by decide
  rw [← least, ← greatest]
  constructor
  · rintro ⟨narrow, rfl⟩
    exact ⟨narrow.minValue_le_toInt, narrow.toInt_le⟩
  · intro ⟨lower, upper⟩
    exact ⟨Int32.ofIntLE number lower upper, Int32.toInt_ofIntLE⟩

/-- The bits of a negative number are those of its remainder. -/
theorem toNat_eq_emod {width : Nat} (bits : BitVec width) :
    (bits.toNat : Int) = bits.toInt % (2 ^ width : Nat) := by
  have bound := bits.isLt
  rw [BitVec.toInt_eq_toNat_bmod, Int.bmod_emod]
  exact (Int.emod_eq_of_lt (by omega) (by omega)).symm

/-- A text is read as an integer of a kind exactly if it denotes that integer, and is refused, with
the kind and the whole text, if it denotes none that the kind can hold. So the narrow kind reads
what the wide one reads within its bounds. The bytes of an integer are the digits, the lowest first,
of its remainder by the number of integers of the kind. -/
theorem integers_read_exactly (text : String) :
    (∀ number : Int32, ofText .dword text = .ok (dword number) ↔ Denotes text number.toInt) ∧
    (ofText .dword text = .error (.invalidInteger .dword text) ↔
      ¬ ∃ number, Denotes text number ∧ -2147483648 ≤ number ∧ number ≤ 2147483647) ∧
    (∀ number : Int64, ofText .qword text = .ok (qword number) ↔ Denotes text number.toInt) ∧
    (ofText .qword text = .error (.invalidInteger .qword text) ↔
      ¬ ∃ number, Denotes text number ∧
        -9223372036854775808 ≤ number ∧ number ≤ 9223372036854775807) ∧
    (∀ number : Int,
      (∃ narrow : Int32, narrow.toInt = number ∧ ofText .dword text = .ok (dword narrow)) ↔
        -2147483648 ≤ number ∧ number ≤ 2147483647 ∧
          ∃ wide : Int64, wide.toInt = number ∧ ofText .qword text = .ok (qword wide)) ∧
    (∀ number : Int32, (dword number).toBytes.length = 4 ∧
      Nat.ofDigits (256 : Int) ((dword number).toBytes.map UInt8.toNat) =
        number.toInt % 4294967296) ∧
    ∀ number : Int64, (qword number).toBytes.length = 8 ∧
      Nat.ofDigits (256 : Int) ((qword number).toBytes.map UInt8.toNat) =
        number.toInt % 18446744073709551616 := by
  have bounds32 : Int32.minValue.toInt = -2147483648 ∧ Int32.maxValue.toInt = 2147483647 := by
    decide
  have bounds64 : Int64.minValue.toInt = -9223372036854775808 ∧
      Int64.maxValue.toInt = 9223372036854775807 := by
    decide
  refine ⟨fun _ => ofText_dword_eq_ok_iff, ?_, fun _ => ofText_qword_eq_ok_iff, ?_, ?_, ?_, ?_⟩
  · rw [ofText_dword, Except.map_eq_error_iff, readInteger_eq_error_iff, bounds32.1,
      bounds32.2]
  · rw [ofText_qword, Except.map_eq_error_iff, readInteger_eq_error_iff, bounds64.1,
      bounds64.2]
  · intro number
    simp only [ofText_dword_eq_ok_iff, ofText_qword_eq_ok_iff]
    constructor
    · rintro ⟨narrow, rfl, denoted⟩
      have bounds := exists_toInt_eq_iff.1 ⟨narrow, rfl⟩
      exact ⟨bounds.1, bounds.2, narrow.toInt64, narrow.toInt_toInt64,
        by rwa [narrow.toInt_toInt64]⟩
    · rintro ⟨lower, upper, wide, rfl, denoted⟩
      obtain ⟨narrow, same⟩ := exists_toInt_eq_iff.2 ⟨lower, upper⟩
      exact ⟨narrow, same, same ▸ denoted⟩
  · intro number
    refine ⟨LittleEndian.length_toBytes 4 _, ?_⟩
    rw [toBytes, LittleEndian.ofDigits_toBytes number.toUInt32.toNat_lt_size]
    exact toNat_eq_emod number.toBitVec
  · intro number
    refine ⟨LittleEndian.length_toBytes 8 _, ?_⟩
    rw [toBytes, LittleEndian.ofDigits_toBytes number.toUInt64.toNat_lt_size]
    exact toNat_eq_emod number.toBitVec

end RegistryValue

end GroupPolicy
