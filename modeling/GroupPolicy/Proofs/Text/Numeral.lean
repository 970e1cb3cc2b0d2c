import GroupPolicy.Proofs.Text.Blank
import GroupPolicy.Text.Numeral
import Mathlib.Data.Nat.Digits.Defs

/-!
# What numerals are

An unsigned numeral is a run of digits with at most a plus sign before it (`unsigned?_eq_some_iff`),
a signed one may have either sign (`signed?_eq_some_iff`). What a signed numeral denotes is told by
the places of its digits, and the decimal notation of a number denotes that number
(`signed_toString`).
-/

namespace GroupPolicy.Text

variable {text : List Char} {number : Nat}

/-- A text is one or more decimal digits, with or without a plus sign, that denote a number. -/
def Unsigned (text : List Char) (number : Nat) : Prop :=
  ∃ digits, (text = digits ∨ text = '+' :: digits) ∧ digits ≠ [] ∧
    (∀ c ∈ digits, c.isDigit = true) ∧ ofDigits digits = number

theorem unsigned?_eq_some_iff : unsigned? text = some number ↔ Unsigned text number := by
  constructor
  · intro read
    rw [unsigned?.eq_def] at read
    split at read
    · rename_i digits
      exact ⟨digits, Or.inr rfl, decimal?_eq_some_iff.1 read⟩
    · exact ⟨text, Or.inl rfl, decimal?_eq_some_iff.1 read⟩
  · rintro ⟨digits, rfl | rfl, written⟩
    · have read := decimal?_eq_some_iff.2 written
      rw [unsigned?.eq_def]
      split
      · exact absurd (written.2.1 '+' List.mem_cons_self) (by decide)
      · exact read
    · exact decimal?_eq_some_iff.2 written

/-- A numeral is never empty. -/
theorem Unsigned.ne_nil (numeral : Unsigned text number) : text ≠ [] := by
  obtain ⟨digits, rfl | rfl, nonempty, -⟩ := numeral
  · exact nonempty
  · exact List.cons_ne_nil _ _

theorem Unsigned.unique {other : Nat} (numeral : Unsigned text number)
    (numeral' : Unsigned text other) : number = other :=
  Option.some.inj ((unsigned?_eq_some_iff.2 numeral).symm.trans (unsigned?_eq_some_iff.2 numeral'))

/-! ## Signed numerals -/

/-- A text is one or more decimal digits, of which the last counts ones, the one before it tens, and
so on. -/
structure Decimal (digits : List Char) (number : Nat) : Prop where
  nonempty : digits ≠ []
  isDigit : ∀ c ∈ digits, c.isDigit = true
  value : Nat.ofDigits 10 (digits.reverse.map fun c => c.toNat - '0'.toNat) = number

/-- A text is decimal digits with at most one sign before them. -/
inductive Signed : List Char → Int → Prop
  | plain {digits : List Char} {number : Nat} : Decimal digits number → Signed digits number
  | plus {digits : List Char} {number : Nat} : Decimal digits number →
    Signed ('+' :: digits) number
  | minus {digits : List Char} {number : Nat} : Decimal digits number →
    Signed ('-' :: digits) (-number)

/-- Counting the digits up from the first is summing them by their places. -/
theorem ofDigits_eq (digits : List Char) :
    ofDigits digits = Nat.ofDigits 10 (digits.reverse.map fun c => c.toNat - '0'.toNat) := by
  induction digits using List.reverseRecOn with
  | nil => rfl
  | append_singleton front last ih =>
    have step : ofDigits (front ++ [last]) = 10 * ofDigits front + (last.toNat - '0'.toNat) := by
      simp [ofDigits]
    rw [step, ih]
    simp [Nat.ofDigits_cons]
    omega

theorem decimal?_eq_some_iff_decimal : decimal? text = some number ↔ Decimal text number := by
  rw [decimal?_eq_some_iff, ofDigits_eq]
  exact ⟨fun ⟨nonempty, digits, value⟩ => ⟨nonempty, digits, value⟩,
    fun ⟨nonempty, digits, value⟩ => ⟨nonempty, digits, value⟩⟩

theorem Decimal.unsigned (digits : Decimal text number) : Unsigned text number :=
  ⟨text, Or.inl rfl, decimal?_eq_some_iff.1 (decimal?_eq_some_iff_decimal.2 digits)⟩

theorem signed?_eq_some_iff {number : Int} : signed? text = some number ↔ Signed text number := by
  constructor
  · intro read
    unfold signed? at read
    split at read <;> obtain ⟨value, digits, rfl⟩ := Option.map_eq_some_iff.1 read <;>
      rw [decimal?_eq_some_iff_decimal] at digits
    · exact .plus digits
    · exact .minus digits
    · exact .plain digits
  · intro written
    cases written with
    | plain digits =>
      have read := decimal?_eq_some_iff_decimal.2 digits
      unfold signed?
      split
      · exact absurd (digits.isDigit '+' List.mem_cons_self) (by decide)
      · exact absurd (digits.isDigit '-' List.mem_cons_self) (by decide)
      · simp [read]
    | plus digits => simp [signed?, decimal?_eq_some_iff_decimal.2 digits]
    | minus digits => simp [signed?, decimal?_eq_some_iff_decimal.2 digits]

theorem isBlank_of_isDigit {c : Char} (digit : c.isDigit = true) : isBlank c = false := by
  have bounds : 48 ≤ c.toNat ∧ c.toNat ≤ 57 := by
    simp only [Char.isDigit, Bool.and_eq_true, decide_eq_true_eq] at digit
    exact digit
  simp [isBlank, blankRanges, CharRanges.contains]
  omega

/-- No character of a numeral is blank. -/
theorem Signed.visible {number : Int} (written : Signed text number) :
    ∀ c ∈ text, isBlank c = false := by
  intro c member
  cases written with
  | plain digits => exact isBlank_of_isDigit (digits.isDigit c member)
  | plus digits | minus digits =>
    rcases List.mem_cons.1 member with rfl | later
    · decide
    · exact isBlank_of_isDigit (digits.isDigit c later)

theorem decimal_repr (number : Nat) : Decimal number.repr.toList number := by
  have toList : number.repr.toList = Nat.toDigits 10 number := by
    rw [Nat.repr_eq_ofList_toDigits, String.toList_ofList]
  rw [toList]
  refine ⟨Nat.toDigits_ne_nil, fun c => Nat.isDigit_of_mem_toDigits (by decide) (by decide), ?_⟩
  rw [← ofDigits_eq, ofDigits, ← Nat.ofDigitChars_eq_foldl]
  exact Nat.ofDigitChars_ten_toDigits

/-- The decimal notation of a number denotes it. -/
theorem signed_toString (number : Int) : Signed (toString number).toList number := by
  rw [Int.toString_eq_repr, Int.repr_eq_if]
  by_cases sign : 0 ≤ number
  · have written := Signed.plain (decimal_repr number.toNat)
    rw [Int.toNat_of_nonneg sign] at written
    rwa [if_pos sign]
  · have written := Signed.minus (decimal_repr (-number).toNat)
    rw [Int.toNat_of_nonneg (by omega), Int.neg_neg] at written
    rw [if_neg sign, String.toList_append]
    exact written

end GroupPolicy.Text
