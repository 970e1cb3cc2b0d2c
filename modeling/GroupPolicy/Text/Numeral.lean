/-!
# Numbers in decimal notation

Numerals are runs of ASCII digits with at most one sign. An unsigned numeral may have a plus sign,
a signed one either sign.
-/

namespace GroupPolicy.Text

/-- The number that a run of decimal digits denotes. -/
def ofDigits (digits : List Char) : Nat :=
  digits.foldl (fun number digit => 10 * number + (digit.toNat - '0'.toNat)) 0

/-- The number written as one or more decimal digits. -/
def decimal? (text : List Char) : Option Nat :=
  if text ≠ [] ∧ text.all Char.isDigit then some (ofDigits text) else none

/-- The number written as digits with at most a plus sign. -/
def unsigned? : List Char → Option Nat
  | '+' :: digits => decimal? digits
  | digits => decimal? digits

/-- The number written as digits with at most one sign. -/
def signed? : List Char → Option Int
  | '+' :: digits => (decimal? digits).map Int.ofNat
  | '-' :: digits => (decimal? digits).map fun number => -Int.ofNat number
  | digits => (decimal? digits).map Int.ofNat

/-- A run of digits is a numeral exactly when it is not empty. -/
theorem decimal?_eq_some_iff {text : List Char} {number : Nat} :
    decimal? text = some number ↔
      text ≠ [] ∧ (∀ c ∈ text, c.isDigit = true) ∧ ofDigits text = number := by
  simp [decimal?, and_assoc]

end GroupPolicy.Text
