/-!
# Sets of characters given by ranges

Tables of character properties are lists of code-point ranges with both ends included.
-/

namespace GroupPolicy.Text

/-- A set of code points, as ranges with both ends included. -/
abbrev CharRanges := List (Nat × Nat)

namespace CharRanges

/-- Whether a character lies in one of the ranges. -/
def contains (ranges : CharRanges) (c : Char) : Bool :=
  ranges.any fun range => range.1 ≤ c.toNat && c.toNat ≤ range.2

end CharRanges

end GroupPolicy.Text
