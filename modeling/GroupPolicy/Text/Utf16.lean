/-!
# UTF-16 code units

A character below U+10000 is one code unit; any other is a high and a low surrogate. Reading
accepts exactly the sequences in which every surrogate belongs to such a pair.
-/

namespace GroupPolicy.Text.Utf16

/-- The code units of a character. -/
def ofChar (c : Char) : List UInt16 :=
  if c.toNat < 0x10000 then [UInt16.ofNat c.toNat]
  else
    [UInt16.ofNat (0xD800 + (c.toNat - 0x10000) / 0x400),
     UInt16.ofNat (0xDC00 + (c.toNat - 0x10000) % 0x400)]

/-- The code units of a text. -/
def encode (text : List Char) : List UInt16 :=
  text.flatMap ofChar

/-- Whether a code unit is the first half of a pair. -/
def isHigh (unit : UInt16) : Bool :=
  0xD800 ≤ unit && unit < 0xDC00

/-- Whether a code unit is the second half of a pair. -/
def isLow (unit : UInt16) : Bool :=
  0xDC00 ≤ unit && unit < 0xE000

/-- The character of a surrogate pair. -/
def ofPair (high low : UInt16) : Char :=
  Char.ofNat (0x10000 + (high.toNat - 0xD800) * 0x400 + (low.toNat - 0xDC00))

/-- The text of a sequence of code units, unless it has a surrogate outside a pair. -/
def decode? : List UInt16 → Option (List Char)
  | [] => some []
  | [unit] => if isHigh unit || isLow unit then none else some [Char.ofNat unit.toNat]
  | unit :: next :: rest =>
    if isHigh unit then
      if isLow next then (decode? rest).map (ofPair unit next :: ·) else none
    else if isLow unit then none
    else (decode? (next :: rest)).map (Char.ofNat unit.toNat :: ·)

/-- The code units of two texts in a row. -/
theorem encode_append (left right : List Char) :
    encode (left ++ right) = encode left ++ encode right := by
  simp [encode]

end GroupPolicy.Text.Utf16
