import GroupPolicy.Error
import GroupPolicy.Text.Blank

/-!
# Bytes as hex text

Bytes are written as pairs of uppercase hex digits joined by dashes. On reading, dashes and outer
blanks do not count and either case will do. The main statement is `ofPairs?_pairs`: the digits of
bytes read back as those bytes.
-/

namespace GroupPolicy.Hex

/-- The value of a hex digit. -/
def digitValue? (c : Char) : Option Nat :=
  if '0' ≤ c ∧ c ≤ '9' then some (c.toNat - '0'.toNat)
  else if 'a' ≤ c ∧ c ≤ 'f' then some (c.toNat - 'a'.toNat + 10)
  else if 'A' ≤ c ∧ c ≤ 'F' then some (c.toNat - 'A'.toNat + 10)
  else none

/-- Whether a character is a hex digit. -/
def isDigit (c : Char) : Bool :=
  (digitValue? c).isSome

/-- The uppercase digit of a number below sixteen. -/
def digit (number : Nat) : Char :=
  if number < 10 then Char.ofNat ('0'.toNat + number) else Char.ofNat ('A'.toNat + (number - 10))

/-- The two digits of a byte, the high one first. -/
def ofByte (byte : UInt8) : List Char :=
  [digit (byte.toNat / 16), digit (byte.toNat % 16)]

/-- The digits of bytes, with nothing between them. -/
def pairs (bytes : List UInt8) : List Char :=
  bytes.flatMap ofByte

/-- The bytes whose digits a text consists of. -/
def ofPairs? : List Char → Option (List UInt8)
  | [] => some []
  | [_] => none
  | high :: low :: rest => do
    let high ← digitValue? high
    let low ← digitValue? low
    let bytes ← ofPairs? rest
    return UInt8.ofNat (16 * high + low) :: bytes

/-- The digits in a hex text: what is left without dashes and then without outer blanks. -/
def clean (text : List Char) : List Char :=
  Text.trim (text.filter (· ≠ '-'))

/-- The bytes that a hex text denotes. The first character that is no digit fails before an odd
number of digits does. -/
def decode (text : String) : Except PolicyError (List UInt8) :=
  let digits := clean text.toList
  match digits.dropWhile isDigit with
  | c :: _ => .error (.invalidHexDigit c (digits.takeWhile isDigit).length)
  | [] =>
    match ofPairs? digits with
    | some bytes => .ok bytes
    | none => .error (.oddHexLength digits.length)

/-- The hex text of bytes. -/
def encode (bytes : List UInt8) : String :=
  String.ofList (['-'].intercalate (bytes.map ofByte))

/-- A digit has the value that it was made from. -/
theorem digitValue?_digit : ∀ number < 16, digitValue? (digit number) = some number := by
  decide

/-- The digits of a byte read back as that byte. -/
theorem ofPairs?_ofByte_append (byte : UInt8) (rest : List Char) :
    ofPairs? (ofByte byte ++ rest) = (ofPairs? rest).map (byte :: ·) := by
  have small := byte.toNat_lt
  have high := digitValue?_digit (byte.toNat / 16) (by omega)
  have low := digitValue?_digit (byte.toNat % 16) (by omega)
  have whole : UInt8.ofNat (16 * (byte.toNat / 16) + byte.toNat % 16) = byte := by
    rw [Nat.div_add_mod, UInt8.ofNat_toNat]
  simp only [ofByte, List.cons_append, List.nil_append, ofPairs?, high, low, bind,
    Option.bind_some, whole]
  cases ofPairs? rest <;> rfl

/-- The digits of bytes read back as those bytes. -/
theorem ofPairs?_pairs (bytes : List UInt8) : ofPairs? (pairs bytes) = some bytes := by
  induction bytes with
  | nil => rfl
  | cons byte rest ih =>
    have step : pairs (byte :: rest) = ofByte byte ++ pairs rest := rfl
    rw [step, ofPairs?_ofByte_append, ih, Option.map_some]

end GroupPolicy.Hex
