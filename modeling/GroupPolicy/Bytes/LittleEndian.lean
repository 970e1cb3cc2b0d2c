/-!
# Little-endian numbers

A number of a fixed width is its bytes in order, the least significant first. The main statements
are the round trips `ofBytes_toBytes` and `toBytes_ofBytes`.
-/

namespace GroupPolicy.LittleEndian

/-- The lowest bytes of a number, as many as the width says. -/
def toBytes : Nat → Nat → List UInt8
  | 0, _ => []
  | width + 1, number => UInt8.ofNat (number % 256) :: toBytes width (number / 256)

/-- The number that bytes denote. -/
def ofBytes : List UInt8 → Nat
  | [] => 0
  | byte :: rest => byte.toNat + 256 * ofBytes rest

/-- How many numbers have a width. -/
def capacity : Nat → Nat
  | 0 => 1
  | width + 1 => 256 * capacity width

/-- A number of a width has that many bytes. -/
@[simp] theorem length_toBytes (width number : Nat) : (toBytes width number).length = width := by
  induction width generalizing number with
  | zero => rfl
  | succ width ih => simp [toBytes, ih]

/-- Bytes denote a number of their width. -/
theorem ofBytes_lt (bytes : List UInt8) : ofBytes bytes < capacity bytes.length := by
  induction bytes with
  | nil => decide
  | cons byte rest ih =>
    have small := byte.toNat_lt
    rw [ofBytes, List.length_cons, capacity]
    omega

/-- The bytes of a number denote it, as far as the width goes. -/
theorem ofBytes_toBytes (width number : Nat) :
    ofBytes (toBytes width number) = number % capacity width := by
  induction width generalizing number with
  | zero => rw [toBytes, ofBytes, capacity, Nat.mod_one]
  | succ width ih =>
    rw [toBytes, ofBytes, ih, capacity, Nat.mod_mul, UInt8.toNat_ofNat',
      Nat.mod_eq_of_lt (Nat.mod_lt number (by decide))]

/-- A number is written as the bytes that it was read from. -/
theorem toBytes_ofBytes (bytes : List UInt8) : toBytes bytes.length (ofBytes bytes) = bytes := by
  induction bytes with
  | nil => rfl
  | cons byte rest ih =>
    have small := byte.toNat_lt
    have low : (byte.toNat + 256 * ofBytes rest) % 256 = byte.toNat := by omega
    have high : (byte.toNat + 256 * ofBytes rest) / 256 = ofBytes rest := by omega
    rw [List.length_cons, ofBytes, toBytes, low, high, ih, UInt8.ofNat_toNat]

end GroupPolicy.LittleEndian
