import GroupPolicy.Value
import GroupPolicy.Bytes.LittleEndian
import GroupPolicy.Text.Split
import GroupPolicy.Text.Utf16

/-!
# The byte layout of values

Integers are little-endian, texts are UTF-16 with little-endian code units, and every item of a
sequence of texts ends in a NUL. The last NUL of a sequence may be missing on reading.
-/

namespace GroupPolicy

namespace Utf16Bytes

/-- The bytes of code units. -/
def ofUnits (units : List UInt16) : List UInt8 :=
  units.flatMap fun unit => LittleEndian.toBytes 2 unit.toNat

/-- The code unit of two bytes. -/
def unit (low high : UInt8) : UInt16 :=
  UInt16.ofNat (LittleEndian.ofBytes [low, high])

/-- The code units that bytes hold, if their number is even. -/
def toUnits? : List UInt8 → Option (List UInt16)
  | [] => some []
  | [_] => none
  | low :: high :: rest => (toUnits? rest).map (unit low high :: ·)

/-- The bytes of a text. -/
def ofText (text : String) : List UInt8 :=
  ofUnits (Text.Utf16.encode text.toList)

/-- The code units of a value of the given kind. -/
def readUnits (kind : ValueKind) (bytes : List UInt8) : Except PolicyError (List UInt16) :=
  match toUnits? bytes with
  | some units => .ok units
  | none => .error (.oddUtf16Length kind bytes.length)

/-- The text of code units in a value of the given kind. -/
def readText (kind : ValueKind) (units : List UInt16) : Except PolicyError String :=
  match Text.Utf16.decode? units with
  | some text => .ok (String.ofList text)
  | none => .error (.invalidUtf16 kind)

/-- Code units without one NUL at their end. -/
def dropTerminator (units : List UInt16) : List UInt16 :=
  if units.getLast? = some 0 then units.dropLast else units

/-- The items in the code units of a sequence of texts: none if there is no code unit at all, and
else the pieces between NULs, of which the last ends the sequence. -/
def items (units : List UInt16) : List (List UInt16) :=
  if units.isEmpty then [] else Text.split 0 (dropTerminator units)

end Utf16Bytes

namespace RegistryValue

open Utf16Bytes

/-- The bytes of a value. -/
def toBytes : RegistryValue → List UInt8
  | string text | expandString text => ofText text
  | binary bytes => bytes
  | dword number => LittleEndian.toBytes 4 number.toUInt32.toNat
  | multiString items => items.flatMap fun item => ofText item ++ ofUnits [0]
  | qword number => LittleEndian.toBytes 8 number.toUInt64.toNat

/-- The number that bytes of the width denote in a value of the given kind. -/
def readNumber (kind : ValueKind) (width : Nat) (bytes : List UInt8) : Except PolicyError Nat :=
  if bytes.length = width then .ok (LittleEndian.ofBytes bytes)
  else .error (.invalidValueLength kind width bytes.length)

/-- The value of a kind that has the given bytes. -/
def ofBytes (kind : ValueKind) (bytes : List UInt8) : Except PolicyError RegistryValue :=
  match kind with
  | .none => .error (.unsupportedKind ValueKind.none.code)
  | .string => return string (← readText kind (← readUnits kind bytes))
  | .expandString => return expandString (← readText kind (← readUnits kind bytes))
  | .binary => .ok (binary bytes)
  | .dword => return dword (UInt32.ofNat (← readNumber kind 4 bytes)).toInt32
  | .multiString => return multiString (← (items (← readUnits kind bytes)).mapM (readText kind))
  | .qword => return qword (UInt64.ofNat (← readNumber kind 8 bytes)).toInt64

end RegistryValue

end GroupPolicy
