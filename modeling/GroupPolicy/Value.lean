import GroupPolicy.Hex

/-!
# Registry values

A value of any kind that can hold one, and its readable form.
-/

namespace GroupPolicy

/-- A registry value. -/
inductive RegistryValue where
  /-- Text. -/
  | string (text : String)
  /-- Text with environment references that are still to be expanded. -/
  | expandString (text : String)
  /-- Raw bytes. -/
  | binary (bytes : List UInt8)
  /-- A 32-bit integer. -/
  | dword (number : Int32)
  /-- A sequence of texts. -/
  | multiString (items : List String)
  /-- A 64-bit integer. -/
  | qword (number : Int64)
  deriving DecidableEq

namespace RegistryValue

/-- The kind of a value. -/
def kind : RegistryValue → ValueKind
  | string _ => .string
  | expandString _ => .expandString
  | binary _ => .binary
  | dword _ => .dword
  | multiString _ => .multiString
  | qword _ => .qword

/-- The readable form of a value: texts as they are, integers in decimal notation, bytes as hex
text, and the items of a sequence with semicolons between them. -/
def display : RegistryValue → String
  | string text | expandString text => text
  | binary bytes => Hex.encode bytes
  | dword number => toString number.toInt
  | multiString items => ";".intercalate items
  | qword number => toString number.toInt

/-- No value has the kind that holds none. -/
theorem kind_ne_none (value : RegistryValue) : value.kind ≠ .none := by
  cases value <;> simp [kind]

end RegistryValue

end GroupPolicy
