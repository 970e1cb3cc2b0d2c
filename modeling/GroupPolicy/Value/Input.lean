import GroupPolicy.Value.Layout
import GroupPolicy.Text.Numeral

/-!
# Values in commands

A command gives its value either as text, in a form that suits the kind, or as the hex text of the
value's bytes.
-/

namespace GroupPolicy

/-- How the data of a command is to be read. -/
inductive InputEncoding where
  /-- Text in a form that suits the kind. -/
  | text
  /-- Hex text of the value's bytes. -/
  | hex
  deriving DecidableEq, Repr

/-- The label of an encoding. -/
def InputEncoding.label : InputEncoding → String
  | text => "text"
  | hex => "hex"

namespace RegistryValue

/-- The integer that a text without its outer blanks denotes, if it lies between bounds. -/
def readInteger (kind : ValueKind) (least greatest : Int) (text : String) :
    Except PolicyError Int :=
  match Text.signed? (Text.trim text.toList) with
  | some number =>
    if least ≤ number ∧ number ≤ greatest then .ok number
    else .error (.invalidInteger kind text)
  | none => .error (.invalidInteger kind text)

/-- The value of a kind that a text denotes. -/
def ofText (kind : ValueKind) (text : String) : Except PolicyError RegistryValue :=
  match kind with
  | .none => .error (.unsupportedKind ValueKind.none.code)
  | .string => .ok (string text)
  | .expandString => .ok (expandString text)
  | .binary => return binary (← Hex.decode text)
  | .dword =>
    return dword (.ofInt (← readInteger kind Int32.minValue.toInt Int32.maxValue.toInt text))
  | .multiString => .ok (multiString ((Text.split ';' text.toList).map String.ofList))
  | .qword =>
    return qword (.ofInt (← readInteger kind Int64.minValue.toInt Int64.maxValue.toInt text))

/-- The value of a kind whose bytes a hex text denotes. -/
def ofHex (kind : ValueKind) (text : String) : Except PolicyError RegistryValue := do
  ofBytes kind (← Hex.decode text)

/-- The value of a kind that the data of a command denotes. -/
def resolve (kind : ValueKind) : InputEncoding → String → Except PolicyError RegistryValue
  | .text => ofText kind
  | .hex => ofHex kind

end RegistryValue

end GroupPolicy
