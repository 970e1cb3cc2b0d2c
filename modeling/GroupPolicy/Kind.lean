/-!
# Kinds of registry values

The seven kinds that a registry value can have, each with its integer code, its short name and its
name in the registry interface. The main statements are that codes tell kinds apart and that
`ofCode?` finds exactly the kind that has a code.
-/

namespace GroupPolicy

/-- The kind of a registry value. -/
inductive ValueKind where
  /-- No value. -/
  | none
  /-- Text. -/
  | string
  /-- Text with environment references that are still to be expanded. -/
  | expandString
  /-- Raw bytes. -/
  | binary
  /-- A 32-bit integer. -/
  | dword
  /-- A sequence of texts. -/
  | multiString
  /-- A 64-bit integer. -/
  | qword
  deriving DecidableEq, Repr

namespace ValueKind

/-- Every kind, in the order of the codes. -/
def all : List ValueKind :=
  [.none, .string, .expandString, .binary, .dword, .multiString, .qword]

/-- The registry's integer code of a kind. -/
def code : ValueKind → UInt32
  | none => 0
  | string => 1
  | expandString => 2
  | binary => 3
  | dword => 4
  | multiString => 7
  | qword => 11

/-- The kind that has a given code. -/
def ofCode? (code : UInt32) : Option ValueKind :=
  all.find? (·.code == code)

/-- The short name of a kind. -/
def name : ValueKind → String
  | none => "None"
  | string => "String"
  | expandString => "ExpandString"
  | binary => "Binary"
  | dword => "DWord"
  | multiString => "MultiString"
  | qword => "QWord"

/-- The name of a kind in the registry interface. -/
def registryName : ValueKind → String
  | none => "REG_NONE"
  | string => "REG_SZ"
  | expandString => "REG_EXPAND_SZ"
  | binary => "REG_BINARY"
  | dword => "REG_DWORD"
  | multiString => "REG_MULTI_SZ"
  | qword => "REG_QWORD"

/-- A kind is found under its own code. -/
@[simp] theorem ofCode?_code (kind : ValueKind) : ofCode? kind.code = some kind := by
  cases kind <;> rfl

/-- A kind found under a code has that code. -/
theorem code_of_ofCode? {code : UInt32} {kind : ValueKind} (found : ofCode? code = some kind) :
    kind.code = code := by
  simpa using List.find?_some found

end ValueKind

end GroupPolicy
