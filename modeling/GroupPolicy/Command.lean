import GroupPolicy.Value.Input

/-!
# Commands

A command sets or deletes one value. Its line is `key;name;kind;reserved;data`, where the kind is
an integer code and may be followed by filters, each after a colon. Without a kind the command
deletes; the filter `text` says that the data is text and not hex. The fifth field takes the rest
of the line, semicolons included.
-/

namespace GroupPolicy

/-- A change to one registry value. -/
inductive Command where
  /-- Creates or replaces a value. -/
  | set (key name : String) (kind : ValueKind) (encoding : InputEncoding) (data : String)
  /-- Removes a value. -/
  | delete (key name : String)
  deriving DecidableEq, Repr

namespace Command

/-- The key path that a command is about. -/
def key : Command → String
  | set key .. | delete key _ => key

/-- The value name that a command is about. -/
def name : Command → String
  | set _ name .. | delete _ name => name

/-- The fields of a command line. -/
structure Fields where
  /-- The key path. -/
  key : List Char
  /-- The value name. -/
  name : List Char
  /-- The kind and its filters, or nothing. -/
  kind : List Char
  /-- Whatever follows the fourth semicolon, or nothing. -/
  data : List Char

/-- The fields of a line, if it has a semicolon at all. -/
def Fields.ofLine? (line : List Char) : Option Fields :=
  match Text.cut ';' line with
  | (_, none) => none
  | (key, some afterKey) =>
    let (name, afterName) := Text.cut ';' afterKey
    let (kind, afterKind) := Text.cut ';' (afterName.getD [])
    let (_, data) := Text.cut ';' (afterKind.getD [])
    some { key, name, kind, data := data.getD [] }

/-- The filter that marks data as text. -/
def textFilter : List Char := "text".toList

/-- The encoding that filters select; filters that are not known do not count. -/
def encodingOf (filters : List (List Char)) : InputEncoding :=
  if textFilter ∈ filters then .text else .hex

/-- The kind whose code a text denotes. -/
def readKind (code : List Char) : Except PolicyError ValueKind :=
  match (Text.unsigned? code).filter (· < UInt32.size) with
  | none => .error (.invalidKindCode (String.ofList code))
  | some number =>
    match ValueKind.ofCode? (UInt32.ofNat number) with
    | some kind => .ok kind
    | none => .error (.unsupportedKind (UInt32.ofNat number))

/-- The command that fields with a key describe. -/
def ofFields (fields : Fields) : Except PolicyError Command :=
  let (code, filters) := Text.pieces ':' fields.kind
  let code := Text.trim code
  let key := String.ofList fields.key
  let name := String.ofList fields.name
  if code.isEmpty then .ok (delete key name)
  else do
    let kind ← readKind code
    return set key name kind (encodingOf filters) (String.ofList fields.data)

/-- Reads a command line. -/
def parse (line : String) : Except PolicyError Command :=
  match Fields.ofLine? line.toList with
  | none => .error (.missingFields line)
  | some fields => if fields.key.isEmpty then .error (.emptyKey line) else ofFields fields

/-- What an encoding adds to the kind in a command line. -/
def filterText : InputEncoding → String
  | .text => ":text"
  | .hex => ""

/-- The canonical line of a command. -/
def display : Command → String
  | set key name kind encoding data =>
    key ++ ";" ++ name ++ ";" ++ toString kind.code.toNat ++ filterText encoding ++ ";;" ++ data
  | delete key name => key ++ ";" ++ name ++ ";;;"

end Command

end GroupPolicy
