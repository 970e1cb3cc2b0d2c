/-!
# JSON documents

A JSON document is written with every item and every member on a line of its own, two more spaces
in front for each level.
-/

namespace GroupPolicy

/-- A JSON value; its numbers are natural. -/
inductive JsonValue where
  /-- No value. -/
  | null
  /-- A truth value. -/
  | boolean (value : Bool)
  /-- A natural number. -/
  | number (value : Nat)
  /-- A text. -/
  | string (text : String)
  /-- Items in order. -/
  | array (items : List JsonValue)
  /-- Named members in order. -/
  | object (members : List (String × JsonValue))

namespace JsonValue

/-- The value of an optional text. -/
def ofText? : Option String → JsonValue
  | some text => .string text
  | none => .null

/-- The lowercase hex digit of a number below sixteen. -/
def hexDigit (number : Nat) : Char :=
  if number < 10 then Char.ofNat ('0'.toNat + number) else Char.ofNat ('a'.toNat + (number - 10))

/-- A character inside a text. -/
def escape (c : Char) : List Char :=
  if c = '"' then ['\\', '"']
  else if c = '\\' then ['\\', '\\']
  else if c = '\n' then ['\\', 'n']
  else if c = '\r' then ['\\', 'r']
  else if c = '\t' then ['\\', 't']
  else if c = '\x08' then ['\\', 'b']
  else if c = '\x0c' then ['\\', 'f']
  else if c < ' ' then ['\\', 'u', '0', '0', hexDigit (c.toNat / 16), hexDigit (c.toNat % 16)]
  else [c]

/-- A text in quotation marks. -/
def quote (text : String) : String :=
  String.ofList ('"' :: text.toList.flatMap escape ++ ['"'])

/-- A line break and the spaces of a level. -/
def breakLine (level : Nat) : String :=
  String.ofList ('\n' :: List.replicate (2 * level) ' ')

mutual

/-- The text of a value at a level. -/
def render (level : Nat) : JsonValue → String
  | null => "null"
  | boolean value => if value then "true" else "false"
  | number value => toString value
  | string text => quote text
  | array [] => "[]"
  | array (item :: rest) =>
    "[" ++ breakLine (level + 1) ++ render (level + 1) item ++ renderItems (level + 1) rest ++
      breakLine level ++ "]"
  | object [] => "\x7b\x7d"
  | object ((name, value) :: rest) =>
    "\x7b" ++ breakLine (level + 1) ++ quote name ++ ": " ++ render (level + 1) value ++
      renderMembers (level + 1) rest ++ breakLine level ++ "\x7d"

/-- The text of the items after the first. -/
def renderItems (level : Nat) : List JsonValue → String
  | [] => ""
  | item :: rest => "," ++ breakLine level ++ render level item ++ renderItems level rest

/-- The text of the members after the first. -/
def renderMembers (level : Nat) : List (String × JsonValue) → String
  | [] => ""
  | (name, value) :: rest =>
    "," ++ breakLine level ++ quote name ++ ": " ++ render level value ++ renderMembers level rest

end

/-- The text of a document. -/
def document (value : JsonValue) : String :=
  value.render 0

end JsonValue

end GroupPolicy
