import GroupPolicy.Text.EscapedTable

/-!
# Quoted text

A text or a character between quotation marks, as messages show it. Quotation marks and backslashes
get a backslash, some control characters have a letter of their own, and whatever has no visible
form of its own is shown by its code point.
-/

namespace GroupPolicy.Text.Quoted

/-- The digit of a number below sixteen. -/
def hexDigit (number : Nat) : Char :=
  if number < 10 then Char.ofNat ('0'.toNat + number) else Char.ofNat ('a'.toNat + (number - 10))

/-- A number in the fewest hexadecimal digits. -/
def hexDigits (number : Nat) : List Char :=
  if number < 16 then [hexDigit number]
  else hexDigits (number / 16) ++ [hexDigit (number % 16)]

/-- A character between marks of the given kind. -/
def escape (mark c : Char) : List Char :=
  if c = mark || c = '\\' then ['\\', c]
  else if c = '\x00' then ['\\', '0']
  else if c = '\t' then ['\\', 't']
  else if c = '\r' then ['\\', 'r']
  else if c = '\n' then ['\\', 'n']
  else if escapedRanges.contains c then ['\\', 'u', '\x7b'] ++ hexDigits c.toNat ++ ['\x7d']
  else [c]

/-- A text in double quotation marks. -/
def text (content : String) : String :=
  String.ofList ('"' :: content.toList.flatMap (escape '"') ++ ['"'])

/-- A character in single quotation marks. -/
def char (content : Char) : String :=
  String.ofList ('\'' :: escape '\'' content ++ ['\''])

end GroupPolicy.Text.Quoted
