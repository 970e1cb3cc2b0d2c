import GroupPolicy.Hex
import GroupPolicy.Toml.Value

/-!
# TOML strings

Strings in double quotation marks have escapes and those in single ones have none. Three marks
enclose a text of several lines, of which an empty first line does not count.
-/

namespace GroupPolicy.Toml.Quoted

/-- Whether a character may stand for itself in a comment or a string; line breaks aside. -/
def isPlain (c : Char) : Bool :=
  c = '\t' || (' ' ≤ c && c ≠ '\x7f')

/-- Whether a character is a space or a tab. -/
def isSpace (c : Char) : Bool :=
  c = ' ' || c = '\t'

/-- The character of a number, unless the number is a surrogate or too large. -/
def charOf? (number : Nat) : Option Char :=
  if number < 0xD800 || (0xDFFF < number && number < 0x110000) then some (Char.ofNat number)
  else none

/-- The character that so many hex digits denote. -/
def hexChar? (digits : List Char) : Option Char := do
  let values ← digits.mapM Hex.digitValue?
  charOf? (values.foldl (fun number digit => 16 * number + digit) 0)

/-- The character of an escape after its backslash, and the number of characters that it takes. -/
def escape? : List Char → Option (Char × Nat)
  | 'b' :: _ => some ('\x08', 1)
  | 't' :: _ => some ('\t', 1)
  | 'n' :: _ => some ('\n', 1)
  | 'f' :: _ => some ('\x0c', 1)
  | 'r' :: _ => some ('\r', 1)
  | '"' :: _ => some ('"', 1)
  | '\\' :: _ => some ('\\', 1)
  | 'u' :: rest => if 4 ≤ rest.length then (hexChar? (rest.take 4)).map (·, 5) else none
  | 'U' :: rest => if 8 ≤ rest.length then (hexChar? (rest.take 8)).map (·, 9) else none
  | _ => none

/-- What the reader of a string gives: the text in it and what follows the closing mark. -/
abbrev Read := Option (List Char × List Char)

/-- Adds characters in front of the text that was read. -/
def Read.cons (front : List Char) (read : Read) : Read :=
  read.map fun (text, rest) => (front ++ text, rest)

/-- Reads to the mark that closes a string without escapes. -/
def literal : List Char → Read
  | [] => none
  | '\'' :: rest => some ([], rest)
  | c :: rest => if isPlain c then (literal rest).cons [c] else none

/-- Reads to the mark that closes a string with escapes, after leaving out some characters. -/
def basic (skip : Nat) : List Char → Read
  | [] => none
  | c :: rest =>
    match skip with
    | skip + 1 => basic skip rest
    | 0 =>
      if c = '"' then some ([], rest)
      else if c = '\\' then
        match escape? rest with
        | some (denoted, length) => (basic length rest).cons [denoted]
        | none => none
      else if isPlain c then (basic 0 rest).cons [c]
      else none

/-- At most two marks at the start of a text, which belong to the string before its closing marks,
and what follows them. -/
def extraMarks (mark : Char) (rest : List Char) : List Char × List Char :=
  let extra := (rest.take 2).takeWhile (· = mark)
  (extra, rest.drop extra.length)

/-- Reads to the three marks that close a text of several lines without escapes. -/
def literalLines : List Char → Read
  | '\'' :: '\'' :: '\'' :: rest => some (extraMarks '\'' rest)
  | '\r' :: '\n' :: rest => (literalLines rest).cons ['\n']
  | c :: rest => if isPlain c || c = '\n' then (literalLines rest).cons [c] else none
  | [] => none

/-- Whether a line ends here, apart from spaces. -/
def endsLine (rest : List Char) : Bool :=
  match rest.dropWhile isSpace with
  | '\n' :: _ | '\r' :: '\n' :: _ => true
  | _ => false

/-- What the reader of a text of several lines leaves out. -/
inductive Skip where
  /-- So many characters. -/
  | count (number : Nat)
  /-- Spaces and line breaks. -/
  | space

/-- Reads to the three marks that close a text of several lines with escapes. A backslash at the
end of a line leaves out the space up to the next visible character. -/
def basicLines (skip : Skip) : List Char → Read
  | [] => none
  | c :: rest =>
    match skip, c, rest with
    | .count (number + 1), _, _ => basicLines (.count number) rest
    | .space, ' ', _ | .space, '\t', _ | .space, '\n', _ => basicLines .space rest
    | .space, '\r', '\n' :: _ => basicLines .space rest
    | _, '"', '"' :: '"' :: after => some (extraMarks '"' after)
    | _, '\\', _ =>
      if endsLine rest then basicLines .space rest
      else
        match escape? rest with
        | some (denoted, length) => (basicLines (.count length) rest).cons [denoted]
        | none => none
    | _, '\r', '\n' :: _ => basicLines (.count 0) rest
    | _, _, _ => if isPlain c || c = '\n' then (basicLines (.count 0) rest).cons [c] else none

/-- A text without a line break at its start. -/
def dropBreak : List Char → List Char
  | '\n' :: rest | '\r' :: '\n' :: rest => rest
  | rest => rest

/-- The string on a single line at the start of a text. -/
def readLine? : List Char → Read
  | '"' :: rest => basic 0 rest
  | '\'' :: rest => literal rest
  | _ => none

/-- The string at the start of a text. -/
def read? : List Char → Read
  | '"' :: '"' :: '"' :: rest => basicLines (.count 0) (dropBreak rest)
  | '\'' :: '\'' :: '\'' :: rest => literalLines (dropBreak rest)
  | input => readLine? input

end GroupPolicy.Toml.Quoted
