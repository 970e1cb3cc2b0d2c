import GroupPolicy.Toml.Quoted
import GroupPolicy.Toml.Scalar

/-!
# TOML documents

A document is statements on lines of their own: headers, which say what table the statements after
them are about, and keys with their values.
-/

namespace GroupPolicy.Toml

/-- Reads the start of a text and gives the rest. -/
abbrev Parser (α : Type) := List Char → Except Fault (α × List Char)

/-- The least number of parts that a key must not have, and of brackets around a value. -/
def nestingLimit : Nat := 80

/-- A text without spaces at its start. -/
def skipSpace (input : List Char) : List Char :=
  input.dropWhile Quoted.isSpace

/-- A text without spaces, line breaks and comments at its start. -/
def skipFiller : List Char → List Char
  | [] => []
  | c :: rest =>
    if Quoted.isSpace c || c = '\n' then skipFiller rest
    else if c = '\r' && rest.head? = some '\n' then skipFiller rest
    else if c = '#' then
      have _shorter := (List.dropWhile_sublist Quoted.isPlain (l := rest)).length_le
      skipFiller (rest.dropWhile Quoted.isPlain)
    else c :: rest
termination_by input => input.length

/-- The text after the end of a statement's line, which may have a comment. -/
def endLine? (input : List Char) : Option (List Char) :=
  let rest := match skipSpace input with
    | '#' :: comment => comment.dropWhile Quoted.isPlain
    | rest => rest
  match rest with
  | [] => some []
  | '\n' :: rest | '\r' :: '\n' :: rest => some rest
  | _ => none

/-- Reads one or more items with separators between them. After a separator the list ends if the
text closes it there. -/
def separated {α : Type} (separator : Char) (closes : List Char → Bool) (item : Parser α)
    (input : List Char) : Except Fault (List α × List Char) :=
  match item input with
  | .error fault => .error fault
  | .ok (first, rest) =>
    match rest with
    | [] => .ok ([first], rest)
    | c :: after =>
      if _progress : c = separator ∧ after.length < input.length then
        if closes after then .ok ([first], after)
        else do
          let (others, rest) ← separated separator closes item after
          return (first :: others, rest)
      else .ok ([first], rest)
termination_by input.length

/-- Whether a character may stand in a key without quotation marks. -/
def isKeyChar (c : Char) : Bool :=
  c.isAlphanum || c = '_' || c = '-'

/-- Reads a part of a key, with the spaces around it. -/
def keyPart : Parser String := fun input =>
  let input := skipSpace input
  match input with
  | '"' :: _ | '\'' :: _ =>
    match Quoted.readLine? input with
    | some (text, rest) => .ok (String.ofList text, skipSpace rest)
    | none => .error .malformed
  | _ =>
    let word := input.takeWhile isKeyChar
    if word.isEmpty then .error .malformed
    else .ok (String.ofList word, skipSpace (input.drop word.length))

/-- Reads a key: its parts before the last, and the last. -/
def key : Parser (List String × String) := fun input => do
  let (parts, rest) ← separated '.' (fun _ => false) keyPart input
  if nestingLimit ≤ parts.length then throw .tooDeep
  match parts.getLast? with
  | some last => return ((parts.dropLast, last), rest)
  | none => throw .malformed

/-- Reads a key, the sign after it, and its value, with the spaces around them. -/
def keyValue (value : Parser Value) : Parser ((List String × String) × Value) := fun input => do
  let (name, rest) ← key input
  match rest with
  | '=' :: rest =>
    let (assigned, rest) ← value (skipSpace rest)
    return ((name, assigned), rest)
  | _ => throw .malformed

/-- Reads the values of an array after its opening bracket. -/
def array (value : Parser Value) : Parser Value := fun input => do
  let item : Parser Value := fun input => do
    let (item, rest) ← value (skipFiller input)
    return (item, skipFiller rest)
  let closes (rest : List Char) : Bool := (skipFiller rest).head? == some ']'
  let (items, rest) ←
    if closes input then pure ([], input) else separated ',' closes item input
  match skipFiller rest with
  | ']' :: rest => return (.array items, rest)
  | _ => throw .malformed

/-- Reads the keys and values of a table after its opening brace. -/
def inlineTable (value : Parser Value) : Parser Value := fun input => do
  let item : Parser ((List String × String) × Value) := fun input => do
    let (item, rest) ← keyValue value input
    return (item, skipSpace rest)
  let (items, rest) ←
    if (skipSpace input).head? == some '\x7d' then pure ([], input)
    else separated ',' (fun _ => false) item input
  let entries ← items.foldlM
    (fun entries ((path, key), value) => Entries.assign path key value .inline entries) []
  match skipSpace rest with
  | '\x7d' :: rest => return (.table .inline entries, rest)
  | _ => throw .malformed

/-- Reads a value inside which values may be nested so many times. -/
def value : Nat → Parser Value
  | depth, input =>
    match input with
    | '"' :: _ | '\'' :: _ =>
      match Quoted.read? input with
      | some (text, rest) => .ok (.string (String.ofList text), rest)
      | none => .error .malformed
    | '[' :: rest =>
      match depth with
      | 0 => .error .tooDeep
      | depth + 1 => array (value depth) rest
    | '\x7b' :: rest =>
      match depth with
      | 0 => .error .tooDeep
      | depth + 1 => inlineTable (value depth) rest
    | _ => Scalar.read input

/-- A document, as far as it was read. -/
structure Document where
  /-- The entries outside all tables with headers. -/
  root : Entries
  /-- The path of the last header. -/
  current : List String

namespace Document

/-- The document after a header. -/
def openTable (document : Document) (path : List String) (key : String) :
    Except Fault Document := do
  let root ← Entries.changeAt .header (fun _ => Entries.openTable key) path .header document.root
  return { root, current := path ++ [key] }

/-- The document after a header of a repeated table. -/
def openElement (document : Document) (path : List String) (key : String) :
    Except Fault Document := do
  let root ← Entries.changeAt .header (fun _ => Entries.openElement key) path .header document.root
  return { root, current := path ++ [key] }

/-- The document after a key got its value. -/
def assign (document : Document) (path : List String) (key : String) (value : Value) :
    Except Fault Document := do
  let change := Entries.assign path key value
  let root ← Entries.changeAt .header change document.current .header document.root
  return { document with root }

/-- Reads the statement at the start of a text and adds it to a document. -/
def statement (document : Document) : Parser Document := fun input => do
  match input with
  | '[' :: '[' :: rest =>
    let ((path, name), rest) ← key rest
    match rest with
    | ']' :: ']' :: rest => return (← document.openElement path name, rest)
    | _ => throw .malformed
  | '[' :: rest =>
    let ((path, name), rest) ← key rest
    match rest with
    | ']' :: rest => return (← document.openTable path name, rest)
    | _ => throw .malformed
  | _ =>
    let (((path, name), assigned), rest) ← keyValue (value (nestingLimit - 1)) input
    return (← document.assign path name assigned, rest)

/-- Adds the statements of a text to a document. -/
def statements (document : Document) (input : List Char) : Except Fault Document :=
  match skipSpace input with
  | [] => .ok document
  | c :: rest => do
    let (document, after) ←
      if c = '\n' || c = '\r' || c = '#' then pure (document, c :: rest)
      else document.statement (c :: rest)
    match endLine? after with
    | none => throw .malformed
    | some after =>
      if _progress : after.length < input.length then document.statements after
      else throw .malformed
termination_by input.length

end Document

/-- The entries of a document; a byte order mark in front of it does not count. -/
def parse (text : String) : Except Fault Entries := do
  let input := match text.toList with
    | '\uFEFF' :: rest => rest
    | input => input
  return (← Document.statements ⟨[], []⟩ input).root

end GroupPolicy.Toml
