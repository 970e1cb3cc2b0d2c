/-!
# TOML values and tables

Tables are built statement by statement. How a table came to be decides what may still be added to
it: a table with a header of its own is complete, and so is one in braces, while a table that other
statements merely imply can still get a header or, if dotted keys made it, further dotted keys.
-/

namespace GroupPolicy.Toml

/-- How a table came to be. -/
inductive TableOrigin where
  /-- By a header of its own. -/
  | header
  /-- By the header of a table inside it. -/
  | implied
  /-- By a dotted key. -/
  | dotted
  /-- By braces. -/
  | inline
  deriving DecidableEq

/-- A TOML value. Numbers and moments keep the text that they were written as. -/
inductive Value where
  /-- A text. -/
  | string (text : String)
  /-- An integer. -/
  | integer (text : String)
  /-- A number that need not be whole. -/
  | float (text : String)
  /-- A truth value. -/
  | boolean (value : Bool)
  /-- A date, a time of day, or both. -/
  | moment (text : String)
  /-- A list of values in brackets. -/
  | array (items : List Value)
  /-- A table. -/
  | table (origin : TableOrigin) (entries : List (String × Value))
  /-- Tables that repeated headers made. -/
  | tables (elements : List (List (String × Value)))

/-- The keys of a table with their values. -/
abbrev Entries := List (String × Value)

/-- What is wrong with a document. -/
inductive Fault where
  /-- The text is not TOML. -/
  | malformed
  /-- Something is nested too deeply. -/
  | tooDeep
  /-- The key has a value already. -/
  | duplicate (key : String)
  /-- What the key has is no table. -/
  | notTable (key : String)
  deriving DecidableEq

/-- The wording of a fault. -/
def Fault.message : Fault → String
  | malformed => "not valid TOML"
  | tooDeep => "nested too deeply"
  | duplicate key => "duplicate key " ++ key
  | notTable key => "not a table: " ++ key

namespace Entries

/-- Replaces the value of a key, or adds it at the end. -/
def put (key : String) (value : Value) : Entries → Entries
  | [] => [(key, value)]
  | (other, old) :: rest =>
    if other = key then (key, value) :: rest else (other, old) :: put key value rest

/-- The ways in which a path can lead to a table. -/
inductive PathKind where
  /-- As the path of a header. -/
  | header
  /-- As the front part of a dotted key. -/
  | dotted
  deriving DecidableEq

/-- How a table comes to be when a path leads to it for the first time. -/
def PathKind.origin : PathKind → TableOrigin
  | header => .implied
  | dotted => .dotted

/-- Whether a path may lead into a table that is there. -/
def PathKind.enters : PathKind → TableOrigin → Bool
  | header, origin => origin ≠ .inline
  | dotted, origin => origin = .implied || origin = .dotted

/-- A change to the entries of a table, which may depend on how the table came to be. -/
abbrev Change := TableOrigin → Entries → Except Fault Entries

/-- Changes the table at the end of a path. Tables that are missing on the way are made, and among
repeated tables the last one is meant. -/
def changeAt (kind : PathKind) (change : Change) : List String → Change
  | [], origin, entries => change origin entries
  | key :: path, _, entries =>
    match List.lookup key entries with
    | none => do
      let inner ← changeAt kind change path kind.origin []
      return entries.put key (.table kind.origin inner)
    | some (.table origin inner) =>
      if kind.enters origin then do
        let inner ← changeAt kind change path origin inner
        return entries.put key (.table origin inner)
      else .error (.duplicate key)
    | some (.tables elements) => do
      let last ← changeAt kind change path .header (elements.getLast?.getD [])
      return entries.put key (.tables (elements.dropLast ++ [last]))
    | some _ => .error (.notTable key)

/-- Adds a key that is not there yet. -/
def add (key : String) (value : Value) (entries : Entries) : Except Fault Entries :=
  match List.lookup key entries with
  | none => .ok (entries ++ [(key, value)])
  | some _ => .error (.duplicate key)

/-- Gives a dotted key a value. The keys before the last lead to tables of dotted keys only. -/
def assign (path : List String) (key : String) (value : Value) : Change :=
  changeAt .dotted (fun origin entries =>
    if (origin == .dotted) == path.isEmpty then .error (.duplicate key) else entries.add key value)
    path

/-- Gives the table under a key a header of its own. -/
def openTable (key : String) (entries : Entries) : Except Fault Entries :=
  match List.lookup key entries with
  | none => .ok (entries.put key (.table .header []))
  | some (.table .implied inner) => .ok (entries.put key (.table .header inner))
  | some _ => .error (.duplicate key)

/-- Adds an empty table to the repeated tables under a key. -/
def openElement (key : String) (entries : Entries) : Except Fault Entries :=
  match List.lookup key entries with
  | none => .ok (entries.put key (.tables [[]]))
  | some (.tables elements) => .ok (entries.put key (.tables (elements ++ [[]])))
  | some _ => .error (.duplicate key)

end Entries

end GroupPolicy.Toml
