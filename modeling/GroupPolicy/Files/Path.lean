import GroupPolicy.Text.Split

/-!
# Paths

A path is names between slashes. Empty pieces and pieces of one dot are no names, and a slash in
front makes a path absolute. A path made from another one keeps the text in front of the last name
as it was written, for the length of a path matters to the disk.
-/

namespace GroupPolicy

/-- A path to a file or a directory. -/
structure Path where
  /-- The path as it was written. -/
  text : String
  deriving DecidableEq

/-- A path cut at its last name. -/
structure LastName where
  /-- The text in front of the name. -/
  front : String
  /-- The name. -/
  name : String
  /-- Whether slashes follow the name. -/
  followed : Bool
  deriving DecidableEq

namespace Path

/-- Whether a path starts at the root. -/
def isAbsolute (path : Path) : Bool :=
  path.text.toList.head? == some '/'

/-- What is between the slashes of a path. -/
def pieces (path : Path) : List String :=
  (Text.split '/' path.text.toList).map String.ofList

/-- Whether a piece of a path is no name. -/
def isBlank (piece : String) : Bool :=
  piece == "" || piece == "."

/-- The names in a path. -/
def names (path : Path) : List String :=
  path.pieces.filter fun piece => !isBlank piece

/-- Whether a path is a single name, whatever slashes follow it. -/
def isName (path : Path) (name : String) : Bool :=
  path.pieces.head? == some name && path.names == [name]

/-- Whether the text of a path can only mean a directory. -/
def endsInDirectory (path : Path) : Bool :=
  match path.pieces.getLast? with
  | some last => isBlank last || last == ".."
  | none => false

/-- A path that starts where another one ends; an absolute path starts at the root all the same. -/
def join (base path : Path) : Path :=
  if path.isAbsolute then path
  else if base.text.isEmpty || base.text.toList.getLast? == some '/' then ⟨base.text ++ path.text⟩
  else ⟨base.text ++ "/" ++ path.text⟩

/-- The last name of a path with what is before and after it. -/
def lastName? (path : Path) : Option LastName :=
  let backwards := path.pieces.reverse
  match backwards.dropWhile isBlank with
  | [] => none
  | name :: before =>
    some {
      front := String.join (before.reverse.map (· ++ "/"))
      name
      followed := !(backwards.takeWhile isBlank).isEmpty
    }

/-- The path in front of the last name. -/
def parent? (path : Path) : Option Path :=
  path.lastName?.map fun last => ⟨last.front⟩

/-- A name without its last dot and what follows it, unless nothing comes before the dot. -/
def stem (name : String) : String :=
  match Text.cut '.' name.toList.reverse with
  | (_, some (c :: rest)) => String.ofList (c :: rest).reverse
  | _ => name

/-- The path with another extension for its file name. The old extension is taken off first: a name
at the very end of a path that becomes `..` by that leads to the parent directory, and gets no
other extension. -/
def withExtension (path : Path) (extension : String) : Path :=
  match path.lastName? with
  | none => path
  | some last =>
    if last.name = ".." then path
    else if stem last.name = "." && !last.followed then ⟨last.front ++ ".."⟩
    else ⟨last.front ++ stem last.name ++ "." ++ extension⟩

end Path

end GroupPolicy
