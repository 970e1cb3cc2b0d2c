import GroupPolicy.Naming
import GroupPolicy.PolicyFile.Entry

/-!
# Registry trees

A registry tree holds values under keys and finds them by any spelling of their names. Keys are in
the order of their folded paths, and the values of a key are in the order in which they came to be.
A name keeps the spelling under which it was first set, and a key without values does not exist.
-/

namespace GroupPolicy

/-- A value as a store holds it: the code of its kind, known or not, and its bytes. -/
structure StoredValue where
  /-- The code of the value's kind. -/
  code : UInt32
  /-- The value's bytes. -/
  data : List UInt8
  deriving DecidableEq

namespace StoredValue

/-- The stored form of a value. -/
def ofValue (value : RegistryValue) : StoredValue :=
  { code := value.kind.code, data := value.toBytes }

/-- The kind of a stored value, if its code is known. -/
def kind? (stored : StoredValue) : Option ValueKind :=
  ValueKind.ofCode? stored.code

/-- The value that a stored form denotes. -/
def decode (stored : StoredValue) : Except PolicyError RegistryValue :=
  match stored.kind? with
  | some kind => RegistryValue.ofBytes kind stored.data
  | none => .error (.unsupportedKind stored.code)

end StoredValue

/-- Named values, in the order in which they came to be. -/
abbrev NamedValues := List (String × StoredValue)

namespace NamedValues

/-- The value under a folded name. -/
def find? (folded : String) (values : NamedValues) : Option StoredValue :=
  (List.find? (fun value => fold value.1 == folded) values).map Prod.snd

/-- Replaces the value under a folded name, or adds it at the end under the given spelling. -/
def set (folded name : String) (stored : StoredValue) : NamedValues → NamedValues
  | [] => [(name, stored)]
  | (spelling, old) :: rest =>
    if fold spelling = folded then (spelling, stored) :: rest
    else (spelling, old) :: set folded name stored rest

/-- Removes the value under a folded name. -/
def erase (folded : String) (values : NamedValues) : NamedValues :=
  values.eraseP fun value => fold value.1 == folded

end NamedValues

/-- A key with its values. -/
structure KeyNode where
  /-- The key path, as it was first spelled. -/
  path : String
  /-- The values under the key. -/
  values : NamedValues
  deriving DecidableEq

/-- A tree of keys and values. -/
structure RegistryTree where
  /-- The keys under their folded paths, in ascending order. -/
  keys : List (String × KeyNode)
  deriving DecidableEq

namespace RegistryTree

/-- The tree without values. -/
def empty : RegistryTree := ⟨[]⟩

/-- Sets a value in ordered keys, under a folded path and a folded name. -/
def setIn (foldedPath path foldedName name : String) (stored : StoredValue) :
    List (String × KeyNode) → List (String × KeyNode)
  | [] => [(foldedPath, ⟨path, [(name, stored)]⟩)]
  | (other, node) :: rest =>
    if foldedPath = other then
      (other, { node with values := node.values.set foldedName name stored }) :: rest
    else if foldedPath < other then
      (foldedPath, ⟨path, [(name, stored)]⟩) :: (other, node) :: rest
    else (other, node) :: setIn foldedPath path foldedName name stored rest

/-- Removes a value from ordered keys, and its key with the last of its values. -/
def eraseIn (foldedPath foldedName : String) :
    List (String × KeyNode) → List (String × KeyNode)
  | [] => []
  | (other, node) :: rest =>
    if foldedPath = other then
      let values := node.values.erase foldedName
      if values.isEmpty then rest else (other, { node with values }) :: rest
    else (other, node) :: eraseIn foldedPath foldedName rest

/-- The value under a folded path and a folded name. -/
def findIn (foldedPath foldedName : String) (keys : List (String × KeyNode)) :
    Option StoredValue :=
  (keys.lookup foldedPath).bind (·.values.find? foldedName)

/-- Creates or replaces a value. -/
def set (tree : RegistryTree) (key name : String) (stored : StoredValue) :
    Except PolicyError RegistryTree := do
  let path ← KeyPath.normalize key
  ValueName.check name
  return ⟨setIn (fold path) path (fold name) name stored tree.keys⟩

/-- Removes a value if it is there, and says whether it was. -/
def delete (tree : RegistryTree) (key name : String) :
    Except PolicyError (Bool × RegistryTree) := do
  let path ← KeyPath.normalize key
  ValueName.check name
  match findIn (fold path) (fold name) tree.keys with
  | none => return (false, tree)
  | some _ => return (true, ⟨eraseIn (fold path) (fold name) tree.keys⟩)

/-- The value of a name under a key; there is none under a key path that is not accepted. -/
def get? (tree : RegistryTree) (key name : String) : Option StoredValue :=
  match KeyPath.normalize key with
  | .ok path => findIn (fold path) (fold name) tree.keys
  | .error _ => none

/-- The values of a key as entries of a policy file. -/
def KeyNode.entries (node : KeyNode) : List PolicyEntry :=
  node.values.map fun (name, stored) =>
    { key := node.path, name, code := stored.code, data := stored.data }

/-- Every value as an entry of a policy file, in order. -/
def entries (tree : RegistryTree) : List PolicyEntry :=
  tree.keys.flatMap fun (_, node) => KeyNode.entries node

/-- The number of values. -/
def size (tree : RegistryTree) : Nat :=
  tree.keys.foldr (fun (_, node) count => node.values.length + count) 0

/-- Whether there are no values. -/
def isEmpty (tree : RegistryTree) : Bool :=
  tree.keys.isEmpty

/-- Sets the value of an entry. -/
def insertEntry (tree : RegistryTree) (entry : PolicyEntry) : Except PolicyError RegistryTree :=
  tree.set entry.key entry.name ⟨entry.code, entry.data⟩

/-- The tree of the values in a list of entries, of which a later one replaces an earlier. -/
def ofEntries (entries : List PolicyEntry) : Except PolicyError RegistryTree :=
  entries.foldlM insertEntry empty

end RegistryTree

end GroupPolicy
