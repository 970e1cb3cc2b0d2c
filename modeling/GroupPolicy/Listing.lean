import GroupPolicy.Tree

/-!
# Listings

The values of a tree, one record or one line `[key;name;kind;length;data]` each.
-/

namespace GroupPolicy

/-- A listed value. -/
structure ListingRecord where
  /-- The key path. -/
  key : String
  /-- The value name. -/
  name : String
  /-- The code of the value's kind. -/
  kind : UInt32
  /-- The registry's name of the kind, if the code is known. -/
  kindName : Option String
  /-- The number of the value's bytes. -/
  length : Nat
  /-- The hex text of the value's bytes. -/
  data : String
  deriving DecidableEq

namespace ListingRecord

/-- The record of an entry. -/
def ofEntry (entry : PolicyEntry) : ListingRecord where
  key := entry.key
  name := entry.name
  kind := entry.code
  kindName := (ValueKind.ofCode? entry.code).map ValueKind.registryName
  length := entry.data.length
  data := Hex.encode entry.data

end ListingRecord

namespace RegistryTree

/-- The records of the values, in order. -/
def records (tree : RegistryTree) : List ListingRecord :=
  tree.entries.map .ofEntry

/-- The line that lists an entry. -/
def listingLine (entry : PolicyEntry) : String :=
  "[" ++ entry.key ++ ";" ++ entry.name ++ ";" ++ toString entry.code.toNat ++ ";" ++
    toString entry.data.length ++ ";" ++ Hex.encode entry.data ++ "]"

/-- The lines that list the values, in order. -/
def listing (tree : RegistryTree) : List String :=
  tree.entries.map listingLine

end RegistryTree

end GroupPolicy
