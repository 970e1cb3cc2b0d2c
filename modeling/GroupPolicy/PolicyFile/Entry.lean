import GroupPolicy.Value.Layout

/-!
# Entries of policy files

A policy file starts with a signature and a version. Each entry after them is
`[key;name;kind;size;data]`: brackets and semicolons are UTF-16 code units, key and name are UTF-16
texts with a NUL at their end, and kind and size are 32-bit numbers. This module has the entries and
their bytes.
-/

namespace GroupPolicy

/-- An entry of a policy file. Its kind is any code, known or not. -/
structure PolicyEntry where
  /-- The key path. -/
  key : String
  /-- The value name. -/
  name : String
  /-- The code of the value's kind. -/
  code : UInt32
  /-- The value's bytes. -/
  data : List UInt8
  deriving DecidableEq

namespace PolicyFile

/-- The first bytes of every policy file. -/
def signature : List UInt8 := [0x50, 0x52, 0x65, 0x67]

/-- The version of the format. -/
def version : UInt32 := 1

/-- The code unit that opens an entry. -/
def opening : UInt16 := 0x5B

/-- The code unit that closes an entry. -/
def closing : UInt16 := 0x5D

/-- The code unit between the fields of an entry. -/
def separator : UInt16 := 0x3B

/-- The bytes of a 32-bit number. -/
def encodeNumber (number : UInt32) : List UInt8 :=
  LittleEndian.toBytes 4 number.toNat

/-- The bytes of a text and of the NUL at its end. -/
def encodeText (text : String) : List UInt8 :=
  Utf16Bytes.ofText text ++ Utf16Bytes.ofUnits [0]

/-- The bytes before the first entry. -/
def header : List UInt8 :=
  signature ++ encodeNumber version

/-- The bytes of an entry whose data is not too large. -/
def entryBytes (entry : PolicyEntry) : List UInt8 :=
  Utf16Bytes.ofUnits [opening] ++ encodeText entry.key ++
  Utf16Bytes.ofUnits [separator] ++ encodeText entry.name ++
  Utf16Bytes.ofUnits [separator] ++ encodeNumber entry.code ++
  Utf16Bytes.ofUnits [separator] ++ encodeNumber (UInt32.ofNat entry.data.length) ++
  Utf16Bytes.ofUnits [separator] ++ entry.data ++
  Utf16Bytes.ofUnits [closing]

/-- The bytes of an entry, unless its data is longer than the size field can say. -/
def encodeEntry (entry : PolicyEntry) : Except PolicyError (List UInt8) :=
  if entry.data.length < UInt32.size then .ok (entryBytes entry)
  else .error (.valueTooLarge entry.key entry.name entry.data.length)

/-- The policy file that holds the given entries. -/
def encode (entries : List PolicyEntry) : Except PolicyError (List UInt8) := do
  let parts ← entries.mapM encodeEntry
  return header ++ parts.flatten

end PolicyFile

end GroupPolicy
