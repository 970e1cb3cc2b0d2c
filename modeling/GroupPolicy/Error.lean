import GroupPolicy.Kind
import GroupPolicy.Text.Quoted

/-!
# Causes of failure

Everything that can go wrong while commands are read, values converted and policies stored, with
the category and the message of each cause.
-/

namespace GroupPolicy

/-- The parts of a program's work in which failures arise. -/
inductive ErrorCategory where
  /-- Reading a command. -/
  | parse
  /-- Converting a value. -/
  | codec
  /-- Recognising a kind. -/
  | unsupportedKind
  /-- Opening, changing or saving a store. -/
  | store
  /-- Reading the configuration. -/
  | config
  deriving DecidableEq, Repr

/-- The label of a category. -/
def ErrorCategory.label : ErrorCategory → String
  | parse => "parse"
  | codec => "codec"
  | unsupportedKind => "unsupported_kind"
  | store => "store"
  | config => "config"

/-- The ways in which an access to files fails. -/
inductive FileFailure where
  /-- There is nothing at the path. -/
  | notFound
  /-- A part of the path is a file. -/
  | notDirectory
  /-- The path leads to a directory. -/
  | isDirectory
  /-- There is something at the path already. -/
  | alreadyExists
  /-- A name in the path is too long. -/
  | nameTooLong
  /-- No path can look like this. -/
  | invalidPath
  /-- The contents are not UTF-8. -/
  | invalidText
  /-- Any other failure, in the words of the system. -/
  | other (reason : String)
  deriving DecidableEq, Repr

/-- The wording of a file failure. -/
def FileFailure.message : FileFailure → String
  | notFound => "no such file or directory"
  | notDirectory => "not a directory"
  | isDirectory => "is a directory"
  | alreadyExists => "already exists"
  | nameTooLong => "file name too long"
  | invalidPath => "invalid path"
  | invalidText => "contents are not valid UTF-8"
  | other reason => reason

/-- The names whose length the registry limits. -/
inductive NamePart where
  /-- One segment of a key path. -/
  | keySegment
  /-- The name of a value. -/
  | valueName
  deriving DecidableEq, Repr

namespace NamePart

/-- What messages call the part. -/
def label : NamePart → String
  | keySegment => "key segment"
  | valueName => "value name"

/-- The greatest number of characters in the part. -/
def maxLength : NamePart → Nat
  | keySegment => 255
  | valueName => 16383

end NamePart

/-- The operations that a store opened for reading refuses. -/
inductive StoreOperation where
  /-- Creating or replacing a value. -/
  | setValue
  /-- Removing a value. -/
  | deleteValue
  /-- Committing the changes. -/
  | save
  deriving DecidableEq, Repr

/-- What messages call an operation. -/
def StoreOperation.label : StoreOperation → String
  | setValue => "set value"
  | deleteValue => "delete value"
  | save => "save"

/-- What can be malformed in an entry of a policy file. -/
inductive EntryFault where
  /-- The entry has no opening bracket. -/
  | opening
  /-- The key is not UTF-16. -/
  | keyText
  /-- No separator follows the key. -/
  | afterKey
  /-- The value name is not UTF-16. -/
  | nameText
  /-- No separator follows the value name. -/
  | afterName
  /-- No separator follows the kind. -/
  | afterKind
  /-- No separator follows the size. -/
  | afterSize
  /-- The entry has no closing bracket. -/
  | closing
  deriving DecidableEq, Repr

/-- The wording of an entry's fault. -/
def EntryFault.message : EntryFault → String
  | opening => "expected '['"
  | keyText => "key is not valid UTF-16"
  | afterKey => "expected ';' after key"
  | nameText => "value name is not valid UTF-16"
  | afterName => "expected ';' after value name"
  | afterKind => "expected ';' after kind"
  | afterSize => "expected ';' after size"
  | closing => "expected ']'"

/-- The causes of failure. -/
inductive PolicyError where
  /-- The command line is a single field, so it names no value. -/
  | missingFields (line : String)
  /-- The command line names no key. -/
  | emptyKey (line : String)
  /-- The kind of a command is no number of 32 bits. -/
  | invalidKindCode (kind : String)
  /-- A line of a script, counted from one, failed. -/
  | scriptLine (line : Nat) (source : PolicyError)
  /-- Hex digits do not come in pairs. -/
  | oddHexLength (length : Nat)
  /-- A character of hex text is no digit. -/
  | invalidHexDigit (digit : Char) (offset : Nat)
  /-- A text is no integer of the kind's width. -/
  | invalidInteger (kind : ValueKind) (text : String)
  /-- The bytes of an integer are too few or too many. -/
  | invalidValueLength (kind : ValueKind) (expected actual : Nat)
  /-- The bytes of a text do not come in pairs. -/
  | oddUtf16Length (kind : ValueKind) (length : Nat)
  /-- The bytes of a text hold a lone surrogate. -/
  | invalidUtf16 (kind : ValueKind)
  /-- The code belongs to no kind that can hold a value. -/
  | unsupportedKind (code : UInt32)
  /-- An access to files failed. -/
  | io (failure : FileFailure)
  /-- The key path is not one that a store can hold. -/
  | invalidKeyPath (path : String)
  /-- The value name is not one that a store can hold. -/
  | invalidValueName (name : String)
  /-- A name is longer than the registry allows. -/
  | nameTooLong (part : NamePart) (name : String)
  /-- The store was opened for reading. -/
  | readOnlyStore (operation : StoreOperation)
  /-- The file starts with other bytes than a policy file does. -/
  | badSignature (signature : List UInt8)
  /-- The policy file has another version. -/
  | unsupportedVersion (version : UInt32)
  /-- The policy file ends within a field. -/
  | unexpectedEnd (offset needed remaining : Nat)
  /-- An entry of the policy file is malformed. -/
  | malformedEntry (offset : Nat) (fault : EntryFault)
  /-- The size of a value does not fit its field of the policy file. -/
  | valueTooLarge (key name : String) (length : Nat)
  /-- The store failed for a reason of its own. -/
  | storeFailure (message : String)
  /-- The configuration file cannot be used. -/
  | config (path message : String)
  deriving DecidableEq, Repr

namespace PolicyError

/-- The category of a failure; a script line has that of its cause. -/
def category : PolicyError → ErrorCategory
  | missingFields .. | emptyKey .. | invalidKindCode .. => .parse
  | scriptLine _ source => source.category
  | oddHexLength .. | invalidHexDigit .. | invalidInteger .. | invalidValueLength ..
  | oddUtf16Length .. | invalidUtf16 .. => .codec
  | unsupportedKind .. => .unsupportedKind
  | io .. | invalidKeyPath .. | invalidValueName .. | nameTooLong .. | readOnlyStore ..
  | badSignature .. | unsupportedVersion .. | unexpectedEnd .. | malformedEntry ..
  | valueTooLarge .. | storeFailure .. => .store
  | config .. => .config

/-- Bytes as a list of decimal numbers. -/
def byteList (bytes : List UInt8) : String :=
  "[" ++ ", ".intercalate (bytes.map fun byte => toString byte.toNat) ++ "]"

/-- The message of a failure. -/
def message : PolicyError → String
  | missingFields line =>
    "command needs at least key and value name, found 1 field(s): " ++ Text.Quoted.text line
  | emptyKey line => "command key is empty: " ++ Text.Quoted.text line
  | invalidKindCode kind =>
    "invalid kind " ++ Text.Quoted.text kind ++ " (expected a base-10 integer)"
  | scriptLine line source => "line " ++ toString line ++ ": " ++ source.message
  | oddHexLength length => "hex text has odd length " ++ toString length
  | invalidHexDigit digit offset =>
    "invalid hex digit " ++ Text.Quoted.char digit ++ " at offset " ++ toString offset
  | invalidInteger kind text =>
    "invalid " ++ kind.name ++ " integer text " ++ Text.Quoted.text text
  | invalidValueLength kind expected actual =>
    kind.name ++ " value needs " ++ toString expected ++ " bytes, got " ++ toString actual
  | oddUtf16Length kind length =>
    kind.name ++ " value has odd UTF-16 byte length " ++ toString length
  | invalidUtf16 kind => kind.name ++ " value is not valid UTF-16"
  | unsupportedKind code => "unsupported value kind " ++ toString code.toNat
  | io failure => "io: " ++ failure.message
  | invalidKeyPath path => "invalid key path " ++ Text.Quoted.text path
  | invalidValueName name => "invalid value name " ++ Text.Quoted.text name
  | nameTooLong part name =>
    part.label ++ " exceeds " ++ toString part.maxLength ++ " characters: " ++
      Text.Quoted.text name
  | readOnlyStore operation => "store opened read-only, cannot " ++ operation.label
  | badSignature signature =>
    "not a Registry.pol file (signature=" ++ byteList signature ++ ")"
  | unsupportedVersion version =>
    "unsupported Registry.pol version " ++ toString version.toNat ++ " (expected 1)"
  | unexpectedEnd offset needed remaining =>
    "unexpected eof at offset " ++ toString offset ++ ", need " ++ toString needed ++
      " bytes, remaining " ++ toString remaining
  | malformedEntry offset fault =>
    "malformed Registry.pol entry at offset " ++ toString offset ++ ": " ++ fault.message
  | valueTooLarge key name length =>
    "value " ++ key ++ "\\" ++ name ++ " is " ++ toString length ++
      " bytes, too large for Registry.pol"
  | storeFailure message => "store failure: " ++ message
  | config path message => "config " ++ path ++ ": " ++ message

end PolicyError

end GroupPolicy
