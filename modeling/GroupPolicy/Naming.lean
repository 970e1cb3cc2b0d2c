import GroupPolicy.Error
import GroupPolicy.Text.Lowercase
import GroupPolicy.Text.Split

/-!
# Names that a registry accepts

Key paths are segments between backslashes, and those at either end do not count. Key paths and
value names match whenever their lowercase forms are equal.
-/

namespace GroupPolicy

/-- The form of a key path or a value name that spellings share: its lowercase form. -/
def fold (name : String) : String :=
  String.ofList (Text.lowercase name.toList)

namespace KeyPath

/-- Accepts a segment of the given key path if it is not empty and not too long. -/
def checkSegment (path : String) (segment : List Char) : Except PolicyError Unit :=
  if segment.isEmpty then .error (.invalidKeyPath path)
  else if NamePart.keySegment.maxLength < segment.length then
    .error (.nameTooLong .keySegment (String.ofList segment))
  else .ok ()

/-- A key path without the backslashes at either end, if a registry accepts it. -/
def normalize (path : String) : Except PolicyError String :=
  let stripped := Text.strip '\\' path.toList
  if stripped.isEmpty || stripped.contains '\x00' then .error (.invalidKeyPath path)
  else do
    (Text.split '\\' stripped).forM (checkSegment path)
    return String.ofList stripped

end KeyPath

namespace ValueName

/-- Accepts a value name that has no NUL and is not too long. -/
def check (name : String) : Except PolicyError Unit :=
  if name.toList.contains '\x00' then .error (.invalidValueName name)
  else if NamePart.valueName.maxLength < name.toList.length then
    .error (.nameTooLong .valueName name)
  else .ok ()

end ValueName

end GroupPolicy
