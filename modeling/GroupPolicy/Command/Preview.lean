import GroupPolicy.Command

/-!
# Previews of commands

A preview says what a command would do, with its value resolved, without any store.
-/

namespace GroupPolicy

/-- What a command would do. -/
inductive CommandPreview where
  /-- It would write a value that was given in an encoding. -/
  | set (key name : String) (kind : ValueKind) (encoding : InputEncoding) (value : RegistryValue)
  /-- It would remove a value. -/
  | delete (key name : String)
  deriving DecidableEq

/-- The preview of a command; setting the kind that holds no value removes. -/
def Command.preview : Command → Except PolicyError CommandPreview
  | .set key name kind encoding data =>
    if kind = .none then .ok (.delete key name)
    else return .set key name kind encoding (← RegistryValue.resolve kind encoding data)
  | .delete key name => .ok (.delete key name)

namespace CommandPreview

/-- The line that shows a preview. -/
def display : CommandPreview → String
  | set key name kind encoding value =>
    "set " ++ key ++ ";" ++ name ++ " " ++ kind.registryName ++ " (" ++ encoding.label ++ ") = " ++
      value.display ++ " [" ++ Hex.encode value.toBytes ++ "]"
  | delete key name => "delete " ++ key ++ ";" ++ name

end CommandPreview

end GroupPolicy
