import GroupPolicy.Cli.Help
import GroupPolicy.Cli.Run

/-!
# The program

The command line on the files, the standard input and the standard output of the system.
-/

namespace GroupPolicy

/-- The file failure behind a failure of the system. -/
def FileFailure.ofSystem : IO.Error → FileFailure
  | .noFileOrDirectory .. => .notFound
  | error => .other (toString error)

/-- Runs an access to the files of the system. -/
def attemptSystem {α : Type} (access : IO α) : IO (Except FileFailure α) := do
  match ← access.toBaseIO with
  | .ok value => return .ok value
  | .error error => return .error (.ofSystem error)

/-- The files of the system. -/
instance : FileSystem IO where
  readFile path := attemptSystem do return (← IO.FS.readBinFile path.text).toList
  writeFile path contents :=
    attemptSystem (IO.FS.writeBinFile path.text (ByteArray.mk contents.toArray))
  createDirectories path :=
    if path.text.isEmpty then return .ok () else attemptSystem (IO.FS.createDirAll path.text)
  rename old new := attemptSystem (IO.FS.rename old.text new.text)
  isFile path := do
    match ← (IO.FS.readBinFile path.text).toBaseIO with
    | .ok _ => return true
    | .error (.permissionDenied ..) => return true
    | .error _ => return false

/-- The bytes of the standard input. -/
def standardInput : IO (Except FileFailure (List UInt8)) :=
  attemptSystem do return (← (← IO.getStdin).readBinToEnd).toList

/-- Prints what an outcome has to say. -/
def Cli.Outcome.print : Cli.Outcome → IO Unit
  | .success output => IO.print output
  | .notice content => IO.print content.text
  | .usage => IO.eprint (Cli.helpText .program)
  | .failure error => IO.eprintln ("error: " ++ error.message)

end GroupPolicy

/-- Runs the program and ends with its exit code. -/
def main (arguments : List String) : IO UInt32 := do
  let outcome ← GroupPolicy.Cli.run GroupPolicy.standardInput arguments
  outcome.print
  return outcome.exitCode
