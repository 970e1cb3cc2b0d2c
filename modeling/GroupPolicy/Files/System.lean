import GroupPolicy.Error
import GroupPolicy.Files.Path

/-!
# File systems

What the library needs of the place where files are kept, whatever the monad in which it acts.
-/

namespace GroupPolicy

/-- A monad that acts on files. -/
class FileSystem (m : Type → Type) where
  /-- The contents of a file. -/
  readFile (path : Path) : m (Except FileFailure (List UInt8))
  /-- Creates a file or replaces its contents. -/
  writeFile (path : Path) (contents : List UInt8) : m (Except FileFailure Unit)
  /-- Creates a directory and those above it, as far as they do not exist. -/
  createDirectories (path : Path) : m (Except FileFailure Unit)
  /-- Gives a file another path, in place of any file there. -/
  rename (old new : Path) : m (Except FileFailure Unit)
  /-- Whether a path leads to a file and not to a directory. -/
  isFile (path : Path) : m Bool

namespace FileSystem

variable {m : Type → Type} [Monad m] {α : Type}

/-- An access to files whose failure is a policy error. -/
def attempt (access : m (Except FileFailure α)) : ExceptT PolicyError m α :=
  ExceptT.mk (return (← access).mapError .io)

/-- The text that bytes are the UTF-8 form of. -/
def decodeText (contents : List UInt8) : Except FileFailure String :=
  match String.fromUTF8? (ByteArray.mk contents.toArray) with
  | some text => .ok text
  | none => .error .invalidText

/-- The contents of a file of text. -/
def readText [FileSystem m] (path : Path) : m (Except FileFailure String) :=
  return (← readFile path).bind decodeText

end FileSystem

end GroupPolicy
