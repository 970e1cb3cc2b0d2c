import GroupPolicy.Batch
import GroupPolicy.Store.File
import GroupPolicy.Toml.Document

/-!
# Configuration

The configuration says where the group policy is, which section is meant if none is given, and
when a batch resolves its values. It is read from a TOML file in which nothing is required.
-/

namespace GroupPolicy

/-- The configuration. -/
structure Config where
  /-- The root of the group policy. -/
  root : Path := ⟨"GroupPolicy"⟩
  /-- The section that is meant if none is given. -/
  defaultSection : PolicySection := .user
  /-- When a batch resolves its values. -/
  applyMode : ApplyMode := .sequential
  deriving DecidableEq

namespace Config

/-- The configuration file in the working directory. -/
def localFile : Path := ⟨"lgpoedit.toml"⟩

/-- The text that a key has, or the default if the key is missing. -/
def textEntry (entries : Toml.Entries) (key : String) (default : String) : Except String String :=
  match entries.lookup key with
  | none => .ok default
  | some (.string text) => .ok text
  | some _ => .error ("expected a string for " ++ key)

/-- Whether a value is an array or a table with nothing in it. -/
def isEmptyValue : Toml.Value → Bool
  | .array items => items.isEmpty
  | .table _ entries => entries.isEmpty
  | .tables elements => elements.isEmpty
  | _ => false

/-- The name of the choice that a value makes: a text, or the only key of a table in which it has
an empty value. -/
def choiceName? : Toml.Value → Option String
  | .string text => some text
  | .table _ [(name, value)] => if isEmptyValue value then some name else none
  | _ => none

/-- The choice that a key has among named ones, or the default if the key is missing. -/
def choiceEntry {α : Type} (entries : Toml.Entries) (key : String) (label : α → String)
    (choices : List α) (default : α) : Except String α :=
  match entries.lookup key with
  | none => .ok default
  | some value =>
    match choices.find? fun choice => choiceName? value == some (label choice) with
    | some choice => .ok choice
    | none => .error ("unknown choice for " ++ key)

/-- The configuration in the entries of a document. Keys that are not known do not count. -/
def ofEntries (entries : Toml.Entries) : Except String Config := do
  let base : Config := {}
  let root ← textEntry entries "gpo_root" base.root.text
  let defaultSection ←
    choiceEntry entries "default_section" PolicySection.label [.machine, .user] base.defaultSection
  let applyMode ←
    choiceEntry entries "apply_mode" ApplyMode.label [.sequential, .prevalidate] base.applyMode
  return { root := ⟨root⟩, defaultSection, applyMode }

/-- The configuration in a TOML text. -/
def parse (text : String) : Except String Config :=
  match Toml.parse text with
  | .ok entries => ofEntries entries
  | .error fault => .error fault.message

/-- The configuration in what was read from a file. -/
def ofContents (path : Path) (contents : Except FileFailure String) : Except PolicyError Config :=
  match contents with
  | .error failure => .error (.config path.text failure.message)
  | .ok text => (parse text).mapError (.config path.text)

variable {m : Type → Type} [Monad m] [FileSystem m]

/-- Reads a configuration file. -/
def load (path : Path) : ExceptT PolicyError m Config :=
  ExceptT.mk (return ofContents path (← FileSystem.readText path))

/-- The configuration in effect: that of the given file, else that of the file in the working
directory if there is one, else the default. -/
def discover (given : Option Path) : ExceptT PolicyError m Config := do
  match given with
  | some path => load path
  | none =>
    let present ← (FileSystem.isFile localFile : m Bool)
    if present then load localFile else return {}

end Config

end GroupPolicy
