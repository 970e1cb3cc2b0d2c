import GroupPolicy.Cli.CommandLine
import GroupPolicy.Cli.Report
import GroupPolicy.Command.Script
import GroupPolicy.Config
import GroupPolicy.Store.Memory

/-!
# Running the program

Each subcommand as a computation on files, with the text that it prints. Every command is read
before a store is opened, and nothing is printed unless all went well.
-/

namespace GroupPolicy.Cli

variable {m : Type → Type} [Monad m] [FileSystem m]

/-- The name that stands for the standard input. -/
def standardInputName : String := "-"

/-- The text of a script, which may be the standard input. -/
def readScript (standardInput : m (Except FileFailure (List UInt8))) (path : Path) :
    m (Except FileFailure String) :=
  if path.isName standardInputName then return (← standardInput).bind FileSystem.decodeText
  else FileSystem.readText path

/-- The commands of a source: those of its lines, and then those of its script. -/
def CommandSource.commands (standardInput : m (Except FileFailure (List UInt8)))
    (source : CommandSource) : ExceptT PolicyError m (List Command) := do
  let commands ← (source.lines.mapM Command.parse : Except PolicyError (List Command))
  match source.script with
  | none => return commands
  | some path =>
    let text ← FileSystem.attempt (readScript standardInput path)
    let others ← Script.parse text
    return commands ++ others

/-- Applies commands to the policy file of a section. -/
def applyToFile (root : Path) (part : PolicySection) (mode : ApplyMode) (commands : List Command) :
    ExceptT PolicyError m ApplyReport := do
  let store ← FileStore.openSection root part .readWrite
  let applied : ExceptT PolicyError (StateT FileStore m) ApplyReport := Batch.apply mode commands
  ExceptT.mk (return (← applied.run.run store).1)

/-- Applies commands to the values of a section, and leaves the policy file as it is. -/
def applyToCopy (root : Path) (part : PolicySection) (mode : ApplyMode) (commands : List Command) :
    ExceptT PolicyError m ApplyReport := do
  let store ← FileStore.openSection root part .readOnly
  let applied : ExceptT PolicyError (StateT MemoryStore m) ApplyReport := Batch.apply mode commands
  ExceptT.mk (return (← applied.run.run (.ofTree store.tree)).1)

/-- Applies a batch to a section. -/
def runBatch (config : Config) (standardInput : m (Except FileFailure (List UInt8)))
    (part : Option PolicySection) (source : CommandSource) (dryRun prevalidate : Bool) :
    ExceptT PolicyError m BatchSummary := do
  let part := part.getD config.defaultSection
  let mode := if prevalidate then .prevalidate else config.applyMode
  let commands ← source.commands standardInput
  let report ←
    if dryRun then applyToCopy config.root part mode commands
    else applyToFile config.root part mode commands
  return { part, mode, dryRun, report }

/-- The values of a section. -/
def runList (config : Config) (part : Option PolicySection) :
    ExceptT PolicyError m RegistryTree := do
  let store ← FileStore.openSection config.root (part.getD config.defaultSection) .readOnly
  return store.tree

/-- The previews of commands. -/
def runParse (standardInput : m (Except FileFailure (List UInt8))) (source : CommandSource) :
    ExceptT PolicyError m (List CommandPreview) := do
  let commands ← source.commands standardInput
  (commands.mapM Command.preview : Except PolicyError (List CommandPreview))

/-- Does a task and gives the text that it prints. -/
def Task.run (config : Config) (standardInput : m (Except FileFailure (List UInt8))) :
    Task → ExceptT PolicyError m String
  | .batch part source dryRun prevalidate json => do
    let summary ← runBatch config standardInput part source dryRun prevalidate
    return if json then textOfJson summary.json else textOfLines summary.lines
  | .list part json => do
    let tree ← runList config part
    return if json then textOfJson (.array (tree.records.map recordJson))
      else textOfLines tree.listing
  | .parse source json => do
    let previews ← runParse standardInput source
    return if json then textOfJson (.array (previews.map previewJson))
      else textOfLines (previews.map CommandPreview.display)

/-- Does what a command line asks for. The configuration is read whatever that is. -/
def CommandLine.run (standardInput : m (Except FileFailure (List UInt8)))
    (commandLine : CommandLine) : ExceptT PolicyError m String := do
  let config ← Config.discover commandLine.config
  let config := { config with root := commandLine.gpoRoot.getD config.root }
  commandLine.task.run config standardInput

/-- How the program ends. -/
inductive Outcome where
  /-- It did what it was to do, and prints this. -/
  | success (output : String)
  /-- It was asked for information. -/
  | notice (notice : Notice)
  /-- The arguments are not right. -/
  | usage
  /-- Something failed. -/
  | failure (error : PolicyError)
  deriving DecidableEq

/-- The exit code of an outcome. -/
def Outcome.exitCode : Outcome → UInt32
  | success _ | notice _ => 0
  | usage | failure _ => 1

/-- Runs the program with arguments. -/
def run (standardInput : m (Except FileFailure (List UInt8))) (arguments : List String) :
    m Outcome := do
  match CommandLine.ofArguments arguments with
  | .error .usage => return .usage
  | .error (.notice notice) => return .notice notice
  | .ok commandLine =>
    match ← (commandLine.run standardInput).run with
    | .ok output => return .success output
    | .error error => return .failure error

end GroupPolicy.Cli
