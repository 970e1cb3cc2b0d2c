import GroupPolicy.Batch
import GroupPolicy.Cli.Arguments
import GroupPolicy.Store.File

/-!
# Command lines

What the arguments ask for, and with which settings.
-/

namespace GroupPolicy.Cli

/-- Where commands come from. -/
structure CommandSource where
  /-- Command lines among the arguments. -/
  lines : List String
  /-- A script, which follows the command lines. -/
  script : Option Path
  deriving DecidableEq

/-- What is to be done. -/
inductive Task where
  /-- Applying commands to a section. -/
  | batch (part : Option PolicySection) (source : CommandSource) (dryRun prevalidate json : Bool)
  /-- Listing the values of a section. -/
  | list (part : Option PolicySection) (json : Bool)
  /-- Showing what commands would do. -/
  | parse (source : CommandSource) (json : Bool)
  deriving DecidableEq

/-- What the arguments ask for. -/
structure CommandLine where
  /-- The configuration file. -/
  config : Option Path
  /-- The root of the group policy, instead of the one in the configuration. -/
  gpoRoot : Option Path
  /-- What is to be done. -/
  task : Task
  deriving DecidableEq

/-- The section that the options choose; they cannot choose both. -/
def sectionOf (given : Given) : Except Stop (Option PolicySection) :=
  match given.has .machine, given.has .user with
  | true, true => .error .usage
  | true, false => .ok (some .machine)
  | false, true => .ok (some .user)
  | false, false => .ok none

/-- The source of commands that the options give. -/
def sourceOf (given : Given) : CommandSource where
  lines := given.values .apply
  script := given.path? .file

/-- What a subcommand with options is to do. -/
def taskOf (subcommand : Subcommand) (given : Given) : Except Stop Task :=
  match subcommand with
  | .batch => do
    let part ← sectionOf given
    return .batch part (sourceOf given) (given.has .dryRun) (given.has .prevalidate)
      (given.has .json)
  | .list => return .list (← sectionOf given) (given.has .json)
  | .parse => return .parse (sourceOf given) (given.has .json)

/-- Reads the arguments of the program. An option after the subcommand counts for more than the
same option before it. -/
def CommandLine.ofArguments (arguments : List String) : Except Stop CommandLine := do
  let (before, subcommand, after) ← readBefore {} arguments
  let task ← taskOf subcommand after
  return {
    config := after.path? .config <|> before.path? .config
    gpoRoot := after.path? .gpoRoot <|> before.path? .gpoRoot
    task
  }

end GroupPolicy.Cli
