import GroupPolicy.Files.Path

/-!
# Options of the command line

The options and subcommands of the program, how they are spelled, and where they may stand.
-/

namespace GroupPolicy.Cli

/-- The subcommands. -/
inductive Subcommand where
  /-- Applies commands to a section. -/
  | batch
  /-- Lists the values of a section. -/
  | list
  /-- Shows what commands would do. -/
  | parse
  deriving DecidableEq, Repr

namespace Subcommand

/-- The word for a subcommand. -/
def word : Subcommand → String
  | batch => "batch"
  | list => "list"
  | parse => "parse"

/-- Every subcommand. -/
def all : List Subcommand := [.batch, .list, .parse]

/-- The subcommand of a word. -/
def ofWord? (word : String) : Option Subcommand :=
  all.find? (·.word == word)

end Subcommand

/-- The word for the subcommand that shows help texts. -/
def helpWord : String := "help"

/-- The options. -/
inductive OptionName where
  /-- The configuration file. -/
  | config
  /-- The root of the group policy. -/
  | gpoRoot
  /-- More messages. -/
  | verbose
  /-- The help text. -/
  | help
  /-- The version. -/
  | version
  /-- The section of the computer. -/
  | machine
  /-- The section of the users. -/
  | user
  /-- Commands. -/
  | apply
  /-- A script. -/
  | file
  /-- Leaving the policy file as it is. -/
  | dryRun
  /-- Resolving values before anything is written. -/
  | prevalidate
  /-- Output in JSON. -/
  | json
  deriving DecidableEq, Repr

/-- The values that an option takes. -/
inductive Arity where
  /-- None; giving the option is all there is to it. -/
  | flag
  /-- One path, which must not be empty. -/
  | path
  /-- One text or more. -/
  | texts
  deriving DecidableEq, Repr

namespace OptionName

/-- The spelling of an option after two dashes. -/
def long : OptionName → String
  | config => "config"
  | gpoRoot => "gpo-root"
  | verbose => "verbose"
  | help => "help"
  | version => "version"
  | machine => "machine"
  | user => "user"
  | apply => "apply"
  | file => "file"
  | dryRun => "dry-run"
  | prevalidate => "prevalidate"
  | json => "json"

/-- The letter of an option after one dash. -/
def short? : OptionName → Option Char
  | verbose => some 'v'
  | help => some 'h'
  | version => some 'V'
  | machine => some 'm'
  | user => some 'u'
  | apply => some 'a'
  | file => some 'f'
  | config | gpoRoot | dryRun | prevalidate | json => none

/-- The values that an option takes. -/
def arity : OptionName → Arity
  | config | gpoRoot | file => .path
  | apply => .texts
  | verbose | help | version | machine | user | dryRun | prevalidate | json => .flag

/-- The settings, which may stand before a subcommand and after it. -/
def settings : List OptionName := [.config, .gpoRoot, .verbose]

/-- The options of a subcommand itself. -/
def own : Subcommand → List OptionName
  | .batch => [.machine, .user, .apply, .file, .dryRun, .prevalidate, .json]
  | .list => [.machine, .user, .json]
  | .parse => [.apply, .file, .json]

/-- The options before the subcommand. -/
def beforeSubcommand : List OptionName := settings ++ [.help, .version]

/-- The options after a subcommand. -/
def afterSubcommand (subcommand : Subcommand) : List OptionName :=
  own subcommand ++ settings ++ [.help]

end OptionName

end GroupPolicy.Cli
