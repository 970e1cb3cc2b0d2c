import GroupPolicy.Cli.Arguments

/-!
# Help texts

What the program tells about itself: what a subcommand is for, how it is called, and its options
in two columns.
-/

namespace GroupPolicy.Cli

/-- The name of the program. -/
def programName : String := "lgpoedit"

/-- The version of the program. -/
def programVersion : String := "0.1.0"

/-- The word by which the program is called. -/
def programWord : String := "lgpoedit-cli"

/-- What the program is for. -/
def programPurpose : String := "Batch editing of local group policy registry settings"

/-- What an option is for. -/
def OptionName.purpose : OptionName → String
  | config => "Path to a TOML config file"
  | gpoRoot => "Group policy root holding `Machine/` and `User/`; overrides the config file"
  | verbose => "Enable debug logging on stderr"
  | help => "Print help"
  | version => "Print version"
  | machine => "Target the computer section"
  | user => "Target the user section"
  | apply => "Command `Key;ValueName;Kind[:text];;Data` (set) or `Key;ValueName;;;` (delete)"
  | file => "Script with one command per line; `-` reads stdin"
  | dryRun => "Apply to an in-memory copy and leave the policy file untouched"
  | prevalidate => "Resolve every value before the first write"
  | json => ""

/-- What a subcommand is for. -/
def Subcommand.purpose : Subcommand → String
  | batch => "Apply set/delete commands to one section, then save once"
  | list => "List configured values as `[Key;Name;Kind;Length;HEX]`"
  | parse => "Parse and resolve commands without touching a store"

/-- What the subcommand that shows help texts is for. -/
def helpPurpose : String := "Print this message or the help of the given subcommand(s)"

/-- The placeholder of an option's values. -/
def Arity.placeholder : Arity → String
  | flag => ""
  | path => " <PATH>"
  | texts => " <COMMAND>..."

/-- How an option is written; a letter that is missing leaves its room empty. -/
def OptionName.form (name : OptionName) : String :=
  let short := match name.short? with
    | some letter => "-" ++ String.singleton letter ++ ", "
    | none => "    "
  short ++ "--" ++ name.long ++ name.arity.placeholder

/-- The word by which an option is put in order. -/
def OptionName.orderWord (name : OptionName) : String :=
  match name.short? with
  | some letter => String.singleton letter.toLower
  | none => name.long

/-- Two lists of options in turns: the first ones, the second ones, and so on, where of two the one
whose word comes first in the alphabet is in front. -/
def inTurns : List OptionName → List OptionName → List OptionName
  | [], others => others
  | options, [] => options
  | option :: options, other :: others =>
    let pair := if option.orderWord < other.orderWord then [option, other] else [other, option]
    pair ++ inTurns options others

/-- Lines of two columns, the first of them as wide as its longest text. -/
def twoColumns (rows : List (String × String)) : String :=
  let width := rows.foldl (fun width row => max width row.1.length) 0
  let line (row : String × String) : String :=
    let room := String.ofList (List.replicate (width - row.1.length) ' ')
    "  " ++ row.1 ++ room ++ "  " ++ row.2 ++ "\n"
  String.join (rows.map line)

/-- The lines about subcommands. -/
def subcommandLines : String :=
  let rows := Subcommand.all.map fun subcommand => (subcommand.word, subcommand.purpose)
  twoColumns (rows ++ [(helpWord, helpPurpose)])

/-- The lines about options. -/
def optionLines (options : List OptionName) : String :=
  twoColumns (options.map fun name => (name.form, name.purpose))

/-- The beginning of a help text, with what has to follow the word of the program. -/
def helpHead (purpose call : String) : String :=
  purpose ++ "\n\nUsage: " ++ programWord ++ call ++ "\n\n"

/-- The help text on a topic. -/
def helpText : Topic → String
  | .program =>
    helpHead programPurpose " [OPTIONS] <COMMAND>" ++
      "Commands:\n" ++ subcommandLines ++
      "\nOptions:\n" ++ optionLines OptionName.beforeSubcommand
  | .subcommand subcommand =>
    let options := inTurns (OptionName.own subcommand) OptionName.settings ++ [.help]
    helpHead subcommand.purpose (" " ++ subcommand.word ++ " [OPTIONS]") ++
      "Options:\n" ++ optionLines options
  | .help =>
    helpHead helpPurpose (" " ++ helpWord ++ " [COMMAND]...") ++
      "Arguments:\n" ++ twoColumns [("[COMMAND]...", "Print help for the subcommand(s)")]

/-- The text of a notice. -/
def Notice.text : Notice → String
  | help topic => helpText topic
  | version => programName ++ " " ++ programVersion ++ "\n"

end GroupPolicy.Cli
