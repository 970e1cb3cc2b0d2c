import GroupPolicy.Cli.Option

/-!
# Reading arguments

Arguments are read from left to right. An option that takes values waits for them, and is settled
when another option or the end comes. Asking for help or for the version ends the reading, once
the option before it is settled.
-/

namespace GroupPolicy.Cli

/-- What a help text is about. -/
inductive Topic where
  /-- The program. -/
  | program
  /-- A subcommand that does something. -/
  | subcommand (subcommand : Subcommand)
  /-- The subcommand that shows help texts. -/
  | help
  deriving DecidableEq, Repr

/-- What the program tells instead of doing something. -/
inductive Notice where
  /-- A help text. -/
  | help (topic : Topic)
  /-- The version. -/
  | version
  deriving DecidableEq, Repr

/-- Why reading ends early. -/
inductive Stop where
  /-- The arguments are not right. -/
  | usage
  /-- Something was asked for that needs no further arguments. -/
  | notice (notice : Notice)
  deriving DecidableEq, Repr

/-- Options that were given, each with its values. -/
structure Given where
  /-- The settled options, the latest first. -/
  settled : List (OptionName × List String) := []
  /-- The option that waits for values, and its values so far, the latest first. -/
  waiting : Option (OptionName × List String) := none

namespace Given

/-- Whether an option was settled. -/
def has (given : Given) (name : OptionName) : Bool :=
  given.settled.any (·.1 == name)

/-- The values of an option, in order. -/
def values (given : Given) (name : OptionName) : List String :=
  given.settled.reverse.flatMap fun (other, values) => if other = name then values else []

/-- The path that an option has. -/
def path? (given : Given) (name : OptionName) : Option Path :=
  (given.values name).head?.map Path.mk

/-- Whether the values suit an option that takes so many. -/
def suits : Arity → List String → Bool
  | .flag, values => values.isEmpty
  | .path, values => values.length == 1 && values.all (· ≠ "")
  | .texts, values => !values.isEmpty

/-- Settles an option. Only options with any number of values may come again. -/
def record (given : Given) (name : OptionName) (values : List String) : Except Stop Given :=
  if suits name.arity values && (name.arity = .texts || !given.has name) then
    .ok { given with settled := (name, values) :: given.settled }
  else .error .usage

/-- Settles the option that waits for values. -/
def settle (given : Given) : Except Stop Given :=
  match given.waiting with
  | none => .ok given
  | some (name, values) => { given with waiting := none }.record name values.reverse

/-- Settles an option whose values are complete. -/
def give (given : Given) (name : OptionName) (values : List String) : Except Stop Given := do
  (← given.settle).record name values

/-- Makes an option wait for values. -/
def await (given : Given) (name : OptionName) : Except Stop Given := do
  return { ← given.settle with waiting := some (name, []) }

/-- The option that takes the next value, and its values so far. -/
def receiver? (given : Given) : Option (OptionName × List String) :=
  given.waiting.filter fun (name, values) => name.arity = .texts || values.isEmpty

end Given

/-- What is asked for by an option that ends the reading. -/
def noticeOf? (subcommand : Option Subcommand) : OptionName → Option Notice
  | .help => some (.help (subcommand.elim .program .subcommand))
  | .version => some .version
  | _ => none

/-- Takes an option that has no values. -/
def takeFlag (subcommand : Option Subcommand) (given : Given) (name : OptionName) :
    Except Stop Given :=
  match noticeOf? subcommand name with
  | some notice => do
    let _ ← given.settle
    throw (.notice notice)
  | none => given.give name []

/-- Takes an option that was spelled out, and the value after its equals sign. -/
def takeLong (subcommand : Option Subcommand) (options : List OptionName) (given : Given)
    (argument : List Char) : Except Stop Given :=
  let (word, value) := Text.cut '=' argument
  match options.find? (·.long.toList == word) with
  | none => .error .usage
  | some name =>
    if name.arity = .flag then
      if value.isSome then .error .usage else takeFlag subcommand given name
    else
      match value with
      | some value => given.give name [String.ofList value]
      | none => given.await name

/-- Takes options by their letters. The first that takes a value has the rest of the argument for
it, without an equals sign in front. -/
def takeShort (subcommand : Option Subcommand) (options : List OptionName) (given : Given) :
    List Char → Except Stop Given
  | [] => .ok given
  | letter :: rest =>
    match options.find? (·.short? == some letter) with
    | none => .error .usage
    | some name =>
      if name.arity = .flag then do
        takeShort subcommand options (← takeFlag subcommand given name) rest
      else
        match rest with
        | [] => given.await name
        | '=' :: value => given.give name [String.ofList value]
        | value => given.give name [String.ofList value]

/-- Takes a value for the option that waits for one. -/
def takeValue (given : Given) (argument : String) : Except Stop Given :=
  match given.receiver? with
  | some (name, values) => .ok { given with waiting := some (name, argument :: values) }
  | none => .error .usage

/-- Takes an argument that is an option or a value. -/
def takeArgument (subcommand : Option Subcommand) (options : List OptionName) (given : Given)
    (argument : String) : Except Stop Given :=
  match argument.toList with
  | '-' :: '-' :: word => takeLong subcommand options given word
  | '-' :: letter :: rest => takeShort subcommand options given (letter :: rest)
  | _ => takeValue given argument

/-- Reads the arguments after a subcommand. Nothing may follow two dashes. -/
def readAfter (subcommand : Subcommand) (given : Given) : List String → Except Stop Given
  | [] => given.settle
  | argument :: rest =>
    if argument = "--" then
      if rest.isEmpty then given.settle else .error .usage
    else do
      let options := OptionName.afterSubcommand subcommand
      readAfter subcommand (← takeArgument (some subcommand) options given argument) rest

/-- What the help subcommand tells about. -/
def readHelp : List String → Stop
  | [] => .notice (.help .program)
  | [word] =>
    match Subcommand.ofWord? word with
    | some subcommand => .notice (.help (.subcommand subcommand))
    | none => if word = helpWord then .notice (.help .help) else .usage
  | _ => .usage

/-- Reads arguments up to a subcommand and those after it. Without a subcommand they are not
right. -/
def readBefore (given : Given) : List String → Except Stop (Given × Subcommand × Given)
  | [] => .error .usage
  | argument :: rest =>
    let word := if given.receiver?.isSome then none else some argument
    if word = some helpWord then .error (readHelp rest)
    else
      match word.bind Subcommand.ofWord? with
      | some subcommand => do
        let after ← readAfter subcommand {} rest
        return (← given.settle, subcommand, after)
      | none =>
        if argument = "--" then .error .usage
        else do
          readBefore (← takeArgument none OptionName.beforeSubcommand given argument) rest

end GroupPolicy.Cli
