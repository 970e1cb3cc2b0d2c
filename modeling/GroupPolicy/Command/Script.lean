import GroupPolicy.Command

/-!
# Scripts

A script has one command on each line. Lines that are blank or start with `#`, apart from leading
blanks, are skipped but counted.
-/

namespace GroupPolicy.Script

/-- Whether a line holds no command. -/
def isSkipped (line : List Char) : Bool :=
  let content := Text.trimStart line
  content.isEmpty || content.head? == some '#'

/-- The commands on lines of which the first has the given number. -/
def parseLines (number : Nat) : List (List Char) → Except PolicyError (List Command)
  | [] => .ok []
  | line :: rest =>
    if isSkipped line then parseLines (number + 1) rest
    else
      match Command.parse (String.ofList line) with
      | .error source => .error (.scriptLine number source)
      | .ok command => do
        let commands ← parseLines (number + 1) rest
        return command :: commands

/-- Reads the commands of a script. -/
def parse (text : String) : Except PolicyError (List Command) :=
  parseLines 1 (Text.lines text.toList)

end GroupPolicy.Script
