import GroupPolicy.Command
import GroupPolicy.Store.Basic

/-!
# Batches

A batch applies commands to a store, in order, and saves once at the end. The first failure ends
it: no later command is tried and nothing is saved, but what was written stays.
-/

namespace GroupPolicy

/-- When the values of a batch are resolved. -/
inductive ApplyMode where
  /-- Each command when its turn comes. -/
  | sequential
  /-- Every command before the first is applied. -/
  | prevalidate
  deriving DecidableEq, Repr

/-- The label of a mode. -/
def ApplyMode.label : ApplyMode → String
  | sequential => "sequential"
  | prevalidate => "prevalidate"

/-- What a batch did, as numbers of commands. -/
structure ApplyReport where
  /-- Commands that wrote a value. -/
  set : Nat := 0
  /-- Commands that removed a value. -/
  deleted : Nat := 0
  /-- Commands that were to remove a value which was not there. -/
  absent : Nat := 0
  deriving DecidableEq, Repr

/-- A command whose value is resolved. -/
inductive Step where
  /-- Writes a value. -/
  | write (key name : String) (value : RegistryValue)
  /-- Removes a value. -/
  | remove (key name : String)
  deriving DecidableEq

namespace Command

/-- The step that a command asks for; setting the kind that holds no value removes. -/
def plan : Command → Except PolicyError Step
  | set key name .none _ _ | delete key name => .ok (.remove key name)
  | set key name kind encoding data =>
    return .write key name (← RegistryValue.resolve kind encoding data)

end Command

namespace Batch

variable {m : Type → Type} [Monad m] [PolicyStore m]

/-- Takes a step and counts it. -/
def execute (report : ApplyReport) : Step → ExceptT PolicyError m ApplyReport
  | .write key name value => do
    PolicyStore.setValue key name value
    return { report with set := report.set + 1 }
  | .remove key name => do
    if ← PolicyStore.deleteValue key name then
      return { report with deleted := report.deleted + 1 }
    else
      return { report with absent := report.absent + 1 }

/-- Takes steps in order. -/
def executeAll (report : ApplyReport) : List Step → ExceptT PolicyError m ApplyReport
  | [] => return report
  | step :: rest => do
    let report ← execute report step
    executeAll report rest

/-- Plans and applies commands one by one. -/
def planAndExecuteAll (report : ApplyReport) : List Command → ExceptT PolicyError m ApplyReport
  | [] => return report
  | command :: rest => do
    let step ← command.plan
    let report ← execute report step
    planAndExecuteAll report rest

/-- Applies commands without saving. -/
def run (mode : ApplyMode) (commands : List Command) : ExceptT PolicyError m ApplyReport :=
  match mode with
  | .sequential => planAndExecuteAll {} commands
  | .prevalidate => do
    let steps ← (commands.mapM Command.plan : Except PolicyError (List Step))
    executeAll {} steps

/-- Applies commands and saves. -/
def apply (mode : ApplyMode) (commands : List Command) : ExceptT PolicyError m ApplyReport := do
  let report ← run mode commands
  PolicyStore.save
  return report

end Batch

end GroupPolicy
