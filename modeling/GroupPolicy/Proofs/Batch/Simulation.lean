import GroupPolicy.Batch

/-!
# Stores that simulate each other

A batch acts on a store through the changes that it asks for, and on nothing else. So a relation
between the computations on two stores that holds for these changes and is kept when computations
are put in a row holds for the commands of every batch (`Batch.Simulation.run`).
-/

namespace GroupPolicy.Batch

variable {m n : Type → Type} [Monad m] [PolicyStore m] [Monad n] [PolicyStore n]

/-- A relation between the computations on two stores, which the changes of the stores are in and
which is kept when computations are put in a row. -/
structure Simulation (m n : Type → Type) [Monad m] [PolicyStore m] [Monad n] [PolicyStore n] where
  /-- The relation. -/
  Related : {α : Type} → ExceptT PolicyError m α → ExceptT PolicyError n α → Prop
  lift {α : Type} (result : Except PolicyError α) : Related (liftM result) (liftM result)
  bind {α β : Type} {left : ExceptT PolicyError m α} {right : ExceptT PolicyError n α}
    {restOfLeft : α → ExceptT PolicyError m β} {restOfRight : α → ExceptT PolicyError n β} :
    Related left right → (∀ value, Related (restOfLeft value) (restOfRight value)) →
    Related (left >>= restOfLeft) (right >>= restOfRight)
  setValue (key name : String) (value : RegistryValue) :
    Related (PolicyStore.setValue key name value) (PolicyStore.setValue key name value)
  deleteValue (key name : String) :
    Related (PolicyStore.deleteValue key name) (PolicyStore.deleteValue key name)

namespace Simulation

variable (simulation : Simulation m n)

theorem pure {α : Type} (value : α) : simulation.Related (Pure.pure value) (Pure.pure value) :=
  simulation.lift (.ok value)

theorem execute (report : ApplyReport) (step : Step) :
    simulation.Related (Batch.execute report step) (Batch.execute report step) := by
  cases step with
  | write key name value =>
    exact simulation.bind (simulation.setValue key name value) fun _ => simulation.pure _
  | remove key name =>
    refine simulation.bind (simulation.deleteValue key name) fun removed => ?_
    cases removed with
    | true => exact simulation.pure _
    | false => exact simulation.pure _

theorem executeAll (report : ApplyReport) (steps : List Step) :
    simulation.Related (Batch.executeAll report steps) (Batch.executeAll report steps) := by
  induction steps generalizing report with
  | nil => exact simulation.pure report
  | cons step steps ih => exact simulation.bind (simulation.execute report step) ih

theorem planAndExecuteAll (report : ApplyReport) (commands : List Command) :
    simulation.Related (Batch.planAndExecuteAll report commands)
      (Batch.planAndExecuteAll report commands) := by
  induction commands generalizing report with
  | nil => exact simulation.pure report
  | cons command commands ih =>
    exact simulation.bind (simulation.lift command.plan) fun step =>
      simulation.bind (simulation.execute report step) ih

/-- The commands of a batch are related if the changes of the stores are. -/
theorem run (mode : ApplyMode) (commands : List Command) :
    simulation.Related (Batch.run mode commands) (Batch.run mode commands) := by
  cases mode with
  | sequential => exact simulation.planAndExecuteAll {} commands
  | prevalidate =>
    exact simulation.bind (simulation.lift (commands.mapM Command.plan)) fun steps =>
      simulation.executeAll {} steps

end Simulation

end GroupPolicy.Batch
