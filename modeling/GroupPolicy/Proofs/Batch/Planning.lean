import GroupPolicy.Batch
import GroupPolicy.Proofs.Success
import Mathlib.Control.Lawful

/-!
# Planning and executing

The two ways of a batch, told apart by what their plans are. If every command has a step, then both
ways take these steps. If a command has none, then prevalidating fails at once, and the sequential
way takes the steps of the commands before that one and fails then.
-/

namespace GroupPolicy

namespace Command

/-- The data of a command denotes a value, unless the command is not about a value. -/
def Resolves (command : Command) : Prop :=
  ∀ key name kind encoding data, command = .set key name kind encoding data → kind ≠ .none →
    ∃ value, RegistryValue.resolve kind encoding data = .ok value

theorem plan_set_of_ne_none {key name data : String} {kind : ValueKind} {encoding : InputEncoding}
    (valued : kind ≠ .none) :
    (set key name kind encoding data).plan =
      (RegistryValue.resolve kind encoding data).map (Step.write key name) := by
  cases kind with
  | none => exact absurd rfl valued
  | _ => rfl

/-- A command asks for a step on its own names. -/
theorem step_of_plan {command : Command} {step : Step} (planned : command.plan = .ok step) :
    step = .remove command.key command.name ∨
      ∃ value, step = .write command.key command.name value := by
  rcases command with ⟨key, name, kind, encoding, data⟩ | ⟨key, name⟩
  · by_cases valued : kind = .none
    · subst valued
      cases planned
      exact Or.inl rfl
    · rw [plan_set_of_ne_none valued] at planned
      cases resolved : RegistryValue.resolve kind encoding data with
      | error error =>
        rw [resolved] at planned
        cases planned
      | ok value =>
        rw [resolved] at planned
        cases planned
        exact Or.inr ⟨value, rfl⟩
  · cases planned
    exact Or.inl rfl

/-- A command is to remove a value: it deletes, or sets the kind that holds no value, whatever its
data is. -/
def Removes : Command → Prop
  | set _ _ kind _ _ => kind = .none
  | delete _ _ => True

theorem exists_plan_remove_iff {command : Command} :
    (∃ key name, command.plan = .ok (.remove key name)) ↔ command.Removes := by
  rcases command with ⟨key, name, kind, encoding, data⟩ | ⟨key, name⟩
  · by_cases valued : kind = .none
    · subst valued
      exact ⟨fun _ => rfl, fun _ => ⟨key, name, rfl⟩⟩
    · rw [plan_set_of_ne_none valued]
      refine ⟨fun ⟨_, _, removes⟩ => ?_, fun unvalued => absurd unvalued valued⟩
      obtain ⟨value, -, done⟩ := Except.map_eq_ok_iff.1 removes
      cases done
  · exact ⟨fun _ => trivial, fun _ => ⟨key, name, rfl⟩⟩

theorem exists_plan_iff_resolves {command : Command} :
    (∃ step, command.plan = .ok step) ↔ command.Resolves := by
  constructor
  · rintro ⟨step, planned⟩ key name kind encoding data rfl valued
    rw [plan_set_of_ne_none valued] at planned
    cases resolved : RegistryValue.resolve kind encoding data with
    | ok value => exact ⟨value, rfl⟩
    | error error =>
      rw [resolved] at planned
      cases planned
  · intro resolves
    rcases command with ⟨key, name, kind, encoding, data⟩ | ⟨key, name⟩
    · by_cases valued : kind = .none
      · subst valued
        exact ⟨.remove key name, rfl⟩
      · obtain ⟨value, resolved⟩ := resolves key name kind encoding data rfl valued
        refine ⟨.write key name value, ?_⟩
        rw [plan_set_of_ne_none valued, resolved]
        rfl
    · exact ⟨.remove key name, rfl⟩

theorem exists_mapM_plan_iff_resolves {commands : List Command} :
    (∃ steps, commands.mapM plan = .ok steps) ↔ ∀ command ∈ commands, command.Resolves := by
  induction commands with
  | nil => exact ⟨fun _ => nofun, fun _ => ⟨[], rfl⟩⟩
  | cons command commands ih =>
    rw [List.forall_mem_cons, ← ih, ← exists_plan_iff_resolves]
    simp only [Except.mapM_eq_ok_iff, List.forall₂_cons_left_iff]
    constructor
    · rintro ⟨_, step, steps, planned, others, rfl⟩
      exact ⟨⟨step, planned⟩, ⟨steps, others⟩⟩
    · rintro ⟨⟨step, planned⟩, ⟨steps, others⟩⟩
      exact ⟨_, step, steps, planned, others, rfl⟩

end Command

namespace Batch

variable {m : Type → Type} [Monad m] [LawfulMonad m] [PolicyStore m] {report : ApplyReport}
  {front rest later commands : List Command} {command : Command} {steps : List Step}
  {error : PolicyError}

theorem planAndExecuteAll_cons_of_ok {step : Step} (planned : command.plan = .ok step) :
    (planAndExecuteAll report (command :: rest) : ExceptT PolicyError m ApplyReport) =
      execute report step >>= fun report => planAndExecuteAll report rest := by
  have lifted : (liftM command.plan : ExceptT PolicyError m Step) = pure step := by
    rw [planned]
    rfl
  rw [planAndExecuteAll, lifted, pure_bind]

theorem planAndExecuteAll_cons_of_error (failed : command.plan = .error error) :
    (planAndExecuteAll report (command :: rest) : ExceptT PolicyError m ApplyReport) =
      throw error := by
  have lifted : (liftM command.plan : ExceptT PolicyError m Step) = throw error := by
    rw [failed]
    rfl
  rw [planAndExecuteAll, lifted]
  exact pure_bind _ _

theorem planAndExecuteAll_append (planned : front.mapM Command.plan = .ok steps) :
    (planAndExecuteAll report (front ++ rest) : ExceptT PolicyError m ApplyReport) =
      executeAll report steps >>= fun report => planAndExecuteAll report rest := by
  induction front generalizing report steps with
  | nil =>
    obtain rfl : steps = [] := by cases planned; rfl
    rw [show (executeAll report [] : ExceptT PolicyError m ApplyReport) = pure report from rfl,
      pure_bind, List.nil_append]
  | cons command front ih =>
    rw [Except.mapM_eq_ok_iff, List.forall₂_cons_left_iff] at planned
    obtain ⟨step, others, head, tail, rfl⟩ := planned
    rw [List.cons_append, planAndExecuteAll_cons_of_ok head, executeAll, bind_assoc]
    refine congrArg _ (funext fun report => ?_)
    exact ih (Except.mapM_eq_ok_iff.2 tail)

/-- If all commands have steps, then both ways take these steps. -/
theorem run_of_planned (mode : ApplyMode) (planned : commands.mapM Command.plan = .ok steps) :
    (run mode commands : ExceptT PolicyError m ApplyReport) = executeAll {} steps := by
  cases mode with
  | sequential =>
    rw [run, ← List.append_nil commands, planAndExecuteAll_append planned]
    exact bind_pure _
  | prevalidate =>
    rw [run, planned]
    exact pure_bind _ _

/-- The sequential way fails at the first command that has no step, if it comes that far. -/
theorem run_sequential_of_fault (planned : front.mapM Command.plan = .ok steps)
    (failed : command.plan = .error error) :
    (run .sequential (front ++ command :: later) : ExceptT PolicyError m ApplyReport) =
      executeAll {} steps >>= fun _ => throw error := by
  rw [run, planAndExecuteAll_append planned]
  exact congrArg _ (funext fun _ => planAndExecuteAll_cons_of_error failed)

/-- Prevalidating fails before the first step if some command has none. -/
theorem run_prevalidate_of_fault (planned : front.mapM Command.plan = .ok steps)
    (failed : command.plan = .error error) :
    (run .prevalidate (front ++ command :: later) : ExceptT PolicyError m ApplyReport) =
      throw error := by
  rw [run, Except.mapM_append_cons_error planned failed]
  exact pure_bind _ _

end Batch

end GroupPolicy
