import GroupPolicy.Proofs.Batch.Modes

/-!
# Batches in two parts

On any store, the commands of a batch succeed if and only if those of its first part do and then
those of its second part do, and the reports of the parts add up (`run_append_iff`). The modes do
not matter for that, since whatever the mode is, commands that succeed have been planned.
-/

namespace GroupPolicy

/-- The report of two batches in a row. -/
instance : Add ApplyReport where
  add first second :=
    { set := first.set + second.set
      deleted := first.deleted + second.deleted
      absent := first.absent + second.absent }

namespace ApplyReport

theorem add_zero (report : ApplyReport) : report + {} = report := rfl

theorem zero_add (report : ApplyReport) : {} + report = report :=
  show mk (0 + report.set) (0 + report.deleted) (0 + report.absent) = report by
    rw [Nat.zero_add, Nat.zero_add, Nat.zero_add]

theorem add_left_comm (first second third : ApplyReport) :
    first + (second + third) = second + (first + third) :=
  show mk (first.set + (second.set + third.set))
      (first.deleted + (second.deleted + third.deleted))
      (first.absent + (second.absent + third.absent)) = _ by
    rw [Nat.add_left_comm first.set, Nat.add_left_comm first.deleted,
      Nat.add_left_comm first.absent]
    rfl

end ApplyReport

namespace Batch

section Executing

variable {m : Type → Type} [Monad m] [LawfulMonad m] [PolicyStore m]

theorem executeAll_append (report : ApplyReport) (front later : List Step) :
    (executeAll report (front ++ later) : ExceptT PolicyError m ApplyReport) =
      executeAll report front >>= fun report => executeAll report later := by
  induction front generalizing report with
  | nil =>
    rw [List.nil_append, show (executeAll report [] : ExceptT PolicyError m ApplyReport) =
      pure report from rfl, pure_bind]
  | cons step front ih =>
    rw [List.cons_append, executeAll, executeAll, bind_assoc]
    exact congrArg _ (funext ih)

/-- A step is counted on top of what has been counted before. -/
theorem execute_add (before report : ApplyReport) (step : Step) :
    (execute (before + report) step : ExceptT PolicyError m ApplyReport) =
      (before + ·) <$> execute report step := by
  cases step with
  | write key name value =>
    rw [execute, execute, map_bind]
    refine congrArg _ (funext fun _ => ?_)
    rw [map_pure]
    rfl
  | remove key name =>
    rw [execute, execute, map_bind]
    refine congrArg _ (funext fun removed => ?_)
    cases removed with
    | true =>
      rw [if_pos rfl, if_pos rfl, map_pure]
      rfl
    | false =>
      rw [if_neg Bool.false_ne_true, if_neg Bool.false_ne_true, map_pure]
      rfl

theorem executeAll_add (before report : ApplyReport) (steps : List Step) :
    (executeAll (before + report) steps : ExceptT PolicyError m ApplyReport) =
      (before + ·) <$> executeAll report steps := by
  induction steps generalizing report with
  | nil => exact (map_pure _ _).symm
  | cons step steps ih =>
    rw [executeAll, executeAll, execute_add, bind_map_left, map_bind]
    exact congrArg _ (funext ih)

variable {first second : List Command} {steps later : List Step}

/-- Once its commands are planned, a batch is its two parts in a row. -/
theorem run_append (mode firstMode secondMode : ApplyMode)
    (planned : first.mapM Command.plan = .ok steps)
    (planned' : second.mapM Command.plan = .ok later) :
    (run mode (first ++ second) : ExceptT PolicyError m ApplyReport) =
      run firstMode first >>= fun before => (before + ·) <$> run secondMode second := by
  have whole : (first ++ second).mapM Command.plan = .ok (steps ++ later) := by
    rw [List.mapM_append, planned, planned']
    rfl
  rw [run_of_planned mode whole, run_of_planned firstMode planned,
    run_of_planned secondMode planned', executeAll_append]
  refine congrArg _ (funext fun before => ?_)
  rw [← executeAll_add, ApplyReport.add_zero]

end Executing

section Plain

variable {σ α β : Type} {action : ExceptT PolicyError (StateM σ) α} {state next : σ}

theorem runPlain_bind_eq_ok_iff {rest : α → ExceptT PolicyError (StateM σ) β} {result : β} :
    runPlain (action >>= rest) state = (.ok result, next) ↔
      ∃ value middle, runPlain action state = (.ok value, middle) ∧
        runPlain (rest value) middle = (.ok result, next) := by
  rw [runPlain_bind]
  rcases runPlain action state with ⟨error | value, middle⟩
  · exact ⟨nofun, fun ⟨_, _, same, _⟩ => nomatch same⟩
  · refine ⟨fun ran => ⟨value, middle, rfl, ran⟩, fun ⟨_, _, same, ran⟩ => ?_⟩
    cases same
    exact ran

theorem runPlain_map_eq_ok_iff {f : α → β} {result : β} :
    runPlain (f <$> action) state = (.ok result, next) ↔
      ∃ value, runPlain action state = (.ok value, next) ∧ result = f value := by
  rw [map_eq_pure_bind, runPlain_bind_eq_ok_iff]
  refine ⟨fun ⟨value, middle, ran, done⟩ => ?_, fun ⟨value, ran, same⟩ => ?_⟩
  · cases done
    exact ⟨value, ran, rfl⟩
  · subst same
    exact ⟨value, next, ran, rfl⟩

end Plain

variable {σ : Type} [PolicyStore (StateM σ)] {first second commands : List Command}
  {state middle next : σ} {report total : ApplyReport}

/-- The commands of a batch that succeeds all have steps. -/
theorem exists_steps_of_run {mode : ApplyMode}
    (ran : runPlain (run mode commands) state = (.ok report, next)) :
    ∃ steps, commands.mapM Command.plan = .ok steps := by
  rcases Except.mapM_ok_or_first_error Command.plan commands with
    planned | ⟨front, command, later, steps, error, rfl, planned, failed⟩
  · exact planned
  · cases mode with
    | sequential =>
      rw [run_sequential_of_fault planned failed, runPlain_bind_eq_ok_iff] at ran
      obtain ⟨_, _, -, thrown⟩ := ran
      cases thrown
    | prevalidate =>
      rw [run_prevalidate_of_fault planned failed] at ran
      cases ran

/-- A batch succeeds if and only if its two parts succeed in a row, and then their reports add
up. -/
theorem run_append_iff (mode firstMode secondMode : ApplyMode) :
    runPlain (run mode (first ++ second)) state = (.ok total, next) ↔
      ∃ before middle after, runPlain (run firstMode first) state = (.ok before, middle) ∧
        runPlain (run secondMode second) middle = (.ok after, next) ∧ total = before + after := by
  constructor
  · intro ran
    obtain ⟨steps, planned⟩ := exists_steps_of_run ran
    rw [List.mapM_append] at planned
    obtain ⟨front, planned, rest⟩ := Except.bind_eq_ok_iff.1 planned
    obtain ⟨later, planned', -⟩ := Except.bind_eq_ok_iff.1 rest
    rw [run_append mode firstMode secondMode planned planned', runPlain_bind_eq_ok_iff] at ran
    obtain ⟨before, middle, ran, others⟩ := ran
    obtain ⟨after, ran', same⟩ := runPlain_map_eq_ok_iff.1 others
    exact ⟨before, middle, after, ran, ran', same⟩
  · rintro ⟨before, middle, after, ran, ran', same⟩
    obtain ⟨steps, planned⟩ := exists_steps_of_run ran
    obtain ⟨later, planned'⟩ := exists_steps_of_run ran'
    rw [run_append mode firstMode secondMode planned planned', runPlain_bind_eq_ok_iff]
    exact ⟨before, middle, ran, runPlain_map_eq_ok_iff.2 ⟨after, ran', same⟩⟩

end Batch

end GroupPolicy
