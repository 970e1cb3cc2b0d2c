import GroupPolicy.Proofs.Batch.Calls
import GroupPolicy.Store.Memory

/-!
# Sequential and prevalidated batches

On any store, whichever of its operations fail, the two modes do the same if every command resolves
(`ran_of_planned`). If one does not, then a prevalidated batch asks nothing of the store
(`ran_prevalidate_of_fault`), and a sequential one makes the calls of the commands before that one
(`ran_sequential_of_fault`).
-/

namespace GroupPolicy.Batch

variable {σ : Type} [PolicyStore (StateM σ)] {commands front : List Command} {command : Command}
  {steps : List Step} {error : PolicyError}

/-- A batch whose commands all have steps makes the calls of these steps, up to the first that
fails. -/
theorem ran_of_planned (planned : commands.mapM Command.plan = .ok steps) (state : σ) :
    ∃ result calls middle, (∀ mode, Ran mode commands state result calls middle) ∧
      CallRun state calls (outcome result) middle ∧ calls <+: steps.map Step.call ∧
      ∀ report, result = .ok report → calls = steps.map Step.call := by
  obtain ⟨result, calls, middle, made, within, all, plain, recorded⟩ :=
    executeAll_spec {} steps state Recording.quiet_new
  refine ⟨result, calls, middle, fun mode => ⟨?_, ?_⟩, made, within, all⟩
  · rw [run_of_planned mode planned, plain]
  · rw [run_of_planned mode planned, recorded]

/-- A prevalidated batch with a command that has no step fails before it makes a call. -/
theorem ran_prevalidate_of_fault (planned : front.mapM Command.plan = .ok steps)
    (failed : command.plan = .error error) (later : List Command) (state : σ) :
    Ran .prevalidate (front ++ command :: later) state (.error error) [] state := by
  constructor
  · rw [run_prevalidate_of_fault planned failed]
    rfl
  · rw [run_prevalidate_of_fault planned failed]
    rfl

/-- A sequential batch with a command that has no step makes the calls of the commands before the
first such command, and fails then, unless a call has failed. -/
theorem ran_sequential_of_fault (planned : front.mapM Command.plan = .ok steps)
    (failed : command.plan = .error error) (later : List Command) (state : σ) :
    ∃ calls reason next,
      Ran .sequential (front ++ command :: later) state (.error reason) calls next ∧
      (CallRun state calls (.ok ()) next ∧ calls = steps.map Step.call ∧ reason = error ∨
        CallRun state calls (.error reason) next ∧ calls <+: steps.map Step.call) := by
  obtain ⟨result, calls, next, made, within, all, plain, recorded⟩ :=
    executeAll_spec {} steps state Recording.quiet_new
  cases result with
  | error reason =>
    refine ⟨calls, reason, next, ⟨?_, ?_⟩, Or.inr ⟨made, within⟩⟩
    · rw [run_sequential_of_fault planned failed, runPlain_bind, plain]
    · rw [run_sequential_of_fault planned failed, runRecorded_bind, recorded]
  | ok report =>
    refine ⟨calls, error, next, ⟨?_, ?_⟩, Or.inl ⟨made, all report rfl, rfl⟩⟩
    · rw [run_sequential_of_fault planned failed, runPlain_bind, plain]
      rfl
    · rw [run_sequential_of_fault planned failed, runRecorded_bind, recorded]
      rfl

/-- The commands of every batch come to something. -/
theorem exists_ran (mode : ApplyMode) (commands : List Command) (state : σ) :
    ∃ result calls middle, Ran mode commands state result calls middle := by
  rcases Except.mapM_ok_or_first_error Command.plan commands with
    ⟨steps, planned⟩ | ⟨front, command, later, steps, error, rfl, planned, failed⟩
  · obtain ⟨result, calls, middle, ran, -⟩ := ran_of_planned planned state
    exact ⟨result, calls, middle, ran mode⟩
  · cases mode with
    | sequential =>
      obtain ⟨calls, reason, next, ran, -⟩ := ran_sequential_of_fault planned failed later state
      exact ⟨_, _, _, ran⟩
    | prevalidate => exact ⟨_, _, _, ran_prevalidate_of_fault planned failed later state⟩

/-- On any store, recorded or not, the two modes make the same calls and come to the same if every
command resolves. Otherwise a prevalidated batch makes no call and fails as the first command that
does not resolve, and a sequential one makes the calls of the commands before that one and fails in
the same way, unless one of these calls fails. So one mode succeeds when the other does. -/
theorem modes_agree (commands : List Command) (state : σ) :
    (∀ mode, runPlain (apply mode commands) state =
      ((recorded (apply mode commands) state).result,
        (recorded (apply mode commands) state).state)) ∧
    ((∀ command ∈ commands, command.Resolves) →
      recorded (apply .prevalidate commands) state =
        recorded (apply .sequential commands) state) ∧
    (∀ front command later error, commands = front ++ command :: later →
      (∀ earlier ∈ front, earlier.Resolves) → command.plan = .error error →
      recorded (apply .prevalidate commands) state = ⟨[], .error error, state⟩ ∧
      ∃ steps, front.mapM Command.plan = .ok steps ∧
        ((∃ next, CallRun state (steps.map Step.call) (.ok ()) next ∧
            recorded (apply .sequential commands) state =
              ⟨steps.map Step.call, .error error, next⟩) ∨
          ∃ calls storeError next, CallRun state calls (.error storeError) next ∧
            calls <+: steps.map Step.call ∧
            recorded (apply .sequential commands) state = ⟨calls, .error storeError, next⟩)) ∧
    ((∃ report, (recorded (apply .sequential commands) state).result = .ok report) ↔
      ∃ report, (recorded (apply .prevalidate commands) state).result = .ok report) := by
  refine ⟨fun mode => ?_, fun resolves => ?_, ?_, ?_⟩
  · obtain ⟨result, calls, middle, ran⟩ := exists_ran mode commands state
    exact ran.plain_apply
  · obtain ⟨steps, planned⟩ := Command.exists_mapM_plan_iff_resolves.2 resolves
    obtain ⟨result, calls, middle, ran, -⟩ := ran_of_planned planned state
    rw [(ran .prevalidate).recorded_apply, (ran .sequential).recorded_apply]
  · rintro front command later error rfl resolves failed
    obtain ⟨steps, planned⟩ := Command.exists_mapM_plan_iff_resolves.2 resolves
    refine ⟨(ran_prevalidate_of_fault planned failed later state).recorded_apply, steps, planned, ?_⟩
    obtain ⟨calls, reason, next, ran, made⟩ := ran_sequential_of_fault planned failed later state
    rcases made with ⟨made, rfl, rfl⟩ | ⟨made, within⟩
    · exact Or.inl ⟨next, made, ran.recorded_apply⟩
    · exact Or.inr ⟨calls, reason, next, made, within, ran.recorded_apply⟩
  · rcases Except.mapM_ok_or_first_error Command.plan commands with
      ⟨steps, planned⟩ | ⟨front, command, later, steps, error, rfl, planned, failed⟩
    · obtain ⟨result, calls, middle, ran, -⟩ := ran_of_planned planned state
      rw [(ran .prevalidate).recorded_apply, (ran .sequential).recorded_apply]
    · have prevalidated := ran_prevalidate_of_fault planned failed later state
      obtain ⟨calls, reason, next, sequential, -⟩ :=
        ran_sequential_of_fault planned failed later state
      rw [prevalidated.recorded_apply, sequential.recorded_apply]
      exact ⟨nofun, nofun⟩

theorem modes_agree_fault_between :
    let sound : List Command := [.set "K" "A" .string .text "x", .set "K" "A" .none .hex "?",
      .delete "J" ""]
    let bad : Command := .set "K" "B" .dword .text "1x"
    let store : MemoryStore := .ofTree .empty
    (∀ command ∈ sound, command.Resolves) ∧
    bad.plan = .error (.invalidInteger .dword "1x") ∧
    recorded (apply .prevalidate sound) store = recorded (apply .sequential sound) store ∧
    recorded (apply .prevalidate (sound ++ bad :: sound)) store =
      ⟨[], .error (.invalidInteger .dword "1x"), store⟩ ∧
    ∃ steps next, sound.mapM Command.plan = .ok steps ∧
      CallRun store (steps.map Step.call) (.ok ()) next ∧
      recorded (apply .sequential (sound ++ bad :: sound)) store =
        ⟨steps.map Step.call, .error (.invalidInteger .dword "1x"), next⟩ := by
  intro sound bad store
  have resolves : ∀ command ∈ sound, command.Resolves :=
    Command.exists_mapM_plan_iff_resolves.1 ⟨_, rfl⟩
  have failed : bad.plan = .error (.invalidInteger .dword "1x") := by rfl
  obtain ⟨-, same, -⟩ := modes_agree sound store
  obtain ⟨-, -, split, -⟩ := modes_agree (sound ++ bad :: sound) store
  obtain ⟨prevalidated, steps, planned, sequential⟩ := split sound bad sound _ rfl resolves failed
  refine ⟨resolves, failed, same resolves, prevalidated, steps, ?_⟩
  rcases sequential with ⟨next, made, recorded⟩ | ⟨calls, storeError, next, failing, within, -⟩
  · exact ⟨next, planned, made, recorded⟩
  · -- The store accepts all three calls, so no call has failed.
    cases planned
    refine (failing.not_ok_of_prefix within (?accepted : CallRun store _ (.ok ()) ?_)).elim
    case accepted => exact .cons (by rfl) (.cons (by rfl) (.cons (by rfl) .nil))

end GroupPolicy.Batch
