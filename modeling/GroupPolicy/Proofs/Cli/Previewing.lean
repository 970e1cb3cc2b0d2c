import GroupPolicy.Cli.Run
import GroupPolicy.Proofs.Batch.Discipline

/-!
# Previews as a check before a batch

The preview of a command and the step that a batch plans for it are made apart from each other, but
the step is the one that the preview shows, or both fail in the same way
(`Command.plan_eq_map_preview`). So commands whose previews succeed are a batch that only the store
can make fail, and commands whose previews fail are one that prevalidation refuses before it asks
anything of the store (`previews_check_batch`).
-/

namespace GroupPolicy

open Batch

/-- The member of an object under a name. -/
def JsonValue.member? (name : String) : JsonValue → Option JsonValue
  | object members => members.lookup name
  | _ => none

/-- The row of a preview shows a step: what it does, to which names, and the bytes it writes. -/
def Step.ShownIn (row : JsonValue) : Step → Prop
  | write key name value =>
    row.member? "action" = some (.string "set") ∧ row.member? "key" = some (.string key) ∧
      row.member? "name" = some (.string name) ∧
      row.member? "hex" = some (.string (Hex.encode value.toBytes))
  | remove key name =>
    row.member? "action" = some (.string "delete") ∧ row.member? "key" = some (.string key) ∧
      row.member? "name" = some (.string name) ∧ row.member? "hex" = some .null

namespace CommandPreview

/-- The step that a preview shows, which does not say how the value was given. -/
def step : CommandPreview → Step
  | set key name _ _ value => .write key name value
  | delete key name => .remove key name

theorem step_shownIn (preview : CommandPreview) :
    preview.step.ShownIn (Cli.previewJson preview) := by
  cases preview with
  | set key name kind encoding value => exact ⟨rfl, rfl, rfl, rfl⟩
  | delete key name => exact ⟨rfl, rfl, rfl, rfl⟩

theorem step_eq_remove_iff {preview : CommandPreview} {key name : String} :
    preview.step = .remove key name ↔ preview = .delete key name := by
  cases preview with
  | set => exact ⟨nofun, nofun⟩
  | delete => rw [step, Step.remove.injEq, delete.injEq]

end CommandPreview

namespace Command

/-- A command's step is the one that its preview shows, and both fail in the same way. -/
theorem plan_eq_map_preview (command : Command) :
    command.plan = command.preview.map CommandPreview.step := by
  rcases command with ⟨key, name, kind, encoding, data⟩ | ⟨key, name⟩
  · by_cases valued : kind = .none
    · subst valued
      rfl
    · rw [plan_set_of_ne_none valued, preview, if_neg valued]
      cases RegistryValue.resolve kind encoding data with
      | error error => rfl
      | ok value => rfl
  · rfl

theorem mapM_plan_eq_map_mapM_preview (commands : List Command) :
    commands.mapM plan = (commands.mapM preview).map (List.map CommandPreview.step) :=
  Except.mapM_eq_map_mapM plan_eq_map_preview commands

/-- The preview of a command and its step agree: one fails as the other does, one deletes if the
other removes, which is what the command is to do, and the row of the preview shows the step. -/
structure PreviewAgrees (command : Command) : Prop where
  fails : ∀ error, command.preview = .error error ↔ command.plan = .error error
  deletes : ∀ key name, command.preview = .ok (.delete key name) ↔
    command.plan = .ok (.remove key name)
  removes : (∃ key name, command.plan = .ok (.remove key name)) ↔ command.Removes
  shows : ∀ preview step, command.preview = .ok preview → command.plan = .ok step →
    step.ShownIn (Cli.previewJson preview)

theorem previewAgrees (command : Command) : command.PreviewAgrees := by
  refine ⟨fun error => ?_, fun key name => ?_, exists_plan_remove_iff,
    fun preview step shown planned => ?_⟩
  · rw [plan_eq_map_preview, Except.map_eq_error_iff]
  · rw [plan_eq_map_preview, Except.map_eq_ok_iff]
    simp only [CommandPreview.step_eq_remove_iff, exists_eq_right]
  · rw [plan_eq_map_preview, shown] at planned
    cases planned
    exact preview.step_shownIn

end Command

namespace Batch

variable {σ : Type} [PolicyStore (StateM σ)] {commands : List Command} {steps : List Step}
  {error : PolicyError}

/-- A batch whose commands all have steps fails only as the store does. -/
theorem store_fails_of_planned (planned : commands.mapM Command.plan = .ok steps)
    (mode : ApplyMode) (state : σ)
    {next : σ} (failed : runPlain (apply mode commands) state = (.error error, next)) :
    CallRun state (recorded (apply mode commands) state).calls (.error error) next := by
  obtain ⟨_, _, _, ran⟩ := exists_ran mode commands state
  obtain ⟨reported, rfl⟩ := Prod.mk.inj (ran.plain_apply.symm.trans failed)
  rcases (disciplined mode commands state).error error reported with
    made | ⟨-, front, command, later, taken, rfl, before, unresolved, -⟩
  · exact made
  · cases planned.symm.trans (Except.mapM_append_cons_error before unresolved)

/-- A prevalidated batch with a command that has no step asks nothing of the store. -/
theorem prevalidate_of_error (unplanned : commands.mapM Command.plan = .error error) (state : σ) :
    runPlain (apply .prevalidate commands) state = (.error error, state) ∧
      (recorded (apply .prevalidate commands) state).calls = [] := by
  rcases Except.mapM_ok_or_first_error Command.plan commands with
    ⟨steps, planned⟩ | ⟨front, command, later, steps, reason, rfl, planned, failed⟩
  · cases unplanned.symm.trans planned
  · cases unplanned.symm.trans (Except.mapM_append_cons_error planned failed)
    have ran := ran_prevalidate_of_fault planned failed later state
    rw [ran.plain_apply, ran.recorded_apply]
    exact ⟨rfl, rfl⟩

end Batch

/-- The subcommand that previews commands is a check of batches. The preview and the step of every
command agree, and commands have no previews if and only if they have no steps, for the same reason.
If they have previews, then these show the steps, and a batch of the commands on any store and in
either mode fails only as a call of the store does. If they have none, then a prevalidated batch on
any store fails for that reason and calls nothing. -/
theorem Cli.previews_check_batch (commands : List Command) :
    (∀ (σ : Type) [FileSystem (StateM σ)]
      (standardInput : StateM σ (Except FileFailure (List UInt8))) (source : CommandSource)
      (files after : σ), runPlain (source.commands standardInput) files = (.ok commands, after) →
      runPlain (runParse standardInput source) files =
        (commands.mapM Command.preview, after)) ∧
    (∀ command ∈ commands, command.PreviewAgrees) ∧
    (∀ error, commands.mapM Command.preview = .error error ↔
      commands.mapM Command.plan = .error error) ∧
    (∀ previews, commands.mapM Command.preview = .ok previews →
      (∃ steps, commands.mapM Command.plan = .ok steps ∧
        List.Forall₂ (fun preview step => step.ShownIn (previewJson preview)) previews steps) ∧
      ∀ (σ : Type) [PolicyStore (StateM σ)] (mode : ApplyMode) (state next : σ)
        (error : PolicyError), runPlain (apply mode commands) state = (.error error, next) →
        CallRun state (recorded (apply mode commands) state).calls (.error error) next) ∧
    (∀ error, commands.mapM Command.preview = .error error →
      ∀ (σ : Type) [PolicyStore (StateM σ)] (state : σ),
        runPlain (apply .prevalidate commands) state = (.error error, state) ∧
        (recorded (apply .prevalidate commands) state).calls = []) := by
  have same := Command.mapM_plan_eq_map_mapM_preview commands
  refine ⟨fun σ _ standardInput source files after read => ?_,
    fun command _ => command.previewAgrees, fun error => ?_, fun previews shown => ?_,
    fun error failed σ _ state => ?_⟩
  · rw [runParse, runPlain_bind, read]
    rfl
  · rw [same, Except.map_eq_error_iff]
  · rw [shown] at same
    refine ⟨⟨_, same, ?_⟩, fun σ _ mode state next error =>
      store_fails_of_planned same mode state⟩
    rw [List.forall₂_map_right_iff, List.forall₂_same]
    exact fun preview _ => preview.step_shownIn
  · rw [failed] at same
    exact prevalidate_of_error same state

theorem Cli.previews_check_batch_store_fails :
    let sound : List Command := [.set "K" "A" .none .hex "?", .set "\\" "B" .dword .text "10"]
    let faulty : List Command := sound ++ [.set "K" "C" .dword .text "1x", .delete "K" "A"]
    let source : CommandSource := { lines := ["K;A;0;;?", "\\;B;4:text;;10"], script := none }
    let store : MemoryStore := .ofTree .empty
    (∃ previews, sound.mapM Command.preview = .ok previews ∧
      runPlain (runParse (pure (.error .notFound)) source) Disk.empty = (.ok previews, .empty) ∧
      ∃ steps, sound.mapM Command.plan = .ok steps ∧
        List.Forall₂ (fun preview step => step.ShownIn (previewJson preview)) previews steps) ∧
    runPlain (apply .prevalidate sound) store = (.error (.invalidKeyPath "\\"), store) ∧
    CallRun store [.delete "K" "A", .set "\\" "B" (.dword 10)]
      (.error (.invalidKeyPath "\\")) store ∧
    faulty.mapM Command.preview = .error (.invalidInteger .dword "1x") ∧
    runPlain (apply .prevalidate faulty) store = (.error (.invalidInteger .dword "1x"), store) := by
  intro sound faulty source store
  obtain ⟨previewed, -, -, accepted, -⟩ := previews_check_batch sound
  obtain ⟨-, -, -, -, refused⟩ := previews_check_batch faulty
  have shown : sound.mapM Command.preview =
      .ok [.delete "K" "A", .set "\\" "B" .dword .text (.dword 10)] := by rfl
  have failed : faulty.mapM Command.preview = .error (.invalidInteger .dword "1x") := by rfl
  have ended : runPlain (apply .prevalidate sound) store =
      (.error (.invalidKeyPath "\\"), store) := by rfl
  obtain ⟨steps, store_fails⟩ := accepted _ shown
  have parsed := previewed Disk (pure (.error .notFound)) source .empty .empty (by rfl)
  rw [shown] at parsed
  exact ⟨⟨_, shown, parsed, steps⟩, ended, store_fails _ _ _ _ _ ended, failed,
    (refused _ failed MemoryStore store).1⟩

end GroupPolicy
