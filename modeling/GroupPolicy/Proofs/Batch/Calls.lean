import GroupPolicy.Proofs.Batch.Planning
import GroupPolicy.Store.Recording

/-!
# The calls of a batch

A store is a state machine here: `PolicyStore (StateM σ)`, whose operations may fail in any state.
`CallRun state calls outcome next` says that calls were made in a row, up to the first that failed,
and `Batch.recorded` are the calls, the result and the last state of a batch on a recorded store.

* `Batch.executeAll_spec`: taking steps makes their calls in order, up to the first that fails.
* `Batch.Ran.recorded_apply`, `Batch.Ran.plain_apply`: what a batch comes to, once it is known what
  its commands come to.
-/

namespace GroupPolicy

/-- The call that takes a step. -/
def Step.call : Step → StoreCall
  | write key name value => .set key name value
  | remove key name => .delete key name

theorem Step.call_ne_save (step : Step) : step.call ≠ .save := by
  cases step <;> exact nofun

namespace StoreCall

/-- Makes a call, whether or not a value was there to be removed. -/
def perform {m : Type → Type} [Monad m] [PolicyStore m] :
    StoreCall → ExceptT PolicyError m Unit
  | set key name value => PolicyStore.setValue key name value
  | delete key name => do
    let _ ← PolicyStore.deleteValue key name
    return ()
  | save => PolicyStore.save

variable {σ : Type} [PolicyStore (StateM σ)]

/-- What a store answers to a call in a state, and its state after that. -/
def answer (call : StoreCall) (state : σ) : Except PolicyError Unit × σ :=
  (call.perform : ExceptT PolicyError (StateM σ) Unit).run.run state

end StoreCall

variable {σ : Type} [PolicyStore (StateM σ)]

/-- Calls are made in a row, and none after the first that fails. The outcome is its failure, if
there is one. -/
inductive CallRun : σ → List StoreCall → Except PolicyError Unit → σ → Prop
  | nil {state : σ} : CallRun state [] (.ok ()) state
  | failed {state next : σ} {call : StoreCall} {error : PolicyError} :
      call.answer state = (.error error, next) → CallRun state [call] (.error error) next
  | cons {state middle next : σ} {call : StoreCall} {calls : List StoreCall}
      {outcome : Except PolicyError Unit} :
      call.answer state = (.ok (), middle) → CallRun middle calls outcome next →
      CallRun state (call :: calls) outcome next

namespace CallRun

variable {state middle next : σ} {calls later : List StoreCall}
  {outcome : Except PolicyError Unit} {error : PolicyError}

theorem append (first : CallRun state calls (.ok ()) middle)
    (second : CallRun middle later outcome next) :
    CallRun state (calls ++ later) outcome next := by
  generalize ended : (Except.ok () : Except PolicyError Unit) = done at first
  induction first with
  | nil => exact second
  | failed _ => cases ended
  | cons answered _ ih => exact .cons answered (ih second ended)

theorem single {call : StoreCall} (answered : call.answer state = (outcome, next)) :
    CallRun state [call] outcome next := by
  cases outcome with
  | ok done => exact .cons answered .nil
  | error error => exact .failed answered

theorem ok_cons_iff {call : StoreCall} :
    CallRun state (call :: calls) (.ok ()) next ↔
      ∃ middle, call.answer state = (.ok (), middle) ∧ CallRun middle calls (.ok ()) next := by
  constructor
  · intro whole
    cases whole with
    | cons answered others => exact ⟨_, answered, others⟩
  · rintro ⟨middle, answered, others⟩
    exact .cons answered others

/-- Calls do not succeed in a row if some that come first fail. -/
theorem not_ok_of_prefix {others : List StoreCall}
    (failing : CallRun state calls (.error error) middle) (within : calls <+: others) :
    ¬ CallRun state others (.ok ()) next := by
  obtain ⟨later, rfl⟩ := within
  generalize stopped : Except.error error = ended at failing
  induction failing with
  | nil => cases stopped
  | failed answered =>
    rw [List.singleton_append, ok_cons_iff]
    rintro ⟨_, answered', _⟩
    cases answered.symm.trans answered'
  | cons answered _ ih =>
    rw [List.cons_append, ok_cons_iff]
    rintro ⟨_, answered', others⟩
    cases answered.symm.trans answered'
    exact ih stopped others

end CallRun

namespace Recording

variable {recording : Recording} {calls : List StoreCall}

/-- No change and no save is made to fail by the recording itself. -/
def Quiet (recording : Recording) : Prop :=
  recording.failAt = none ∧ recording.failSave = false

theorem quiet_new : Quiet {} := ⟨rfl, rfl⟩

/-- A recording after changes were written down. -/
def recordChanges (recording : Recording) (calls : List StoreCall) : Recording :=
  calls.foldl recordChange recording

theorem Quiet.recordChanges (quiet : recording.Quiet) : (recording.recordChanges calls).Quiet := by
  induction calls generalizing recording with
  | nil => exact quiet
  | cons call calls ih =>
    have first : (recording.recordChange call).Quiet := quiet
    exact ih first

theorem calls_recordChanges :
    (recording.recordChanges calls).calls = calls.reverse ++ recording.calls := by
  induction calls generalizing recording with
  | nil => rfl
  | cons call calls ih =>
    have others : (recording.recordChanges (call :: calls)).calls =
        calls.reverse ++ (recording.recordChange call).calls := ih
    rw [others, List.reverse_cons, List.append_assoc]
    rfl

end Recording

namespace Batch

/-- Runs a computation on a store. -/
def runPlain {α : Type} (action : ExceptT PolicyError (StateM σ) α) (state : σ) :
    Except PolicyError α × σ :=
  action.run.run state

/-- Runs a computation on a store behind a recording. -/
def runRecorded {α : Type} (action : ExceptT PolicyError (StateT Recording (StateM σ)) α)
    (recording : Recording) (state : σ) : (Except PolicyError α × Recording) × σ :=
  (action.run.run recording).run state

/-- What comes of a batch on a recorded store. -/
structure Recorded (σ : Type) where
  calls : List StoreCall
  result : Except PolicyError ApplyReport
  state : σ

/-- Runs a batch on a store that is recorded from now on. -/
def recorded (action : ExceptT PolicyError (StateT Recording (StateM σ)) ApplyReport) (state : σ) :
    Recorded σ :=
  let ((result, recording), next) := runRecorded action {} state
  { calls := recording.calls.reverse, result, state := next }

/-- Whether a computation failed, and how. -/
def outcome {α : Type} (result : Except PolicyError α) : Except PolicyError Unit :=
  result.map fun _ => ()

section Binding

variable {σ α β : Type} {recording : Recording} {state : σ}

theorem runRecorded_pure (value : α) :
    runRecorded (pure value) recording state = ((.ok value, recording), state) := rfl

theorem runPlain_bind (action : ExceptT PolicyError (StateM σ) α)
    (rest : α → ExceptT PolicyError (StateM σ) β) :
    runPlain (action >>= rest) state =
      match runPlain action state with
      | (.ok value, next) => runPlain (rest value) next
      | (.error error, next) => (.error error, next) := by
  show (ExceptT.bindCont rest (runPlain action state).1).run (runPlain action state).2 = _
  rcases runPlain action state with ⟨_ | _, _⟩
  · rfl
  · rfl

theorem runRecorded_bind (action : ExceptT PolicyError (StateT Recording (StateM σ)) α)
    (rest : α → ExceptT PolicyError (StateT Recording (StateM σ)) β) :
    runRecorded (action >>= rest) recording state =
      match runRecorded action recording state with
      | ((.ok value, after), next) => runRecorded (rest value) after next
      | ((.error error, after), next) => ((.error error, after), next) := by
  show (ExceptT.bindCont rest (runRecorded action recording state).1.1).run
    (runRecorded action recording state).1.2 (runRecorded action recording state).2 = _
  rcases runRecorded action recording state with ⟨⟨_ | _, _⟩, _⟩
  · rfl
  · rfl

end Binding

variable {recording : Recording} {report : ApplyReport} {state : σ} {steps : List Step}

/-- What a change answers is written down, and passed on. -/
theorem runRecorded_change {σ α : Type} {state : σ} (quiet : recording.Quiet) (call : StoreCall)
    (action : ExceptT PolicyError (StateM σ) α) :
    runRecorded (Recording.change call action) recording state =
      (((runPlain action state).1, recording.recordChange call), (runPlain action state).2) := by
  have unharmed : ¬ recording.failAt = some recording.changes := by
    rw [quiet.1]
    exact nofun
  have made : (Recording.change call action).run.run recording =
      action.run >>= fun result => pure (result, recording.recordChange call) :=
    if_neg unharmed
  rw [runRecorded, made]
  rfl

theorem runRecorded_save (quiet : recording.Quiet) :
    runRecorded PolicyStore.save recording state =
      (((runPlain PolicyStore.save state).1, recording.recordSave),
        (runPlain PolicyStore.save state).2) := by
  have unharmed : ¬ recording.failSave = true := by
    rw [quiet.2]
    exact nofun
  have made : (PolicyStore.save : ExceptT PolicyError (StateT Recording (StateM σ)) Unit).run.run
      recording = PolicyStore.save.run >>= fun result => pure (result, recording.recordSave) :=
    if_neg unharmed
  rw [runRecorded, made]
  rfl

/-- Taking a step makes its call, which is written down, and nothing else. -/
theorem execute_spec (report : ApplyReport) (step : Step) (state : σ) (quiet : recording.Quiet) :
    ∃ result next, step.call.answer state = (outcome result, next) ∧
      runPlain (execute report step) state = (result, next) ∧
      runRecorded (execute report step) recording state =
        ((result, recording.recordChange step.call), next) := by
  cases step with
  | write key name value =>
    have recorded : runRecorded (PolicyStore.setValue key name value) recording state = _ :=
      runRecorded_change quiet (.set key name value) (PolicyStore.setValue key name value)
    rcases answered : runPlain (PolicyStore.setValue key name value) state with ⟨error | done, next⟩
    · rw [answered] at recorded
      refine ⟨.error error, next, answered, ?_, ?_⟩
      · rw [execute, runPlain_bind, answered]
      · rw [execute, runRecorded_bind, recorded]
        rfl
    · rw [answered] at recorded
      refine ⟨.ok { report with set := report.set + 1 }, next, answered, ?_, ?_⟩
      · rw [execute, runPlain_bind, answered]
        rfl
      · rw [execute, runRecorded_bind, recorded]
        rfl
  | remove key name =>
    have recorded : runRecorded (PolicyStore.deleteValue key name) recording state = _ :=
      runRecorded_change quiet (.delete key name) (PolicyStore.deleteValue key name)
    have asked : (StoreCall.delete key name).answer state =
        (outcome (runPlain (PolicyStore.deleteValue key name) state).1,
          (runPlain (PolicyStore.deleteValue key name) state).2) := by
      show runPlain (PolicyStore.deleteValue key name >>= fun _ => pure ()) state = _
      rw [runPlain_bind]
      rcases runPlain (PolicyStore.deleteValue key name) state with ⟨_ | _, _⟩
      · rfl
      · rfl
    rcases answered : runPlain (PolicyStore.deleteValue key name) state with ⟨error | removed, next⟩
    · rw [answered] at recorded asked
      refine ⟨.error error, next, asked, ?_, ?_⟩
      · rw [execute, runPlain_bind, answered]
      · rw [execute, runRecorded_bind, recorded]
        rfl
    · rw [answered] at recorded asked
      refine ⟨.ok (if removed then { report with deleted := report.deleted + 1 }
        else { report with absent := report.absent + 1 }), next, asked, ?_, ?_⟩
      · rw [execute, runPlain_bind, answered]
        cases removed <;> rfl
      · rw [execute, runRecorded_bind, recorded]
        cases removed <;> rfl

/-- Taking steps makes their calls in order, up to the first that fails. -/
theorem executeAll_spec (report : ApplyReport) (steps : List Step) (state : σ)
    (quiet : recording.Quiet) :
    ∃ result calls next, CallRun state calls (outcome result) next ∧
      calls <+: steps.map Step.call ∧
      (∀ total, result = .ok total → calls = steps.map Step.call) ∧
      runPlain (executeAll report steps) state = (result, next) ∧
      runRecorded (executeAll report steps) recording state =
        ((result, recording.recordChanges calls), next) := by
  induction steps generalizing report state recording with
  | nil => exact ⟨.ok report, [], state, .nil, List.prefix_rfl, fun _ _ => rfl, rfl, rfl⟩
  | cons step steps ih =>
    obtain ⟨first, middle, answered, plain, recorded⟩ := execute_spec report step state quiet
    rw [List.map_cons, executeAll, executeAll, runPlain_bind, runRecorded_bind, plain, recorded]
    cases first with
    | error error =>
      refine ⟨.error error, [step.call], middle, .failed answered,
        List.prefix_append [step.call] (steps.map Step.call), ?_, rfl, rfl⟩
      intro total success
      cases success
    | ok counted =>
      have still : (recording.recordChange step.call).Quiet := quiet
      obtain ⟨result, calls, next, made, within, all, plain, recorded⟩ := ih counted middle still
      refine ⟨result, step.call :: calls, next, .cons answered made, ?_, ?_, plain, recorded⟩
      · exact List.cons_prefix_cons.2 ⟨rfl, within⟩
      · intro total success
        rw [all total success]

/-! ## Saving at the end -/

/-- What comes of a batch once its commands are done: the store is saved if none of them failed. -/
def finish (result : Except PolicyError ApplyReport) (calls : List StoreCall) (state : σ) :
    Recorded σ :=
  match result with
  | .ok report =>
    let (saved, next) := StoreCall.save.answer state
    { calls := calls ++ [.save], result := saved.map fun _ => report, state := next }
  | .error error => { calls, result := .error error, state }

/-- The commands of a batch make calls and end with a result in a state. -/
structure Ran (mode : ApplyMode) (commands : List Command) (state : σ)
    (result : Except PolicyError ApplyReport) (calls : List StoreCall) (middle : σ) : Prop where
  plain : runPlain (run mode commands) state = (result, middle)
  recorded : runRecorded (run mode commands) {} state =
    ((result, Recording.recordChanges {} calls), middle)

namespace Ran

variable {mode : ApplyMode} {commands : List Command} {calls : List StoreCall} {middle : σ}
  {result : Except PolicyError ApplyReport}

theorem recorded_apply (ran : Ran mode commands state result calls middle) :
    Batch.recorded (apply mode commands) state = finish result calls middle := by
  have written : (Recording.recordChanges {} calls).calls.reverse = calls := by
    rw [Recording.calls_recordChanges, List.append_nil, List.reverse_reverse]
  rw [Batch.recorded, apply, runRecorded_bind, ran.recorded]
  cases result with
  | error error => simp only [finish, written]
  | ok report =>
    have quiet : (Recording.recordChanges {} calls).Quiet := Recording.quiet_new.recordChanges
    have asked : StoreCall.save.answer middle = runPlain PolicyStore.save middle := rfl
    have saved : (Recording.recordChanges {} calls).recordSave.calls.reverse = calls ++ [.save] := by
      rw [Recording.recordSave, List.reverse_cons, written]
    simp only [runRecorded_bind, runRecorded_save quiet, finish, asked]
    rcases runPlain PolicyStore.save middle with ⟨error | done, next⟩
    · simp only [saved, Except.map]
    · simp only [runRecorded_pure, saved, Except.map]

/-- A recording changes neither the result of a batch nor the state of the store. -/
theorem plain_apply (ran : Ran mode commands state result calls middle) :
    runPlain (apply mode commands) state =
      ((Batch.recorded (apply mode commands) state).result,
        (Batch.recorded (apply mode commands) state).state) := by
  rw [ran.recorded_apply, apply, runPlain_bind, ran.plain]
  cases result with
  | error error => rfl
  | ok report =>
    have asked : StoreCall.save.answer middle = runPlain PolicyStore.save middle := rfl
    simp only [runPlain_bind, finish, asked]
    rcases runPlain PolicyStore.save middle with ⟨error | done, next⟩
    · rfl
    · rfl

end Ran

end Batch

end GroupPolicy
