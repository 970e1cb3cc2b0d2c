import GroupPolicy.Files.Disk
import GroupPolicy.Proofs.Store.Trees

/-!
# The discipline of a batch

Whatever a store answers, the calls of a batch are those of its first commands, in order, up to the
first failure, and the store is saved once, at the end, if there was no failure: `Disciplined`. On a
store that holds a tree, a sequential batch that fails at a command leaves the tree that the
commands before it have made.
-/

namespace GroupPolicy.Batch

section Calls

variable {σ : Type} [PolicyStore (StateM σ)]

/-- Every command resolves, and the store accepts the call of each in its turn. -/
def Succeeds (commands : List Command) (state : σ) : Prop :=
  ∃ steps next, commands.mapM Command.plan = .ok steps ∧
    CallRun state (steps.map Step.call) (.ok ()) next

/-- The first command that does not resolve fails so, after the calls that the mode makes before. -/
def FailsToResolve (mode : ApplyMode) (commands : List Command) (calls : List StoreCall)
    (error : PolicyError) : Prop :=
  ∃ front command later steps, commands = front ++ command :: later ∧
    front.mapM Command.plan = .ok steps ∧ command.plan = .error error ∧
    calls = match mode with
      | .sequential => steps.map Step.call
      | .prevalidate => []

/-- What comes of a batch keeps to its commands. -/
structure Disciplined (mode : ApplyMode) (commands : List Command) (state : σ)
    (ran : Recorded σ) : Prop where
  /-- The calls are those of the first commands, in order, and a save comes only after all. -/
  calls : ∃ front later steps, commands = front ++ later ∧ front.mapM Command.plan = .ok steps ∧
    (ran.calls = steps.map Step.call ∨ later = [] ∧ ran.calls = steps.map Step.call ++ [.save])
  /-- No call is made after one that fails. -/
  stops : ∃ outcome, CallRun state ran.calls outcome ran.state
  /-- The store is saved once if every command succeeds. -/
  saves : Succeeds commands state → ran.calls.count .save = 1
  /-- The store is not saved otherwise. -/
  saves_not : ¬ Succeeds commands state → ran.calls.count .save = 0
  /-- The batch succeeds if all calls do and the save is among them. -/
  ok_iff : (∃ report, ran.result = .ok report) ↔
    .save ∈ ran.calls ∧ CallRun state ran.calls (.ok ()) ran.state
  /-- It fails as the first call or command that fails. -/
  error : ∀ error, ran.result = .error error →
    CallRun state ran.calls (.error error) ran.state ∨
      CallRun state ran.calls (.ok ()) ran.state ∧ FailsToResolve mode commands ran.calls error

variable {mode : ApplyMode} {commands front later : List Command} {steps : List Step}
  {state middle : σ} {calls : List StoreCall} {error : PolicyError}

theorem save_not_mem_of_prefix (within : calls <+: steps.map Step.call) : .save ∉ calls := by
  intro member
  obtain ⟨step, -, saves⟩ := List.mem_map.1 (within.subset member)
  exact step.call_ne_save saves

/-- Some of the first calls of commands are the calls of some of the first commands. -/
theorem exists_commands_of_prefix (planned : front.mapM Command.plan = .ok steps)
    (within : calls <+: steps.map Step.call) (later : List Command) :
    ∃ first rest taken, front ++ later = first ++ rest ∧ first.mapM Command.plan = .ok taken ∧
      calls = taken.map Step.call := by
  refine ⟨front.take calls.length, front.drop calls.length ++ later, steps.take calls.length,
    ?_, Except.mapM_take_eq_ok planned calls.length, ?_⟩
  · rw [← List.append_assoc, List.take_append_drop]
  · rw [List.map_take]
    exact List.prefix_iff_eq_take.1 within

/-- If the commands end without a failure, then a save follows. -/
theorem disciplined_of_success {report : ApplyReport}
    (planned : commands.mapM Command.plan = .ok steps)
    (made : CallRun state (steps.map Step.call) (.ok ()) middle) :
    Disciplined mode commands state (finish (.ok report) (steps.map Step.call) middle) := by
  have unsaved : StoreCall.save ∉ steps.map Step.call := save_not_mem_of_prefix List.prefix_rfl
  have succeeds : Succeeds commands state := ⟨steps, middle, planned, made⟩
  rcases answered : StoreCall.save.answer middle with ⟨saved, next⟩
  have whole : CallRun state (steps.map Step.call ++ [.save]) saved next :=
    made.append (.single answered)
  have ran : finish (.ok report) (steps.map Step.call) middle =
      ⟨steps.map Step.call ++ [.save], saved.map fun _ => report, next⟩ := by
    rw [finish, answered]
  rw [ran]
  refine ⟨⟨commands, [], steps, (List.append_nil _).symm, planned, Or.inr ⟨rfl, rfl⟩⟩,
    ⟨saved, whole⟩, fun _ => ?_, fun fails => absurd succeeds fails, ?_, ?_⟩
  · rw [List.count_append, List.count_eq_zero_of_not_mem unsaved]
    rfl
  · cases saved with
    | ok done => exact ⟨fun _ => ⟨List.mem_append_right _ (List.mem_singleton_self _), whole⟩,
        fun _ => ⟨report, rfl⟩⟩
    | error error =>
      constructor
      · rintro ⟨_, success⟩
        cases success
      · rintro ⟨-, success⟩
        exact absurd success (whole.not_ok_of_prefix List.prefix_rfl)
  · intro error failed
    cases saved with
    | ok done => cases failed
    | error reason =>
      cases failed
      exact Or.inl whole

/-- If a call fails, then the batch ends there. -/
theorem disciplined_of_failing_call (planned : front.mapM Command.plan = .ok steps)
    (made : CallRun state calls (.error error) middle) (within : calls <+: steps.map Step.call) :
    Disciplined mode (front ++ later) state (finish (.error error) calls middle) := by
  have unsaved : StoreCall.save ∉ calls := save_not_mem_of_prefix within
  have stopped : ¬ CallRun state calls (.ok ()) middle := made.not_ok_of_prefix List.prefix_rfl
  obtain ⟨first, rest, taken, whole, resolved, called⟩ :=
    exists_commands_of_prefix planned within later
  refine ⟨⟨first, rest, taken, whole, resolved, Or.inl called⟩,
    ⟨_, made⟩, ?_, fun _ => List.count_eq_zero_of_not_mem unsaved, ?_, ?_⟩
  · rintro ⟨others, next, whole, accepted⟩
    have longer : steps <+: others := Except.prefix_of_mapM_append planned whole
    have called : calls <+: others.map Step.call := within.trans (longer.map Step.call)
    exact absurd accepted (made.not_ok_of_prefix called)
  · constructor
    · rintro ⟨_, success⟩
      cases success
    · rintro ⟨-, success⟩
      exact absurd success stopped
  · intro reason failed
    cases failed
    exact Or.inl made

/-- If a command does not resolve, then the batch ends there. -/
theorem disciplined_of_unresolved (made : CallRun state calls (.ok ()) middle)
    (fails : FailsToResolve mode commands calls error) :
    Disciplined mode commands state (finish (.error error) calls middle) := by
  obtain ⟨front, command, later, steps, whole, planned, failed, called⟩ := fails
  have unplanned : ¬ Succeeds commands state := by
    rintro ⟨others, next, resolved, -⟩
    rw [whole, Except.mapM_append_cons_error planned failed] at resolved
    cases resolved
  have within : calls <+: steps.map Step.call := by
    rw [called]
    cases mode with
    | sequential => exact List.prefix_rfl
    | prevalidate => exact List.nil_prefix
  have unsaved : StoreCall.save ∉ calls := save_not_mem_of_prefix within
  obtain ⟨first, rest, taken, split, resolved, performed⟩ :=
    exists_commands_of_prefix planned within (command :: later)
  refine ⟨⟨first, rest, taken, whole.trans split, resolved, Or.inl performed⟩,
    ⟨_, made⟩, fun succeeds => absurd succeeds unplanned,
    fun _ => List.count_eq_zero_of_not_mem unsaved, ?_, ?_⟩
  · constructor
    · rintro ⟨_, success⟩
      cases success
    · rintro ⟨saved, -⟩
      exact absurd saved unsaved
  · intro reason stopped
    cases stopped
    exact Or.inr ⟨made, front, command, later, steps, whole, planned, failed, called⟩

/-- Every batch keeps to its commands, in either mode and on any store. -/
theorem disciplined (mode : ApplyMode) (commands : List Command) (state : σ) :
    Disciplined mode commands state (recorded (apply mode commands) state) := by
  rcases Except.mapM_ok_or_first_error Command.plan commands with
    ⟨steps, planned⟩ | ⟨front, command, later, steps, error, rfl, planned, failed⟩
  · obtain ⟨result, calls, middle, ran, made, within, all⟩ := ran_of_planned planned state
    rw [(ran mode).recorded_apply]
    cases result with
    | ok report =>
      obtain rfl := all report rfl
      exact disciplined_of_success planned made
    | error error =>
      have stopped : Disciplined mode (commands ++ []) state _ :=
        disciplined_of_failing_call planned made within
      rwa [List.append_nil] at stopped
  · cases mode with
    | prevalidate =>
      rw [(ran_prevalidate_of_fault planned failed later state).recorded_apply]
      exact disciplined_of_unresolved .nil ⟨front, command, later, steps, rfl, planned, failed, rfl⟩
    | sequential =>
      obtain ⟨calls, reason, next, ran, ended⟩ := ran_sequential_of_fault planned failed later state
      rw [ran.recorded_apply]
      rcases ended with ⟨made, called, rfl⟩ | ⟨made, within⟩
      · exact disciplined_of_unresolved made
          ⟨front, command, later, steps, rfl, planned, failed, called⟩
      · exact disciplined_of_failing_call planned made within

end Calls

/-! ## Stores that hold a tree -/

section Trees

variable {m : Type → Type} [Monad m] [LawfulMonad m] {S : Type} [PolicyStore (StateT S m)]
  {tree : S → RegistryTree} {kept : S → Prop}

/-- The commands of a sequential batch leave a store that holds a tree with the tree that the
commands before the first failing one have made, and the batch fails as that one does. -/
def StopsAtFailure (tree : S → RegistryTree) (store : S) (commands : List Command) : Prop :=
  ∃ result next,
    (run .sequential commands : ExceptT PolicyError (StateT S m) ApplyReport).run.run store =
      pure (result, next) ∧
    ∀ error, result = .error error →
      (apply .sequential commands : ExceptT PolicyError (StateT S m) ApplyReport).run.run store =
        pure (.error error, next) ∧
      ∃ front command later, commands = front ++ command :: later ∧
        (tree store).afterCommands front = .ok (tree next) ∧
        command.applyTo (tree next) = .error error

theorem stopsAtFailure_of_follows (follows : FollowsTree m tree kept) (store : S)
    (holds : kept store) (commands : List Command) :
    StopsAtFailure (m := m) tree store commands := by
  obtain ⟨result, next, ran, same, -⟩ := follows.run .sequential commands store holds
  refine ⟨result, next, ran, ?_⟩
  rintro error rfl
  constructor
  · exact run_bind_of_error ran _
  · rcases RegistryTree.runPlain_planAndExecuteAll {} commands (tree store) with
      ⟨total, last, whole, -⟩ | ⟨front, command, later, reason, last, whole, split, before, failed⟩
    · cases same.symm.trans whole
    · obtain ⟨sameError, rfl⟩ := Prod.mk.inj (same.symm.trans whole)
      cases sameError
      exact ⟨front, command, later, split, before, failed⟩

end Trees

/-! ## Batches in turn -/

/-- A batch that succeeds counts as one save of a store in memory, and one that fails as none. -/
theorem saves_apply (mode : ApplyMode) (commands : List Command) (store : MemoryStore) :
    (runPlain (apply mode commands) store).2.saves =
      store.saves + if (runPlain (apply mode commands) store).1.isOk then 1 else 0 := by
  have follows : FollowsTree Id MemoryStore.tree fun other => other.saves = store.saves :=
    MemoryStore.followsTree store.saves
  obtain ⟨result, middle, ran, -, unsaved⟩ := follows.run mode commands store rfl
  have started : runPlain (run mode commands) store = (result, middle) := ran
  rw [apply, runPlain_bind, started]
  cases result with
  | error error => exact unsaved
  | ok report =>
    have saved : runPlain (PolicyStore.save >>= fun _ => pure report) middle =
        (.ok report, { middle with saves := middle.saves + 1 }) := rfl
    simp only [saved, unsaved]
    rfl

/-- Applies batches to one store in memory, one after the other. -/
def applyInTurn (batches : List (ApplyMode × List Command)) :
    StateM MemoryStore (List (Except PolicyError ApplyReport)) :=
  batches.mapM fun batch => (apply batch.1 batch.2).run

theorem applyInTurn_cons (batch : ApplyMode × List Command)
    (batches : List (ApplyMode × List Command)) (store : MemoryStore) :
    (applyInTurn (batch :: batches)).run store =
      let first := runPlain (apply batch.1 batch.2) store
      let rest := (applyInTurn batches).run first.2
      (first.1 :: rest.1, rest.2) := by
  rw [applyInTurn, List.mapM_cons]
  rfl

theorem saves_applyInTurn (batches : List (ApplyMode × List Command)) (store : MemoryStore) :
    ((applyInTurn batches).run store).2.saves =
      store.saves + ((applyInTurn batches).run store).1.countP (·.isOk) := by
  induction batches generalizing store with
  | nil => rfl
  | cons batch batches ih =>
    rw [applyInTurn_cons]
    dsimp only
    rw [List.countP_cons, ih, saves_apply]
    omega

/-- The calls of a batch on any store keep to its commands. A sequential batch on a store in memory,
or on a writable one in a file, that fails at a command leaves the tree that the commands before
that one have made. Batches in turn on a store in memory count as many saves as succeed. -/
theorem batch_discipline :
    (∀ (σ : Type) [PolicyStore (StateM σ)] (mode : ApplyMode) (commands : List Command) (state : σ),
      Disciplined mode commands state (recorded (apply mode commands) state)) ∧
    (∀ (m : Type → Type) [Monad m] [LawfulMonad m] (store : MemoryStore) (commands : List Command),
      StopsAtFailure (m := m) MemoryStore.tree store commands) ∧
    (∀ (m : Type → Type) [Monad m] [LawfulMonad m] [FileSystem m] (store : FileStore)
      (commands : List Command), store.access = .readWrite →
      StopsAtFailure (m := m) FileStore.tree store commands) ∧
    (∀ (batches : List (ApplyMode × List Command)) (store : MemoryStore),
      ((applyInTurn batches).run store).2.saves =
        store.saves + ((applyInTurn batches).run store).1.countP (·.isOk)) := by
  refine ⟨fun σ _ => disciplined, fun m _ _ store => ?_, fun m _ _ _ store commands writable => ?_,
    saves_applyInTurn⟩
  · exact stopsAtFailure_of_follows (MemoryStore.followsTree store.saves) store rfl
  · have start : FileStore.ChangesFrom store.path store.tree store := ⟨rfl, writable, fun _ => rfl⟩
    exact stopsAtFailure_of_follows (FileStore.followsTree store.path store.tree) store start
      commands

theorem batch_discipline_halfway :
    let sound : List Command := [.set "K" "A" .string .text "x", .delete "J" ""]
    let halfway : List Command := sound ++ .delete "K" "\x00" :: sound
    let file : FileStore := { path := ⟨"p"⟩, access := .readWrite, tree := .empty, dirty := false }
    let batches : List (ApplyMode × List Command) :=
      [(.sequential, halfway), (.prevalidate, sound), (.sequential, [])]
    (recorded (apply .sequential []) (MemoryStore.ofTree .empty)).calls.count .save = 1 ∧
    file.access = .readWrite ∧
    StopsAtFailure (m := StateM Disk) FileStore.tree file halfway ∧
    (∃ error, (runPlain (apply .sequential halfway) (MemoryStore.ofTree .empty)).1 =
      .error error) ∧
    ((applyInTurn batches).run (.ofTree .empty)).2.saves = 2 := by
  intro sound halfway file batches
  obtain ⟨disciplined, -, inFile, counted⟩ := batch_discipline
  have nothing := disciplined MemoryStore .sequential [] (.ofTree .empty)
  have saved := counted batches (.ofTree .empty)
  have successes : ((applyInTurn batches).run (.ofTree .empty)).1.countP (·.isOk) = 2 := by rfl
  exact ⟨nothing.saves ⟨[], _, rfl, .nil⟩, rfl, inFile (StateM Disk) file halfway rfl, ⟨_, rfl⟩,
    saved.trans (congrArg _ successes)⟩

end GroupPolicy.Batch
