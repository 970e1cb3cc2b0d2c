import Mathlib.Data.List.Forall2

/-!
# Computations that succeed

What a composed computation that may fail has done when it gave a result: each of its parts gave
one, and the result is the last part's.
-/

namespace Except

variable {ε α β γ : Type}

theorem bind_eq_ok_iff {first : Except ε α} {second : α → Except ε β} {result : β} :
    first >>= second = .ok result ↔ ∃ value, first = .ok value ∧ second value = .ok result := by
  cases first with
  | error error =>
    exact ⟨nofun, fun ⟨_, success, _⟩ => nomatch success⟩
  | ok value =>
    refine ⟨fun success => ⟨value, rfl, success⟩, fun ⟨other, same, success⟩ => ?_⟩
    cases same
    exact success

theorem bind_eq_error_iff {first : Except ε α} {second : α → Except ε β} {error : ε} :
    first >>= second = .error error ↔
      first = .error error ∨ ∃ value, first = .ok value ∧ second value = .error error := by
  cases first with
  | error other => simp [bind, Except.bind]
  | ok value => simp [bind, Except.bind]

theorem map_eq_ok_iff {f : α → β} {result : Except ε α} {image : β} :
    result.map f = .ok image ↔ ∃ value, result = .ok value ∧ f value = image := by
  cases result with
  | error error => exact ⟨nofun, fun ⟨_, success, _⟩ => nomatch success⟩
  | ok value =>
    refine ⟨fun same => ⟨value, rfl, Except.ok.inj same⟩, fun ⟨other, same, image⟩ => ?_⟩
    cases same
    exact congrArg Except.ok image

theorem map_eq_error_iff {f : α → β} {result : Except ε α} {error : ε} :
    result.map f = .error error ↔ result = .error error := by
  cases result with
  | error other => exact ⟨fun same => congrArg Except.error (Except.error.inj same),
      fun same => congrArg Except.error (Except.error.inj same)⟩
  | ok value => exact ⟨nofun, nofun⟩

theorem mapM_eq_ok_iff {f : α → Except ε β} {xs : List α} {ys : List β} :
    xs.mapM f = .ok ys ↔ List.Forall₂ (fun x y => f x = .ok y) xs ys := by
  induction xs generalizing ys with
  | nil =>
    rw [List.mapM_nil, List.forall₂_nil_left_iff]
    exact ⟨fun success => by cases success; rfl, fun none => none ▸ rfl⟩
  | cons x xs ih =>
    rw [List.mapM_cons, bind_eq_ok_iff, List.forall₂_cons_left_iff]
    refine ⟨fun ⟨y, head, success⟩ => ?_, fun ⟨y, tail, head, others, whole⟩ => ?_⟩
    · obtain ⟨tail, others, done⟩ := bind_eq_ok_iff.1 success
      cases done
      exact ⟨y, tail, head, ih.1 others, rfl⟩
    · refine ⟨y, head, bind_eq_ok_iff.2 ⟨tail, ih.2 others, ?_⟩⟩
      rw [whole]
      rfl

/-- A function that gives a view of what another one gives does so on lists. -/
theorem mapM_eq_map_mapM {f : α → Except ε β} {g : α → Except ε γ} {view : β → γ}
    (same : ∀ x, g x = (f x).map view) (xs : List α) :
    xs.mapM g = (xs.mapM f).map (List.map view) := by
  induction xs with
  | nil => rfl
  | cons x xs ih =>
    rw [List.mapM_cons, List.mapM_cons, same, ih]
    cases f x with
    | error error => rfl
    | ok y =>
      cases xs.mapM f with
      | error error => rfl
      | ok ys => rfl

theorem mapM_take_eq_ok {f : α → Except ε β} {xs : List α} {ys : List β}
    (success : xs.mapM f = .ok ys) (count : Nat) : (xs.take count).mapM f = .ok (ys.take count) :=
  mapM_eq_ok_iff.2 (List.forall₂_take count (mapM_eq_ok_iff.1 success))

theorem prefix_of_mapM_append {f : α → Except ε β} {front later : List α} {ys zs : List β}
    (before : front.mapM f = .ok ys) (whole : (front ++ later).mapM f = .ok zs) : ys <+: zs := by
  rw [List.mapM_append, before, bind_eq_ok_iff] at whole
  obtain ⟨_, same, rest⟩ := whole
  cases same
  obtain ⟨others, -, done⟩ := bind_eq_ok_iff.1 rest
  cases done
  exact List.prefix_append _ others

theorem mapM_append_cons_error {f : α → Except ε β} {front later : List α} {x : α} {ys : List β}
    {error : ε} (before : front.mapM f = .ok ys) (failed : f x = .error error) :
    (front ++ x :: later).mapM f = .error error := by
  rw [List.mapM_append, before, List.mapM_cons, failed]
  rfl

/-- Either every element gives a result, or there is a first one that fails. -/
theorem mapM_ok_or_first_error (f : α → Except ε β) (xs : List α) :
    (∃ ys, xs.mapM f = .ok ys) ∨
      ∃ front x later ys error, xs = front ++ x :: later ∧ front.mapM f = .ok ys ∧
        f x = .error error := by
  induction xs with
  | nil => exact Or.inl ⟨[], rfl⟩
  | cons x xs ih =>
    cases head : f x with
    | error error => exact Or.inr ⟨[], x, xs, [], error, rfl, rfl, head⟩
    | ok y =>
      have prepend {zs : List α} {ys : List β} (tail : zs.mapM f = .ok ys) :
          (x :: zs).mapM f = .ok (y :: ys) := by
        rw [List.mapM_cons, head, show zs.mapM f = .ok ys from tail]
        rfl
      rcases ih with ⟨ys, tail⟩ | ⟨front, bad, later, ys, error, rfl, before, failed⟩
      · exact Or.inl ⟨y :: ys, prepend tail⟩
      · exact Or.inr ⟨x :: front, bad, later, y :: ys, error, rfl, prepend before, failed⟩

theorem forM_eq_ok_iff {f : α → Except ε Unit} {xs : List α} :
    xs.forM f = .ok () ↔ ∀ x ∈ xs, f x = .ok () := by
  induction xs with
  | nil => exact ⟨fun _ => nofun, fun _ => rfl⟩
  | cons x xs ih =>
    rw [List.forM, bind_eq_ok_iff, List.forall_mem_cons, ← ih]
    exact ⟨fun ⟨_, head, rest⟩ => ⟨head, rest⟩, fun ⟨head, rest⟩ => ⟨(), head, rest⟩⟩

end Except
