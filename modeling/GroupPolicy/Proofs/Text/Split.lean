import GroupPolicy.Text.Split
import Mathlib.Data.List.Basic

/-!
# Where lists are split

Splitting undoes the ways in which lists are put together, beyond what the library says of
`List.splitOn`. Lists with separators between them are split into the pieces of each
(`split_intercalate`), and a list whose elements were written out one by one is split where it was
before (`split_flatMap`).
-/

namespace GroupPolicy.Text

/-- Lists with a separator after each are lists with separators between them and one at the end. -/
theorem flatMap_terminated {α : Type} {lists : List (List α)} (nonempty : lists ≠ [])
    (separator : α) :
    lists.flatMap (· ++ [separator]) = [separator].intercalate lists ++ [separator] := by
  induction lists with
  | nil => exact absurd rfl nonempty
  | cons first rest ih =>
    cases rest with
    | nil => simp
    | cons second rest =>
      rw [List.flatMap_cons, ih (List.cons_ne_nil _ _), List.intercalate_cons_cons,
        List.append_assoc, List.append_assoc, List.append_assoc]

variable {α β : Type} [DecidableEq α] [DecidableEq β] {separator : α} {separator' : β}

theorem exists_split_cons_of_ne {x : α} (other : x ≠ separator) (xs : List α) :
    ∃ piece others, split separator xs = piece :: others ∧
      split separator (x :: xs) = (x :: piece) :: others := by
  refine ⟨_, _, rfl, ?_⟩
  simp only [split, pieces, if_neg other]

/-- If no piece is empty, then there is no separator at either end, and none after another. -/
theorem separators_apart {xs : List α} (nonempty : ∀ piece ∈ split separator xs, piece ≠ []) :
    xs.head? ≠ some separator ∧ xs.getLast? ≠ some separator ∧
      ¬ [separator, separator] <:+: xs := by
  simp only [split_eq_splitOn] at nonempty
  have whole {front back : List α} (shape : xs = front ++ separator :: back) :
      [] ∉ front.splitOn separator ∧ [] ∉ back.splitOn separator := by
    rw [shape, List.splitOn_append_cons_self] at nonempty
    exact ⟨fun empty => nonempty [] (List.mem_append_left _ empty) rfl,
      fun empty => nonempty [] (List.mem_append_right _ empty) rfl⟩
  have first : [] ∈ ([] : List α).splitOn separator := List.mem_singleton_self _
  refine ⟨fun leading => ?_, fun trailing => ?_, fun ⟨front, back, doubled⟩ => ?_⟩
  · obtain ⟨back, shape⟩ := List.head?_eq_some_iff.1 leading
    have atFront : xs = [] ++ separator :: back := shape
    exact (whole atFront).1 first
  · obtain ⟨front, shape⟩ := List.getLast?_eq_some_iff.1 trailing
    exact (whole shape).2 first
  · have shape : xs = front ++ separator :: separator :: back := by
      rw [← doubled, List.append_assoc]
      rfl
    refine (whole shape).2 ?_
    rw [← split_eq_splitOn, split_cons_self]
    exact List.mem_cons_self

/-- Only a separator in front leaves nothing for the first piece of a list. -/
theorem pieces_fst_eq_nil_iff {xs : List α} :
    (pieces separator xs).1 = [] ↔ xs = [] ∨ xs.head? = some separator := by
  cases xs with
  | nil => simp [pieces]
  | cons x xs =>
    simp only [pieces, List.head?_cons, Option.some.injEq, reduceCtorEq, false_or]
    split
    · rename_i same
      simp [same]
    · rename_i other
      simp [other]

/-- An empty piece after the first is at the end or between two separators. -/
theorem last_or_doubled_of_nil_mem {xs : List α} (empty : [] ∈ (pieces separator xs).2) :
    xs.getLast? = some separator ∨ [separator, separator] <:+: xs := by
  induction xs with
  | nil => simp [pieces] at empty
  | cons x xs ih =>
    have later (within : [] ∈ (pieces separator xs).2) :
        (x :: xs).getLast? = some separator ∨ [separator, separator] <:+: x :: xs := by
      refine (ih within).imp (fun last => ?_) List.infix_cons
      rw [List.getLast?_cons, last, Option.getD_some]
    simp only [pieces] at empty
    split at empty
    · rename_i same
      subst same
      rcases List.mem_cons.1 empty with first | within
      · rcases pieces_fst_eq_nil_iff.1 first.symm with rfl | leading
        · exact Or.inl rfl
        · obtain ⟨rest, rfl⟩ := List.head?_eq_some_iff.1 leading
          exact Or.inr ⟨[], rest, rfl⟩
      · exact later within
    · exact later empty

/-- No piece is empty exactly if the list has an element, and its separators are inside and apart
from each other. -/
theorem split_nonempty_iff {xs : List α} : (∀ piece ∈ split separator xs, piece ≠ []) ↔
    xs ≠ [] ∧ xs.head? ≠ some separator ∧ xs.getLast? ≠ some separator ∧
      ¬ [separator, separator] <:+: xs := by
  constructor
  · intro nonempty
    refine ⟨fun none => ?_, separators_apart nonempty⟩
    subst none
    exact nonempty [] (List.mem_singleton_self _) rfl
  · intro ⟨nonempty, leading, trailing, apart⟩ piece member empty
    subst empty
    rcases List.mem_cons.1 member with first | within
    · exact (pieces_fst_eq_nil_iff.1 first.symm).elim nonempty leading
    · exact (last_or_doubled_of_nil_mem within).elim trailing apart

theorem suffix_of_cut {xs after : List α} (found : (cut separator xs).2 = some after) :
    after <:+ xs := by
  induction xs with
  | nil => cases found
  | cons x xs ih =>
    rw [cut] at found
    split at found
    · cases found
      exact List.suffix_cons _ _
    · exact (ih found).trans (List.suffix_cons _ _)

/-- What comes before the cut holds no separator. -/
theorem not_mem_cut (separator : α) (xs : List α) : separator ∉ (cut separator xs).1 := by
  induction xs with
  | nil => exact List.not_mem_nil
  | cons x xs ih =>
    rw [cut]
    split
    · exact List.not_mem_nil
    · rename_i other
      exact List.not_mem_cons_of_ne_of_not_mem (Ne.symm other) ih

/-- A list has no separator, or it is cut at its first one. -/
theorem cut_cases (separator : α) (xs : List α) :
    (separator ∉ xs ∧ cut separator xs = (xs, none)) ∨
      ∃ before after, xs = before ++ separator :: after ∧ separator ∉ before ∧
        cut separator xs = (before, some after) := by
  by_cases present : separator ∈ xs
  · obtain ⟨before, after, rfl, absent⟩ := List.eq_append_cons_of_mem present
    exact Or.inr ⟨before, after, rfl, absent, cut_append_cons absent after⟩
  · exact Or.inl ⟨present, cut_of_not_mem present⟩

/-- What has no separator goes into the first piece. -/
theorem split_append_of_not_mem {front : List α} (absent : separator ∉ front) (xs : List α) :
    split separator (front ++ xs) =
      (front ++ (pieces separator xs).1) :: (pieces separator xs).2 := by
  induction front with
  | nil => rfl
  | cons x front ih =>
    rw [List.mem_cons, not_or] at absent
    obtain ⟨piece, others, shape, whole⟩ :=
      exists_split_cons_of_ne (Ne.symm absent.1) (front ++ xs)
    rw [ih absent.2, List.cons.injEq] at shape
    rw [List.cons_append, whole, ← shape.1, ← shape.2, List.cons_append]

/-- A list that is written out element by element is split where it was, if the separator and
nothing else is written as the other separator. -/
theorem split_flatMap {write : α → List β} (kept : write separator = [separator'])
    (free : ∀ x, x ≠ separator → separator' ∉ write x) (xs : List α) :
    split separator' (xs.flatMap write) = (split separator xs).map (·.flatMap write) := by
  induction xs with
  | nil => rfl
  | cons x xs ih =>
    by_cases same : x = separator
    · rw [List.flatMap_cons, same, kept, List.singleton_append, split_cons_self, split_cons_self,
        ih, List.map_cons, List.flatMap_nil]
    · obtain ⟨piece, others, shape, whole⟩ := exists_split_cons_of_ne same xs
      rw [shape, split, List.map_cons, List.cons.injEq] at ih
      rw [List.flatMap_cons, split_append_of_not_mem (free x same), whole, List.map_cons, ih.1,
        ih.2, List.flatMap_cons]

/-- Lists with separators between them are split into the pieces of each. -/
theorem split_intercalate {lists : List (List α)} (nonempty : lists ≠ []) :
    split separator ([separator].intercalate lists) = lists.flatMap (split separator) := by
  induction lists with
  | nil => exact absurd rfl nonempty
  | cons first rest ih =>
    cases rest with
    | nil => simp
    | cons second rest =>
      rw [List.intercalate_cons_cons, List.append_assoc, List.singleton_append, split_eq_splitOn,
        List.splitOn_append_cons_self, ← split_eq_splitOn, ← split_eq_splitOn,
        ih (List.cons_ne_nil _ _)]
      exact List.flatMap_cons.symm

/-- Lists without a separator in them are what is left when the separators between them are taken
out. -/
theorem filter_intercalate {lists : List (List α)}
    (free : ∀ xs ∈ lists, separator ∉ xs) :
    ([separator].intercalate lists).filter (· ≠ separator) = lists.flatten := by
  induction lists with
  | nil => rfl
  | cons first rest ih =>
    rw [List.forall_mem_cons] at free
    have kept : first.filter (· ≠ separator) = first := by
      rw [List.filter_eq_self]
      exact fun x member => decide_eq_true fun same => free.1 (same ▸ member)
    have removed : [separator].filter (· ≠ separator) = [] := by
      rw [List.filter_eq_nil_iff]
      exact fun x member other => of_decide_eq_true other (List.mem_singleton.1 member)
    cases rest with
    | nil => rw [List.intercalate_singleton, kept, List.flatten_singleton]
    | cons second rest =>
      rw [List.intercalate_cons_cons, List.filter_append, List.filter_append, ih free.2, kept,
        removed, List.append_nil]
      rfl

end GroupPolicy.Text
