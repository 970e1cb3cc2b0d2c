import GroupPolicy.Naming
import GroupPolicy.Proofs.Success
import GroupPolicy.Proofs.Text.Split
import Mathlib.Data.List.DropRight

/-!
# Which names a registry accepts

`KeyPath.normalize_eq_ok_iff` and `ValueName.check_eq_ok_iff` say which names are accepted and as
what. An accepted path is accepted again as it is (`KeyPath.normalize_of_normalize`), so names that
came out of a registry can go back into one.
-/

namespace GroupPolicy

namespace Text

variable {α : Type} [DecidableEq α]

theorem head?_dropWhile_ne (separator : α) (xs : List α) :
    (xs.dropWhile (· = separator)).head? ≠ some separator := by
  intro same
  have first := List.head?_dropWhile_not (· = separator) xs
  rw [same] at first
  simp at first

theorem dropWhile_eq_self {separator : α} {xs : List α} (leading : xs.head? ≠ some separator) :
    xs.dropWhile (· = separator) = xs := by
  cases xs with
  | nil => rfl
  | cons x xs => exact List.dropWhile_cons_of_neg (by simpa using leading)

/-- A stripped list has no separator at either end. -/
theorem strip_ends (separator : α) (xs : List α) :
    (strip separator xs).head? ≠ some separator ∧
      (strip separator xs).getLast? ≠ some separator := by
  constructor
  · -- Stripping the end keeps the first element, and that is no separator.
    intro leading
    obtain ⟨rest, shape⟩ := List.head?_eq_some_iff.1 leading
    have ended : (xs.dropWhile (· = separator)).rdropWhile (· = separator) = separator :: rest :=
      shape
    obtain ⟨tail, whole⟩ := List.rdropWhile_prefix (· = separator) (xs.dropWhile (· = separator))
    have first := head?_dropWhile_ne separator xs
    rw [← whole, ended, List.cons_append, List.head?_cons] at first
    exact first rfl
  · rw [strip, List.getLast?_reverse]
    exact head?_dropWhile_ne separator _

/-- Nothing is left to strip from a stripped list. -/
theorem strip_strip (separator : α) (xs : List α) :
    strip separator (strip separator xs) = strip separator xs := by
  obtain ⟨leading, trailing⟩ := strip_ends separator xs
  rw [← List.head?_reverse] at trailing
  rw [strip, dropWhile_eq_self leading, dropWhile_eq_self trailing, List.reverse_reverse]

theorem strip_surrounded (separator : α) (leading trailing : Nat) (xs : List α) :
    strip separator (List.replicate leading separator ++ xs ++
      List.replicate trailing separator) = strip separator xs := by
  have front (count : Nat) (ys : List α) :
      (List.replicate count separator ++ ys).dropWhile (· = separator) =
        ys.dropWhile (· = separator) := by
    simp
  rw [List.append_assoc, strip, front, List.dropWhile_append]
  split
  · rename_i none
    rw [strip, List.isEmpty_iff.1 none]
    simp
  · rw [List.reverse_append, List.reverse_replicate, front, strip]

theorem exists_replicate_dropWhile (separator : α) (xs : List α) :
    ∃ count, xs = List.replicate count separator ++ xs.dropWhile (· = separator) := by
  induction xs with
  | nil => exact ⟨0, rfl⟩
  | cons x xs ih =>
    rw [List.dropWhile_cons]
    split
    · rename_i same
      obtain ⟨count, whole⟩ := ih
      refine ⟨count + 1, ?_⟩
      rw [of_decide_eq_true same, List.replicate_succ, List.cons_append, ← whole]
    · exact ⟨0, rfl⟩

/-- A list is its stripped form with separators around it. -/
theorem exists_surrounded (separator : α) (xs : List α) :
    ∃ leading trailing, xs = List.replicate leading separator ++ strip separator xs ++
      List.replicate trailing separator := by
  obtain ⟨leading, front⟩ := exists_replicate_dropWhile separator xs
  obtain ⟨trailing, back⟩ :=
    exists_replicate_dropWhile separator (xs.dropWhile (· = separator)).reverse
  rw [List.reverse_eq_iff, List.reverse_append, List.reverse_replicate] at back
  refine ⟨leading, trailing, ?_⟩
  rw [List.append_assoc, strip, ← back]
  exact front

theorem mem_of_mem_strip {separator x : α} {xs : List α} (member : x ∈ strip separator xs) :
    x ∈ xs := by
  have inner := (List.dropWhile_sublist _).subset (List.mem_reverse.1 member)
  exact (List.dropWhile_sublist _).subset (List.mem_reverse.1 inner)

theorem dropWhile_flatMap {separator : α} (write : α → List α)
    (kept : write separator = [separator]) (free : ∀ x, x ≠ separator → separator ∉ write x)
    (nonempty : ∀ x, write x ≠ []) (xs : List α) :
    (xs.flatMap write).dropWhile (· = separator) =
      (xs.dropWhile (· = separator)).flatMap write := by
  induction xs with
  | nil => rfl
  | cons x xs ih =>
    by_cases same : x = separator
    · simp [same, kept, ih]
    · obtain ⟨y, ys, written⟩ := List.exists_cons_of_ne_nil (nonempty x)
      have other : y ≠ separator := by
        have absent := free x same
        rw [written, List.mem_cons, not_or] at absent
        exact Ne.symm absent.1
      simp [same, written, other]

/-- A list that is written out element by element is stripped where it was, if the separator and
nothing else is written as the separator. -/
theorem strip_flatMap {separator : α} (write : α → List α)
    (kept : write separator = [separator]) (free : ∀ x, x ≠ separator → separator ∉ write x)
    (nonempty : ∀ x, write x ≠ []) (xs : List α) :
    strip separator (xs.flatMap write) = (strip separator xs).flatMap write := by
  have backwards : ∀ x, List.reverse (write x) ≠ [] := by simpa using nonempty
  rw [strip, strip, dropWhile_flatMap write kept free nonempty, List.reverse_flatMap,
    dropWhile_flatMap (List.reverse ∘ write) (by simp [kept]) (by simpa using free) backwards,
    List.reverse_flatMap]
  simp [Function.comp_def]

end Text

namespace KeyPath

/-- A key path without the backslashes at either end. -/
def stripped (key : String) : String :=
  String.ofList (Text.strip '\\' key.toList)

/-- What a key path has to be, once the backslashes at either end are gone. -/
structure Accepted (path : String) : Prop where
  nonempty : path.toList ≠ []
  nulFree : '\x00' ∉ path.toList
  segments : ∀ segment ∈ Text.split '\\' path.toList,
    segment ≠ [] ∧ segment.length ≤ NamePart.keySegment.maxLength

theorem stripped_stripped (key : String) : stripped (stripped key) = stripped key := by
  rw [stripped, stripped, String.toList_ofList, Text.strip_strip]

theorem checkSegment_eq_ok_iff {path : String} {segment : List Char} :
    checkSegment path segment = .ok () ↔
      segment ≠ [] ∧ segment.length ≤ NamePart.keySegment.maxLength := by
  rw [checkSegment]
  by_cases empty : segment = []
  · rw [if_pos (List.isEmpty_iff.2 empty)]
    exact ⟨nofun, fun accepted => absurd empty accepted.1⟩
  · rw [if_neg (by rwa [List.isEmpty_iff])]
    by_cases long : NamePart.keySegment.maxLength < segment.length
    · rw [if_pos long]
      exact ⟨nofun, fun accepted => absurd accepted.2 (Nat.not_le.2 long)⟩
    · rw [if_neg long]
      exact ⟨fun _ => ⟨empty, Nat.not_lt.1 long⟩, fun _ => rfl⟩

theorem normalize_eq_ok_iff {key path : String} :
    normalize key = .ok path ↔ path = stripped key ∧ Accepted path := by
  have segments_iff :
      (Text.split '\\' (Text.strip '\\' key.toList)).forM (checkSegment key) = .ok () ↔
        ∀ segment ∈ Text.split '\\' (Text.strip '\\' key.toList),
          segment ≠ [] ∧ segment.length ≤ NamePart.keySegment.maxLength := by
    simp only [Except.forM_eq_ok_iff, checkSegment_eq_ok_iff]
  have toList_stripped : (stripped key).toList = Text.strip '\\' key.toList :=
    String.toList_ofList
  rw [normalize]
  by_cases refused : ((Text.strip '\\' key.toList).isEmpty ||
      (Text.strip '\\' key.toList).contains '\x00') = true
  · rw [if_pos refused]
    refine ⟨nofun, fun ⟨same, accepted⟩ => ?_⟩
    subst same
    have nonempty := accepted.nonempty
    have nulFree := accepted.nulFree
    rw [toList_stripped] at nonempty nulFree
    rw [Bool.or_eq_true, List.isEmpty_iff, List.contains_iff_mem] at refused
    exact (refused.elim nonempty nulFree).elim
  · rw [if_neg refused, Except.bind_eq_ok_iff]
    rw [Bool.or_eq_true, List.isEmpty_iff, List.contains_iff_mem, not_or] at refused
    refine ⟨fun ⟨_, checked, done⟩ => ?_, fun ⟨same, accepted⟩ => ?_⟩
    · cases done
      refine ⟨rfl, ?_, ?_, ?_⟩
      · rw [String.toList_ofList]
        exact refused.1
      · rw [String.toList_ofList]
        exact refused.2
      · rw [String.toList_ofList]
        exact segments_iff.1 checked
    · subst same
      have segments := accepted.segments
      rw [toList_stripped] at segments
      exact ⟨(), segments_iff.2 segments, rfl⟩

/-- An accepted path is accepted again, as it is. -/
theorem normalize_of_normalize {key path : String} (accepted : normalize key = .ok path) :
    normalize path = .ok path := by
  obtain ⟨rfl, valid⟩ := normalize_eq_ok_iff.1 accepted
  exact normalize_eq_ok_iff.2 ⟨(stripped_stripped key).symm, valid⟩

/-- What a key path looks like once it is accepted: it has a character and no NUL, its backslashes
are inside and apart from each other, and what they separate is not too long. -/
structure Clean (path : String) : Prop where
  nonempty : path ≠ ""
  nulFree : '\x00' ∉ path.toList
  noLeading : path.toList.head? ≠ some '\\'
  noTrailing : path.toList.getLast? ≠ some '\\'
  noDoubled : ¬ ['\\', '\\'] <:+: path.toList
  short : ∀ segment ∈ Text.split '\\' path.toList, segment.length ≤ 255

theorem clean_of_normalize {key path : String} (accepted : normalize key = .ok path) :
    Clean path := by
  obtain ⟨-, valid⟩ := normalize_eq_ok_iff.1 accepted
  obtain ⟨leading, trailing, doubled⟩ :=
    Text.separators_apart fun segment member => (valid.segments segment member).1
  exact ⟨fun empty => valid.nonempty (congrArg String.toList empty), valid.nulFree, leading,
    trailing, doubled, fun segment member => (valid.segments segment member).2⟩

theorem nulFree_of_normalize {key path : String} (accepted : normalize key = .ok path) :
    '\x00' ∉ path.toList :=
  (normalize_eq_ok_iff.1 accepted).2.nulFree

end KeyPath

namespace ValueName

theorem check_eq_ok_iff {name : String} :
    check name = .ok () ↔
      '\x00' ∉ name.toList ∧ name.toList.length ≤ NamePart.valueName.maxLength := by
  rw [check]
  by_cases nul : '\x00' ∈ name.toList
  · rw [if_pos (List.contains_iff_mem.2 nul)]
    exact ⟨nofun, fun accepted => absurd nul accepted.1⟩
  · rw [if_neg (by rwa [List.contains_iff_mem])]
    by_cases long : NamePart.valueName.maxLength < name.toList.length
    · rw [if_pos long]
      exact ⟨nofun, fun accepted => absurd accepted.2 (Nat.not_le.2 long)⟩
    · rw [if_neg long]
      exact ⟨fun _ => ⟨nul, Nat.not_lt.1 long⟩, fun _ => rfl⟩

end ValueName

end GroupPolicy
