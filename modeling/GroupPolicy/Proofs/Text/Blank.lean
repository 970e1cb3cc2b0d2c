import GroupPolicy.Text.Blank
import Mathlib.Data.List.DropRight

/-!
# What is left of a text without the blanks around it

Blanks around a text do not change what trimming leaves of it (`trim_of_blanks`), and what it leaves
is the one part of the text with blanks around it that neither starts nor ends with one
(`trim_eq_iff`).
-/

namespace GroupPolicy.Text

variable {text inner before after : List Char}

/-- The part of a text that has only blanks around it, and none at its own ends. -/
def TrimsTo (text inner : List Char) : Prop :=
  ∃ before after, text = before ++ inner ++ after ∧
    (∀ c ∈ before, isBlank c = true) ∧ (∀ c ∈ after, isBlank c = true) ∧
    (∀ c ∈ inner.head?, isBlank c = false) ∧ ∀ c ∈ inner.getLast?, isBlank c = false

theorem trimStart_of_blanks (blank : ∀ c ∈ before, isBlank c = true) (text : List Char) :
    trimStart (before ++ text) = trimStart text :=
  List.dropWhile_append_of_pos blank

theorem trimEnd_of_blanks (blank : ∀ c ∈ after, isBlank c = true) (text : List Char) :
    trimEnd (text ++ after) = trimEnd text := by
  rw [trimEnd, List.reverse_append, List.dropWhile_append_of_pos (by simpa using blank), trimEnd]

theorem trim_of_blanks (first : ∀ c ∈ before, isBlank c = true)
    (last : ∀ c ∈ after, isBlank c = true) (text : List Char) :
    trim (before ++ text ++ after) = trim text := by
  rw [trim, trim, List.append_assoc, trimStart_of_blanks first, trimStart, trimStart,
    List.dropWhile_append]
  split
  · rename_i empty
    rw [List.dropWhile_eq_nil_iff.2 last, List.isEmpty_iff.1 empty]
  · exact trimEnd_of_blanks last _

/-- Changing characters without touching blanks changes what is trimmed in the same way. -/
theorem trim_map {f : Char → Char} (kept : ∀ c, isBlank (f c) = isBlank c) (text : List Char) :
    trim (text.map f) = (trim text).map f := by
  have same : isBlank ∘ f = isBlank := funext kept
  simp only [trim, trimEnd, trimStart, List.dropWhile_map, ← List.map_reverse, same]

/-- Trimming leaves the part that has only blanks around it. -/
theorem trim_eq_iff : trim text = inner ↔ TrimsTo text inner := by
  constructor
  · rintro rfl
    refine ⟨text.takeWhile isBlank, (trimStart text).rtakeWhile isBlank, ?_, ?_, ?_, ?_, ?_⟩
    · have whole : trim text ++ (trimStart text).rtakeWhile isBlank = trimStart text :=
        List.rdropWhile_append_rtakeWhile
      rw [List.append_assoc, whole, trimStart, List.takeWhile_append_dropWhile]
    · intro c member
      exact List.mem_takeWhile_imp member
    · intro c member
      exact List.mem_takeWhile_imp (List.mem_reverse.1 member)
    · intro c first
      obtain ⟨rest, whole⟩ := List.rdropWhile_prefix isBlank (trimStart text)
      have start := List.head?_dropWhile_not isBlank text
      have shape : (text.dropWhile isBlank).head? = some c := by
        rw [← trimStart, ← whole, List.head?_append]
        exact Option.or_eq_some_iff.2 (Or.inl first)
      rw [shape] at start
      simpa using start
    · intro c last
      have finish := List.head?_dropWhile_not isBlank (trimStart text).reverse
      rw [trim, trimEnd, List.getLast?_reverse, Option.mem_def] at last
      rw [last] at finish
      simpa using finish
  · rintro ⟨before, after, rfl, blankBefore, blankAfter, first, last⟩
    rw [trim_of_blanks blankBefore blankAfter, trim_eq_self first last]

end GroupPolicy.Text
