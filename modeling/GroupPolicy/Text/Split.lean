/-!
# Cutting lists at separators

A list is cut at its first separator, split at every one, or broken into lines. Splitting is what
`List.splitOn` does (`split_eq_splitOn`), so the laws of that function hold of the pieces.
-/

namespace GroupPolicy.Text

variable {α : Type} [DecidableEq α]

/-- What comes before the first separator, and what follows it if there is one. -/
def cut (separator : α) : List α → List α × Option (List α)
  | [] => ([], none)
  | x :: rest =>
    if x = separator then ([], some rest)
    else
      let (before, after) := cut separator rest
      (x :: before, after)

/-- The piece before the first separator, and the pieces after it. -/
def pieces (separator : α) : List α → List α × List (List α)
  | [] => ([], [])
  | x :: rest =>
    let (piece, others) := pieces separator rest
    if x = separator then ([], piece :: others) else (x :: piece, others)

/-- The pieces between separators; there is always one more than there are separators. -/
def split (separator : α) (xs : List α) : List (List α) :=
  let (piece, others) := pieces separator xs
  piece :: others

/-- A list without the separators at either end. -/
def strip (separator : α) (xs : List α) : List α :=
  ((xs.dropWhile (· = separator)).reverse.dropWhile (· = separator)).reverse

/-- A line without a carriage return at its end. -/
def stripReturn (line : List Char) : List Char :=
  if line.getLast? = some '\r' then line.dropLast else line

/-- The lines in pieces that line feeds separated: a carriage return goes with the line feed after
it, and nothing after the last line feed is no line. -/
def linesOfPieces : List (List Char) → List (List Char)
  | [] => []
  | [last] => if last.isEmpty then [] else [last]
  | line :: next :: others => stripReturn line :: linesOfPieces (next :: others)

/-- The lines of a text, which end in a line feed or in a carriage return and a line feed. -/
def lines (text : List Char) : List (List Char) :=
  linesOfPieces (split '\n' text)

/-- Splitting never gives an empty list of pieces. -/
@[simp] theorem split_ne_nil (separator : α) (xs : List α) : split separator xs ≠ [] := by
  simp [split]

/-- The empty list is one empty piece. -/
@[simp] theorem split_nil (separator : α) : split separator ([] : List α) = [[]] := rfl

/-- A separator in front adds an empty piece. -/
@[simp] theorem split_cons_self (separator : α) (xs : List α) :
    split separator (separator :: xs) = [] :: split separator xs := by
  simp [split, pieces]

/-- A list is split into the pieces that the library splits it into. -/
theorem split_eq_splitOn (separator : α) (xs : List α) :
    split separator xs = xs.splitOn separator := by
  induction xs with
  | nil => rfl
  | cons x rest ih =>
    rw [List.splitOn_cons_eq_if_modifyHead, ← ih]
    by_cases same : x = separator
    · rw [if_pos (beq_iff_eq.2 same), same, split_cons_self]
    · rw [if_neg (mt beq_iff_eq.1 same), split, split, pieces, List.modifyHead_cons]
      simp only [same, if_false]

/-- No piece contains the separator. -/
theorem not_mem_of_mem_split {separator : α} {xs piece : List α}
    (member : piece ∈ split separator xs) : separator ∉ piece := by
  induction xs generalizing piece with
  | nil =>
    rw [List.mem_singleton.1 member]
    exact List.not_mem_nil
  | cons x rest ih =>
    by_cases same : x = separator
    · subst same
      rcases List.mem_cons.1 (split_cons_self x rest ▸ member) with rfl | later
      · simp
      · exact ih later
    · simp only [split, pieces, same, if_false, List.mem_cons] at member ih
      rcases member with rfl | later
      · simpa [Ne.symm same] using ih (Or.inl rfl)
      · exact ih (Or.inr later)

/-- A list without separators is cut at its end. -/
theorem cut_of_not_mem {separator : α} {xs : List α} (absent : separator ∉ xs) :
    cut separator xs = (xs, none) := by
  induction xs with
  | nil => rfl
  | cons x rest ih =>
    have head : x ≠ separator := fun same => absent (by simp [same])
    simp [cut, head, ih fun member => absent (by simp [member])]

/-- A list is cut at the first separator in it. -/
theorem cut_append_cons {separator : α} {before : List α} (absent : separator ∉ before)
    (after : List α) : cut separator (before ++ separator :: after) = (before, some after) := by
  induction before with
  | nil => simp [cut]
  | cons x rest ih =>
    have head : x ≠ separator := fun same => absent (by simp [same])
    simp [cut, head, ih fun member => absent (by simp [member])]

end GroupPolicy.Text
