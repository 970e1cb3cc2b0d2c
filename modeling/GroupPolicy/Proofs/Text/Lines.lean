import GroupPolicy.Proofs.Text.Split

/-!
# Texts made of lines

`WrittenAs` puts a text together from lines, each with an ending of its own. The lines of a text are
those from which it was put together, but for an empty one without an ending (`lines_of_written`),
and every text is put together from its lines (`written_lines`).
-/

namespace GroupPolicy.Text

/-- How a text is made of lines: each ends in a line feed, or in a carriage return and a line feed,
and the last one may have no ending. A line that ends in a carriage return of its own cannot have a
line feed alone after it. -/
inductive WrittenAs : List Char → List (List Char) → Prop
  | empty : WrittenAs [] []
  | unended {line : List Char} : '\n' ∉ line → WrittenAs line [line]
  | feed {line text : List Char} {lines : List (List Char)} : '\n' ∉ line →
    line.getLast? ≠ some '\r' → WrittenAs text lines →
    WrittenAs (line ++ '\n' :: text) (line :: lines)
  | returnFeed {line text : List Char} {lines : List (List Char)} : '\n' ∉ line →
    WrittenAs text lines → WrittenAs (line ++ '\r' :: '\n' :: text) (line :: lines)

variable {line text : List Char} {lines : List (List Char)}

theorem WrittenAs.not_mem (written : WrittenAs text lines) (member : line ∈ lines) :
    '\n' ∉ line := by
  induction written with
  | empty => cases member
  | unended free =>
    rw [List.mem_singleton.1 member]
    exact free
  | feed free _ _ ih | returnFeed free _ ih =>
    rcases List.mem_cons.1 member with rfl | later
    · exact free
    · exact ih later

theorem stripReturn_concat (line : List Char) : stripReturn (line ++ ['\r']) = line := by
  simp [stripReturn]

theorem lines_append_feed (free : '\n' ∉ line) (text : List Char) :
    Text.lines (line ++ '\n' :: text) = stripReturn line :: Text.lines text := by
  obtain ⟨piece, others, shape⟩ := List.exists_cons_of_ne_nil (split_ne_nil '\n' text)
  rw [Text.lines, Text.lines, split_eq_splitOn, List.splitOn_append_cons_self,
    List.splitOn_eq_singleton free, ← split_eq_splitOn, shape]
  rfl

theorem lines_of_not_mem (free : '\n' ∉ line) :
    Text.lines line = if line.isEmpty then [] else [line] := by
  rw [Text.lines, split_eq_splitOn, List.splitOn_eq_singleton free]
  rfl

/-- The lines of a text are those of which it is made, but for an empty one without an ending. -/
theorem lines_of_written (written : WrittenAs text lines) :
    lines = Text.lines text ∨ lines = Text.lines text ++ [[]] := by
  -- Only an empty line at the very end leaves no trace in the text; the lines before it pass on
  -- which of the two it is.
  induction written with
  | empty => exact Or.inl rfl
  | @unended line free =>
    rw [lines_of_not_mem free]
    cases line with
    | nil => exact Or.inr rfl
    | cons c line => exact Or.inl rfl
  | @feed line text lines free ending _ ih =>
    have kept : stripReturn line = line := if_neg ending
    rw [lines_append_feed free, kept, List.cons_append, List.cons.injEq, List.cons.injEq]
    simpa using ih
  | @returnFeed line text lines free _ ih =>
    have free' : '\n' ∉ line ++ ['\r'] := by simpa using free
    have whole : line ++ '\r' :: '\n' :: text = (line ++ ['\r']) ++ '\n' :: text := by simp
    rw [whole, lines_append_feed free', stripReturn_concat, List.cons_append, List.cons.injEq,
      List.cons.injEq]
    simpa using ih

theorem written_linesOfPieces {pieces : List (List Char)} (nonempty : pieces ≠ [])
    (free : ∀ piece ∈ pieces, '\n' ∉ piece) :
    WrittenAs (['\n'].intercalate pieces) (linesOfPieces pieces) := by
  induction pieces with
  | nil => exact absurd rfl nonempty
  | cons line others ih =>
    rw [List.forall_mem_cons] at free
    cases others with
    | nil =>
      rw [List.intercalate_singleton, linesOfPieces]
      split
      · rename_i empty
        rw [List.isEmpty_iff.1 empty]
        exact .empty
      · exact .unended free.1
    | cons next others =>
      have rest := ih (List.cons_ne_nil next others) free.2
      rw [List.intercalate_cons_cons, List.append_assoc, List.singleton_append, linesOfPieces,
        stripReturn]
      split
      · rename_i ending
        obtain ⟨front, rfl⟩ := List.getLast?_eq_some_iff.1 ending
        rw [List.dropLast_concat, List.append_assoc]
        exact .returnFeed (fun member => free.1 (List.mem_append_left _ member)) rest
      · rename_i ending
        exact .feed free.1 ending rest

/-- Every text is made of its lines. -/
theorem written_lines (text : List Char) : WrittenAs text (Text.lines text) := by
  have written := written_linesOfPieces (split_ne_nil '\n' text) fun piece =>
    not_mem_of_mem_split
  rwa [split_eq_splitOn, List.intercalate_splitOn, ← split_eq_splitOn] at written

end GroupPolicy.Text
