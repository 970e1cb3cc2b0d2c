import GroupPolicy.Text.CharRanges

/-!
# Blank characters

The characters with the White_Space property, and texts without the blank characters at their ends.
-/

namespace GroupPolicy.Text

/-- The code points with the White_Space property. -/
def blankRanges : CharRanges :=
  [(0x9, 0xD), (0x20, 0x20), (0x85, 0x85), (0xA0, 0xA0), (0x1680, 0x1680), (0x2000, 0x200A),
   (0x2028, 0x2029), (0x202F, 0x202F), (0x205F, 0x205F), (0x3000, 0x3000)]

/-- Whether a character is blank. -/
def isBlank (c : Char) : Bool :=
  blankRanges.contains c

/-- A text without its leading blank characters. -/
def trimStart (text : List Char) : List Char :=
  text.dropWhile isBlank

/-- A text without its trailing blank characters. -/
def trimEnd (text : List Char) : List Char :=
  (text.reverse.dropWhile isBlank).reverse

/-- A text without the blank characters at either end. -/
def trim (text : List Char) : List Char :=
  trimEnd (trimStart text)

/-- A text that starts and ends with visible characters is its own trimmed form. -/
theorem trim_eq_self {text : List Char}
    (first : ∀ c ∈ text.head?, isBlank c = false)
    (last : ∀ c ∈ text.getLast?, isBlank c = false) : trim text = text := by
  have start : trimStart text = text := by
    cases text with
    | nil => rfl
    | cons c rest => simp [trimStart, first c (by simp)]
  rw [trim, start, trimEnd]
  cases reversed : text.reverse with
  | nil => simpa using congrArg List.reverse reversed
  | cons c rest =>
    have blank : isBlank c = false := last c (by simp [List.getLast?_eq_head?_reverse, reversed])
    rw [List.dropWhile_cons, blank, ← reversed]
    simp

end GroupPolicy.Text
