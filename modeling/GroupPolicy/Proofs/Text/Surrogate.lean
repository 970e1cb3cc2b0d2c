import GroupPolicy.Proofs.Text.Utf16

/-!
# Surrogates outside pairs

Code units are refused exactly if a surrogate among them is part of no pair
(`decode?_eq_none_iff`). A lone surrogate is told by its two neighbours, wherever it stands, while
units are read from the front, a pair at a time. The two agree because pairs do not overlap: units
may be cut after anything but a high surrogate without parting a pair.
-/

namespace GroupPolicy.Text.Utf16

/-- Two units in a row make a surrogate pair. -/
def IsPair (high low : UInt16) : Prop :=
  isHigh high = true ∧ isLow low = true

/-- A unit between others is a surrogate that makes a pair with neither of its neighbours. -/
structure IsLone (before : List UInt16) (unit : UInt16) (after : List UInt16) : Prop where
  surrogate : isHigh unit = true ∨ isLow unit = true
  opensNone : ∀ next, after.head? = some next → ¬ IsPair unit next
  closesNone : ∀ previous, before.getLast? = some previous → ¬ IsPair previous unit

/-- Some unit is a surrogate that is part of no pair. -/
def HasLoneSurrogate (units : List UInt16) : Prop :=
  ∃ before unit after, units = before ++ unit :: after ∧ IsLone before unit after

variable {unit high low : UInt16} {left right units : List UInt16}

theorem isHigh_eq_false_of_isLow (isLow : isLow unit = true) : isHigh unit = false := by
  rw [isLow_iff] at isLow
  rw [← Bool.not_eq_true, isHigh_iff]
  omega

/-! ## Parts of units -/

theorem not_hasLoneSurrogate_nil : ¬ HasLoneSurrogate [] := by
  rintro ⟨before, unit, after, whole, -⟩
  exact List.append_ne_nil_of_right_ne_nil before (List.cons_ne_nil unit after) whole.symm

theorem not_hasLoneSurrogate_single (notHigh : isHigh unit = false) (notLow : isLow unit = false) :
    ¬ HasLoneSurrogate [unit] := by
  rintro ⟨before, lone, after, whole, isLone⟩
  cases before with
  | nil =>
    cases whole
    rcases isLone.surrogate with isHigh | isLow
    · cases notHigh.symm.trans isHigh
    · cases notLow.symm.trans isLow
  | cons first before => cases before <;> cases whole

theorem not_hasLoneSurrogate_pair (pair : IsPair high low) : ¬ HasLoneSurrogate [high, low] := by
  rintro ⟨before, unit, after, whole, lone⟩
  rcases before with _ | ⟨first, _ | ⟨second, before⟩⟩
  · cases whole
    exact lone.opensNone low rfl pair
  · cases whole
    exact lone.closesNone high rfl pair
  · cases before <;> cases whole

/-- A surrogate in front is lone if it opens no pair: it can close none. -/
theorem hasLoneSurrogate_cons {after : List UInt16}
    (surrogate : isHigh unit = true ∨ isLow unit = true)
    (opensNone : ∀ next, after.head? = some next → ¬ IsPair unit next) :
    HasLoneSurrogate (unit :: after) :=
  ⟨[], unit, after, rfl, surrogate, opensNone, by simp⟩

/-- A lone surrogate is lone within the part that it stands in. -/
theorem HasLoneSurrogate.of_append (whole : HasLoneSurrogate (left ++ right)) :
    HasLoneSurrogate left ∨ HasLoneSurrogate right := by
  obtain ⟨before, unit, after, parts, lone⟩ := whole
  rcases List.append_eq_append_iff.1 parts with ⟨middle, rfl, split⟩ | ⟨middle, split, rest⟩
  · refine Or.inr ⟨middle, unit, after, split, lone.surrogate, lone.opensNone, ?_⟩
    intro previous last
    exact lone.closesNone previous (by simp [List.getLast?_append, last])
  · cases middle with
    | nil =>
      rw [List.nil_append] at rest
      rw [← rest]
      exact Or.inr (hasLoneSurrogate_cons lone.surrogate lone.opensNone)
    | cons first middle =>
      cases rest
      refine Or.inl ⟨before, unit, middle, split, lone.surrogate, ?_, lone.closesNone⟩
      intro next head
      exact lone.opensNone next (by simp [List.head?_append, head])

/-- A lone surrogate stays lone behind other units of which the last opens no pair. -/
theorem HasLoneSurrogate.append_left (closed : ∀ last, left.getLast? = some last →
    isHigh last = false) (part : HasLoneSurrogate right) : HasLoneSurrogate (left ++ right) := by
  obtain ⟨before, unit, after, rfl, lone⟩ := part
  refine ⟨left ++ before, unit, after, (List.append_assoc ..).symm, lone.surrogate,
    lone.opensNone, fun previous last pair => ?_⟩
  cases nearest : before.getLast? with
  | some other =>
    rw [List.getLast?_append, nearest] at last
    exact lone.closesNone previous (nearest.trans last) pair
  | none =>
    rw [List.getLast?_append, nearest] at last
    exact Bool.false_ne_true ((closed previous last).symm.trans pair.1)

/-! ## Texts -/

/-- The units of a text have every surrogate in a pair. -/
theorem not_hasLoneSurrogate_encode (text : List Char) : ¬ HasLoneSurrogate (encode text) := by
  induction text with
  | nil => exact not_hasLoneSurrogate_nil
  | cons c text ih =>
    intro whole
    rw [encode_cons] at whole
    refine whole.of_append.elim (fun first => ?_) ih
    rcases ofChar_cases c with ⟨unit, single, -, notHigh, notLow⟩ |
      ⟨high, low, double, -, isHigh, isLow⟩
    · rw [single] at first
      exact not_hasLoneSurrogate_single notHigh notLow first
    · rw [double] at first
      exact not_hasLoneSurrogate_pair ⟨isHigh, isLow⟩ first

/-- Units that are refused have a surrogate that is part of no pair. -/
theorem hasLoneSurrogate_of_decode? (refused : decode? units = none) :
    HasLoneSurrogate units := by
  induction units using decode?.induct with
  | case1 => cases refused
  | case2 unit surrogate =>
    rw [Bool.or_eq_true] at surrogate
    exact hasLoneSurrogate_cons surrogate (by simp)
  | case3 unit single =>
    rw [decode?, if_neg single] at refused
    cases refused
  | case4 high low rest opens closes ih =>
    rw [decode?, if_pos opens, if_pos closes, Option.map_eq_none_iff] at refused
    have closed : ∀ last, [high, low].getLast? = some last → isHigh last = false := by
      intro last same
      cases same
      exact isHigh_eq_false_of_isLow closes
    exact (ih refused).append_left closed
  | case5 unit next rest opens unclosed =>
    refine hasLoneSurrogate_cons (Or.inl opens) fun other same pair => ?_
    cases same
    exact unclosed pair.2
  | case6 unit next rest notHigh closes =>
    exact hasLoneSurrogate_cons (Or.inr closes) fun _ _ pair => notHigh pair.1
  | case7 unit next rest notHigh notLow ih =>
    rw [decode?, if_neg notHigh, if_neg notLow, Option.map_eq_none_iff] at refused
    have closed : ∀ last, [unit].getLast? = some last → isHigh last = false := by
      intro last same
      cases same
      exact Bool.eq_false_iff.2 notHigh
    exact (ih refused).append_left closed

/-- Units are refused exactly if a surrogate among them is part of no pair. -/
theorem decode?_eq_none_iff : decode? units = none ↔ HasLoneSurrogate units := by
  refine ⟨hasLoneSurrogate_of_decode?, fun lone => ?_⟩
  cases read : decode? units with
  | none => rfl
  | some text =>
    rw [decode?_eq_some_iff.1 read] at lone
    exact absurd lone (not_hasLoneSurrogate_encode text)

instance (units : List UInt16) : Decidable (HasLoneSurrogate units) :=
  decidable_of_iff _ decode?_eq_none_iff

/-- Two surrogates in the wrong order are lone both. -/
example : HasLoneSurrogate [0xDE00, 0xD83D] ∧ ¬ HasLoneSurrogate [0xD83D, 0xDE00] := by decide

end GroupPolicy.Text.Utf16
