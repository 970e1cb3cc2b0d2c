import GroupPolicy.Text.Lowercase
import Mathlib.Data.List.Basic

/-!
# Lowercase forms, character by character

The runs of letters and the runs of their lowercase forms do not meet, so a lowercase form is its
own (`lowercaseChar_of_mem`). A text can be lowered one character after the other
(`lowercaseEach`); what comes out is its own lowercase form (`lowercase_lowercaseEach`), and it is
the lowercase form of the whole text unless a capital sigma ends a word in it
(`lowercase_eq_lowercaseEach_iff`). Only `İ` makes a text longer (`length_lowercaseAfter`), and
characters such as NUL neither come nor go (`mem_lowercaseAfter_iff`).
-/

namespace GroupPolicy.Text

/-! ## Runs of letters and of lowercase forms -/

namespace CaseRun

variable {run other : CaseRun} {code : Nat}

/-- The lowercase form of a letter of a run. -/
def lowered (run : CaseRun) (code : Nat) : Nat :=
  run.lower + (code - run.first)

/-- The lowercase forms of one run lie outside of another run, or between its letters. -/
def misses (run other : CaseRun) : Bool :=
  Nat.blt (run.lowered run.last) other.first || Nat.blt other.last run.lower ||
    (other.step == 2 && (run.step == 2 || run.first == run.last) &&
      run.lower % 2 != other.first % 2)

theorem covers_iff :
    run.covers code = true ↔
      run.first ≤ code ∧ code ≤ run.last ∧ (code - run.first) % run.step = 0 := by
  simp [covers, and_assoc]

theorem not_covers_lowered (missed : run.misses other = true) (covered : run.covers code = true) :
    other.covers (run.lowered code) = false := by
  obtain ⟨first, last, inStep⟩ := covers_iff.1 covered
  simp only [misses, lowered, Bool.or_eq_true, Bool.and_eq_true, Nat.blt_eq, beq_iff_eq,
    bne_iff_ne] at missed
  rw [Bool.eq_false_iff, ne_eq, covers_iff, lowered]
  rintro ⟨otherFirst, otherLast, otherStep⟩
  rcases missed with (before | after) | ⟨⟨double, same | single⟩, parity⟩
  · omega
  · omega
  · rw [double] at otherStep
    rw [same] at inStep
    omega
  · rw [double] at otherStep
    omega

end CaseRun

/-- Every run of letters that have a lowercase form, with `İ` as a run of its own. -/
def capitalRuns : List CaseRun :=
  ⟨0x130, 0x130, 1, 0x69⟩ :: lowercaseRuns

theorem lowercaseRuns_miss_capitals :
    (lowercaseRuns.all fun run => capitalRuns.all fun other => run.misses other) = true := by
  decide +kernel

/-- The lowercase forms of a run are characters above `` ` ``. -/
theorem lowercaseRuns_bounds :
    (lowercaseRuns.all fun run => Nat.blt 0x60 run.lower &&
      (Nat.blt (run.lowered run.last) 0xD800 ||
        Nat.blt 0xDFFF run.lower && Nat.blt (run.lowered run.last) 0x110000)) = true := by
  decide +kernel

theorem CaseRun.toNat_lowered {run : CaseRun} {code : Nat} (listed : run ∈ lowercaseRuns)
    (covered : run.covers code = true) :
    (Char.ofNat (run.lowered code)).toNat = run.lowered code ∧ 0x60 < run.lowered code := by
  obtain ⟨first, last, -⟩ := covers_iff.1 covered
  have bounds := List.all_eq_true.1 lowercaseRuns_bounds run listed
  simp only [lowered, Bool.or_eq_true, Bool.and_eq_true, Nat.blt_eq] at bounds
  have valid : (run.lowered code).isValidChar := by
    rw [lowered, Nat.isValidChar]
    omega
  have above : 0x60 < run.lowered code := by
    rw [lowered]
    omega
  rw [Char.ofNat, dif_pos valid]
  exact ⟨rfl, above⟩

/-! ## Single characters -/

variable {c d : Char} {before text : List Char}

/-- What the lowercase form of a character can be. -/
theorem lowercaseChar_cases (c : Char) :
    lowercaseChar c = [c] ∨ lowercaseChar c = ['i', '\u0307'] ∨
      ∃ run ∈ lowercaseRuns, run.covers c.toNat = true ∧
        lowercaseChar c = [Char.ofNat (run.lowered c.toNat)] := by
  rw [lowercaseChar]
  split
  · exact Or.inr (Or.inl rfl)
  · split
    · rename_i run found
      split
      · rename_i covered
        exact Or.inr (Or.inr ⟨run, List.mem_of_find?_eq_some found, covered, rfl⟩)
      · exact Or.inl rfl
    · exact Or.inl rfl

theorem lowercaseChar_of_not_covered
    (free : ∀ run ∈ capitalRuns, run.covers c.toNat = false) : lowercaseChar c = [c] := by
  obtain ⟨undotted, free⟩ := List.forall_mem_cons.1 free
  have other : c.toNat ≠ 0x130 := fun same => by
    rw [same] at undotted
    cases undotted
  rw [lowercaseChar, if_neg other]
  split
  · rename_i run found
    rw [if_neg (by rw [free run (List.mem_of_find?_eq_some found)]; decide)]
  · rfl

/-- A character that came out of lowering stays as it is. -/
theorem lowercaseChar_of_mem (member : d ∈ lowercaseChar c) : lowercaseChar d = [d] := by
  rcases lowercaseChar_cases c with same | dotted | ⟨run, listed, covered, lowered⟩
  · rw [same, List.mem_singleton] at member
    rw [member, same]
  · rw [dotted] at member
    simp only [List.mem_cons, List.not_mem_nil, or_false] at member
    rcases member with rfl | rfl
    · decide
    · decide
  · rw [lowered, List.mem_singleton] at member
    refine lowercaseChar_of_not_covered fun other among => ?_
    have missed := List.all_eq_true.1
      (List.all_eq_true.1 lowercaseRuns_miss_capitals run listed) other among
    rw [member, (CaseRun.toNat_lowered listed covered).1]
    exact CaseRun.not_covers_lowered missed covered

/-- Lowering brings in no characters up to `` ` ``. -/
theorem eq_of_mem_lowercaseChar (member : d ∈ lowercaseChar c) (low : d.toNat ≤ 0x60) : d = c := by
  rcases lowercaseChar_cases c with same | dotted | ⟨run, listed, covered, lowered⟩
  · rwa [same, List.mem_singleton] at member
  · rw [dotted] at member
    simp only [List.mem_cons, List.not_mem_nil, or_false] at member
    rcases member with rfl | rfl
    · exact absurd low (by decide)
    · exact absurd low (by decide)
  · rw [lowered, List.mem_singleton] at member
    obtain ⟨code, above⟩ := CaseRun.toNat_lowered listed covered
    rw [member, code] at low
    omega

theorem lowercaseChar_ne_nil (c : Char) : lowercaseChar c ≠ [] := by
  rcases lowercaseChar_cases c with same | dotted | ⟨run, -, -, lowered⟩
  · simp [same]
  · simp [dotted]
  · simp [lowered]

/-! ## Texts -/

/-- A text in which every character is lowered on its own. -/
def lowercaseEach (text : List Char) : List Char :=
  text.flatMap lowercaseChar

/-- A capital sigma in the text after the given reversed text ends a word. -/
def SigmaEndsWord (before text : List Char) : Prop :=
  ∃ front after, text = front ++ 'Σ' :: after ∧
    startsCased (front.reverse ++ before) = true ∧ startsCased after = false

theorem sigmaEndsWord_cons :
    SigmaEndsWord before (c :: text) ↔
      (c = 'Σ' ∧ startsCased before = true ∧ startsCased text = false) ∨
        SigmaEndsWord (c :: before) text := by
  constructor
  · rintro ⟨front, after, shape, cased, last⟩
    cases front with
    | nil =>
      obtain ⟨rfl, rfl⟩ := List.cons.inj shape
      exact Or.inl ⟨rfl, cased, last⟩
    | cons x front =>
      obtain ⟨rfl, rfl⟩ := List.cons.inj shape
      rw [List.reverse_cons, List.append_assoc] at cased
      exact Or.inr ⟨front, after, rfl, cased, last⟩
  · rintro (⟨rfl, cased, last⟩ | ⟨front, after, rfl, cased, last⟩)
    · exact ⟨[], text, rfl, cased, last⟩
    · refine ⟨c :: front, after, rfl, ?_, last⟩
      rw [List.reverse_cons, List.append_assoc]
      exact cased

theorem lowercaseSigma_eq_iff {after : List Char} :
    lowercaseSigma before after = 'σ' ↔
      ¬ (startsCased before = true ∧ startsCased after = false) := by
  rw [lowercaseSigma]
  cases startsCased before <;> cases startsCased after <;> decide

theorem lowercaseAfter_eq_lowercaseEach_iff (before text : List Char) :
    lowercaseAfter before text = lowercaseEach text ↔ ¬ SigmaEndsWord before text := by
  induction text generalizing before with
  | nil => simp [lowercaseAfter, lowercaseEach, SigmaEndsWord]
  | cons c text ih =>
    have each : lowercaseEach (c :: text) = lowercaseChar c ++ lowercaseEach text :=
      List.flatMap_cons
    rw [sigmaEndsWord_cons, not_or, ← ih, lowercaseAfter, each]
    by_cases sigma : c = 'Σ'
    · subst sigma
      have alone : lowercaseChar 'Σ' = ['σ'] := by decide
      rw [if_pos rfl, alone, List.singleton_append, List.singleton_append, List.cons.injEq,
        lowercaseSigma_eq_iff, eq_self, true_and]
    · simp [sigma]

/-- The whole text and its characters have the same lowercase form unless a capital sigma ends a
word. -/
theorem lowercase_eq_lowercaseEach_iff :
    lowercase text = lowercaseEach text ↔ ¬ SigmaEndsWord [] text :=
  lowercaseAfter_eq_lowercaseEach_iff [] text

theorem lowercaseAfter_of_fixed (fixed : ∀ c ∈ text, lowercaseChar c = [c]) :
    lowercaseAfter before text = text := by
  induction text generalizing before with
  | nil => rfl
  | cons c text ih =>
    obtain ⟨first, fixed⟩ := List.forall_mem_cons.1 fixed
    have other : c ≠ 'Σ' := by
      rintro rfl
      exact absurd first (by decide)
    rw [lowercaseAfter, if_neg other, first, ih fixed, List.singleton_append]

/-- A text of lowered characters is its own lowercase form. -/
theorem lowercase_lowercaseEach (text : List Char) :
    lowercase (lowercaseEach text) = lowercaseEach text := by
  refine lowercaseAfter_of_fixed fun c member => ?_
  obtain ⟨_, -, lowered⟩ := List.mem_flatMap.1 member
  exact lowercaseChar_of_mem lowered

/-! ## What lowering does to whole texts -/

theorem length_lowercaseChar (c : Char) :
    (lowercaseChar c).length = if c = 'İ' then 2 else 1 := by
  have dotted : c.toNat = 0x130 ↔ c = 'İ' := Char.toNat_inj (d := 'İ')
  simp only [lowercaseChar, dotted]
  split
  · rfl
  · split
    · split
      · rfl
      · rfl
    · rfl

/-- A text grows by one character for each capital `İ` in it. -/
theorem length_lowercaseAfter (before text : List Char) :
    (lowercaseAfter before text).length = text.length + text.count 'İ' := by
  induction text generalizing before with
  | nil => rfl
  | cons c text ih =>
    have first : (if c = 'Σ' then [lowercaseSigma before text] else lowercaseChar c).length =
        if c = 'İ' then 2 else 1 := by
      split
      · rename_i sigma
        rw [sigma, List.length_singleton, if_neg (by decide)]
      · exact length_lowercaseChar c
    rw [lowercaseAfter, List.length_append, ih, first, List.length_cons, List.count_cons]
    by_cases dotted : c = 'İ'
    · rw [if_pos dotted, if_pos (beq_iff_eq.2 dotted)]
      omega
    · rw [if_neg dotted, if_neg (by rwa [beq_iff_eq])]
      omega

/-- A character up to `` ` `` that is its own lowercase form is in a lowered text if and only if it
is in the text. -/
theorem mem_lowercaseAfter_iff (low : d.toNat ≤ 0x60) (fixed : lowercaseChar d = [d])
    (before text : List Char) : d ∈ lowercaseAfter before text ↔ d ∈ text := by
  induction text generalizing before with
  | nil => rfl
  | cons c text ih =>
    have first : d ∈ (if c = 'Σ' then [lowercaseSigma before text] else lowercaseChar c) ↔
        d = c := by
      split
      · rename_i sigma
        subst sigma
        have above : 0x60 < (lowercaseSigma before text).toNat := by
          rw [lowercaseSigma]
          split
          · decide
          · decide
        rw [List.mem_singleton]
        exact ⟨fun same => absurd low (by rw [same]; omega),
          fun same => absurd low (by rw [same]; decide)⟩
      · refine ⟨fun member => eq_of_mem_lowercaseChar member low, fun same => ?_⟩
        rw [← same, fixed]
        exact List.mem_singleton_self d
    rw [lowercaseAfter, List.mem_append, ih, first, List.mem_cons]

end GroupPolicy.Text
