import GroupPolicy.Hex
import GroupPolicy.Proofs.Text.Blank
import GroupPolicy.Proofs.Text.Split
import Mathlib.Data.List.TakeWhile

/-!
# Hex text is read exactly

The hex text of bytes, without its dashes, is the digits of the bytes (`clean_encode`), and so the
bytes are read back from it (`decode_encode`). `Spells` says which digits write bytes out, and
`DecodesTo` gives every text its result: the bytes that its digits spell, or the first reason why
they spell none (`hex_text_decodes_exactly`). Dashes, outer blanks and the case of digits do not
count.
-/

namespace GroupPolicy

namespace Hex

/-- The digit of a number is a digit, and neither a dash nor blank. -/
theorem digit_spec : ∀ number < 16, isDigit (digit number) = true ∧ digit number ≠ '-' ∧
    Text.isBlank (digit number) = false := by
  decide

theorem spec_of_mem_ofByte {byte : UInt8} {c : Char} (member : c ∈ ofByte byte) :
    isDigit c = true ∧ c ≠ '-' ∧ Text.isBlank c = false := by
  have small := byte.toNat_lt
  rcases List.mem_pair.1 member with rfl | rfl
  · exact digit_spec _ (by omega)
  · exact digit_spec _ (by omega)

theorem spec_of_mem_pairs {bytes : List UInt8} {c : Char} (member : c ∈ pairs bytes) :
    isDigit c = true ∧ c ≠ '-' ∧ Text.isBlank c = false := by
  obtain ⟨byte, -, among⟩ := List.mem_flatMap.1 member
  exact spec_of_mem_ofByte among

/-- Without its dashes, the hex text of bytes is their digits. -/
theorem filter_encode (bytes : List UInt8) :
    (encode bytes).toList.filter (· ≠ '-') = pairs bytes := by
  rw [encode, String.toList_ofList, Text.filter_intercalate, pairs, List.flatMap_def]
  intro digits member dash
  obtain ⟨byte, -, rfl⟩ := List.mem_map.1 member
  exact (spec_of_mem_ofByte dash).2.1 rfl

theorem isDigit_of_mem_encode {bytes : List UInt8} {c : Char} (member : c ∈ (encode bytes).toList)
    (other : c ≠ '-') : isDigit c = true := by
  have kept : c ∈ (encode bytes).toList.filter (· ≠ '-') :=
    List.mem_filter.2 ⟨member, decide_eq_true other⟩
  rw [filter_encode] at kept
  exact (spec_of_mem_pairs kept).1

theorem clean_encode (bytes : List UInt8) : clean (encode bytes).toList = pairs bytes := by
  rw [clean, filter_encode]
  refine Text.trim_eq_self (fun c first => ?_) (fun c last => ?_)
  · exact (spec_of_mem_pairs (List.mem_of_mem_head? first)).2.2
  · exact (spec_of_mem_pairs (List.mem_of_getLast? last)).2.2

/-- Bytes are read back from their hex text. -/
theorem decode_encode (bytes : List UInt8) : decode (encode bytes) = .ok bytes := by
  have digits : (pairs bytes).dropWhile isDigit = [] := by
    rw [List.dropWhile_eq_nil_iff]
    exact fun c member => (spec_of_mem_pairs member).1
  rw [decode, clean_encode, digits, ofPairs?_pairs]

/-! ## Digits -/

/-- A character is the hex digit of a number, in either case. -/
def DigitOf (number : Nat) (c : Char) : Prop :=
  "0123456789abcdef".toList[number]? = some c ∨ "0123456789ABCDEF".toList[number]? = some c

instance (number : Nat) (c : Char) : Decidable (DigitOf number c) :=
  inferInstanceAs (Decidable (_ ∨ _))

/-- Both digits of a number have its value, and the uppercase one is what it is written as. -/
theorem DigitOf.spec {number : Nat} {c : Char} (isDigit : DigitOf number c) :
    number < 16 ∧ digitValue? c = some number ∧ digit number = c.toUpper := by
  have table : ∀ alphabet ∈ ["0123456789abcdef", "0123456789ABCDEF"],
      ∀ number, ∀ bound : number < alphabet.toList.length,
        number < 16 ∧ digitValue? alphabet.toList[number] = some number ∧
          digit number = alphabet.toList[number].toUpper := by
    decide
  rcases isDigit with lower | upper
  · obtain ⟨bound, rfl⟩ := List.getElem?_eq_some_iff.1 lower
    exact table _ (by simp) number bound
  · obtain ⟨bound, rfl⟩ := List.getElem?_eq_some_iff.1 upper
    exact table _ (by simp) number bound

theorem digitOf_ascii : ∀ code < 128, ∀ number ∈ digitValue? (Char.ofNat code),
    DigitOf number (Char.ofNat code) := by
  decide

theorem ascii_of_digitValue? {number : Nat} {c : Char} (value : digitValue? c = some number) :
    c.toNat < 128 := by
  have below {last : Char} (bounds : c ≤ last) : c.toNat ≤ last.toNat := bounds
  unfold digitValue? at value
  split at value
  · rename_i decimal
    exact Nat.lt_of_le_of_lt (below decimal.2) (by decide)
  · split at value
    · rename_i lower
      exact Nat.lt_of_le_of_lt (below lower.2) (by decide)
    · split at value
      · rename_i upper
        exact Nat.lt_of_le_of_lt (below upper.2) (by decide)
      · cases value

theorem digitValue?_eq_some_iff {number : Nat} {c : Char} :
    digitValue? c = some number ↔ DigitOf number c := by
  constructor
  · intro value
    have table := digitOf_ascii c.toNat (ascii_of_digitValue? value) number
    rw [Char.ofNat_toNat] at table
    exact table value
  · intro isDigit
    exact isDigit.spec.2.1

theorem isDigit_iff {c : Char} : isDigit c = true ↔ ∃ number, DigitOf number c := by
  simp [isDigit, Option.isSome_iff_exists, digitValue?_eq_some_iff]

/-! ## Digits that spell bytes -/

/-- Bytes are spelled by two digits each, in either case and the high one first. -/
inductive Spells : List Char → List UInt8 → Prop
  | nil : Spells [] []
  | cons {high low : Char} {digits : List Char} {byte : UInt8} {bytes : List UInt8} :
    DigitOf (byte.toNat / 16) high → DigitOf (byte.toNat % 16) low → Spells digits bytes →
    Spells (high :: low :: digits) (byte :: bytes)

variable {digits : List Char} {bytes : List UInt8} {text : String}

theorem Spells.length_eq (spelled : Spells digits bytes) : digits.length = 2 * bytes.length := by
  induction spelled with
  | nil => rfl
  | cons _ _ _ ih =>
    simp only [List.length_cons]
    omega

theorem Spells.all_digits (spelled : Spells digits bytes) :
    ∀ c ∈ digits, ∃ number, DigitOf number c := by
  induction spelled with
  | nil => simp
  | cons high low _ ih =>
    simp only [List.forall_mem_cons]
    exact ⟨⟨_, high⟩, ⟨_, low⟩, ih⟩

/-- The digits that are written for bytes are those that spell them, in uppercase. -/
theorem Spells.pairs_eq (spelled : Spells digits bytes) :
    pairs bytes = digits.map Char.toUpper := by
  induction spelled with
  | nil => rfl
  | cons high low _ ih =>
    have step (byte : UInt8) (bytes : List UInt8) : pairs (byte :: bytes) =
        digit (byte.toNat / 16) :: digit (byte.toNat % 16) :: pairs bytes := rfl
    rw [step, high.spec.2.2, low.spec.2.2, ih]
    rfl

/-- Two digits are those of one byte. -/
theorem exists_byte {high low : Nat} (small : high < 16) (small' : low < 16) :
    ∃ byte : UInt8, byte.toNat / 16 = high ∧ byte.toNat % 16 = low := by
  refine ⟨UInt8.ofNat (16 * high + low), ?_⟩
  rw [UInt8.toNat_ofNat_of_lt' (by simp only [UInt8.size]; omega)]
  omega

theorem ofPairs?_of_spells (spelled : Spells digits bytes) : ofPairs? digits = some bytes := by
  induction spelled with
  | nil => rfl
  | @cons high low digits byte bytes isHigh isLow _ ih =>
    have whole : UInt8.ofNat (16 * (byte.toNat / 16) + byte.toNat % 16) = byte := by
      rw [Nat.div_add_mod, UInt8.ofNat_toNat]
    simp only [ofPairs?, isHigh.spec.2.1, isLow.spec.2.1, ih, bind, Option.bind_some, whole]
    rfl

theorem ofPairs?_of_odd (odd : digits.length % 2 = 1) : ofPairs? digits = none := by
  induction digits using ofPairs?.induct with
  | case1 => simp at odd
  | case2 c => rfl
  | case3 high low digits ih =>
    simp only [List.length_cons] at odd
    simp [ofPairs?, ih (by omega)]

/-- An even number of digits spells bytes. -/
theorem exists_spells (all : ∀ c ∈ digits, ∃ number, DigitOf number c)
    (even : digits.length % 2 = 0) : ∃ bytes, Spells digits bytes := by
  induction digits using ofPairs?.induct with
  | case1 => exact ⟨[], .nil⟩
  | case2 c => simp at even
  | case3 high low digits ih =>
    simp only [List.forall_mem_cons] at all
    obtain ⟨⟨first, isHigh⟩, ⟨second, isLow⟩, others⟩ := all
    simp only [List.length_cons] at even
    obtain ⟨bytes, spelled⟩ := ih others (by omega)
    obtain ⟨byte, rfl, rfl⟩ := exists_byte isHigh.spec.1 isLow.spec.1
    exact ⟨byte :: bytes, .cons isHigh isLow spelled⟩

/-! ## What a hex text is decoded to -/

/-- What becomes of a text without its dashes and outer blanks: the bytes that it spells, or the
first character that is no digit, or else its odd length. -/
inductive DecodesTo (digits : List Char) : Except PolicyError (List UInt8) → Prop
  | bytes {bytes : List UInt8} : Spells digits bytes → DecodesTo digits (.ok bytes)
  | stray {front back : List Char} {c : Char} : digits = front ++ c :: back →
    (∀ d ∈ front, ∃ number, DigitOf number d) → (¬ ∃ number, DigitOf number c) →
    DecodesTo digits (.error (.invalidHexDigit c front.length))
  | odd : (∀ d ∈ digits, ∃ number, DigitOf number d) → digits.length % 2 = 1 →
    DecodesTo digits (.error (.oddHexLength digits.length))

theorem decode_of_digits (all : ∀ c ∈ clean text.toList, ∃ number, DigitOf number c) :
    decode text = (ofPairs? (clean text.toList)).elim
      (.error (.oddHexLength (clean text.toList).length)) .ok := by
  have none : (clean text.toList).dropWhile isDigit = [] := by
    rw [List.dropWhile_eq_nil_iff]
    exact fun c member => isDigit_iff.2 (all c member)
  rw [decode, none]
  cases ofPairs? (clean text.toList) <;> rfl

theorem DecodesTo.decode_eq {result : Except PolicyError (List UInt8)}
    (decodes : DecodesTo (clean text.toList) result) : decode text = result := by
  cases decodes with
  | bytes spelled =>
    rw [decode_of_digits spelled.all_digits, ofPairs?_of_spells spelled, Option.elim_some]
  | @stray front back c shape before stray =>
    have all : ∀ d ∈ front, isDigit d = true := fun d member => isDigit_iff.2 (before d member)
    have bad : isDigit c = false := by
      rw [← Bool.not_eq_true, isDigit_iff]
      exact stray
    rw [decode, shape, List.dropWhile_append_of_pos all, List.takeWhile_append_of_pos all]
    simp [bad]
  | odd all odd => rw [decode_of_digits all, ofPairs?_of_odd odd, Option.elim_none]

/-- Every text is decoded to something: it starts with as many digits as it has, and a character
after them is none. -/
theorem exists_decodesTo (digits : List Char) : ∃ result, DecodesTo digits result := by
  have whole := List.takeWhile_append_dropWhile (p := isDigit) (l := digits)
  have before : ∀ c ∈ digits.takeWhile isDigit, ∃ number, DigitOf number c := fun c member =>
    isDigit_iff.1 (List.mem_takeWhile_imp member)
  cases rest : digits.dropWhile isDigit with
  | nil =>
    rw [rest, List.append_nil] at whole
    rw [whole] at before
    by_cases even : digits.length % 2 = 0
    · obtain ⟨bytes, spelled⟩ := exists_spells before even
      exact ⟨_, .bytes spelled⟩
    · exact ⟨_, .odd before (by omega)⟩
  | cons c back =>
    have bad := List.head?_dropWhile_not isDigit digits
    rw [rest] at whole bad
    refine ⟨_, .stray whole.symm before ?_⟩
    rw [← isDigit_iff]
    simpa using bad

/-! ## What does not count -/

theorem toUpper_ascii : ∀ code < 128,
    digitValue? (Char.ofNat code).toUpper = digitValue? (Char.ofNat code) ∧
      Text.isBlank (Char.ofNat code).toUpper = Text.isBlank (Char.ofNat code) ∧
      ((Char.ofNat code).toUpper = '-' ↔ Char.ofNat code = '-') := by
  decide

/-- Case is nothing to digits, blanks and dashes. -/
theorem toUpper_spec (c : Char) : digitValue? c.toUpper = digitValue? c ∧
    Text.isBlank c.toUpper = Text.isBlank c ∧ (c.toUpper = '-' ↔ c = '-') := by
  by_cases small : c.toNat < 128
  · have table := toUpper_ascii c.toNat small
    rwa [Char.ofNat_toNat] at table
  · have same : c.toUpper = c := by
      refine dif_neg fun lower => small ?_
      exact Nat.lt_of_le_of_lt lower.2 (by decide)
    simp [same]

theorem digitOf_toUpper_iff {number : Nat} {c : Char} :
    DigitOf number c.toUpper ↔ DigitOf number c := by
  rw [← digitValue?_eq_some_iff, ← digitValue?_eq_some_iff, (toUpper_spec c).1]

theorem spells_cons_iff {high low : Char} : Spells (high :: low :: digits) bytes ↔
    ∃ byte rest, bytes = byte :: rest ∧ DigitOf (byte.toNat / 16) high ∧
      DigitOf (byte.toNat % 16) low ∧ Spells digits rest := by
  constructor
  · intro spelled
    cases spelled with
    | cons isHigh isLow others => exact ⟨_, _, rfl, isHigh, isLow, others⟩
  · rintro ⟨byte, rest, rfl, isHigh, isLow, others⟩
    exact .cons isHigh isLow others

theorem spells_map_toUpper_iff : Spells (digits.map Char.toUpper) bytes ↔ Spells digits bytes := by
  induction digits using ofPairs?.induct generalizing bytes with
  | case1 => rfl
  | case2 c => exact ⟨nofun, nofun⟩
  | case3 high low digits ih =>
    simp only [List.map_cons, spells_cons_iff, digitOf_toUpper_iff, ih]

theorem clean_map_toUpper (text : List Char) :
    clean (text.map Char.toUpper) = (clean text).map Char.toUpper := by
  have dashes : (fun c : Char => decide (c ≠ '-')) ∘ Char.toUpper = fun c => decide (c ≠ '-') := by
    funext c
    simp [(toUpper_spec c).2.2]
  rw [clean, clean, List.filter_map, dashes]
  exact Text.trim_map (fun c => (toUpper_spec c).2.1) _

/-- Blanks around a text are blanks around what is left of it without its dashes. -/
theorem clean_of_blanks {before after : List Char} (first : ∀ c ∈ before, Text.isBlank c = true)
    (last : ∀ c ∈ after, Text.isBlank c = true) (text : List Char) :
    clean (before ++ text ++ after) = clean text := by
  rw [clean, clean, List.filter_append, List.filter_append]
  refine Text.trim_of_blanks (fun c member => first c ?_) (fun c member => last c ?_) _
  · exact List.mem_of_mem_filter member
  · exact List.mem_of_mem_filter member

theorem decode_congr {other : String} (same : clean other.toList = clean text.toList) :
    decode other = decode text := by
  unfold decode
  rw [same]

theorem decode_eq_iff {result : Except PolicyError (List UInt8)} :
    decode text = result ↔ DecodesTo (clean text.toList) result := by
  refine ⟨?_, DecodesTo.decode_eq⟩
  rintro rfl
  obtain ⟨result, decodes⟩ := exists_decodesTo (clean text.toList)
  rwa [decodes.decode_eq]

theorem decode_eq_ok_iff : decode text = .ok bytes ↔ Spells (clean text.toList) bytes := by
  rw [decode_eq_iff]
  constructor
  · intro decodes
    cases decodes with
    | bytes spelled => exact spelled
  · exact .bytes

/-- A text is decoded to the bytes that it spells without its dashes and outer blanks, and is
refused for the first character of these that is no digit, or else for their odd number. Dashes and
outer blanks change nothing, nor does the case of letters change the bytes. Bytes are read back
from their hex text, which is the uppercase form of any text that they are read from, but for the
dashes. -/
theorem hex_text_decodes_exactly (text : String) (digits : List Char)
    (cleaned : Text.TrimsTo (text.toList.filter (· ≠ '-')) digits) :
    (∀ result, decode text = result ↔ DecodesTo digits result) ∧
    (∀ other : String, other.toList.filter (· ≠ '-') = text.toList.filter (· ≠ '-') →
      decode other = decode text) ∧
    (∀ before after : String, (∀ c ∈ before.toList, Text.isBlank c = true) →
      (∀ c ∈ after.toList, Text.isBlank c = true) →
        decode (before ++ text ++ after) = decode text) ∧
    (∀ other : String, other.toList.map Char.toUpper = text.toList.map Char.toUpper →
      ∀ bytes, decode other = .ok bytes ↔ decode text = .ok bytes) ∧
    (∀ bytes, decode (encode bytes) = .ok bytes) ∧
    ∀ bytes, decode text = .ok bytes → digits.length = 2 * bytes.length ∧
      (encode bytes).toList.filter (· ≠ '-') = digits.map Char.toUpper := by
  have shape : clean text.toList = digits := Text.trim_eq_iff.2 cleaned
  refine ⟨?_, ?_, ?_, ?_, decode_encode, ?_⟩
  · intro result
    rw [decode_eq_iff, shape]
  · intro other same
    exact decode_congr (by rw [clean, clean, same])
  · intro before after first last
    refine decode_congr ?_
    rw [String.toList_append, String.toList_append, clean_of_blanks first last]
  · intro other same bytes
    rw [decode_eq_ok_iff, decode_eq_ok_iff, ← spells_map_toUpper_iff, ← clean_map_toUpper, same,
      clean_map_toUpper, spells_map_toUpper_iff]
  · intro bytes read
    have spelled := decode_eq_ok_iff.1 read
    rw [shape] at spelled
    rw [filter_encode]
    exact ⟨spelled.length_eq, spelled.pairs_eq⟩

theorem hex_text_decodes_exactly_hidden_blanks :
    let text := "-\u00a0 d-E-aD\t-"
    let stray := " 0-g1"
    decode text = .ok [0xDE, 0xAD] ∧ decode "\u00a0 dEaD\t" = .ok [0xDE, 0xAD] ∧
      (encode [0xDE, 0xAD]).toList.filter (· ≠ '-') = "DEAD".toList ∧
      decode stray = .error (.invalidHexDigit 'g' 1) := by
  intro text stray
  have cleaned : Text.TrimsTo (text.toList.filter (· ≠ '-')) "dEaD".toList :=
    Text.trim_eq_iff.1 (by decide)
  have cleaned' : Text.TrimsTo (stray.toList.filter (· ≠ '-')) "0g1".toList :=
    Text.trim_eq_iff.1 (by decide)
  obtain ⟨decodes, dashes, -, -, -, written⟩ := hex_text_decodes_exactly text _ cleaned
  obtain ⟨refused, -⟩ := hex_text_decodes_exactly stray _ cleaned'
  have spelled : Spells "dEaD".toList [0xDE, 0xAD] :=
    .cons (by decide) (by decide) (.cons (by decide) (by decide) .nil)
  have read := (decodes _).2 (.bytes spelled)
  refine ⟨read, (dashes _ (by decide)).trans read, (written _ read).2, ?_⟩
  have first : "0g1".toList = "0".toList ++ 'g' :: "1".toList := by decide
  refine (refused _).2 (.stray first ?_ ?_)
  · simpa using ⟨0, by decide⟩
  · rw [← isDigit_iff]
    decide

end Hex

end GroupPolicy
