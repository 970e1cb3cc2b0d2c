import GroupPolicy.Text.CaseTables

/-!
# Lowercase text

The full lowercase form of a text. Every character is mapped on its own, except a capital sigma,
which becomes `ς` at the end of a word and `σ` elsewhere.
-/

namespace GroupPolicy.Text

/-- Whether a character has a case. -/
def isCased (c : Char) : Bool :=
  casedRanges.contains c

/-- Whether a character is skipped when the cased neighbours of a letter are sought. -/
def isCaseIgnorable (c : Char) : Bool :=
  caseIgnorableRanges.contains c

namespace CaseRun

/-- Whether a code point belongs to a run. -/
def covers (run : CaseRun) (code : Nat) : Bool :=
  run.first ≤ code && code ≤ run.last && (code - run.first) % run.step == 0

end CaseRun

/-- The lowercase form of a single character, which has two characters only for `İ`. The runs are
in ascending order, so the first that does not end before the character decides. -/
def lowercaseChar (c : Char) : List Char :=
  if c.toNat = 0x130 then ['i', '\u0307']
  else match lowercaseRuns.find? (c.toNat ≤ ·.last) with
    | some run =>
      if run.covers c.toNat then [Char.ofNat (run.lower + (c.toNat - run.first))] else [c]
    | none => [c]

/-- Whether the nearest character that is not ignorable has a case. -/
def startsCased (text : List Char) : Bool :=
  ((text.dropWhile isCaseIgnorable).head?.map isCased).getD false

/-- The lowercase form of a capital sigma between the reversed text before it and the text after
it: final if a cased letter comes before it and none after it. -/
def lowercaseSigma (before after : List Char) : Char :=
  if startsCased before && !startsCased after then 'ς' else 'σ'

/-- The lowercase form of a text that follows the given reversed text. -/
def lowercaseAfter (before : List Char) : List Char → List Char
  | [] => []
  | c :: rest =>
    let lower := if c = 'Σ' then [lowercaseSigma before rest] else lowercaseChar c
    lower ++ lowercaseAfter (c :: before) rest

/-- The lowercase form of a text. -/
def lowercase (text : List Char) : List Char :=
  lowercaseAfter [] text

end GroupPolicy.Text
