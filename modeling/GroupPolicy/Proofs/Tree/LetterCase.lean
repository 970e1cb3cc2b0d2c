import GroupPolicy.Proofs.Text.Lowercase
import GroupPolicy.Proofs.Tree.LastWrite

/-!
# Letter case in names

Two spellings of names lead to one value exactly if their folded pairs are equal
(`WellFormed.serves_iff`). Names whose characters were lowered one by one lead to the same value as
the names themselves, unless a capital sigma ends a word in one of them
(`foldedPair_lowered_iff`): folding gives such a sigma its final form, and lowering gives it the
other.
-/

namespace GroupPolicy

variable {key name key' name' : String}

/-! ## Names with lowered characters -/

/-- A name in which every character is lowered on its own. -/
def lowered (name : String) : String :=
  String.ofList (Text.lowercaseEach name.toList)

/-- A capital sigma in a name ends a word. -/
def SigmaFinal (name : String) : Prop :=
  Text.SigmaEndsWord [] name.toList

theorem fold_lowered (name : String) : fold (lowered name) = lowered name := by
  rw [fold, lowered, String.toList_ofList, Text.lowercase_lowercaseEach]

theorem fold_eq_lowered_iff : fold name = lowered name ↔ ¬ SigmaFinal name := by
  rw [fold, lowered, String.ofList_inj, SigmaFinal, Text.lowercase_eq_lowercaseEach_iff]

/-- A backslash is its own lowercase form, and that of no other character. -/
theorem stripped_lowered (key : String) :
    KeyPath.stripped (lowered key) = lowered (KeyPath.stripped key) := by
  have free : ∀ c, c ≠ '\\' → '\\' ∉ Text.lowercaseChar c := fun c other member =>
    other (Text.eq_of_mem_lowercaseChar member (by decide)).symm
  rw [KeyPath.stripped, KeyPath.stripped, lowered, lowered, String.toList_ofList,
    String.toList_ofList, Text.lowercaseEach, Text.lowercaseEach,
    Text.strip_flatMap Text.lowercaseChar (by decide) free Text.lowercaseChar_ne_nil]

/-- Lowering the characters of names keeps the folded pair unless a capital sigma ends a word. -/
theorem foldedPair_lowered_iff :
    foldedPair (lowered key) (lowered name) = foldedPair key name ↔
      ¬ SigmaFinal (KeyPath.stripped key) ∧ ¬ SigmaFinal name := by
  rw [foldedPair, foldedPair, Prod.mk.injEq, stripped_lowered, fold_lowered, fold_lowered,
    eq_comm, fold_eq_lowered_iff, eq_comm, fold_eq_lowered_iff]

namespace RegistryTree

variable {tree next start : RegistryTree} {stored : StoredValue} {call : TreeCall}

/-! ## Spellings that lead to one value -/

/-- A tree that holds a value under one spelling of names does so under another one: the value is
found there, replaced there, and removed there. -/
structure HoldsAlso (tree : RegistryTree) (key name key' name' : String) (stored : StoredValue) :
    Prop where
  found : tree.get? key' name' = some stored
  replaced : ∀ other, ∃ next, tree.set key' name' other = .ok next ∧
    next.size = tree.size ∧ next.get? key name = some other
  removed : ∃ next, tree.delete key' name' = .ok (true, next) ∧
    next.size + 1 = tree.size ∧ next.get? key name = none

/-- Whatever is set under one spelling of names is under another one as well. -/
def Serves (tree : RegistryTree) (key name key' name' : String) : Prop :=
  ∀ stored, ∃ next, tree.set key name stored = .ok next ∧
    next.HoldsAlso key name key' name' stored

/-- A call at names that are held acts on the value there, and on nothing else. -/
theorem WellFormed.apply_at_held (wellFormed : tree.WellFormed)
    (success : call.apply tree = .ok next)
    (held : findIn call.pair.1 call.pair.2 tree.keys = some stored) :
    next.size + 1 = tree.size + call.stored?.isSome.toNat ∧
      findIn call.pair.1 call.pair.2 next.keys = call.stored? := by
  have size := TreeCall.size_apply wellFormed success
  rw [held, Option.isSome_some, Bool.toNat_true] at size
  exact ⟨size, (TreeCall.findIn_apply wellFormed success call.pair).trans (if_pos rfl)⟩

theorem WellFormed.holdsAlso (wellFormed : tree.WellFormed) (accepted : AcceptedNames key name)
    (accepted' : AcceptedNames key' name') (same : foldedPair key' name' = foldedPair key name)
    (held : findIn (foldedPair key name).1 (foldedPair key name).2 tree.keys = some stored) :
    tree.HoldsAlso key name key' name' stored := by
  obtain ⟨path, normalized⟩ := accepted.1
  obtain ⟨path', normalized'⟩ := accepted'.1
  rw [← same] at held
  refine ⟨?_, fun other => ?_, ?_⟩
  · rw [get?_eq_findIn normalized', held]
  · obtain ⟨next, success⟩ : ∃ next, (TreeCall.set key' name' other).apply tree = .ok next :=
      TreeCall.exists_apply_eq_ok_iff.2 accepted'
    obtain ⟨size, found⟩ := wellFormed.apply_at_held success held
    refine ⟨next, success, by simpa [TreeCall.stored?] using size, ?_⟩
    rw [get?_eq_findIn normalized, ← same]
    exact found
  · obtain ⟨next, deleted⟩ : ∃ next, tree.delete key' name' = .ok (_, next) :=
      delete_of_acceptedNames accepted'
    rw [held, Option.isSome_some] at deleted
    have success : (TreeCall.delete key' name').apply tree = .ok next :=
      TreeCall.apply_delete_eq_ok_iff.2 ⟨true, deleted⟩
    obtain ⟨size, found⟩ := wellFormed.apply_at_held success held
    refine ⟨next, deleted, by simpa [TreeCall.stored?] using size, ?_⟩
    rw [get?_eq_findIn normalized, ← same]
    exact found

/-- What is set under one spelling leaves alone what is under a spelling that does not match. -/
theorem WellFormed.get?_of_set_other (wellFormed : tree.WellFormed)
    (accepted : AcceptedNames key name) (different : foldedPair key' name' ≠ foldedPair key name)
    (stored : StoredValue) :
    ∃ next, tree.set key name stored = .ok next ∧ next.get? key' name' = tree.get? key' name' := by
  obtain ⟨next, success⟩ : ∃ next, (TreeCall.set key name stored).apply tree = .ok next :=
    TreeCall.exists_apply_eq_ok_iff.2 accepted
  have reached : tree.after [.set key name stored] = next := by
    rw [RegistryTree.after, success]
    rfl
  refine ⟨next, success, ?_⟩
  rw [← reached]
  exact wellFormed.get?_after_singleton different

/-- Accepted spellings serve each other exactly if they match. -/
theorem WellFormed.serves_iff (wellFormed : tree.WellFormed) (accepted : AcceptedNames key name)
    (accepted' : AcceptedNames key' name') :
    tree.Serves key name key' name' ↔ foldedPair key' name' = foldedPair key name := by
  constructor
  · intro serves
    by_contra different
    -- The tree has at most one value under the other spelling, and two are set in turn.
    have unchanged (stored : StoredValue) : tree.get? key' name' = some stored := by
      obtain ⟨next, success, holds⟩ := serves stored
      obtain ⟨_, again, kept⟩ := wellFormed.get?_of_set_other accepted different stored
      cases success.symm.trans again
      exact kept.symm.trans holds.found
    have equal := (unchanged ⟨0, []⟩).symm.trans (unchanged ⟨1, []⟩)
    cases equal
  · intro same stored
    obtain ⟨next, success⟩ : ∃ next, (TreeCall.set key name stored).apply tree = .ok next :=
      TreeCall.exists_apply_eq_ok_iff.2 accepted
    refine ⟨next, success, ?_⟩
    refine (TreeCall.apply_wellFormed wellFormed success).holdsAlso accepted accepted' same ?_
    rw [TreeCall.findIn_apply wellFormed success]
    exact if_pos rfl

/-- In a tree that was made empty or loaded from entries, and then changed by calls, names and the
names with every character lowered on its own serve each other exactly if no capital sigma ends a
word in the key path or in the value name. If one does, they are different names: what is set under
the one leaves alone what is under the other. -/
theorem lowered_names_served (origin : start = empty ∨ ∃ loaded, ofEntries loaded = .ok start)
    (calls : List TreeCall) (accepted : AcceptedNames key name)
    (acceptedLowered : AcceptedNames (lowered key) (lowered name)) :
    let tree := start.after calls
    (tree.Serves key name (lowered key) (lowered name) ↔
      ¬ SigmaFinal (KeyPath.stripped key) ∧ ¬ SigmaFinal name) ∧
    (tree.Serves (lowered key) (lowered name) key name ↔
      ¬ SigmaFinal (KeyPath.stripped key) ∧ ¬ SigmaFinal name) ∧
    (SigmaFinal (KeyPath.stripped key) ∨ SigmaFinal name → ∀ stored,
      (∃ next, tree.set key name stored = .ok next ∧
        next.get? (lowered key) (lowered name) = tree.get? (lowered key) (lowered name)) ∧
      ∃ next, tree.set (lowered key) (lowered name) stored = .ok next ∧
        next.get? key name = tree.get? key name) := by
  have begun : start.WellFormed := by
    rcases origin with rfl | ⟨loaded, opened⟩
    · exact WellFormed.empty
    · exact wellFormed_of_ofEntries opened
  have wellFormed : (start.after calls).WellFormed := begun.after calls
  refine ⟨?_, ?_, fun sigma stored => ?_⟩
  · rw [wellFormed.serves_iff accepted acceptedLowered, foldedPair_lowered_iff]
  · rw [wellFormed.serves_iff acceptedLowered accepted, eq_comm, foldedPair_lowered_iff]
  · have different : foldedPair (lowered key) (lowered name) ≠ foldedPair key name := by
      rw [ne_eq, foldedPair_lowered_iff, not_and_or, not_not, not_not]
      exact sigma
    exact ⟨wellFormed.get?_of_set_other accepted different stored,
      wellFormed.get?_of_set_other acceptedLowered different.symm stored⟩

theorem lowered_names_served_inner_sigma :
    let calls : List TreeCall := [.set "\\ΟΔΟΣ" "Ν" ⟨1, []⟩, .set "k" "a" ⟨4, [3]⟩]
    let key := "\\ΣΑΣΑ\\İst\\"
    let name := "Σ.Σa"
    let tree := RegistryTree.empty.after calls
    AcceptedNames key name ∧ AcceptedNames "\\σασα\\i̇st\\" "σ.σa" ∧
      tree.Serves key name "\\σασα\\i̇st\\" "σ.σa" := by
  intro calls key name tree
  have lowerKey : lowered key = "\\σασα\\i̇st\\" := by decide
  have lowerName : lowered name = "σ.σa" := by decide
  have accepted : AcceptedNames key name := ⟨⟨"ΣΑΣΑ\\İst", by decide +kernel⟩, by decide +kernel⟩
  have acceptedLowered : AcceptedNames (lowered key) (lowered name) := by
    rw [lowerKey, lowerName]
    exact ⟨⟨"σασα\\i̇st", by decide +kernel⟩, by decide +kernel⟩
  have inner : ¬ SigmaFinal (KeyPath.stripped key) ∧ ¬ SigmaFinal name :=
    ⟨fold_eq_lowered_iff.1 (by decide +kernel), fold_eq_lowered_iff.1 (by decide +kernel)⟩
  have served := (lowered_names_served (Or.inl rfl) calls accepted acceptedLowered).1.2 inner
  rw [lowerKey, lowerName] at acceptedLowered served
  exact ⟨accepted, acceptedLowered, served⟩

/-- A value under a name that ends in a capital sigma is not found under the name in small
letters. -/
theorem not_served_when_sigma_ends_name :
    ¬ (AcceptedNames "K" "ΑΣ" → AcceptedNames (lowered "K") (lowered "ΑΣ") →
      empty.Serves "K" "ΑΣ" (lowered "K") (lowered "ΑΣ")) := by
  intro served
  obtain ⟨next, success, holds⟩ :=
    served ⟨⟨"K", by decide +kernel⟩, by decide +kernel⟩
      ⟨⟨"k", by decide +kernel⟩, by decide +kernel⟩ ⟨4, [1, 0, 0, 0]⟩
  have alone : empty.set "K" "ΑΣ" ⟨4, [1, 0, 0, 0]⟩ =
      .ok ⟨[("k", ⟨"K", [("ΑΣ", ⟨4, [1, 0, 0, 0]⟩)]⟩)]⟩ := by decide +kernel
  cases alone.symm.trans success
  exact absurd holds.found (by decide +kernel)

end RegistryTree

end GroupPolicy
