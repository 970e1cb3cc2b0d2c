import GroupPolicy.Proofs.Tree.Commuting
import GroupPolicy.Proofs.Tree.OverlongNames

/-!
# Setting a value again and taking it back

A value that was new is taken back by a delete, which restores the tree to the spellings and the
order that it had, and drops the key if it was new as well (`WellFormed.eraseIn_setIn`). Of two
values set in a row under names that match, the tree has no trace of the first but its spellings
(`Ascending.setIn_setIn`). Both laws hold for any spelling of the second call that is accepted
(`set_undone_and_absorbed`); not every spelling that matches is (`not_undone_by_every_match`).
-/

namespace GroupPolicy

namespace NamedValues

variable {folded name other : String} {stored stored' : StoredValue} {values : NamedValues}

/-- Erasing a value that was new gives back the values before. -/
theorem erase_set_of_not_mem (spelled : fold name = folded) (absent : folded ∉ folds values) :
    erase folded (set folded name stored values) = values := by
  induction values with
  | nil => rw [set, erase_cons, if_pos spelled]
  | cons value values ih =>
    rw [folds_cons, List.mem_cons, not_or] at absent
    rw [set_cons, if_neg (Ne.symm absent.1), erase_cons, if_neg (Ne.symm absent.1), ih absent.2]

/-- Of two values set in a row the second is left, under the spelling of the first. -/
theorem set_set (spelled : fold name = folded) :
    set folded other stored' (set folded name stored values) = set folded name stored' values := by
  induction values with
  | nil => rw [set, set_cons, if_pos spelled, set]
  | cons value values ih =>
    rw [set_cons, set_cons]
    by_cases here : fold value.1 = folded
    · rw [if_pos here, if_pos here, set_cons, if_pos here]
    · rw [if_neg here, if_neg here, set_cons, if_neg here, ih]

end NamedValues

namespace KeyNode

variable {foldedName name name' path path' : String} {stored stored' : StoredValue}
  {old : Option KeyNode}

/-- Erasing a value that was new gives back the key before, or none if the key was new too. -/
theorem afterErase_afterSet (spelled : fold name = foldedName)
    (absent : ∀ node, old = some node → node.values ≠ [] ∧ foldedName ∉ node.values.folds) :
    (afterSet path foldedName name stored old).afterErase foldedName = old := by
  cases old with
  | none =>
    have emptied : NamedValues.erase foldedName (NamedValues.set foldedName name stored []) = [] :=
      NamedValues.erase_set_of_not_mem spelled List.not_mem_nil
    rw [afterErase, afterSet, Option.getD_none, emptied]
    rfl
  | some node =>
    obtain ⟨nonempty, fresh⟩ := absent node rfl
    rw [afterErase, afterSet, Option.getD_some, NamedValues.erase_set_of_not_mem spelled fresh,
      if_neg (by rwa [List.isEmpty_iff])]

theorem afterSet_afterSet (spelled : fold name = foldedName) :
    afterSet path' foldedName name' stored' (some (afterSet path foldedName name stored old)) =
      afterSet path foldedName name stored' old := by
  rw [afterSet, afterSet, afterSet, Option.getD_some, NamedValues.set_set spelled]

end KeyNode

namespace RegistryTree

variable {foldedPath path path' name name' : String} {stored stored' : StoredValue}
  {keys : List (String × KeyNode)} {tree : RegistryTree}

/-- Erasing a value that was new gives back the keys before. -/
theorem WellFormed.eraseIn_setIn (wellFormed : tree.WellFormed)
    (absent : findIn foldedPath (fold name) tree.keys = none) :
    eraseIn foldedPath (fold name) (setIn foldedPath path (fold name) name stored tree.keys) =
      tree.keys := by
  have ascending := wellFormed.ascending
  refine ascending.setIn.eraseIn.ext ascending fun other => ?_
  rw [lookup_eraseIn ascending.setIn, lookup_setIn ascending, lookup_setIn ascending, if_pos rfl]
  split
  · rename_i same
    subst same
    refine KeyNode.afterErase_afterSet rfl fun node found => ?_
    rw [findIn, found, Option.bind_some] at absent
    refine ⟨(wellFormed.nodes _ node found).nonempty, fun member => ?_⟩
    rw [← NamedValues.isSome_find?_iff, absent] at member
    cases member
  · rfl

/-- Of two values set in a row under matching names the second is left, under the spellings of the
first. -/
theorem Ascending.setIn_setIn (ascending : Ascending keys) :
    RegistryTree.setIn foldedPath path' (fold name) name' stored'
        (RegistryTree.setIn foldedPath path (fold name) name stored keys) =
      RegistryTree.setIn foldedPath path (fold name) name stored' keys := by
  refine ascending.setIn.setIn.ext ascending.setIn fun other => ?_
  rw [lookup_setIn ascending.setIn, lookup_setIn ascending, lookup_setIn ascending,
    lookup_setIn ascending, if_pos rfl]
  split
  · rw [KeyNode.afterSet_afterSet rfl]
  · rfl

variable {start middle : RegistryTree} {key key' : String}

theorem WellFormed.delete_of_set (wellFormed : tree.WellFormed)
    (success : tree.set key name stored = .ok middle) (absent : tree.get? key name = none)
    (accepted : AcceptedNames key' name') (matching : foldedPair key' name' = foldedPair key name) :
    middle.delete key' name' = .ok (true, tree) := by
  obtain ⟨path, normalized, -, rfl⟩ := set_eq_ok_iff.1 success
  obtain ⟨⟨path', normalized'⟩, checked'⟩ := accepted
  rw [get?_eq_of_normalize normalized] at absent
  obtain ⟨rfl, -⟩ := KeyPath.normalize_eq_ok_iff.1 normalized
  obtain ⟨rfl, -⟩ := KeyPath.normalize_eq_ok_iff.1 normalized'
  obtain ⟨samePath, sameName⟩ := Prod.mk.inj matching
  refine delete_eq_ok_iff.2 ⟨_, normalized', checked', ?_, ?_⟩
  · rw [samePath, sameName, findIn_setIn_self rfl]
    rfl
  · rw [if_pos rfl, samePath, sameName, wellFormed.eraseIn_setIn absent]

theorem WellFormed.set_of_set (wellFormed : tree.WellFormed)
    (success : tree.set key name stored = .ok middle) (accepted : AcceptedNames key' name')
    (matching : foldedPair key' name' = foldedPair key name) (stored' : StoredValue) :
    middle.set key' name' stored' = tree.set key name stored' := by
  obtain ⟨path, normalized, checked, rfl⟩ := set_eq_ok_iff.1 success
  obtain ⟨⟨path', normalized'⟩, checked'⟩ := accepted
  have again : tree.set key name stored' =
      .ok ⟨setIn (fold path) path (fold name) name stored' tree.keys⟩ :=
    set_eq_ok_iff.2 ⟨path, normalized, checked, rfl⟩
  obtain ⟨rfl, -⟩ := KeyPath.normalize_eq_ok_iff.1 normalized
  obtain ⟨rfl, -⟩ := KeyPath.normalize_eq_ok_iff.1 normalized'
  obtain ⟨samePath, sameName⟩ := Prod.mk.inj matching
  rw [again]
  refine set_eq_ok_iff.2 ⟨_, normalized', checked', ?_⟩
  rw [samePath, sameName, wellFormed.ascending.setIn_setIn]

/-- In a tree that was made empty or loaded from entries, and then changed by calls, a value can be
set under any accepted names. Take other names that match them. If there was no value, a delete
under the other names says that it removed one and leaves the very tree that was there before, and
a set under the other names leaves the tree that setting the second value alone would have left.
Either holds exactly if the other names are accepted. -/
theorem set_undone_and_absorbed (origin : start = empty ∨ ∃ loaded, ofEntries loaded = .ok start)
    (calls : List TreeCall) (accepted : AcceptedNames key name)
    (matching : foldedPair key' name' = foldedPair key name) (stored : StoredValue) :
    let tree := start.after calls
    ∃ middle, tree.set key name stored = .ok middle ∧
      (tree.get? key name = none →
        (middle.delete key' name' = .ok (true, tree) ↔ AcceptedNames key' name')) ∧
      ∀ stored', middle.set key' name' stored' = tree.set key name stored' ↔
        AcceptedNames key' name' := by
  have wellFormed : (start.after calls).WellFormed := wellFormed_after origin calls
  obtain ⟨middle, success⟩ : ∃ middle, (start.after calls).set key name stored = .ok middle :=
    set_of_acceptedNames accepted
  refine ⟨middle, success, fun absent => ⟨acceptedNames_of_delete, fun accepted' => ?_⟩,
    fun stored' => ⟨fun same => ?_, fun accepted' => ?_⟩⟩
  · exact wellFormed.delete_of_set success absent accepted' matching
  · obtain ⟨next, alone⟩ := set_of_acceptedNames accepted
    exact acceptedNames_of_set (same.trans alone)
  · exact wellFormed.set_of_set success accepted' matching stored'

theorem set_undone_and_absorbed_spellings :
    let calls : List TreeCall := [.set "k" "B" ⟨1, []⟩, .set "J" "x" ⟨7, [0, 0]⟩, .delete "J" "X"]
    let tree := empty.after calls
    AcceptedNames "\\K" "aİ" ∧ AcceptedNames "k\\" "Ai̇" ∧
      foldedPair "k\\" "Ai̇" = foldedPair "\\K" "aİ" ∧ tree.get? "\\K" "aİ" = none ∧
      ∃ middle, tree.set "\\K" "aİ" ⟨4, [1]⟩ = .ok middle ∧
        middle.delete "k\\" "Ai̇" = .ok (true, tree) ∧
        middle.set "k\\" "Ai̇" ⟨3, [2]⟩ = tree.set "\\K" "aİ" ⟨3, [2]⟩ := by
  intro calls tree
  have accepted : AcceptedNames "\\K" "aİ" := ⟨⟨"K", by decide +kernel⟩, by decide +kernel⟩
  have accepted' : AcceptedNames "k\\" "Ai̇" := ⟨⟨"k", by decide +kernel⟩, by decide +kernel⟩
  have matching : foldedPair "k\\" "Ai̇" = foldedPair "\\K" "aİ" := by decide +kernel
  have absent : tree.get? "\\K" "aİ" = none := by decide +kernel
  obtain ⟨middle, success, undone, absorbed⟩ :=
    set_undone_and_absorbed (Or.inl rfl) calls accepted matching ⟨4, [1]⟩
  exact ⟨accepted, accepted', matching, absent, middle, success, (undone absent).2 accepted',
    (absorbed _).2 accepted'⟩

/-- A value that was new is not taken back by a delete under every name that matches. -/
theorem not_undone_by_every_match :
    ¬ ∀ (key name key' name' : String), AcceptedNames key name →
      foldedPair key' name' = foldedPair key name → ∀ stored middle,
        empty.set key name stored = .ok middle →
          middle.delete key' name' = .ok (true, empty) := by
  intro undone
  have normalized : KeyPath.normalize "K" = .ok "K" := by rfl
  obtain ⟨accepted, refused, matching⟩ :=
    dotted_matches_refused normalized 8192 (by decide) (by decide)
  obtain ⟨middle, success⟩ : ∃ middle, empty.set "K" (dotted 8192) ⟨4, [1, 0, 0, 0]⟩ = .ok middle :=
    set_of_acceptedNames accepted
  exact refused (acceptedNames_of_delete (undone "K" _ "K" _ accepted matching _ middle success))

end RegistryTree

end GroupPolicy
