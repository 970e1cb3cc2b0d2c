import GroupPolicy.Proofs.Tree.Calls

/-!
# What calls leave alone

A tree lists its values as entries, each under a pair of folded names. A call that succeeds leaves
the entries under all pairs but its own as they are, spellings and order included
(`TreeCall.filter_entries_apply`), and so do calls in a row
(`RegistryTree.WellFormed.filter_entries_after`).
-/

namespace GroupPolicy

/-- The pair of names that an entry is under. -/
def PolicyEntry.pair (entry : PolicyEntry) : String × String :=
  foldedPair entry.key entry.name

namespace NamedValues

variable {folded name : String} {stored : StoredValue} {values : NamedValues} {p : String → Bool}

theorem filter_set (spelled : fold name = folded) (elsewhere : p folded = false) :
    (set folded name stored values).filter (fun value => p (fold value.1)) =
      values.filter fun value => p (fold value.1) := by
  induction values with
  | nil => rw [set, List.filter_cons, spelled, elsewhere, if_neg Bool.false_ne_true]
  | cons value values ih =>
    rw [set_cons, List.filter_cons]
    by_cases here : fold value.1 = folded
    · rw [if_pos here, List.filter_cons, here, elsewhere, if_neg Bool.false_ne_true,
        if_neg Bool.false_ne_true]
    · rw [if_neg here, List.filter_cons, ih]

theorem filter_erase (elsewhere : p folded = false) :
    (erase folded values).filter (fun value => p (fold value.1)) =
      values.filter fun value => p (fold value.1) := by
  induction values with
  | nil => rfl
  | cons value values ih =>
    rw [erase_cons, List.filter_cons]
    by_cases here : fold value.1 = folded
    · rw [if_pos here, here, elsewhere, if_neg Bool.false_ne_true]
    · rw [if_neg here, List.filter_cons, ih]

end NamedValues

theorem KeyNode.WellFormed.fold_stripped {foldedPath : String} {node : KeyNode}
    (wellFormed : node.WellFormed foldedPath) : fold (KeyPath.stripped node.path) = foldedPath := by
  rw [← (KeyPath.normalize_eq_ok_iff.1 wellFormed.accepted).1]
  exact wellFormed.folded

namespace RegistryTree

variable {foldedPath foldedName path name : String} {stored : StoredValue} {node : KeyNode}
  {keys : List (String × KeyNode)} {tree : RegistryTree} {p : String × String → Bool}

theorem entries_cons (entry : String × KeyNode) (keys : List (String × KeyNode)) :
    entries ⟨entry :: keys⟩ = KeyNode.entries entry.2 ++ entries ⟨keys⟩ :=
  List.flatMap_cons

/-! ## The pairs of what a tree lists -/

theorem map_pair_keyNode_entries (folded : fold (KeyPath.stripped node.path) = foldedPath) :
    (KeyNode.entries node).map PolicyEntry.pair = node.values.folds.map (foldedPath, ·) := by
  rw [KeyNode.entries, NamedValues.folds, NamedValues.names, List.map_map, List.map_map,
    List.map_map, ← folded]
  rfl

theorem WellFormed.map_pair_entries (wellFormed : tree.WellFormed) :
    tree.entries.map PolicyEntry.pair = pairs tree.keys := by
  rw [entries, pairs, List.map_flatMap]
  refine List.flatMap_congr fun entry member => ?_
  have found := wellFormed.ascending.mem_iff.1 member
  exact map_pair_keyNode_entries (wellFormed.nodes _ _ found).fold_stripped

theorem WellFormed.nodup_pairs_entries (wellFormed : tree.WellFormed) :
    (tree.entries.map PolicyEntry.pair).Nodup := by
  rw [wellFormed.map_pair_entries]
  exact wellFormed.nodup_pairs

/-- The entries of a key that pass a test of pairs are those of the values that do. -/
theorem filter_keyNode_entries (folded : fold (KeyPath.stripped path) = foldedPath)
    (values : NamedValues) :
    (KeyNode.entries ⟨path, values⟩).filter (fun entry => p entry.pair) =
      KeyNode.entries ⟨path, values.filter fun value => p (foldedPath, fold value.1)⟩ := by
  rw [KeyNode.entries, List.filter_map, ← folded]
  rfl

/-! ## One call -/

theorem filter_entries_setIn (nodes : ∀ entry ∈ keys, entry.2.WellFormed entry.1)
    (folded : fold (KeyPath.stripped path) = foldedPath) (spelled : fold name = foldedName)
    (elsewhere : p (foldedPath, foldedName) = false) :
    (entries ⟨setIn foldedPath path foldedName name stored keys⟩).filter
        (fun entry => p entry.pair) =
      (entries ⟨keys⟩).filter fun entry => p entry.pair := by
  have within {spelling : String} (same : fold (KeyPath.stripped spelling) = foldedPath)
      (values : NamedValues) :
      (KeyNode.entries ⟨spelling, values.set foldedName name stored⟩).filter
          (fun entry => p entry.pair) =
        (KeyNode.entries ⟨spelling, values⟩).filter fun entry => p entry.pair := by
    rw [filter_keyNode_entries same, filter_keyNode_entries same,
      NamedValues.filter_set (p := fun other => p (foldedPath, other)) spelled elsewhere]
  have created :
      (KeyNode.entries ⟨path, [(name, stored)]⟩).filter (fun entry => p entry.pair) = [] :=
    within folded []
  induction keys with
  | nil =>
    rw [setIn, entries_cons, List.filter_append, created]
    rfl
  | cons entry keys ih =>
    rw [List.forall_mem_cons] at nodes
    rw [setIn_cons, entries_cons entry, List.filter_append]
    split
    · rename_i here
      rw [entries_cons, List.filter_append]
      exact congrArg (· ++ _) (within (nodes.1.fold_stripped.trans here.symm) entry.2.values)
    · split
      · rw [entries_cons, entries_cons, List.filter_append, List.filter_append]
        exact congrArg (· ++ _) created
      · rw [entries_cons, List.filter_append, ih nodes.2]

theorem filter_entries_eraseIn (nodes : ∀ entry ∈ keys, entry.2.WellFormed entry.1)
    (elsewhere : p (foldedPath, foldedName) = false) :
    (entries ⟨eraseIn foldedPath foldedName keys⟩).filter (fun entry => p entry.pair) =
      (entries ⟨keys⟩).filter fun entry => p entry.pair := by
  induction keys with
  | nil => rfl
  | cons entry keys ih =>
    rw [List.forall_mem_cons] at nodes
    rw [eraseIn_cons, entries_cons entry, List.filter_append]
    split
    · rename_i here
      have remaining :
          entries ⟨((entry.2.afterErase foldedName).map (entry.1, ·)).toList ++ keys⟩ =
            KeyNode.entries ⟨entry.2.path, entry.2.values.erase foldedName⟩ ++
              entries ⟨keys⟩ := by
        rw [KeyNode.afterErase]
        by_cases empty : (entry.2.values.erase foldedName).isEmpty = true
        · rw [if_pos empty, List.isEmpty_iff.1 empty]
          rfl
        · rw [if_neg empty]
          exact entries_cons _ _
      have same := nodes.1.fold_stripped.trans here.symm
      rw [remaining, List.filter_append, filter_keyNode_entries same,
        NamedValues.filter_erase (p := fun other => p (foldedPath, other)) elsewhere,
        ← filter_keyNode_entries same]
    · rw [entries_cons, List.filter_append, ih nodes.2]

end RegistryTree

/-- A call that succeeds leaves the entries under all pairs but its own as they are, in order. -/
theorem TreeCall.filter_entries_apply {call : TreeCall} {tree next : RegistryTree}
    {p : String × String → Bool} (wellFormed : tree.WellFormed)
    (success : call.apply tree = .ok next) (elsewhere : p call.pair = false) :
    next.entries.filter (fun entry => p entry.pair) =
      tree.entries.filter fun entry => p entry.pair := by
  have nodes : ∀ entry ∈ tree.keys, entry.2.WellFormed entry.1 := fun entry member =>
    wellFormed.nodes _ _ (wellFormed.ascending.mem_iff.1 member)
  cases call with
  | set key name stored =>
    obtain ⟨path, accepted, -, rfl⟩ := RegistryTree.set_eq_ok_iff.1 success
    obtain ⟨rfl, -⟩ := KeyPath.normalize_eq_ok_iff.1 accepted
    exact RegistryTree.filter_entries_setIn nodes (by rw [KeyPath.stripped_stripped]) rfl elsewhere
  | delete key name =>
    obtain ⟨removed, deleted⟩ := apply_delete_eq_ok_iff.1 success
    obtain ⟨path, accepted, -, -, rfl⟩ := RegistryTree.delete_eq_ok_iff.1 deleted
    obtain ⟨rfl, -⟩ := KeyPath.normalize_eq_ok_iff.1 accepted
    split
    · exact RegistryTree.filter_entries_eraseIn nodes elsewhere
    · rfl

/-- Calls in a row leave the entries under all pairs but theirs as they are, in order. -/
theorem RegistryTree.WellFormed.filter_entries_after {tree : RegistryTree} {calls : List TreeCall}
    {p : String × String → Bool} (wellFormed : tree.WellFormed)
    (elsewhere : ∀ call ∈ calls, p call.pair = false) :
    (tree.after calls).entries.filter (fun entry => p entry.pair) =
      tree.entries.filter fun entry => p entry.pair := by
  induction calls generalizing tree with
  | nil => rfl
  | cons call calls ih =>
    rw [List.forall_mem_cons] at elsewhere
    rw [RegistryTree.after]
    split
    · rename_i next success
      rw [ih (TreeCall.apply_wellFormed wellFormed success) elsewhere.2]
      exact TreeCall.filter_entries_apply wellFormed success elsewhere.1
    · exact ih wellFormed elsewhere.2

end GroupPolicy
