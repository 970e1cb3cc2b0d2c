import GroupPolicy.Proofs.Tree.Frame
import GroupPolicy.Proofs.Tree.Reload

/-!
# What trees look like

`WellFormed` says in terms of the checks of names what holds of a tree that was built by its
operations. Here it is said of the names and the lists themselves (`KeyNode.Sound`), together with
what follows for the size of a tree, for what it lists, and for looking up what it lists.
-/

namespace GroupPolicy

/-- A key as it is held under a folded path. -/
structure KeyNode.Sound (foldedPath : String) (node : KeyNode) : Prop where
  folded : foldedPath = fold node.path
  clean : KeyPath.Clean node.path
  nonempty : node.values ≠ []
  valid : ∀ value ∈ node.values, '\x00' ∉ value.1.toList ∧ value.1.toList.length ≤ 16383
  distinct : node.values.Pairwise fun left right => fold left.1 ≠ fold right.1

theorem KeyNode.WellFormed.sound {foldedPath : String} {node : KeyNode}
    (wellFormed : node.WellFormed foldedPath) : node.Sound foldedPath := by
  refine ⟨wellFormed.folded.symm, KeyPath.clean_of_normalize wellFormed.accepted,
    wellFormed.nonempty, fun value member => ?_, ?_⟩
  · exact ValueName.check_eq_ok_iff.1 (wellFormed.checked value.1 (List.mem_map_of_mem member))
  · have distinct : (node.values.map fun value => fold value.1).Nodup := by
      have same := wellFormed.distinct
      rwa [NamedValues.folds, NamedValues.names, List.map_map] at same
    exact List.pairwise_map.1 distinct

namespace RegistryTree

variable {tree start : RegistryTree} {entry : PolicyEntry}

theorem WellFormed.isEmpty_iff (wellFormed : tree.WellFormed) :
    tree.isEmpty = true ↔ tree.size = 0 := by
  rw [isEmpty, List.isEmpty_iff, ← length_pairs, List.length_eq_zero_iff, pairs,
    List.flatMap_eq_nil_iff]
  refine ⟨fun none entry member => absurd member (none ▸ List.not_mem_nil), fun none => ?_⟩
  refine List.eq_nil_iff_forall_not_mem.2 ?_
  rintro ⟨foldedPath, node⟩ member
  have valid := wellFormed.nodes foldedPath node (wellFormed.ascending.mem_iff.1 member)
  have unnamed := none _ member
  rw [List.map_eq_nil_iff, NamedValues.folds, List.map_eq_nil_iff, NamedValues.names,
    List.map_eq_nil_iff] at unnamed
  exact valid.nonempty unnamed

theorem WellFormed.length_entries (wellFormed : tree.WellFormed) :
    tree.entries.length = tree.size := by
  rw [← length_pairs, ← wellFormed.map_pair_entries, List.length_map]

/-- The key path of an entry that a tree lists has no backslashes at its ends. -/
theorem WellFormed.pair_of_mem_entries (wellFormed : tree.WellFormed)
    (member : entry ∈ tree.entries) : entry.pair = (fold entry.key, fold entry.name) := by
  obtain ⟨accepted, -⟩ := wellFormed.accepted_of_mem_entries member
  rw [PolicyEntry.pair, foldedPair, ← (KeyPath.normalize_eq_ok_iff.1 accepted).1]

/-- No two of the entries that a tree lists match. -/
theorem WellFormed.pairwise_entries (wellFormed : tree.WellFormed) :
    tree.entries.Pairwise fun left right =>
      ¬ (fold left.key = fold right.key ∧ fold left.name = fold right.name) := by
  refine (List.pairwise_map.1 wellFormed.nodup_pairs_entries).imp_of_mem
    fun left right different same => ?_
  rw [wellFormed.pair_of_mem_entries left, wellFormed.pair_of_mem_entries right] at different
  exact different (Prod.ext same.1 same.2)

/-- What a tree lists is found under the names with which it is listed. -/
theorem WellFormed.get?_of_mem_entries (wellFormed : tree.WellFormed)
    (member : entry ∈ tree.entries) :
    tree.get? entry.key entry.name = some ⟨entry.code, entry.data⟩ := by
  rw [get?_eq_of_normalize (wellFormed.accepted_of_mem_entries member).1]
  exact (wellFormed.of_mem_entries member).2

/-- A tree that was made empty or loaded from entries, and then changed by calls, some of which may
have failed, has sound keys in ascending order of their folded paths. So it is empty if and only if
its size is zero, its size is the number of entries that it lists, no two of them match, and each is
found with its value under its own names. -/
theorem representation_sound (origin : start = empty ∨ ∃ loaded, ofEntries loaded = .ok start)
    (calls : List TreeCall) :
    let tree := start.after calls
    (∀ key ∈ tree.keys, key.2.Sound key.1) ∧
    (tree.keys.map Prod.fst).Pairwise (· < ·) ∧
    (tree.isEmpty = true ↔ tree.size = 0) ∧
    tree.size = tree.entries.length ∧
    (tree.entries.Pairwise fun left right =>
      ¬ (fold left.key = fold right.key ∧ fold left.name = fold right.name)) ∧
    ∀ entry ∈ tree.entries, tree.get? entry.key entry.name = some ⟨entry.code, entry.data⟩ := by
  have begun : start.WellFormed := by
    rcases origin with rfl | ⟨loaded, opened⟩
    · exact WellFormed.empty
    · exact wellFormed_of_ofEntries opened
  have wellFormed : (start.after calls).WellFormed := begun.after calls
  refine ⟨fun key member => ?_, wellFormed.ascending, wellFormed.isEmpty_iff,
    wellFormed.length_entries.symm, wellFormed.pairwise_entries,
    fun entry => wellFormed.get?_of_mem_entries⟩
  exact (wellFormed.nodes _ _ (wellFormed.ascending.mem_iff.1 member)).sound

theorem representation_sound_emptied_key :
    let loaded : List PolicyEntry := [⟨"\\K\\sub\\", "A", 1, []⟩, ⟨"k\\SUB", "a", 99, [1]⟩]
    let start : RegistryTree := ⟨[("k\\sub", ⟨"K\\sub", [("A", ⟨99, [1]⟩)]⟩)]⟩
    let calls : List TreeCall := [.set "J\\\\x" "N" ⟨3, []⟩, .set "\\j" "N" ⟨3, [0]⟩,
      .delete "K\\Sub" "A", .delete "J" "M", .set "J" "M" ⟨1, []⟩]
    let tree : RegistryTree := ⟨[("j", ⟨"j", [("N", ⟨3, [0]⟩), ("M", ⟨1, []⟩)]⟩)]⟩
    ofEntries loaded = .ok start ∧ start.after calls = tree ∧
      KeyNode.Sound "j" ⟨"j", [("N", ⟨3, [0]⟩), ("M", ⟨1, []⟩)]⟩ ∧ tree.size = 2 ∧
      tree.get? "j" "M" = some ⟨1, []⟩ := by
  intro loaded start calls tree
  have opened : ofEntries loaded = .ok start := by rfl
  have reached : start.after calls = tree := by rfl
  obtain ⟨sound, -, -, counted, -, found⟩ :=
    representation_sound (Or.inr ⟨loaded, opened⟩) calls
  rw [reached] at sound counted found
  exact ⟨opened, reached, sound _ (List.mem_singleton_self _), counted,
    found ⟨"j", "M", 1, []⟩ (by decide)⟩

end RegistryTree

end GroupPolicy
