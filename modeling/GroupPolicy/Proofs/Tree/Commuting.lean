import GroupPolicy.Proofs.Tree.Calls
import Mathlib.Data.List.Sort

/-!
# Calls on different keys

A call looks at the key of its folded path alone, and changes no other (`TreeCall.lookup_apply`).
Since ordered keys are the same as soon as every folded path leads to the same key
(`RegistryTree.Ascending.ext`), two calls on different keys leave the same tree whichever comes
first (`TreeCall.apply_swap`).
-/

namespace GroupPolicy

/-- Ordered keys under which every folded path leads to the same key are the same. -/
theorem RegistryTree.Ascending.ext {left right : List (String × KeyNode)}
    (ascending : Ascending left) (ascending' : Ascending right)
    (same : ∀ foldedPath, left.lookup foldedPath = right.lookup foldedPath) : left = right := by
  have irreflexive : Std.Irrefl fun first second : String × KeyNode => first.1 < second.1 :=
    ⟨fun entry => lt_irrefl entry.1⟩
  have antisymmetric : Std.Antisymm fun first second : String × KeyNode => first.1 < second.1 :=
    ⟨fun _ _ less greater => absurd greater (lt_asymm less)⟩
  refine List.Pairwise.eq_of_mem_iff (List.pairwise_map.1 ascending)
    (List.pairwise_map.1 ascending') fun ⟨foldedPath, node⟩ => ?_
  rw [ascending.mem_iff, ascending'.mem_iff, same]

namespace TreeCall

variable {call first second : TreeCall} {tree middle next : RegistryTree}

/-- What a call makes of the key of its folded path. -/
def nodeAfter (old : Option KeyNode) : TreeCall → Option KeyNode
  | set key name stored =>
    some (KeyNode.afterSet (KeyPath.stripped key) (fold name) name stored old)
  | delete _ name =>
    old.bind fun node =>
      if (node.values.find? (fold name)).isSome then node.afterErase (fold name) else some node

/-- A call that succeeds changes the key of its folded path and no other. -/
theorem lookup_apply (ascending : RegistryTree.Ascending tree.keys)
    (success : call.apply tree = .ok next) (foldedPath : String) :
    next.keys.lookup foldedPath =
      if foldedPath = call.pair.1 then call.nodeAfter (tree.keys.lookup call.pair.1)
      else tree.keys.lookup foldedPath := by
  cases call with
  | set key name stored =>
    obtain ⟨path, accepted, -, rfl⟩ := RegistryTree.set_eq_ok_iff.1 success
    obtain ⟨rfl, -⟩ := KeyPath.normalize_eq_ok_iff.1 accepted
    exact RegistryTree.lookup_setIn ascending
  | delete key name =>
    obtain ⟨removed, deleted⟩ := apply_delete_eq_ok_iff.1 success
    obtain ⟨path, accepted, -, present, rfl⟩ := RegistryTree.delete_eq_ok_iff.1 deleted
    obtain ⟨rfl, -⟩ := KeyPath.normalize_eq_ok_iff.1 accepted
    rw [RegistryTree.findIn] at present
    have here : (delete key name).pair.1 = fold (KeyPath.stripped key) := rfl
    rw [here]
    cases removed with
    | true =>
      obtain ⟨stored, value⟩ := Option.isSome_iff_exists.1 present.symm
      obtain ⟨node, found, named⟩ := Option.bind_eq_some_iff.1 value
      have inNode : (node.values.find? (fold name)).isSome = true := by
        rw [named]
        rfl
      rw [if_pos rfl, RegistryTree.lookup_eraseIn ascending, found, nodeAfter, Option.bind_some,
        Option.bind_some, if_pos inNode]
    | false =>
      -- The name is not in the key, so the key is as it was.
      have kept : (delete key name).nodeAfter (tree.keys.lookup (fold (KeyPath.stripped key))) =
          tree.keys.lookup (fold (KeyPath.stripped key)) := by
        cases found : tree.keys.lookup (fold (KeyPath.stripped key)) with
        | none => rfl
        | some node =>
          rw [found, Option.bind_some] at present
          rw [nodeAfter, Option.bind_some, ← present, if_neg Bool.false_ne_true]
      rw [if_neg Bool.false_ne_true, kept]
      split
      · rename_i same
        rw [same]
      · rfl

/-- Two calls on different keys that succeed can be made in the other order, and leave the same
tree. -/
theorem apply_swap (wellFormed : tree.WellFormed) (apart : first.pair.1 ≠ second.pair.1)
    (applied : first.apply tree = .ok middle) (applied' : second.apply middle = .ok next) :
    ∃ other, second.apply tree = .ok other ∧ first.apply other = .ok next := by
  obtain ⟨other, begun⟩ := exists_apply_eq_ok_iff.2 (exists_apply_eq_ok_iff.1 ⟨next, applied'⟩)
  obtain ⟨last, ended⟩ := exists_apply_eq_ok_iff.2 (exists_apply_eq_ok_iff.1 ⟨middle, applied⟩)
  refine ⟨other, begun, ended.trans ?_⟩
  have sound := apply_wellFormed wellFormed applied
  have sound' := apply_wellFormed wellFormed begun
  have same : last.keys = next.keys := by
    refine RegistryTree.Ascending.ext (apply_wellFormed sound' ended).ascending
      (apply_wellFormed sound applied').ascending fun foldedPath => ?_
    rw [lookup_apply sound'.ascending ended, lookup_apply sound.ascending applied',
      lookup_apply wellFormed.ascending begun, lookup_apply wellFormed.ascending applied,
      lookup_apply wellFormed.ascending begun, lookup_apply wellFormed.ascending applied,
      if_neg apart, if_neg apart.symm]
    by_cases onFirst : foldedPath = first.pair.1
    · rw [if_pos onFirst, if_pos onFirst, if_neg fun onSecond =>
        apart (onFirst.symm.trans onSecond)]
    · rw [if_neg onFirst, if_neg onFirst]
  exact congrArg Except.ok (congrArg RegistryTree.mk same)

end TreeCall

end GroupPolicy
