import GroupPolicy.Proofs.Naming
import GroupPolicy.Proofs.Tree.Keys

/-!
# Well-formed trees

What holds of every tree that was built by setting and deleting values: `RegistryTree.WellFormed`.
The operations keep it (`WellFormed.set`, `WellFormed.delete`). In such a
tree a folded path and a folded name lead to at most one value, which setting replaces and deleting
removes (`findIn_setIn`, `WellFormed.findIn_eraseIn`).
-/

namespace GroupPolicy

/-- A key under a folded path: its path and its names are accepted, it has values, and no two of
their names match. -/
structure KeyNode.WellFormed (foldedPath : String) (node : KeyNode) : Prop where
  folded : fold node.path = foldedPath
  accepted : KeyPath.normalize node.path = .ok node.path
  nonempty : node.values ≠ []
  checked : ∀ name ∈ node.values.names, ValueName.check name = .ok ()
  distinct : node.values.folds.Nodup

namespace KeyNode.WellFormed

variable {foldedPath foldedName name : String} {stored : StoredValue} {node : KeyNode}

theorem afterErase (wellFormed : node.WellFormed foldedPath) {rest : KeyNode}
    (erased : node.afterErase foldedName = some rest) : rest.WellFormed foldedPath := by
  rw [KeyNode.afterErase] at erased
  split at erased
  · cases erased
  · rename_i remains
    cases erased
    refine ⟨wellFormed.folded, wellFormed.accepted, ?_, ?_, ?_⟩
    · exact fun empty => remains (List.isEmpty_iff.2 empty)
    · intro name member
      have kept : ((node.values.erase foldedName).names).Sublist node.values.names :=
        NamedValues.erase_sublist.map Prod.fst
      exact wellFormed.checked name (kept.subset member)
    · rw [NamedValues.folds_erase]
      exact wellFormed.distinct.erase _

/-- A key stays well-formed when a value is set in it, and a new one becomes so. -/
theorem afterSet {path : String} {old : Option KeyNode}
    (wellFormed : ∀ node, old = some node → node.WellFormed foldedPath)
    (folded : fold path = foldedPath) (accepted : KeyPath.normalize path = .ok path)
    (spelled : fold name = foldedName) (checked : ValueName.check name = .ok ()) :
    (KeyNode.afterSet path foldedName name stored old).WellFormed foldedPath := by
  cases old with
  | none =>
    refine ⟨folded, accepted, List.cons_ne_nil _ _, ?_, List.nodup_singleton _⟩
    intro other member
    rw [List.mem_singleton.1 member]
    exact checked
  | some node =>
    have before := wellFormed node rfl
    refine ⟨before.folded, before.accepted, NamedValues.set_ne_nil, ?_,
      NamedValues.nodup_folds_set spelled before.distinct⟩
    intro other member
    rw [KeyNode.afterSet, Option.getD_some, NamedValues.names_set] at member
    split at member
    · exact before.checked other member
    · rcases List.mem_append.1 member with member | member
      · exact before.checked other member
      · rw [List.mem_singleton.1 member]
        exact checked

end KeyNode.WellFormed

namespace RegistryTree

variable {foldedPath foldedName key name path : String} {stored : StoredValue}
  {keys : List (String × KeyNode)} {tree next : RegistryTree}

/-- The keys of a tree are in order, and each is well-formed under its folded path. -/
structure WellFormed (tree : RegistryTree) : Prop where
  ascending : Ascending tree.keys
  nodes : ∀ foldedPath node, tree.keys.lookup foldedPath = some node → node.WellFormed foldedPath

theorem WellFormed.empty : empty.WellFormed :=
  ⟨Ascending.nil, nofun⟩

/-! ## What an operation that succeeds has done -/

theorem set_eq_ok_iff :
    tree.set key name stored = .ok next ↔
      ∃ path, KeyPath.normalize key = .ok path ∧ ValueName.check name = .ok () ∧
        next = ⟨setIn (fold path) path (fold name) name stored tree.keys⟩ := by
  rw [set, Except.bind_eq_ok_iff]
  refine exists_congr fun path => and_congr_right fun _ => ?_
  rw [Except.bind_eq_ok_iff]
  refine ⟨fun ⟨_, checked, done⟩ => ?_, fun ⟨checked, same⟩ => ⟨(), checked, by rw [same]; rfl⟩⟩
  cases done
  exact ⟨checked, rfl⟩

theorem delete_eq_ok_iff {removed : Bool} :
    tree.delete key name = .ok (removed, next) ↔
      ∃ path, KeyPath.normalize key = .ok path ∧ ValueName.check name = .ok () ∧
        removed = (findIn (fold path) (fold name) tree.keys).isSome ∧
        next = if removed then ⟨eraseIn (fold path) (fold name) tree.keys⟩ else tree := by
  rw [delete, Except.bind_eq_ok_iff]
  refine exists_congr fun path => and_congr_right fun _ => ?_
  rw [Except.bind_eq_ok_iff]
  cases findIn (fold path) (fold name) tree.keys with
  | none =>
    refine ⟨fun ⟨_, checked, done⟩ => ?_, fun ⟨checked, absent, same⟩ => ⟨(), checked, ?_⟩⟩
    · cases done
      exact ⟨checked, rfl, rfl⟩
    · rw [same, absent]
      rfl
  | some stored =>
    refine ⟨fun ⟨_, checked, done⟩ => ?_, fun ⟨checked, present, same⟩ => ⟨(), checked, ?_⟩⟩
    · cases done
      exact ⟨checked, rfl, rfl⟩
    · rw [same, present]
      rfl

theorem get?_eq_of_normalize (accepted : KeyPath.normalize key = .ok path) :
    tree.get? key name = findIn (fold path) (fold name) tree.keys := by
  rw [get?, accepted]

theorem get?_eq_none_of_normalize {error : PolicyError}
    (refused : KeyPath.normalize key = .error error) : tree.get? key name = none := by
  rw [get?, refused]

/-! ## The invariant is kept -/

theorem WellFormed.set (wellFormed : tree.WellFormed)
    (success : tree.set key name stored = .ok next) : next.WellFormed := by
  obtain ⟨path, accepted, checked, rfl⟩ := set_eq_ok_iff.1 success
  refine ⟨wellFormed.ascending.setIn, fun other node found => ?_⟩
  rw [lookup_setIn wellFormed.ascending] at found
  split at found
  · rename_i same
    cases found
    subst same
    exact .afterSet (wellFormed.nodes _) rfl (KeyPath.normalize_of_normalize accepted) rfl checked
  · exact wellFormed.nodes other node found

theorem WellFormed.delete {removed : Bool} (wellFormed : tree.WellFormed)
    (success : tree.delete key name = .ok (removed, next)) : next.WellFormed := by
  obtain ⟨path, -, -, -, rfl⟩ := delete_eq_ok_iff.1 success
  split
  · refine ⟨wellFormed.ascending.eraseIn, fun other node found => ?_⟩
    rw [lookup_eraseIn wellFormed.ascending] at found
    split at found
    · rename_i same
      subst same
      obtain ⟨old, before, erased⟩ := Option.bind_eq_some_iff.1 found
      exact (wellFormed.nodes _ old before).afterErase erased
    · exact wellFormed.nodes other node found
  · exact wellFormed

/-! ## One value under a folded path and a folded name -/

theorem findIn_setIn {other otherName : String} (ascending : Ascending keys)
    (spelled : fold name = foldedName) :
    findIn other otherName (setIn foldedPath path foldedName name stored keys) =
      if other = foldedPath ∧ otherName = foldedName then some stored
      else findIn other otherName keys := by
  rw [findIn, findIn, lookup_setIn ascending]
  by_cases samePath : other = foldedPath
  · rw [if_pos samePath, Option.bind_some, samePath, KeyNode.afterSet,
      NamedValues.find?_set spelled]
    by_cases sameName : otherName = foldedName
    · rw [if_pos sameName, if_pos ⟨rfl, sameName⟩]
    · rw [if_neg sameName, if_neg fun same => sameName same.2]
      cases keys.lookup foldedPath with
      | none => rfl
      | some node => rfl
  · rw [if_neg samePath, if_neg fun same => samePath same.1]

/-- A value that was set is found, whatever the order of the keys is. -/
theorem findIn_setIn_self (spelled : fold name = foldedName) :
    findIn foldedPath foldedName (setIn foldedPath path foldedName name stored keys) =
      some stored := by
  have found (old : Option KeyNode) :
      (KeyNode.afterSet path foldedName name stored old).values.find? foldedName = some stored := by
    rw [KeyNode.afterSet, NamedValues.find?_set spelled, if_pos rfl]
  induction keys with
  | nil =>
    rw [setIn, findIn, lookup_cons, if_pos rfl]
    exact found none
  | cons entry keys ih =>
    rw [setIn_cons, findIn]
    split
    · rename_i here
      rw [lookup_cons, if_pos here]
      exact found _
    · rename_i elsewhere
      split
      · rw [lookup_cons, if_pos rfl]
        exact found none
      · rw [lookup_cons, if_neg elsewhere]
        exact ih

theorem get?_of_set (success : tree.set key name stored = .ok next) :
    next.get? key name = some stored := by
  obtain ⟨path, accepted, -, rfl⟩ := set_eq_ok_iff.1 success
  rw [get?_eq_of_normalize accepted]
  exact findIn_setIn_self rfl

theorem bind_afterErase (otherName : String) (node : KeyNode) :
    (node.afterErase foldedName).bind (·.values.find? otherName) =
      (node.values.erase foldedName).find? otherName := by
  rw [KeyNode.afterErase]
  by_cases empty : (node.values.erase foldedName).isEmpty = true
  · rw [if_pos empty, List.isEmpty_iff.1 empty]
    rfl
  · rw [if_neg empty]
    rfl

theorem WellFormed.findIn_eraseIn (wellFormed : tree.WellFormed) {other otherName : String} :
    findIn other otherName (eraseIn foldedPath foldedName tree.keys) =
      if other = foldedPath ∧ otherName = foldedName then none
      else findIn other otherName tree.keys := by
  rw [findIn, findIn, lookup_eraseIn wellFormed.ascending]
  by_cases samePath : other = foldedPath
  · rw [if_pos samePath, samePath]
    cases found : tree.keys.lookup foldedPath with
    | none =>
      split
      · rfl
      · rfl
    | some node =>
      rw [Option.bind_some, Option.bind_some, bind_afterErase,
        NamedValues.find?_erase (wellFormed.nodes _ node found).distinct]
      by_cases sameName : otherName = foldedName
      · rw [if_pos sameName, if_pos ⟨rfl, sameName⟩]
      · rw [if_neg sameName, if_neg fun same => sameName same.2]
  · rw [if_neg samePath, if_neg fun same => samePath same.1]

/-! ## The pairs that have a value -/

/-- The folded paths and folded names under which there are values, in order. -/
def pairs (keys : List (String × KeyNode)) : List (String × String) :=
  keys.flatMap fun entry => entry.2.values.folds.map (entry.1, ·)

theorem pairs_cons (entry : String × KeyNode) (keys : List (String × KeyNode)) :
    pairs (entry :: keys) = entry.2.values.folds.map (entry.1, ·) ++ pairs keys :=
  List.flatMap_cons

theorem length_pairs (tree : RegistryTree) : (pairs tree.keys).length = tree.size := by
  obtain ⟨keys⟩ := tree
  induction keys with
  | nil => rfl
  | cons entry keys ih =>
    rw [pairs_cons, List.length_append, List.length_map, NamedValues.length_folds, ih]
    rfl

theorem WellFormed.mem_pairs (wellFormed : tree.WellFormed) {pair : String × String} :
    pair ∈ pairs tree.keys ↔ (findIn pair.1 pair.2 tree.keys).isSome := by
  obtain ⟨path, name⟩ := pair
  rw [pairs, List.mem_flatMap, findIn]
  constructor
  · intro ⟨⟨foldedPath, node⟩, member, here⟩
    obtain ⟨foldedName, named, same⟩ := List.mem_map.1 here
    cases same
    rw [wellFormed.ascending.mem_iff.1 member]
    exact NamedValues.isSome_find?_iff.2 named
  · intro present
    cases found : tree.keys.lookup path with
    | none =>
      rw [found] at present
      cases present
    | some node =>
      rw [found] at present
      exact ⟨(path, node), wellFormed.ascending.mem_iff.2 found,
        List.mem_map_of_mem (NamedValues.isSome_find?_iff.1 present)⟩

theorem WellFormed.nodup_pairs (wellFormed : tree.WellFormed) : (pairs tree.keys).Nodup := by
  rw [pairs, List.nodup_flatMap]
  constructor
  · intro ⟨foldedPath, node⟩ member
    have found := wellFormed.ascending.mem_iff.1 member
    exact (wellFormed.nodes foldedPath node found).distinct.map (Prod.mk_right_injective foldedPath)
  · have ascending : tree.keys.Pairwise fun left right => left.1 < right.1 :=
      List.pairwise_map.1 wellFormed.ascending
    refine ascending.imp fun less pair left right => ?_
    obtain ⟨_, _, same⟩ := List.mem_map.1 left
    obtain ⟨_, _, same'⟩ := List.mem_map.1 right
    exact less.ne ((congrArg Prod.fst same).trans (congrArg Prod.fst same').symm)

/-- The size counts one pair apart from the others. -/
theorem WellFormed.size_eq_erase (wellFormed : tree.WellFormed) (pair : String × String) :
    tree.size =
      ((pairs tree.keys).erase pair).length + (findIn pair.1 pair.2 tree.keys).isSome.toNat := by
  rw [← length_pairs, List.length_erase]
  by_cases present : pair ∈ pairs tree.keys
  · have counted := List.length_pos_of_mem present
    rw [if_pos present, wellFormed.mem_pairs.1 present, Bool.toNat_true]
    omega
  · rw [if_neg present, Bool.eq_false_iff.2 fun live => present (wellFormed.mem_pairs.2 live)]
    rfl

end RegistryTree

end GroupPolicy
