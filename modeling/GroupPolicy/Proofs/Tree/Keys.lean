import GroupPolicy.Proofs.Tree.Values
import Mathlib.Data.String.Basic
import Mathlib.Order.Basic

/-!
# Ordered keys

Keys in ascending order of their folded paths are searched by `List.lookup`, and setting or erasing
a value acts on the key of one folded path and leaves all others alone (`lookup_setIn`,
`lookup_eraseIn`). What becomes of that key is `KeyNode.afterSet` and `KeyNode.afterErase`.
-/

namespace GroupPolicy

namespace KeyNode

/-- A key, which may be new, after a value in it is set. -/
def afterSet (path foldedName name : String) (stored : StoredValue) (old : Option KeyNode) :
    KeyNode :=
  let node := old.getD ⟨path, []⟩
  { node with values := node.values.set foldedName name stored }

/-- A key after a value in it is erased; it vanishes with its last value. -/
def afterErase (foldedName : String) (node : KeyNode) : Option KeyNode :=
  let values := node.values.erase foldedName
  if values.isEmpty then none else some { node with values }

end KeyNode

namespace RegistryTree

variable {foldedPath other path foldedName name : String} {stored : StoredValue} {node : KeyNode}
  {keys : List (String × KeyNode)}

/-- The folded paths are in ascending order, and no two are the same. -/
def Ascending (keys : List (String × KeyNode)) : Prop :=
  (keys.map Prod.fst).Pairwise (· < ·)

theorem Ascending.nil : Ascending [] := List.Pairwise.nil

theorem ascending_cons {entry : String × KeyNode} :
    Ascending (entry :: keys) ↔ (∀ later ∈ keys.map Prod.fst, entry.1 < later) ∧ Ascending keys :=
  List.pairwise_cons

theorem lookup_cons (entry : String × KeyNode) (keys : List (String × KeyNode)) :
    (entry :: keys).lookup other = if other = entry.1 then some entry.2 else keys.lookup other := by
  rw [List.lookup_cons]
  by_cases same : other = entry.1
  · rw [if_pos same, beq_iff_eq.2 same]
  · rw [if_neg same, beq_eq_false_iff_ne.2 same]

theorem lookup_eq_none_of_not_mem (absent : other ∉ keys.map Prod.fst) :
    keys.lookup other = none := by
  rw [List.lookup_eq_none_iff]
  intro entry member
  rw [bne_iff_ne]
  exact fun same => absent (same ▸ List.mem_map_of_mem member)

theorem Ascending.mem_iff (ascending : Ascending keys) :
    (other, node) ∈ keys ↔ keys.lookup other = some node := by
  induction keys with
  | nil => exact ⟨nofun, nofun⟩
  | cons entry keys ih =>
    obtain ⟨smaller, ascending⟩ := ascending_cons.1 ascending
    rw [lookup_cons, List.mem_cons]
    by_cases same : other = entry.1
    · rw [if_pos same]
      have absent : (other, node) ∉ keys := fun member =>
        lt_irrefl other (same ▸ smaller other (List.mem_map_of_mem member))
      refine ⟨fun member => ?_, fun found => Or.inl ?_⟩
      · rw [← member.resolve_right absent]
      · exact Prod.ext same (Option.some.inj found).symm
    · rw [if_neg same, ← ih ascending]
      exact ⟨fun member => member.resolve_left fun equal => same (congrArg Prod.fst equal), Or.inr⟩

/-! ## Setting a value -/

theorem setIn_cons (entry : String × KeyNode) (keys : List (String × KeyNode)) :
    setIn foldedPath path foldedName name stored (entry :: keys) =
      if foldedPath = entry.1 then
        (entry.1, KeyNode.afterSet path foldedName name stored (some entry.2)) :: keys
      else if foldedPath < entry.1 then
        (foldedPath, KeyNode.afterSet path foldedName name stored none) :: entry :: keys
      else entry :: setIn foldedPath path foldedName name stored keys := rfl

theorem setIn_append {front : List (String × KeyNode)}
    (smaller : ∀ earlier ∈ front.map Prod.fst, earlier < foldedPath) :
    setIn foldedPath path foldedName name stored (front ++ keys) =
      front ++ setIn foldedPath path foldedName name stored keys := by
  induction front with
  | nil => rfl
  | cons entry front ih =>
    rw [List.map_cons, List.forall_mem_cons] at smaller
    rw [List.cons_append, setIn_cons, if_neg (ne_of_gt smaller.1), if_neg (lt_asymm smaller.1),
      ih smaller.2, List.cons_append]

/-- A new key whose path is larger than all others comes last. -/
theorem setIn_of_larger (smaller : ∀ earlier ∈ keys.map Prod.fst, earlier < foldedPath) :
    setIn foldedPath path foldedName name stored keys =
      keys ++ [(foldedPath, ⟨path, [(name, stored)]⟩)] := by
  have added : setIn foldedPath path foldedName name stored (keys ++ []) =
      keys ++ setIn foldedPath path foldedName name stored [] := setIn_append smaller
  rw [List.append_nil] at added
  exact added

theorem mem_paths_setIn :
    other ∈ (setIn foldedPath path foldedName name stored keys).map Prod.fst ↔
      other = foldedPath ∨ other ∈ keys.map Prod.fst := by
  induction keys with
  | nil => exact List.mem_singleton.trans ⟨Or.inl, fun member => member.resolve_right nofun⟩
  | cons entry keys ih =>
    rw [setIn_cons]
    split
    · rename_i same
      rw [List.map_cons, List.map_cons, List.mem_cons, same]
      exact ⟨Or.inr, fun member => member.elim Or.inl id⟩
    · split
      · rw [List.map_cons, List.mem_cons]
      · rw [List.map_cons, List.map_cons, List.mem_cons, List.mem_cons, ih]
        exact or_left_comm

theorem Ascending.setIn (ascending : Ascending keys) :
    Ascending (setIn foldedPath path foldedName name stored keys) := by
  induction keys with
  | nil => exact List.pairwise_singleton _ _
  | cons entry keys ih =>
    obtain ⟨smaller, rest⟩ := ascending_cons.1 ascending
    rw [setIn_cons]
    split
    · exact ascending_cons.2 ⟨smaller, rest⟩
    · rename_i different
      split
      · rename_i less
        refine ascending_cons.2 ⟨fun later member => ?_, ascending⟩
        rw [List.map_cons, List.mem_cons] at member
        rcases member with rfl | member
        · exact less
        · exact less.trans (smaller later member)
      · rename_i notLess
        refine ascending_cons.2 ⟨fun later member => ?_, ih rest⟩
        rcases mem_paths_setIn.1 member with rfl | member
        · exact lt_of_le_of_ne (not_lt.1 notLess) (Ne.symm different)
        · exact smaller later member

/-- Setting a value changes the key of its path and no other. -/
theorem lookup_setIn (ascending : Ascending keys) :
    (setIn foldedPath path foldedName name stored keys).lookup other =
      if other = foldedPath then
        some (KeyNode.afterSet path foldedName name stored (keys.lookup foldedPath))
      else keys.lookup other := by
  induction keys with
  | nil =>
    rw [setIn, lookup_cons]
    rfl
  | cons entry keys ih =>
    obtain ⟨smaller, rest⟩ := ascending_cons.1 ascending
    rw [setIn_cons, lookup_cons entry keys, lookup_cons entry keys]
    by_cases here : foldedPath = entry.1
    · rw [if_pos here, if_pos here, lookup_cons, here]
      split
      · rfl
      · rfl
    · rw [if_neg here, if_neg here]
      by_cases before : foldedPath < entry.1
      · have absent : foldedPath ∉ keys.map Prod.fst := fun member =>
          lt_asymm before (smaller foldedPath member)
        rw [if_pos before, lookup_cons, lookup_cons, lookup_eq_none_of_not_mem absent]
      · rw [if_neg before, lookup_cons, ih rest]
        by_cases first : other = entry.1
        · have different : other ≠ foldedPath := fun same => here (same.symm.trans first)
          rw [if_pos first, if_neg different, if_pos first]
        · rw [if_neg first, if_neg first]

/-! ## Erasing a value -/

theorem eraseIn_cons (entry : String × KeyNode) (keys : List (String × KeyNode)) :
    eraseIn foldedPath foldedName (entry :: keys) =
      if foldedPath = entry.1 then
        ((entry.2.afterErase foldedName).map (entry.1, ·)).toList ++ keys
      else entry :: eraseIn foldedPath foldedName keys := by
  rw [eraseIn]
  by_cases here : foldedPath = entry.1
  · rw [if_pos here, if_pos here, KeyNode.afterErase]
    by_cases empty : (entry.2.values.erase foldedName).isEmpty = true
    · rw [if_pos empty, if_pos empty]
      rfl
    · rw [if_neg empty, if_neg empty]
      rfl
  · rw [if_neg here, if_neg here]

theorem eraseIn_sublist :
    ((eraseIn foldedPath foldedName keys).map Prod.fst).Sublist (keys.map Prod.fst) := by
  induction keys with
  | nil => exact List.Sublist.refl _
  | cons entry keys ih =>
    rw [eraseIn_cons]
    split
    · cases entry.2.afterErase foldedName with
      | none => exact (List.Sublist.refl _).cons _
      | some node => exact List.Sublist.refl _
    · exact ih.cons_cons _

theorem Ascending.eraseIn (ascending : Ascending keys) :
    Ascending (eraseIn foldedPath foldedName keys) :=
  List.Pairwise.sublist eraseIn_sublist ascending

/-- Erasing a value changes the key of its path and no other. -/
theorem lookup_eraseIn (ascending : Ascending keys) :
    (eraseIn foldedPath foldedName keys).lookup other =
      if other = foldedPath then (keys.lookup foldedPath).bind (·.afterErase foldedName)
      else keys.lookup other := by
  induction keys with
  | nil =>
    split
    · rfl
    · rfl
  | cons entry keys ih =>
    obtain ⟨smaller, rest⟩ := ascending_cons.1 ascending
    rw [eraseIn_cons, lookup_cons entry keys, lookup_cons entry keys]
    by_cases here : foldedPath = entry.1
    · have absent : entry.1 ∉ keys.map Prod.fst := fun member => lt_irrefl _ (smaller _ member)
      rw [if_pos here, if_pos here, here, Option.bind_some]
      cases entry.2.afterErase foldedName with
      | none =>
        by_cases first : other = entry.1
        · rw [if_pos first, first]
          exact lookup_eq_none_of_not_mem absent
        · rw [if_neg first, if_neg first]
          rfl
      | some node =>
        refine (lookup_cons (entry.1, node) keys).trans ?_
        split
        · rfl
        · rfl
    · rw [if_neg here, if_neg here, lookup_cons, ih rest]
      by_cases first : other = entry.1
      · have different : other ≠ foldedPath := fun same => here (same.symm.trans first)
        rw [if_pos first, if_neg different, if_pos first]
      · rw [if_neg first, if_neg first]

end RegistryTree

end GroupPolicy
