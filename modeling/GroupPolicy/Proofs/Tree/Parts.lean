import GroupPolicy.Proofs.Tree.Calls

/-!
# What a tree is made of

Whatever a tree holds came into it by a call: the path of a key and the name of a value are spelled
as in a call that set a value, and the value is that of a call. So what the calls bring decides what
the tree is made of (`RegistryTree.MadeOf.after`).
-/

namespace GroupPolicy

/-- What is allowed of the parts of a tree. -/
structure Parts where
  /-- The paths of keys. -/
  path : String → Prop
  /-- The names of values. -/
  name : String → Prop
  /-- The values. -/
  stored : StoredValue → Prop

/-- A call sets nothing but what is allowed. -/
def TreeCall.Brings (parts : Parts) : TreeCall → Prop
  | set key name stored =>
    parts.path (KeyPath.stripped key) ∧ parts.name name ∧ parts.stored stored
  | delete _ _ => True

variable {parts : Parts}

namespace NamedValues

variable {folded name : String} {stored : StoredValue} {values : NamedValues}

/-- The names and the values are allowed. -/
def MadeOf (parts : Parts) (values : NamedValues) : Prop :=
  ∀ value ∈ values, parts.name value.1 ∧ parts.stored value.2

theorem MadeOf.set (made : values.MadeOf parts) (named : parts.name name)
    (valued : parts.stored stored) : (values.set folded name stored).MadeOf parts := by
  induction values with
  | nil => exact List.forall_mem_singleton.2 ⟨named, valued⟩
  | cons value values ih =>
    rw [MadeOf, List.forall_mem_cons] at made
    rw [set_cons]
    split
    · exact List.forall_mem_cons.2 ⟨⟨made.1.1, valued⟩, made.2⟩
    · exact List.forall_mem_cons.2 ⟨made.1, ih made.2⟩

end NamedValues

namespace RegistryTree

variable {foldedPath path foldedName name : String} {stored : StoredValue}
  {keys : List (String × KeyNode)} {tree next : RegistryTree}

/-- The paths of keys, and the names and the values in them, are allowed. -/
def KeysMadeOf (parts : Parts) (keys : List (String × KeyNode)) : Prop :=
  ∀ entry ∈ keys, parts.path entry.2.path ∧ entry.2.values.MadeOf parts

theorem KeysMadeOf.setIn (made : KeysMadeOf parts keys) (opened : parts.path path)
    (named : parts.name name) (valued : parts.stored stored) :
    KeysMadeOf parts (setIn foldedPath path foldedName name stored keys) := by
  have created : parts.path path ∧ NamedValues.MadeOf parts [(name, stored)] :=
    ⟨opened, List.forall_mem_singleton.2 ⟨named, valued⟩⟩
  induction keys with
  | nil => exact List.forall_mem_singleton.2 created
  | cons entry keys ih =>
    obtain ⟨first, rest⟩ := List.forall_mem_cons.1 made
    rw [setIn_cons]
    split
    · exact List.forall_mem_cons.2 ⟨⟨first.1, first.2.set named valued⟩, rest⟩
    · split
      · exact List.forall_mem_cons.2 ⟨created, made⟩
      · exact List.forall_mem_cons.2 ⟨first, ih rest⟩

theorem KeysMadeOf.eraseIn (made : KeysMadeOf parts keys) :
    KeysMadeOf parts (eraseIn foldedPath foldedName keys) := by
  induction keys with
  | nil => exact made
  | cons entry keys ih =>
    obtain ⟨first, rest⟩ := List.forall_mem_cons.1 made
    rw [eraseIn_cons]
    split
    · rw [KeyNode.afterErase]
      split
      · exact rest
      · refine List.forall_mem_cons.2 ⟨⟨first.1, fun value member => ?_⟩, rest⟩
        exact first.2 value (NamedValues.erase_sublist.subset member)
    · exact List.forall_mem_cons.2 ⟨first, ih rest⟩

/-- A tree is made of what is allowed. -/
def MadeOf (parts : Parts) (tree : RegistryTree) : Prop :=
  KeysMadeOf parts tree.keys

theorem MadeOf.empty : empty.MadeOf parts := nofun

theorem MadeOf.of_mem_entries {entry : PolicyEntry} (made : tree.MadeOf parts)
    (member : entry ∈ tree.entries) :
    parts.path entry.key ∧ parts.name entry.name ∧ parts.stored ⟨entry.code, entry.data⟩ := by
  obtain ⟨⟨_, node⟩, inTree, inNode⟩ := List.mem_flatMap.1 member
  obtain ⟨value, inValues, rfl⟩ := List.mem_map.1 inNode
  obtain ⟨opened, values⟩ := made _ inTree
  exact ⟨opened, values value inValues⟩

theorem MadeOf.apply {call : TreeCall} (made : tree.MadeOf parts) (brings : call.Brings parts)
    (success : call.apply tree = .ok next) : next.MadeOf parts := by
  cases call with
  | set key name stored =>
    obtain ⟨path, accepted, -, rfl⟩ := set_eq_ok_iff.1 success
    obtain ⟨rfl, -⟩ := KeyPath.normalize_eq_ok_iff.1 accepted
    obtain ⟨opened, named, valued⟩ := brings
    exact KeysMadeOf.setIn made opened named valued
  | delete key name =>
    obtain ⟨removed, deleted⟩ := TreeCall.apply_delete_eq_ok_iff.1 success
    obtain ⟨path, -, -, -, rfl⟩ := delete_eq_ok_iff.1 deleted
    split
    · exact KeysMadeOf.eraseIn made
    · exact made

/-- Calls in a row that bring nothing but what is allowed keep a tree made of it. -/
theorem MadeOf.after {calls : List TreeCall} (made : tree.MadeOf parts)
    (brings : ∀ call ∈ calls, call.Brings parts) : (tree.after calls).MadeOf parts := by
  induction calls generalizing tree with
  | nil => exact made
  | cons call calls ih =>
    obtain ⟨first, rest⟩ := List.forall_mem_cons.1 brings
    rw [RegistryTree.after]
    split
    · rename_i next success
      exact ih (made.apply first success) rest
    · exact ih made rest

end RegistryTree

end GroupPolicy
