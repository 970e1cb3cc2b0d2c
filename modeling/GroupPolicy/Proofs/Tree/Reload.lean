import GroupPolicy.Proofs.PolicyFile.RoundTrip
import GroupPolicy.Proofs.Tree.LastWrite

/-!
# Saving a tree and opening it again

The entries of a well-formed tree are loaded as that same tree (`WellFormed.ofEntries_entries`), and
their names hold no NUL, so that a policy file keeps them. So whatever calls have made of a tree is
what is found when its file is opened again.
-/

namespace GroupPolicy.RegistryTree

variable {foldedPath path : String} {front keys : List (String × KeyNode)} {node : KeyNode}
  {tree start : RegistryTree} {entry : PolicyEntry} {loaded : List PolicyEntry}

/-! ## Loading what a tree lists -/

theorem keyNode_entries_cons {name : String} {stored : StoredValue} {values : NamedValues} :
    KeyNode.entries ⟨path, (name, stored) :: values⟩ =
      ⟨path, name, stored.code, stored.data⟩ :: KeyNode.entries ⟨path, values⟩ := rfl

theorem insertEntry_of_accepted {name : String} {stored : StoredValue}
    (accepted : KeyPath.normalize path = .ok path) (checked : ValueName.check name = .ok ()) :
    tree.insertEntry ⟨path, name, stored.code, stored.data⟩ =
      .ok ⟨setIn (fold path) path (fold name) name stored tree.keys⟩ :=
  set_eq_ok_iff.2 ⟨path, accepted, checked, rfl⟩

theorem set_empty_of_accepted {name : String} {stored : StoredValue}
    (accepted : KeyPath.normalize path = .ok path) (checked : ValueName.check name = .ok ()) :
    empty.set path name stored = .ok ⟨[(fold path, ⟨path, [(name, stored)]⟩)]⟩ :=
  set_eq_ok_iff.2 ⟨path, accepted, checked, rfl⟩

/-- New values are added to the last key in the order in which they are loaded. -/
theorem foldlM_insertEntry_values {before values : NamedValues}
    (smaller : ∀ earlier ∈ front.map Prod.fst, earlier < fold path)
    (accepted : KeyPath.normalize path = .ok path)
    (checked : ∀ name ∈ values.names, ValueName.check name = .ok ())
    (distinct : (NamedValues.folds (before ++ values)).Nodup) :
    (KeyNode.entries ⟨path, values⟩).foldlM insertEntry
        ⟨front ++ [(fold path, ⟨path, before⟩)]⟩ =
      .ok ⟨front ++ [(fold path, ⟨path, before ++ values⟩)]⟩ := by
  induction values generalizing before with
  | nil =>
    rw [List.append_nil]
    rfl
  | cons value values ih =>
    obtain ⟨name, stored⟩ := value
    rw [NamedValues.names_cons, List.forall_mem_cons] at checked
    have fresh : fold name ∉ before.folds := by
      rw [NamedValues.folds_append, NamedValues.folds_cons] at distinct
      exact fun member => List.disjoint_of_nodup_append distinct member List.mem_cons_self
    have step : insertEntry ⟨front ++ [(fold path, ⟨path, before⟩)]⟩
        ⟨path, name, stored.code, stored.data⟩ =
          .ok ⟨front ++ [(fold path, ⟨path, before ++ [(name, stored)]⟩)]⟩ := by
      rw [insertEntry_of_accepted accepted checked.1, setIn_append smaller, setIn_cons,
        if_pos rfl, KeyNode.afterSet, Option.getD_some, NamedValues.set_of_not_mem fresh]
    have regrouped : before ++ (name, stored) :: values = before ++ [(name, stored)] ++ values :=
      List.append_cons _ _ _
    rw [regrouped] at distinct ⊢
    rw [keyNode_entries_cons, List.foldlM_cons, Except.bind_eq_ok_iff]
    exact ⟨_, step, ih checked.2 distinct⟩

/-- A key that comes after all others is made by loading its entries. -/
theorem foldlM_insertEntry_node (wellFormed : node.WellFormed foldedPath)
    (smaller : ∀ earlier ∈ front.map Prod.fst, earlier < foldedPath) :
    (KeyNode.entries node).foldlM insertEntry ⟨front⟩ = .ok ⟨front ++ [(foldedPath, node)]⟩ := by
  obtain ⟨path, values⟩ := node
  obtain ⟨folded, accepted, nonempty, checked, distinct⟩ := wellFormed
  dsimp only at folded accepted nonempty checked distinct
  subst folded
  obtain ⟨⟨name, stored⟩, values, rfl⟩ := List.exists_cons_of_ne_nil nonempty
  rw [NamedValues.names_cons, List.forall_mem_cons] at checked
  have first : insertEntry ⟨front⟩ ⟨path, name, stored.code, stored.data⟩ =
      .ok ⟨front ++ [(fold path, ⟨path, [(name, stored)]⟩)]⟩ := by
    rw [insertEntry_of_accepted accepted checked.1, setIn_of_larger smaller]
  rw [keyNode_entries_cons, List.foldlM_cons, Except.bind_eq_ok_iff]
  exact ⟨_, first, foldlM_insertEntry_values smaller accepted checked.2 distinct⟩

theorem foldlM_insertEntry_keys (ascending : Ascending (front ++ keys))
    (nodes : ∀ entry ∈ keys, entry.2.WellFormed entry.1) :
    (entries ⟨keys⟩).foldlM insertEntry ⟨front⟩ = .ok ⟨front ++ keys⟩ := by
  -- On the keys that are still to come, after those that have been loaded.
  induction keys generalizing front with
  | nil =>
    rw [List.append_nil]
    rfl
  | cons entry keys ih =>
    rw [List.forall_mem_cons] at nodes
    have smaller : ∀ earlier ∈ front.map Prod.fst, earlier < entry.1 := by
      rw [Ascending, List.map_append, List.pairwise_append] at ascending
      exact fun earlier member => ascending.2.2 earlier member entry.1 List.mem_cons_self
    rw [List.append_cons] at ascending ⊢
    have split : entries ⟨entry :: keys⟩ = KeyNode.entries entry.2 ++ entries ⟨keys⟩ :=
      List.flatMap_cons
    rw [split, List.foldlM_append, Except.bind_eq_ok_iff]
    exact ⟨_, foldlM_insertEntry_node nodes.1 smaller, ih ascending nodes.2⟩

/-- The entries of a well-formed tree are loaded as that tree. -/
theorem WellFormed.ofEntries_entries (wellFormed : tree.WellFormed) :
    ofEntries tree.entries = .ok tree := by
  have ascending : Ascending ([] ++ tree.keys) := wellFormed.ascending
  exact foldlM_insertEntry_keys ascending fun entry member =>
    wellFormed.nodes entry.1 entry.2 (wellFormed.ascending.mem_iff.1 member)

/-! ## Saving what a tree lists -/

/-- The names of what a tree lists are accepted again, as they are. -/
theorem WellFormed.accepted_of_mem_entries (wellFormed : tree.WellFormed)
    (member : entry ∈ tree.entries) :
    KeyPath.normalize entry.key = .ok entry.key ∧ ValueName.check entry.name = .ok () := by
  obtain ⟨⟨foldedPath, node⟩, inTree, inNode⟩ := List.mem_flatMap.1 member
  obtain ⟨value, inValues, rfl⟩ := List.mem_map.1 inNode
  have valid := wellFormed.nodes foldedPath node (wellFormed.ascending.mem_iff.1 inTree)
  exact ⟨valid.accepted, valid.checked value.1 (List.mem_map_of_mem inValues)⟩

theorem WellFormed.of_mem_entries (wellFormed : tree.WellFormed) (member : entry ∈ tree.entries) :
    entry.NulFree ∧
      findIn (fold entry.key) (fold entry.name) tree.keys = some ⟨entry.code, entry.data⟩ := by
  obtain ⟨accepted, checked⟩ := wellFormed.accepted_of_mem_entries member
  refine ⟨⟨KeyPath.nulFree_of_normalize accepted, (ValueName.check_eq_ok_iff.1 checked).1⟩, ?_⟩
  obtain ⟨⟨foldedPath, node⟩, inTree, inNode⟩ := List.mem_flatMap.1 member
  obtain ⟨⟨name, stored⟩, inValues, rfl⟩ := List.mem_map.1 inNode
  have found := wellFormed.ascending.mem_iff.1 inTree
  have valid := wellFormed.nodes foldedPath node found
  rw [findIn, valid.folded, found, Option.bind_some,
    NamedValues.find?_of_mem valid.distinct inValues]

/-- A file that is saved for a well-formed tree is read as what the tree lists. -/
theorem WellFormed.decode_of_encode {bytes : List UInt8} (wellFormed : tree.WellFormed)
    (saved : PolicyFile.encode tree.entries = .ok bytes) :
    PolicyFile.decode bytes = .ok tree.entries :=
  PolicyFile.decode_of_encode (fun _ member => (wellFormed.of_mem_entries member).1) saved

/-- A tree can be saved if the data that came into it is short enough for the size field. -/
theorem exists_encode_of_short {calls : List TreeCall}
    (short : ∀ call ∈ calls, ∀ stored, call.stored? = some stored →
      stored.data.length < UInt32.size) :
    ∃ bytes, PolicyFile.encode (empty.after calls).entries = .ok bytes := by
  refine ⟨_, PolicyFile.encode_eq_ok_iff.2 ⟨fun entry member => ?_, rfl⟩⟩
  have found := ((WellFormed.empty.after calls).of_mem_entries member).2
  obtain ⟨call, made, leaves⟩ := exists_call_of_findIn found
  exact short call made _ leaves

/-- A tree that was loaded and then changed by calls is found again when its file is opened: its
entries are loaded as the same tree, and its file is read as its entries. It has a file if no data
that was loaded or set is too large for one; loading does not check that. -/
theorem reopened_eq_saved (opened : ofEntries loaded = .ok start) (calls : List TreeCall) :
    ofEntries (start.after calls).entries = .ok (start.after calls) ∧
    (∀ bytes, PolicyFile.encode (start.after calls).entries = .ok bytes →
      PolicyFile.decode bytes = .ok (start.after calls).entries) ∧
    ((∀ entry ∈ loaded, entry.data.length < UInt32.size) →
      (∀ call ∈ calls, ∀ stored, TreeCall.stored? call = some stored →
        stored.data.length < UInt32.size) →
      ∃ bytes, PolicyFile.encode (start.after calls).entries = .ok bytes) := by
  have whole : start.after calls = empty.after (loaded.map TreeCall.ofEntry ++ calls) := by
    rw [after_append, after_of_foldlM_insertEntry opened]
  rw [whole]
  have wellFormed := WellFormed.empty.after (loaded.map TreeCall.ofEntry ++ calls)
  refine ⟨wellFormed.ofEntries_entries, fun _ => wellFormed.decode_of_encode, ?_⟩
  intro shortLoaded shortCalls
  refine exists_encode_of_short fun call member stored leaves => ?_
  rcases List.mem_append.1 member with member | member
  · obtain ⟨entry, inLoaded, rfl⟩ := List.mem_map.1 member
    cases leaves
    exact shortLoaded entry inLoaded
  · exact shortCalls call member stored leaves

theorem reopened_eq_saved_spellings :
    let loaded := [PolicyEntry.mk "\\K\\" "A" 99 [1], PolicyEntry.mk "k" "" 1 []]
    let start : RegistryTree :=
      ⟨[("k", ⟨"K", [("A", ⟨99, [1]⟩), ("", ⟨1, []⟩)]⟩)]⟩
    let calls : List TreeCall := [.delete "K" "a", .set "J" "x" ⟨7, [0, 0]⟩, .set "" "x" ⟨1, []⟩,
      .set "k" "a" ⟨3, [2]⟩]
    ofEntries loaded = .ok start ∧
    (∀ entry ∈ loaded, entry.data.length < UInt32.size) ∧
    (∀ call ∈ calls, ∀ stored, TreeCall.stored? call = some stored →
      stored.data.length < UInt32.size) ∧
    (ofEntries (start.after calls).entries = .ok (start.after calls)) ∧
    ∃ bytes, PolicyFile.encode (start.after calls).entries = .ok bytes ∧
      PolicyFile.decode bytes = .ok (start.after calls).entries := by
  intro loaded start calls
  have opened : ofEntries loaded = .ok start := by rfl
  have shortLoaded : ∀ entry ∈ loaded, entry.data.length < UInt32.size := by decide
  have shortCalls : ∀ call ∈ calls, ∀ stored, TreeCall.stored? call = some stored →
      stored.data.length < UInt32.size := by
    simp [calls, TreeCall.stored?, UInt32.size]
  obtain ⟨same, read, saved⟩ := reopened_eq_saved opened calls
  obtain ⟨bytes, written⟩ := saved shortLoaded shortCalls
  exact ⟨opened, shortLoaded, shortCalls, same, bytes, written, read bytes written⟩

/-- Entries are loaded however long their data is, and so a tree may hold what no file can hold. -/
theorem not_every_loaded_tree_saved :
    let huge := List.replicate UInt32.size (0 : UInt8)
    let loaded := [PolicyEntry.mk "K" "N" 3 huge]
    let start : RegistryTree := ⟨[("k", ⟨"K", [("N", ⟨3, huge⟩)]⟩)]⟩
    ofEntries loaded = .ok start ∧
      PolicyFile.encode (start.after []).entries = .error (.valueTooLarge "K" "N" UInt32.size) ∧
      ¬ ∃ bytes, PolicyFile.encode (start.after []).entries = .ok bytes := by
  intro huge loaded start
  have long : huge.length = UInt32.size := List.length_replicate
  have opened : ofEntries [⟨"K", "N", 3, huge⟩] = .ok ⟨[("k", ⟨"K", [("N", ⟨3, huge⟩)]⟩)]⟩ := by
    have folded : fold "K" = "k" := by rfl
    have accepted : KeyPath.normalize "K" = .ok "K" := by rfl
    have checked : ValueName.check "N" = .ok () := by rfl
    rw [← folded, ofEntries, List.foldlM_cons, insertEntry, set_empty_of_accepted accepted checked]
    rfl
  have listed : (start.after []).entries = loaded := rfl
  have refused : PolicyFile.encode loaded = .error (.valueTooLarge "K" "N" UInt32.size) := by
    rw [← long]
    exact PolicyFile.encode_singleton_of_large long.ge
  rw [listed, refused]
  exact ⟨opened, rfl, nofun⟩

end GroupPolicy.RegistryTree
