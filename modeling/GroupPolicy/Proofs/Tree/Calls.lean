import GroupPolicy.Proofs.Tree.Invariant

/-!
# Calls in a row

`RegistryTree.after` is the tree after calls in a row, in which a call that fails changes nothing,
and `RegistryTree.successes` are the calls of the row that succeed. What one successful call does to
a well-formed tree is `TreeCall.findIn_apply`: its pair of names gets the call's value or none, and
every other pair keeps what it had.
-/

namespace GroupPolicy

/-- What spellings of a name under a key have in common. -/
def foldedPair (key name : String) : String × String :=
  (fold (KeyPath.stripped key), fold name)

/-- A registry accepts the key path and the value name. -/
def AcceptedNames (key name : String) : Prop :=
  (∃ path, KeyPath.normalize key = .ok path) ∧ ValueName.check name = .ok ()

theorem RegistryTree.set_of_acceptedNames {tree : RegistryTree} {key name : String}
    {stored : StoredValue} (accepted : AcceptedNames key name) :
    ∃ next, tree.set key name stored = .ok next := by
  obtain ⟨⟨path, normalized⟩, checked⟩ := accepted
  exact ⟨_, set_eq_ok_iff.2 ⟨path, normalized, checked, rfl⟩⟩

theorem RegistryTree.acceptedNames_of_set {tree next : RegistryTree} {key name : String}
    {stored : StoredValue} (success : tree.set key name stored = .ok next) :
    AcceptedNames key name := by
  obtain ⟨path, normalized, checked, -⟩ := set_eq_ok_iff.1 success
  exact ⟨⟨path, normalized⟩, checked⟩

theorem RegistryTree.acceptedNames_of_delete {tree next : RegistryTree} {key name : String}
    {removed : Bool} (success : tree.delete key name = .ok (removed, next)) :
    AcceptedNames key name := by
  obtain ⟨path, normalized, checked, -⟩ := delete_eq_ok_iff.1 success
  exact ⟨⟨path, normalized⟩, checked⟩

/-- A delete of accepted names succeeds, and says whether there was a value. -/
theorem RegistryTree.delete_of_acceptedNames {tree : RegistryTree} {key name : String}
    (accepted : AcceptedNames key name) :
    ∃ next, tree.delete key name =
      .ok ((findIn (foldedPair key name).1 (foldedPair key name).2 tree.keys).isSome, next) := by
  obtain ⟨⟨path, normalized⟩, checked⟩ := accepted
  refine ⟨_, delete_eq_ok_iff.2 ⟨path, normalized, checked, ?_, rfl⟩⟩
  rw [(KeyPath.normalize_eq_ok_iff.1 normalized).1]
  rfl

/-- A call that sets a value or deletes one. -/
inductive TreeCall where
  | set (key name : String) (stored : StoredValue)
  | delete (key name : String)

namespace TreeCall

variable {call : TreeCall} {calls : List TreeCall} {tree next : RegistryTree}

def key : TreeCall → String
  | set key _ _ => key
  | delete key _ => key

def name : TreeCall → String
  | set _ name _ => name
  | delete _ name => name

/-- The pair of names that a call addresses. -/
def pair (call : TreeCall) : String × String :=
  foldedPair call.key call.name

/-- The value that a call leaves under its names. -/
def stored? : TreeCall → Option StoredValue
  | set _ _ stored => some stored
  | delete _ _ => none

/-- The tree after a call, if the call succeeds. -/
def apply (call : TreeCall) (tree : RegistryTree) : Except PolicyError RegistryTree :=
  match call with
  | set key name stored => tree.set key name stored
  | delete key name => (tree.delete key name).map Prod.snd

/-- The call that sets the value of an entry. -/
def ofEntry (entry : PolicyEntry) : TreeCall :=
  set entry.key entry.name ⟨entry.code, entry.data⟩

theorem apply_delete_eq_ok_iff {key name : String} :
    (delete key name).apply tree = .ok next ↔
      ∃ removed, tree.delete key name = .ok (removed, next) := by
  rw [apply]
  cases tree.delete key name with
  | error error => exact ⟨nofun, nofun⟩
  | ok result =>
    refine ⟨fun same => ?_, fun ⟨_, same⟩ => ?_⟩
    · cases same
      exact ⟨result.1, rfl⟩
    · cases same
      rfl

theorem apply_wellFormed (wellFormed : tree.WellFormed) (success : call.apply tree = .ok next) :
    next.WellFormed := by
  cases call with
  | set key name stored => exact wellFormed.set success
  | delete key name =>
    obtain ⟨_, deleted⟩ := apply_delete_eq_ok_iff.1 success
    exact wellFormed.delete deleted

/-- A call fails only for names that are not accepted, whatever the tree is. -/
theorem exists_apply_eq_ok_iff :
    (∃ next, call.apply tree = .ok next) ↔ AcceptedNames call.key call.name := by
  cases call with
  | set key name stored =>
    refine ⟨fun ⟨next, success⟩ => ?_, fun ⟨⟨path, accepted⟩, checked⟩ => ?_⟩
    · obtain ⟨path, accepted, checked, -⟩ := RegistryTree.set_eq_ok_iff.1 success
      exact ⟨⟨path, accepted⟩, checked⟩
    · exact ⟨_, RegistryTree.set_eq_ok_iff.2 ⟨path, accepted, checked, rfl⟩⟩
  | delete key name =>
    refine ⟨fun ⟨next, success⟩ => ?_, fun accepted => ?_⟩
    · obtain ⟨_, deleted⟩ := apply_delete_eq_ok_iff.1 success
      obtain ⟨path, accepted, checked, -⟩ := RegistryTree.delete_eq_ok_iff.1 deleted
      exact ⟨⟨path, accepted⟩, checked⟩
    · obtain ⟨next, deleted⟩ := RegistryTree.delete_of_acceptedNames accepted
      exact ⟨next, apply_delete_eq_ok_iff.2 ⟨_, deleted⟩⟩

/-- A call that succeeds acts on its own pair of names and on no other. -/
theorem findIn_apply (wellFormed : tree.WellFormed) (success : call.apply tree = .ok next)
    (pair : String × String) :
    RegistryTree.findIn pair.1 pair.2 next.keys =
      if pair = call.pair then call.stored?
      else RegistryTree.findIn pair.1 pair.2 tree.keys := by
  cases call with
  | set key name stored =>
    obtain ⟨path, accepted, -, rfl⟩ := RegistryTree.set_eq_ok_iff.1 success
    obtain ⟨rfl, -⟩ := KeyPath.normalize_eq_ok_iff.1 accepted
    rw [RegistryTree.findIn_setIn wellFormed.ascending rfl]
    simp only [Prod.ext_iff, TreeCall.pair, foldedPair, TreeCall.key, TreeCall.name, stored?]
  | delete key name =>
    obtain ⟨removed, deleted⟩ := apply_delete_eq_ok_iff.1 success
    obtain ⟨path, accepted, -, present, rfl⟩ := RegistryTree.delete_eq_ok_iff.1 deleted
    obtain ⟨rfl, -⟩ := KeyPath.normalize_eq_ok_iff.1 accepted
    cases removed with
    | true =>
      rw [if_pos rfl, wellFormed.findIn_eraseIn]
      simp only [Prod.ext_iff, TreeCall.pair, foldedPair, TreeCall.key, TreeCall.name, stored?]
    | false =>
      -- Nothing is under the pair before, so nothing is there after.
      have absent := Option.not_isSome_iff_eq_none.1 (Bool.eq_false_iff.1 present.symm)
      rw [if_neg Bool.false_ne_true]
      by_cases same : pair = (TreeCall.delete key name).pair
      · rw [if_pos same, same]
        exact absent
      · rw [if_neg same]

/-- A call that succeeds changes the size by its own pair of names. -/
theorem size_apply (wellFormed : tree.WellFormed) (success : call.apply tree = .ok next) :
    next.size + (RegistryTree.findIn call.pair.1 call.pair.2 tree.keys).isSome.toNat =
      tree.size + call.stored?.isSome.toNat := by
  have nextWellFormed := apply_wellFormed wellFormed success
  have others : ((RegistryTree.pairs next.keys).erase call.pair).Perm
      ((RegistryTree.pairs tree.keys).erase call.pair) := by
    refine (List.perm_ext_iff_of_nodup (nextWellFormed.nodup_pairs.erase _)
      (wellFormed.nodup_pairs.erase _)).2 fun pair => ?_
    rw [nextWellFormed.nodup_pairs.mem_erase_iff, wellFormed.nodup_pairs.mem_erase_iff,
      nextWellFormed.mem_pairs, wellFormed.mem_pairs, findIn_apply wellFormed success]
    exact and_congr_right fun different => by rw [if_neg different]
  have own := findIn_apply wellFormed success call.pair
  rw [if_pos rfl] at own
  rw [nextWellFormed.size_eq_erase call.pair, wellFormed.size_eq_erase call.pair,
    others.length_eq, own]
  omega

end TreeCall

namespace RegistryTree

variable {tree : RegistryTree}

/-- The tree after calls in a row, of which those that fail change nothing. -/
def after (tree : RegistryTree) : List TreeCall → RegistryTree
  | [] => tree
  | call :: calls =>
    match call.apply tree with
    | .ok next => next.after calls
    | .error _ => tree.after calls

/-- The calls of a row that succeed. -/
def successes (tree : RegistryTree) : List TreeCall → List TreeCall
  | [] => []
  | call :: calls =>
    match call.apply tree with
    | .ok next => call :: next.successes calls
    | .error _ => tree.successes calls

theorem after_append (tree : RegistryTree) (calls later : List TreeCall) :
    tree.after (calls ++ later) = (tree.after calls).after later := by
  induction calls generalizing tree with
  | nil => rfl
  | cons call calls ih =>
    rw [List.cons_append, after, after]
    split
    · exact ih _
    · exact ih _

theorem successes_append (tree : RegistryTree) (calls later : List TreeCall) :
    tree.successes (calls ++ later) =
      tree.successes calls ++ (tree.after calls).successes later := by
  induction calls generalizing tree with
  | nil => rfl
  | cons call calls ih =>
    rw [List.cons_append, successes, successes, after]
    split
    · rw [ih, List.cons_append]
    · exact ih _

theorem WellFormed.after (wellFormed : tree.WellFormed) (calls : List TreeCall) :
    (tree.after calls).WellFormed := by
  induction calls generalizing tree with
  | nil => exact wellFormed
  | cons call calls ih =>
    rw [RegistryTree.after]
    split
    · rename_i next success
      exact ih (TreeCall.apply_wellFormed wellFormed success)
    · exact ih wellFormed

theorem successes_sublist (tree : RegistryTree) (calls : List TreeCall) :
    (tree.successes calls).Sublist calls := by
  induction calls generalizing tree with
  | nil => exact List.Sublist.refl _
  | cons call calls ih =>
    rw [successes]
    split
    · exact (ih _).cons_cons call
    · exact (ih _).cons call

/-- To load entries is to set their values, one after the other. -/
theorem after_of_foldlM_insertEntry {entries : List PolicyEntry} {loaded : RegistryTree}
    (success : entries.foldlM insertEntry tree = .ok loaded) :
    tree.after (entries.map TreeCall.ofEntry) = loaded := by
  induction entries generalizing tree with
  | nil =>
    cases success
    rfl
  | cons entry entries ih =>
    rw [List.foldlM_cons, Except.bind_eq_ok_iff] at success
    obtain ⟨next, step, rest⟩ := success
    have applied : (TreeCall.ofEntry entry).apply tree = .ok next := step
    rw [List.map_cons, RegistryTree.after, applied]
    exact ih rest

theorem wellFormed_of_ofEntries {entries : List PolicyEntry} {loaded : RegistryTree}
    (success : ofEntries entries = .ok loaded) : loaded.WellFormed := by
  rw [← after_of_foldlM_insertEntry success]
  exact WellFormed.empty.after _

/-- A tree that was made empty or loaded from entries, and then changed by calls, is well-formed. -/
theorem wellFormed_after {start : RegistryTree}
    (origin : start = empty ∨ ∃ loaded, ofEntries loaded = .ok start) (calls : List TreeCall) :
    (start.after calls).WellFormed := by
  rcases origin with rfl | ⟨loaded, opened⟩
  · exact WellFormed.empty.after calls
  · exact (wellFormed_of_ofEntries opened).after calls

theorem get?_eq_findIn {key name path : String} (accepted : KeyPath.normalize key = .ok path) :
    tree.get? key name = findIn (foldedPair key name).1 (foldedPair key name).2 tree.keys := by
  rw [get?_eq_of_normalize accepted, (KeyPath.normalize_eq_ok_iff.1 accepted).1]
  rfl

end RegistryTree

end GroupPolicy
