import GroupPolicy.Proofs.Tree.LastWrite
import GroupPolicy.Proofs.Tree.Loading

/-!
# What a tree shows of its history

Keys and values are created, deleted and created again. A tree that calls have built from nothing
shows of each key and of each value how the call spelled it that created it last, and it has the
values of a key in the order of those calls. `Told` says so of a tree and of the calls that were
made, and every call keeps it. The main statement, `enumeration_told`, is about what a tree lists.
-/

namespace GroupPolicy

/-! ## When something last began to hold -/

/-- Of the calls of a history, the last one with which something began to hold is the one at the
given place. -/
structure Began (holds : List TreeCall → Prop) (history : List TreeCall) (place : Nat)
    (call : TreeCall) : Prop where
  made : history[place]? = some call
  before : ¬ holds (history.take place)
  after : holds (history.take (place + 1))
  last : ∀ later > place, holds (history.take (later + 1)) → holds (history.take later)

namespace Began

variable {holds : List TreeCall → Prop} {history : List TreeCall} {place other : Nat}
  {call opener : TreeCall}

theorem unique (began : Began holds history place opener)
    (began' : Began holds history other call) : place = other := by
  rcases lt_trichotomy place other with less | same | greater
  · exact absurd (began.last other less began'.after) began'.before
  · exact same
  · exact absurd (began'.last place greater began.after) began.before

/-- What holds before a call did not begin with it. -/
theorem concat (began : Began holds history place opener) (still : holds history)
    (call : TreeCall) : Began holds (history ++ [call]) place opener := by
  have inside : place < history.length := (List.getElem?_eq_some_iff.1 began.made).1
  refine ⟨?_, ?_, ?_, fun later greater => ?_⟩
  · rw [List.getElem?_append_left inside, began.made]
  · rw [List.take_append_of_le_length inside.le]
    exact began.before
  · rw [List.take_append_of_le_length inside]
    exact began.after
  · rcases lt_trichotomy later history.length with less | rfl | greater'
    · rw [List.take_append_of_le_length less, List.take_append_of_le_length less.le]
      exact began.last later greater
    · rw [List.take_left]
      exact fun _ => still
    · have whole : (history ++ [call]).length ≤ later := by
        rw [List.length_append]
        exact greater'
      rw [List.take_of_length_le whole, List.take_of_length_le (whole.trans (Nat.le_succ _))]
      exact id

theorem new (absent : ¬ holds history) (present : holds (history ++ [call])) :
    Began holds (history ++ [call]) history.length call := by
  have whole : (history ++ [call]).length = history.length + 1 := List.length_append
  refine ⟨List.getElem?_concat_length, ?_, ?_, fun later greater => ?_⟩
  · rwa [List.take_left]
  · rwa [← whole, List.take_length]
  · rw [List.take_of_length_le (whole.trans_le greater),
      List.take_of_length_le ((whole.trans_le greater).trans (Nat.le_succ _))]
    exact id

end Began

open TreeCall

/-- There is a value in a key. -/
def KeyLive (history : List TreeCall) (path : String) : Prop :=
  ∃ name, Live history (path, name)

/-- The call that last created a key spells its path, apart from backslashes at either end. -/
def OpenedAs (history : List TreeCall) (path spelling : String) : Prop :=
  ∃! place, ∃ key name stored, Began (KeyLive · path) history place (.set key name stored) ∧
    spelling = KeyPath.stripped key

/-- The call that last created a value spells its name. -/
def NamedAs (history : List TreeCall) (pair : String × String) (name : String) : Prop :=
  ∃! place, ∃ key stored, Began (Live · pair) history place (.set key name stored)

/-- One value was last created before another was. -/
def BeganBefore (history : List TreeCall) (pair pair' : String × String) : Prop :=
  ∃ place call place' call', Began (Live · pair) history place call ∧
    Began (Live · pair') history place' call' ∧ place < place'

section Histories

variable {history : List TreeCall} {path spelling key name : String} {pair pair' : String × String}
  {stored : StoredValue} {place : Nat}

theorem openedAs_of_began (began : Began (KeyLive · path) history place (.set key name stored)) :
    OpenedAs history path (KeyPath.stripped key) :=
  ⟨place, ⟨key, name, stored, began, rfl⟩, fun _ ⟨_, _, _, began', _⟩ => began'.unique began⟩

theorem namedAs_of_began (began : Began (Live · pair) history place (.set key name stored)) :
    NamedAs history pair name :=
  ⟨place, ⟨key, stored, began⟩, fun _ ⟨_, _, began'⟩ => began'.unique began⟩

theorem OpenedAs.concat (opened : OpenedAs history path spelling) (still : KeyLive history path)
    (call : TreeCall) : OpenedAs (history ++ [call]) path spelling := by
  obtain ⟨place, ⟨key, name, stored, began, rfl⟩, -⟩ := opened
  exact openedAs_of_began (began.concat still call)

theorem NamedAs.concat (named : NamedAs history pair name) (still : Live history pair)
    (call : TreeCall) : NamedAs (history ++ [call]) pair name := by
  obtain ⟨place, ⟨key, stored, began⟩, -⟩ := named
  exact namedAs_of_began (began.concat still call)

theorem BeganBefore.concat (order : BeganBefore history pair pair') (still : Live history pair)
    (still' : Live history pair') (call : TreeCall) :
    BeganBefore (history ++ [call]) pair pair' := by
  obtain ⟨place, opener, place', opener', began, began', less⟩ := order
  exact ⟨place, opener, place', opener', began.concat still call, began'.concat still' call, less⟩

theorem live_concat_set :
    Live (history ++ [.set key name stored]) (fold (KeyPath.stripped key), fold name) :=
  ⟨key, name, stored, lastOn_concat.trans (if_pos rfl)⟩

end Histories

/-- The names that an entry shows. -/
def PolicyEntry.spelling (entry : PolicyEntry) : String × String :=
  (entry.key, entry.name)

namespace RegistryTree

variable {history : List TreeCall} {path foldedPath foldedName key name spelling : String}
  {stored : StoredValue} {keys : List (String × KeyNode)} {tree next : RegistryTree}
  {call : TreeCall}

/-! ## Paths, names and values of a key -/

theorem mem_folds_valuesIn_iff :
    name ∈ (valuesIn path keys).folds ↔ (findIn path name keys).isSome := by
  rw [valuesIn, findIn]
  cases keys.lookup path with
  | none => exact iff_of_false List.not_mem_nil Bool.false_ne_true
  | some node => exact NamedValues.isSome_find?_iff.symm

/-- A key that a tree has is one with values. -/
theorem WellFormed.exists_findIn_of_pathIn (wellFormed : tree.WellFormed)
    (spelled : pathIn path tree.keys = some spelling) :
    ∃ name, (findIn path name tree.keys).isSome := by
  obtain ⟨node, found, -⟩ := Option.map_eq_some_iff.1 spelled
  obtain ⟨value, member⟩ :=
    List.exists_mem_of_ne_nil _ (wellFormed.nodes path node found).nonempty
  refine ⟨fold value.1, ?_⟩
  rw [findIn, found]
  exact NamedValues.isSome_find?_iff.2 (List.mem_map_of_mem (List.mem_map_of_mem member))

/-- Erasing a value spells no key in another way. -/
theorem pathIn_of_eraseIn (ascending : Ascending keys)
    (spelled : pathIn path (eraseIn foldedPath foldedName keys) = some spelling) :
    pathIn path keys = some spelling := by
  rw [pathIn, lookup_eraseIn ascending] at spelled
  split at spelled
  · rename_i same
    obtain ⟨rest, erased, rfl⟩ := Option.map_eq_some_iff.1 spelled
    obtain ⟨node, found, remains⟩ := Option.bind_eq_some_iff.1 erased
    rw [KeyNode.afterErase] at remains
    split at remains
    · cases remains
    · cases remains
      rw [pathIn, same, found]
      rfl
  · exact spelled

/-- Erasing a value leaves others in order. -/
theorem valuesIn_eraseIn_sublist (ascending : Ascending keys) :
    (valuesIn path (eraseIn foldedPath foldedName keys)).Sublist (valuesIn path keys) := by
  rw [valuesIn, valuesIn, lookup_eraseIn ascending]
  split
  · rename_i same
    rw [same]
    cases keys.lookup foldedPath with
    | none => exact List.Sublist.refl _
    | some node =>
      rw [Option.bind_some, KeyNode.afterErase]
      split
      · exact List.nil_sublist _
      · exact NamedValues.erase_sublist
  · exact List.Sublist.refl _

/-! ## What is told of the calls -/

/-- A tree shows how the calls that last created its keys and values spelled them, and the order in
which those of a key created its values. -/
structure Told (history : List TreeCall) (tree : RegistryTree) : Prop where
  path : ∀ path spelling, pathIn path tree.keys = some spelling → OpenedAs history path spelling
  name : ∀ path, ∀ name ∈ (valuesIn path tree.keys).names, NamedAs history (path, fold name) name
  order : ∀ path, (valuesIn path tree.keys).folds.Pairwise fun left right =>
    BeganBefore history (path, left) (path, right)

theorem Told.empty : Told [] empty :=
  ⟨fun _ _ => nofun, fun _ _ => nofun, fun _ => List.Pairwise.nil⟩

/-- What is told of the calls until now is told of them when there is one more. -/
theorem Told.concat (told : Told history tree) (wellFormed : tree.WellFormed)
    (live : ∀ path name, Live history (path, name) ↔ (findIn path name tree.keys).isSome)
    (call : TreeCall) : Told (history ++ [call]) tree := by
  have held {path name : String} (member : name ∈ (valuesIn path tree.keys).folds) :
      Live history (path, name) := (live path name).2 (mem_folds_valuesIn_iff.1 member)
  refine ⟨fun path spelling spelled => ?_, fun path name member => ?_, fun path => ?_⟩
  · obtain ⟨name, found⟩ := wellFormed.exists_findIn_of_pathIn spelled
    exact (told.path path spelling spelled).concat ⟨name, (live path name).2 found⟩ call
  · exact (told.name path name member).concat (held (List.mem_map_of_mem member)) call
  · exact (told.order path).imp_of_mem fun left right order =>
      order.concat (held left) (held right) call

theorem Told.eraseIn (told : Told history tree) (ascending : Ascending tree.keys) :
    Told history ⟨eraseIn foldedPath foldedName tree.keys⟩ := by
  refine ⟨fun path spelling spelled => ?_, fun path name member => ?_, fun path => ?_⟩
  · exact told.path path spelling (pathIn_of_eraseIn ascending spelled)
  · exact told.name path name (((valuesIn_eraseIn_sublist ascending).map Prod.fst).subset member)
  · exact (told.order path).sublist (((valuesIn_eraseIn_sublist ascending).map Prod.fst).map fold)

/-- A value that is set is told of if the last call has created it. -/
theorem Told.setIn (told : Told history tree) (ascending : Ascending tree.keys)
    (spelled : fold name = foldedName)
    (opens : pathIn foldedPath tree.keys = none → OpenedAs history foldedPath path)
    (names : foldedName ∉ (valuesIn foldedPath tree.keys).folds →
      NamedAs history (foldedPath, foldedName) name ∧
      ∀ earlier ∈ (valuesIn foldedPath tree.keys).folds,
        BeganBefore history (foldedPath, earlier) (foldedPath, foldedName)) :
    Told history ⟨setIn foldedPath path foldedName name stored tree.keys⟩ := by
  refine ⟨fun other spelling shown => ?_, fun other shown member => ?_, fun other => ?_⟩
  · rw [pathIn_setIn ascending] at shown
    split at shown
    · rename_i same
      rw [same]
      cases before : pathIn foldedPath tree.keys with
      | none =>
        rw [before] at shown
        cases shown
        exact opens before
      | some old =>
        rw [before] at shown
        cases shown
        exact told.path foldedPath _ before
    · exact told.path other spelling shown
  · rw [valuesIn_setIn ascending] at member
    split at member
    · rename_i same
      rw [NamedValues.names_set] at member
      rw [same]
      split at member
      · exact told.name foldedPath shown member
      · rename_i absent
        rcases List.mem_append.1 member with member | member
        · exact told.name foldedPath shown member
        · rw [List.mem_singleton.1 member, spelled]
          exact (names absent).1
    · exact told.name other shown member
  · rw [valuesIn_setIn ascending]
    split
    · rename_i same
      rw [NamedValues.folds_set spelled, same]
      split
      · exact told.order foldedPath
      · rename_i absent
        refine List.pairwise_append.2 ⟨told.order foldedPath, List.pairwise_singleton _ _, ?_⟩
        intro earlier member last same
        rw [List.mem_singleton.1 same]
        exact (names absent).2 earlier member
    · exact told.order other

/-- Every call that succeeds keeps what is told. -/
theorem Told.apply (told : Told history tree) (wellFormed : tree.WellFormed)
    (live : ∀ path name, Live history (path, name) ↔ (findIn path name tree.keys).isSome)
    (success : call.apply tree = .ok next) : Told (history ++ [call]) next := by
  have longer := told.concat wellFormed live call
  cases call with
  | set key name stored =>
    obtain ⟨path, accepted, -, rfl⟩ := set_eq_ok_iff.1 success
    obtain ⟨rfl, -⟩ := KeyPath.normalize_eq_ok_iff.1 accepted
    refine longer.setIn wellFormed.ascending rfl (fun closed => ?_) fun absent => ?_
    · have before : ¬ KeyLive history (fold (KeyPath.stripped key)) := by
        rintro ⟨other, alive⟩
        have found := (live _ other).1 alive
        rw [findIn, Option.map_eq_none_iff.1 closed] at found
        cases found
      have began : Began (KeyLive · (fold (KeyPath.stripped key)))
          (history ++ [.set key name stored]) history.length (.set key name stored) :=
        .new before ⟨fold name, live_concat_set⟩
      exact openedAs_of_began began
    · have before : ¬ Live history (fold (KeyPath.stripped key), fold name) := fun alive =>
        absent (mem_folds_valuesIn_iff.2 ((live _ _).1 alive))
      have began : Began (Live · (fold (KeyPath.stripped key), fold name))
          (history ++ [.set key name stored]) history.length (.set key name stored) :=
        .new before live_concat_set
      refine ⟨namedAs_of_began began, fun earlier member => ?_⟩
      -- What was there before has its place in the history until now.
      obtain ⟨spelling, named, rfl⟩ := List.mem_map.1 member
      obtain ⟨place, ⟨_, _, old⟩, -⟩ := told.name _ spelling named
      have alive : Live history (fold (KeyPath.stripped key), fold spelling) :=
        (live _ _).2 (mem_folds_valuesIn_iff.1 member)
      exact ⟨place, _, history.length, _, old.concat alive _, began,
        (List.getElem?_eq_some_iff.1 old.made).1⟩
  | delete key name =>
    obtain ⟨removed, deleted⟩ := apply_delete_eq_ok_iff.1 success
    obtain ⟨path, -, -, -, rfl⟩ := delete_eq_ok_iff.1 deleted
    split
    · exact longer.eraseIn wellFormed.ascending
    · exact longer

/-- The pairs that have values are those that the calls have left alive. -/
theorem live_successes_iff (calls : List TreeCall) (path name : String) :
    Live (empty.successes calls) (path, name) ↔
      (findIn path name (empty.after calls).keys).isSome := by
  rw [live_iff_isSome, ← findIn_after]

theorem told_after (calls : List TreeCall) :
    Told (empty.successes calls) (empty.after calls) := by
  induction calls using List.reverseRecOn with
  | nil => exact .empty
  | append_singleton calls call ih =>
    rw [after_append, successes_append, after, successes]
    split
    · rename_i next success
      exact ih.apply (WellFormed.empty.after calls) (live_successes_iff calls) success
    · rw [successes, List.append_nil]
      exact ih

/-! ## What is listed -/

theorem map_spelling_entries (node : KeyNode) :
    (KeyNode.entries node).map PolicyEntry.spelling = node.values.names.map (node.path, ·) := by
  rw [KeyNode.entries, NamedValues.names, List.map_map, List.map_map]
  rfl

/-- Setting a value that is there changes no spelling and no order. -/
theorem map_spelling_setIn (ascending : Ascending keys)
    (present : (findIn foldedPath foldedName keys).isSome) :
    (entries ⟨RegistryTree.setIn foldedPath path foldedName name stored keys⟩).map PolicyEntry.spelling =
      (entries ⟨keys⟩).map PolicyEntry.spelling := by
  induction keys with
  | nil => cases present
  | cons entry keys ih =>
    obtain ⟨smaller, rest⟩ := ascending_cons.1 ascending
    rw [findIn, lookup_cons] at present
    rw [setIn_cons, entries_cons, List.map_append]
    by_cases here : foldedPath = entry.1
    · rw [if_pos here] at present
      have member : foldedName ∈ entry.2.values.folds := NamedValues.isSome_find?_iff.1 present
      rw [if_pos here, entries_cons, List.map_append, map_spelling_entries, map_spelling_entries,
        KeyNode.afterSet, Option.getD_some, NamedValues.names_set, if_pos member]
    · rw [if_neg here] at present
      rw [if_neg here]
      split
      · rename_i less
        have absent : keys.lookup foldedPath = none := lookup_eq_none_of_not_mem fun later =>
          lt_asymm less (smaller foldedPath later)
        rw [absent] at present
        cases present
      · rw [entries_cons, List.map_append, ih rest present]

/-- A value is listed with the spellings that its key and its name have in the tree. -/
theorem WellFormed.spelled_of_mem_entries (wellFormed : tree.WellFormed) {entry : PolicyEntry}
    (member : entry ∈ tree.entries) : pathIn entry.pair.1 tree.keys = some entry.key ∧
      entry.name ∈ (valuesIn entry.pair.1 tree.keys).names := by
  obtain ⟨⟨foldedPath, node⟩, keyed, listed⟩ := List.mem_flatMap.1 member
  obtain ⟨value, named, rfl⟩ := List.mem_map.1 listed
  have found := wellFormed.ascending.mem_iff.1 keyed
  have folded : PolicyEntry.pair ⟨node.path, value.1, value.2.code, value.2.data⟩ =
      (foldedPath, fold value.1) :=
    Prod.ext (wellFormed.nodes foldedPath node found).fold_stripped rfl
  rw [folded, pathIn, valuesIn, found]
  exact ⟨rfl, List.mem_map_of_mem named⟩

/-- A tree lists its values by their keys, and those of a key in the order in which they last came
to be. -/
theorem Told.pairwise_pairs (told : Told history tree) (wellFormed : tree.WellFormed) :
    (pairs tree.keys).Pairwise fun left right =>
      left.1 < right.1 ∨ left.1 = right.1 ∧ BeganBefore history left right := by
  rw [pairs, List.pairwise_flatMap]
  constructor
  · rintro ⟨foldedPath, node⟩ member
    have order := told.order foldedPath
    rw [valuesIn, wellFormed.ascending.mem_iff.1 member] at order
    exact List.pairwise_map.2 (order.imp fun before => Or.inr ⟨rfl, before⟩)
  · refine (List.pairwise_map.1 wellFormed.ascending).imp fun less left first right second => ?_
    obtain ⟨_, -, rfl⟩ := List.mem_map.1 first
    obtain ⟨_, -, rfl⟩ := List.mem_map.1 second
    exact Or.inl less

/-- What a tree that calls have built from nothing lists is told by those that succeed. It lists
each live pair once, by the folded paths of the keys, and those of a key in the order in which they
last came to be. An entry has the spelling of the key from the call that last created the key and
the spelling of the name from the one that last created the value. To set a value that is there
changes no spelling and no order. -/
theorem enumeration_told (calls : List TreeCall) :
    let history := empty.successes calls
    let tree := empty.after calls
    let listed := tree.entries.map PolicyEntry.pair
    listed.Nodup ∧ (∀ pair, pair ∈ listed ↔ Live history pair) ∧
    (listed.Pairwise fun left right =>
      left.1 < right.1 ∨ left.1 = right.1 ∧ BeganBefore history left right) ∧
    (∀ entry ∈ tree.entries, OpenedAs history entry.pair.1 entry.key ∧
      NamedAs history entry.pair entry.name) ∧
    ∀ key name stored, AcceptedNames key name → Live history (foldedPair key name) →
      ∃ next, tree.set key name stored = .ok next ∧
        next.entries.map PolicyEntry.spelling = tree.entries.map PolicyEntry.spelling := by
  intro history tree listed
  have wellFormed : tree.WellFormed := WellFormed.empty.after calls
  have told : Told history tree := told_after calls
  have same : listed = pairs tree.keys := wellFormed.map_pair_entries
  refine ⟨wellFormed.nodup_pairs_entries, fun (path, name) => ?_, same ▸ told.pairwise_pairs wellFormed,
    fun entry member => ?_, fun key name stored accepted alive => ?_⟩
  · rw [same, wellFormed.mem_pairs, live_successes_iff]
  · obtain ⟨spelled, named⟩ := wellFormed.spelled_of_mem_entries member
    exact ⟨told.path _ _ spelled, told.name _ _ named⟩
  · obtain ⟨⟨path, normalized⟩, checked⟩ := accepted
    refine ⟨_, set_eq_ok_iff.2 ⟨path, normalized, checked, rfl⟩, ?_⟩
    obtain ⟨rfl, -⟩ := KeyPath.normalize_eq_ok_iff.1 normalized
    rw [foldedPair] at alive
    exact map_spelling_setIn wellFormed.ascending ((live_successes_iff calls _ _).1 alive)

theorem enumeration_told_recreated :
    let calls : List TreeCall := [.set "\\K\\" "A" ⟨1, []⟩, .set "k" "B" ⟨1, []⟩,
      .delete "K" "a", .set "K" "a" ⟨1, []⟩, .set "j" "N" ⟨1, []⟩, .set "" "N" ⟨1, []⟩,
      .delete "J" "n", .set "J\\" "n" ⟨1, []⟩]
    let history := empty.successes calls
    let tree := empty.after calls
    AcceptedNames "\\k" "b" ∧ Live history (foldedPair "\\k" "b") ∧
      tree.entries.map PolicyEntry.spelling = [("J", "n"), ("K", "B"), ("K", "a")] ∧
      BeganBefore history ("k", "b") ("k", "a") ∧ OpenedAs history "j" "J" ∧
      NamedAs history ("k", "a") "a" ∧
      ∃ next, tree.set "\\k" "b" ⟨3, [0]⟩ = .ok next ∧
        next.entries.map PolicyEntry.spelling = [("J", "n"), ("K", "B"), ("K", "a")] := by
  intro calls history tree
  have accepted : AcceptedNames "\\k" "b" := ⟨⟨"k", by rfl⟩, by rfl⟩
  have alive : Live history (foldedPair "\\k" "b") := ⟨"k", "B", ⟨1, []⟩, by rfl⟩
  have shown : tree.entries.map PolicyEntry.spelling = [("J", "n"), ("K", "B"), ("K", "a")] := by
    rfl
  have listed : tree.entries.map PolicyEntry.pair = [("j", "n"), ("k", "b"), ("k", "a")] := by rfl
  obtain ⟨-, -, order, spelled, overwritten⟩ := enumeration_told calls
  rw [show (empty.after calls).entries.map PolicyEntry.pair = _ from listed] at order
  have ofKey := (List.pairwise_cons.1 (List.pairwise_cons.1 order).2).1 _ List.mem_cons_self
  obtain ⟨next, set, same⟩ := overwritten "\\k" "b" ⟨3, [0]⟩ accepted alive
  exact ⟨accepted, alive, shown, (ofKey.resolve_left (lt_irrefl _)).2,
    (spelled ⟨"J", "n", 1, []⟩ (by decide)).1, (spelled ⟨"K", "a", 1, []⟩ (by decide)).2,
    next, set, same.trans shown⟩

end RegistryTree

end GroupPolicy
