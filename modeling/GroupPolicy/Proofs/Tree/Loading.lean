import GroupPolicy.Proofs.Tree.Frame

/-!
# What a tree makes of a file

A policy file may have many entries for one value, spelled in different ways. `LoadedFrom` says what
loading makes of them: a key has the path and a value has the name that came first, the data that
came last counts, and the values of a key are in the order in which they first came.
-/

namespace List

variable {α β : Type}

section FirstOccurrences

variable [BEq α] [LawfulBEq α] {xs : List α} {a b : α}

/-- Two elements that are kept come in the same order as before. -/
theorem idxOf_filter_lt_iff {p : α → Bool} (left : p a = true) (right : p b = true) :
    (xs.filter p).idxOf a < (xs.filter p).idxOf b ↔ xs.idxOf a < xs.idxOf b := by
  induction xs with
  | nil => rfl
  | cons x xs ih =>
    by_cases kept : p x = true
    · rw [filter_cons_of_pos kept]
      simp only [idxOf_cons, cond_eq_ite, beq_iff_eq]
      split <;> split <;> omega
    · have notLeft : x ≠ a := fun same => kept (same ▸ left)
      have notRight : x ≠ b := fun same => kept (same ▸ right)
      rw [filter_cons_of_neg kept, idxOf_cons_ne _ notLeft, idxOf_cons_ne _ notRight, ih,
        Nat.succ_lt_succ_iff]

/-- Two elements come in the same order when only the first occurrences are kept. -/
theorem idxOf_eraseDups_lt_iff (xs : List α) :
    xs.eraseDups.idxOf a < xs.eraseDups.idxOf b ↔ xs.idxOf a < xs.idxOf b := by
  match xs with
  | [] => rfl
  | x :: xs =>
    rw [eraseDups_cons]
    by_cases left : x = a
    · subst left
      simp only [idxOf_cons_self, idxOf_cons, cond_eq_ite, beq_iff_eq]
      split <;> omega
    · by_cases right : x = b
      · subst right
        simp only [idxOf_cons_self, Nat.not_lt_zero]
      · -- The others are kept, so their order is that in the rest without `x`.
        have keepsLeft : (!a == x) = true := by simpa using Ne.symm left
        have keepsRight : (!b == x) = true := by simpa using Ne.symm right
        rw [idxOf_cons_ne _ left, idxOf_cons_ne _ right, idxOf_cons_ne _ left,
          idxOf_cons_ne _ right, Nat.succ_lt_succ_iff, Nat.succ_lt_succ_iff,
          idxOf_eraseDups_lt_iff (xs.filter fun y => !y == x)]
        exact idxOf_filter_lt_iff (p := fun y => !y == x) keepsLeft keepsRight
termination_by xs.length
decreasing_by exact Nat.lt_succ_of_le (length_filter_le _ _)

/-- An element at the end is a first occurrence if it has not come before. -/
theorem eraseDups_concat :
    (xs ++ [a]).eraseDups = if a ∈ xs then xs.eraseDups else xs.eraseDups ++ [a] := by
  rw [eraseDups_append, cons_removeAll]
  by_cases member : a ∈ xs
  · have present : ¬ xs.contains a = false := by
      rw [contains_iff_mem.2 member]
      exact Bool.true_eq_false_eq_False
    rw [if_pos member, if_neg present]
    exact append_nil _
  · have absent : xs.contains a = false :=
      Bool.eq_false_iff.2 fun found => member (contains_iff_mem.1 found)
    rw [if_neg member, if_pos absent]
    rfl

end FirstOccurrences

variable [DecidableEq α] {f : β → α} {ys : List β} {y : β}

theorem apply_of_find? {a : α} (found : ys.find? (f · = a) = some y) : f y = a :=
  of_decide_eq_true (find?_some (p := fun x => decide (f x = a)) found)

theorem exists_find?_eq {a : α} (member : y ∈ ys) (same : f y = a) :
    ∃ z, ys.find? (f · = a) = some z := by
  rw [← Option.isSome_iff_exists, find?_isSome]
  exact ⟨y, member, decide_eq_true same⟩

/-- An element that no other one shares its image with is kept alone by a test of images. -/
theorem filter_eq_singleton_of_nodup (distinct : (ys.map f).Nodup) (member : y ∈ ys) :
    ys.filter (f · = f y) = [y] := by
  induction ys with
  | nil => cases member
  | cons z ys ih =>
    rw [map_cons, nodup_cons] at distinct
    rcases mem_cons.1 member with rfl | member
    · have none : ys.filter (f · = f y) = [] := by
        rw [filter_eq_nil_iff]
        exact fun z later same => distinct.1 (of_decide_eq_true same ▸ mem_map_of_mem later)
      rw [filter_cons, none, if_pos (decide_eq_true rfl)]
    · have different : f z ≠ f y := fun same => distinct.1 (same ▸ mem_map_of_mem member)
      rw [filter_cons, ih distinct.2 member, if_neg (by rwa [decide_eq_true_eq])]

end List

namespace GroupPolicy

/-- A name that is there keeps its spelling when its value is set. -/
theorem NamedValues.find?_names_set {folded other name : String} {stored : StoredValue}
    {values : NamedValues} (spelled : fold name = folded) :
    (set folded name stored values).names.find? (fold · = other) =
      if other = folded then some ((values.names.find? (fold · = folded)).getD name)
      else values.names.find? (fold · = other) := by
  rw [names_set]
  by_cases member : folded ∈ values.folds
  · rw [if_pos member]
    by_cases same : other = folded
    · obtain ⟨spelling, named, folds⟩ := List.mem_map.1 member
      obtain ⟨first, found⟩ := List.exists_find?_eq named folds
      rw [if_pos same, same, found]
      rfl
    · rw [if_neg same]
  · rw [if_neg member, List.find?_append, List.find?_singleton, spelled]
    by_cases same : other = folded
    · have absent : values.names.find? (fold · = folded) = none := by
        rw [List.find?_eq_none]
        exact fun spelling named folds =>
          member (List.mem_map.2 ⟨spelling, named, of_decide_eq_true folds⟩)
      rw [if_pos same, if_pos (decide_eq_true same.symm), same, absent]
      rfl
    · rw [if_neg same, if_neg fun folds => same (of_decide_eq_true folds).symm, Option.or_none]

namespace RegistryTree

variable {foldedPath foldedName key path name : String} {stored : StoredValue}
  {keys : List (String × KeyNode)} {tree next : RegistryTree} {entry : PolicyEntry}
  {old : List PolicyEntry}

/-- The spelling of the path of a key. -/
def pathIn (key : String) (keys : List (String × KeyNode)) : Option String :=
  (keys.lookup key).map KeyNode.path

/-- The values of a key. -/
def valuesIn (key : String) (keys : List (String × KeyNode)) : NamedValues :=
  (keys.lookup key).elim [] KeyNode.values

/-- What loading makes of entries: each key has the path that came first, and each value has the
name that came first under its pair, the data that came last, and its place among the values of the
key by where it came first. -/
structure LoadedFrom (entries : List PolicyEntry) (tree : RegistryTree) : Prop where
  path : ∀ key, pathIn key tree.keys =
    (entries.find? (·.pair.1 = key)).map fun entry => KeyPath.stripped entry.key
  spelling : ∀ key name, (valuesIn key tree.keys).names.find? (fold · = name) =
    (entries.find? (·.pair = (key, name))).map PolicyEntry.name
  stored : ∀ key name, findIn key name tree.keys =
    (entries.reverse.find? (·.pair = (key, name))).map fun entry => ⟨entry.code, entry.data⟩
  order : ∀ key, (valuesIn key tree.keys).folds.map (key, ·) =
    ((entries.map PolicyEntry.pair).filter (·.1 = key)).eraseDups

/-! ## Setting a value -/

theorem pathIn_setIn (ascending : Ascending keys) :
    pathIn key (setIn foldedPath path foldedName name stored keys) =
      if key = foldedPath then some ((pathIn foldedPath keys).getD path)
      else pathIn key keys := by
  rw [pathIn, lookup_setIn ascending]
  split
  · rw [pathIn, KeyNode.afterSet]
    cases keys.lookup foldedPath with
    | none => rfl
    | some node => rfl
  · rfl

theorem valuesIn_setIn (ascending : Ascending keys) :
    valuesIn key (setIn foldedPath path foldedName name stored keys) =
      if key = foldedPath then (valuesIn foldedPath keys).set foldedName name stored
      else valuesIn key keys := by
  rw [valuesIn, lookup_setIn ascending]
  split
  · rw [valuesIn, KeyNode.afterSet]
    cases keys.lookup foldedPath with
    | none => rfl
    | some node => rfl
  · rfl

/-- The pairs of a key are those of its values. -/
theorem filter_pairs (ascending : Ascending keys) (key : String) :
    (pairs keys).filter (·.1 = key) = (valuesIn key keys).folds.map (key, ·) := by
  induction keys with
  | nil => rfl
  | cons entry keys ih =>
    obtain ⟨smaller, rest⟩ := ascending_cons.1 ascending
    rw [pairs_cons, List.filter_append, List.filter_map, ih rest, valuesIn, valuesIn, lookup_cons]
    by_cases here : key = entry.1
    · have absent : keys.lookup key = none := lookup_eq_none_of_not_mem fun member =>
        lt_irrefl key (here ▸ smaller key member)
      have all : entry.2.values.folds.filter
          ((fun pair : String × String => decide (pair.1 = key)) ∘ (entry.1, ·)) =
            entry.2.values.folds :=
        List.filter_eq_self.2 fun _ _ => decide_eq_true here.symm
      rw [if_pos here, absent, all, here]
      exact List.append_nil _
    · have none : entry.2.values.folds.filter
          ((fun pair : String × String => decide (pair.1 = key)) ∘ (entry.1, ·)) = [] :=
        List.filter_eq_nil_iff.2 fun _ _ same => here (of_decide_eq_true same).symm
      rw [if_neg here, none]
      rfl

/-! ## Loading -/

theorem LoadedFrom.nil : LoadedFrom [] empty :=
  ⟨fun _ => rfl, fun _ _ => rfl, fun _ _ => rfl, fun _ => rfl⟩

theorem insertEntry_eq_ok (inserted : tree.insertEntry entry = .ok next) :
    next = ⟨setIn entry.pair.1 (KeyPath.stripped entry.key) entry.pair.2 entry.name
      ⟨entry.code, entry.data⟩ tree.keys⟩ := by
  obtain ⟨path, accepted, -, same⟩ := set_eq_ok_iff.1 inserted
  obtain ⟨rfl, -⟩ := KeyPath.normalize_eq_ok_iff.1 accepted
  exact same

/-- One more entry sets its value, and changes no spelling and no order. -/
theorem LoadedFrom.concat (loaded : LoadedFrom old tree) (ascending : Ascending tree.keys)
    (inserted : tree.insertEntry entry = .ok next) : LoadedFrom (old ++ [entry]) next := by
  rw [insertEntry_eq_ok inserted]
  have spelled : fold entry.name = entry.pair.2 := rfl
  have first (p : PolicyEntry → Bool) : (old ++ [entry]).find? p =
      (old.find? p).or (if p entry then some entry else none) := by
    rw [List.find?_append, List.find?_singleton]
  refine ⟨fun key => ?path, fun key name => ?spelling, fun key name => ?stored, fun key => ?order⟩
  case path =>
    rw [pathIn_setIn ascending, loaded.path, loaded.path, first]
    by_cases here : entry.pair.1 = key
    · rw [if_pos here.symm, if_pos (decide_eq_true here), here]
      cases old.find? (·.pair.1 = key) with
      | none => rfl
      | some _ => rfl
    · rw [if_neg (Ne.symm here), if_neg (by rwa [decide_eq_true_eq]), Option.or_none]
  case spelling =>
    rw [valuesIn_setIn ascending, first]
    by_cases here : entry.pair.1 = key
    · have same_iff : entry.pair = (key, name) ↔ name = entry.pair.2 :=
        ⟨fun same => (congrArg Prod.snd same).symm, fun same => Prod.ext here same.symm⟩
      rw [if_pos here.symm, NamedValues.find?_names_set spelled, here, loaded.spelling,
        loaded.spelling]
      simp only [decide_eq_true_eq, same_iff]
      split
      · rename_i same
        rw [← same]
        cases old.find? (·.pair = (key, name)) with
        | none => rfl
        | some _ => rfl
      · rw [Option.or_none]
    · have different : entry.pair ≠ (key, name) := fun same => here (congrArg Prod.fst same)
      rw [if_neg (Ne.symm here), if_neg (by rwa [decide_eq_true_eq]), Option.or_none,
        loaded.spelling]
  case stored =>
    rw [findIn_setIn ascending spelled, loaded.stored, List.reverse_append, List.reverse_singleton,
      List.singleton_append, List.find?_cons]
    by_cases same : entry.pair = (key, name)
    · rw [if_pos ⟨(congrArg Prod.fst same).symm, (congrArg Prod.snd same).symm⟩,
        decide_eq_true same]
      rfl
    · rw [if_neg fun both => same (Prod.ext both.1.symm both.2.symm), decide_eq_false same]
  case order =>
    rw [valuesIn_setIn ascending, List.map_append, List.map_singleton, List.filter_append,
      List.filter_singleton]
    by_cases here : entry.pair.1 = key
    · have whole : entry.pair = (key, entry.pair.2) := Prod.ext here rfl
      have member_iff : entry.pair ∈ (old.map PolicyEntry.pair).filter (·.1 = key) ↔
          entry.pair.2 ∈ (valuesIn key tree.keys).folds := by
        rw [← List.mem_eraseDups, ← loaded.order, whole,
          List.mem_map_of_injective (Prod.mk_right_injective key)]
      rw [if_pos here.symm, NamedValues.folds_set spelled, decide_eq_true here, cond_true, here,
        List.eraseDups_concat, ← loaded.order]
      simp only [member_iff]
      split
      · rfl
      · rw [List.map_append, List.map_singleton, ← whole]
    · rw [if_neg (Ne.symm here), decide_eq_false here, cond_false, List.append_nil, loaded.order]

theorem loadedFrom_of_ofEntries (success : ofEntries old = .ok tree) : LoadedFrom old tree := by
  induction old using List.reverseRecOn generalizing tree with
  | nil =>
    cases success
    exact .nil
  | append_singleton old entry ih =>
    rw [ofEntries, List.foldlM_append, Except.bind_eq_ok_iff] at success
    obtain ⟨before, loaded, last⟩ := success
    rw [List.foldlM_cons, Except.bind_eq_ok_iff] at last
    obtain ⟨after, inserted, same⟩ := last
    cases same
    exact (ih loaded).concat (wellFormed_of_ofEntries loaded).ascending inserted

/-! ## What is listed after loading -/

/-- A list of entries has a single entry for those of a pair in an old list. Its key path is spelled
as the first of that key in the old list, without the backslashes at either end, its value name is
spelled as the first of the pair, and its kind and its data are the last ones of the pair. -/
def Merged (old new : List PolicyEntry) (pair : String × String) : Prop :=
  ∃ opener first last, old.find? (·.pair.1 = pair.1) = some opener ∧
    old.find? (·.pair = pair) = some first ∧ old.reverse.find? (·.pair = pair) = some last ∧
    new.filter (·.pair = pair) =
      [⟨KeyPath.stripped opener.key, first.name, last.code, last.data⟩]

/-- A pair whose spellings and data are known is listed with them. -/
theorem WellFormed.mem_entries (wellFormed : tree.WellFormed)
    (spelledPath : pathIn key tree.keys = some path)
    (spelledName : (valuesIn key tree.keys).names.find? (fold · = foldedName) = some name)
    (found : findIn key foldedName tree.keys = some stored) :
    (⟨path, name, stored.code, stored.data⟩ : PolicyEntry) ∈ tree.entries := by
  obtain ⟨node, there, rfl⟩ := Option.map_eq_some_iff.1 spelledPath
  rw [valuesIn, there] at spelledName
  rw [findIn, there] at found
  have folded : fold name = foldedName := List.apply_of_find? spelledName
  obtain ⟨⟨_, value⟩, inValues, rfl⟩ := List.mem_map.1 (List.mem_of_find?_eq_some spelledName)
  have distinct := (wellFormed.nodes key node there).distinct
  have same : node.values.find? foldedName = some value := by
    rw [← folded]
    exact NamedValues.find?_of_mem distinct inValues
  cases same.symm.trans found
  exact List.mem_flatMap.2 ⟨(key, node), wellFormed.ascending.mem_iff.2 there,
    List.mem_map.2 ⟨(_, stored), inValues, rfl⟩⟩

theorem LoadedFrom.merged (loaded : LoadedFrom old tree) (wellFormed : tree.WellFormed)
    (present : entry ∈ old) : Merged old tree.entries entry.pair := by
  obtain ⟨opener, opened⟩ :=
    List.exists_find?_eq (f := fun entry : PolicyEntry => entry.pair.1) present rfl
  obtain ⟨first, begun⟩ := List.exists_find?_eq (f := PolicyEntry.pair) present rfl
  obtain ⟨last, ended⟩ :=
    List.exists_find?_eq (f := PolicyEntry.pair) (List.mem_reverse.2 present) rfl
  have listed : (⟨KeyPath.stripped opener.key, first.name, last.code, last.data⟩ : PolicyEntry) ∈
      tree.entries :=
    wellFormed.mem_entries ((loaded.path entry.pair.1).trans (by rw [opened]; rfl))
      ((loaded.spelling entry.pair.1 entry.pair.2).trans (by rw [begun]; rfl))
      ((loaded.stored entry.pair.1 entry.pair.2).trans (by rw [ended]; rfl))
  have samePath : opener.pair.1 = entry.pair.1 :=
    List.apply_of_find? (f := fun entry : PolicyEntry => entry.pair.1) opened
  have samePair : first.pair = entry.pair := List.apply_of_find? begun
  have same : PolicyEntry.pair ⟨KeyPath.stripped opener.key, first.name, last.code, last.data⟩ =
      entry.pair := by
    have parts : foldedPair (KeyPath.stripped opener.key) first.name =
        (opener.pair.1, first.pair.2) := by
      rw [foldedPair, KeyPath.stripped_stripped]
      rfl
    rw [PolicyEntry.pair, parts, samePath, samePair]
  have alone := List.filter_eq_singleton_of_nodup wellFormed.nodup_pairs_entries listed
  rw [same] at alone
  exact ⟨opener, first, last, opened, begun, ended, alone⟩

/-- Pairs of one key are listed in the order in which they first come. -/
theorem LoadedFrom.order_iff (loaded : LoadedFrom old tree) (wellFormed : tree.WellFormed)
    {left right : String × String} (sameKey : left.1 = right.1) :
    (tree.entries.map PolicyEntry.pair).idxOf left <
        (tree.entries.map PolicyEntry.pair).idxOf right ↔
      (old.map PolicyEntry.pair).idxOf left < (old.map PolicyEntry.pair).idxOf right := by
  have within : (tree.entries.map PolicyEntry.pair).filter (·.1 = right.1) =
      ((old.map PolicyEntry.pair).filter (·.1 = right.1)).eraseDups := by
    rw [wellFormed.map_pair_entries, filter_pairs wellFormed.ascending, loaded.order]
  let ofKey (pair : String × String) : Bool := pair.1 = right.1
  have keepsLeft : ofKey left = true := decide_eq_true sameKey
  have keepsRight : ofKey right = true := decide_eq_true rfl
  rw [← List.idxOf_filter_lt_iff keepsLeft keepsRight, within, List.idxOf_eraseDups_lt_iff]
  exact List.idxOf_filter_lt_iff keepsLeft keepsRight

end RegistryTree

end GroupPolicy
