import GroupPolicy.Tree
import Mathlib.Data.List.Nodup

/-!
# The values of one key

The names of a key's values, as they are spelled and folded, are what setting and erasing a value
change: `names_set` and `folds_erase`. While no two folded names are the same, both operations act
on the value under one folded name and leave all others alone (`find?_set`, `find?_erase`).
-/

namespace GroupPolicy.NamedValues

variable {folded other name : String} {stored : StoredValue} {values : NamedValues}

/-- The names of values, as they are spelled. -/
def names (values : NamedValues) : List String :=
  values.map Prod.fst

/-- The folded names of values. -/
def folds (values : NamedValues) : List String :=
  values.names.map fold

theorem names_cons (value : String × StoredValue) (values : NamedValues) :
    names (value :: values) = value.1 :: names values := rfl

theorem folds_cons (value : String × StoredValue) (values : NamedValues) :
    folds (value :: values) = fold value.1 :: folds values := rfl

theorem folds_append (left right : NamedValues) :
    folds (left ++ right) = folds left ++ folds right := by
  rw [folds, names, List.map_append, List.map_append]
  rfl

theorem length_folds (values : NamedValues) : (folds values).length = values.length := by
  rw [folds, names, List.length_map, List.length_map]

/-! ## Looking values up -/

theorem find?_cons (value : String × StoredValue) (values : NamedValues) :
    find? folded (value :: values) =
      if fold value.1 = folded then some value.2 else find? folded values := by
  rw [find?, List.find?_cons]
  by_cases same : fold value.1 = folded
  · rw [if_pos same, beq_iff_eq.2 same]
    rfl
  · rw [if_neg same, beq_eq_false_iff_ne.2 same]
    rfl

theorem isSome_find?_iff : (find? folded values).isSome ↔ folded ∈ folds values := by
  induction values with
  | nil => exact ⟨nofun, nofun⟩
  | cons value values ih =>
    rw [find?_cons, folds_cons, List.mem_cons]
    by_cases same : fold value.1 = folded
    · rw [if_pos same]
      exact ⟨fun _ => Or.inl same.symm, fun _ => rfl⟩
    · rw [if_neg same, ih]
      exact ⟨Or.inr, fun member => member.resolve_left (Ne.symm same)⟩

theorem find?_eq_none_of_not_mem (absent : folded ∉ folds values) : find? folded values = none := by
  rw [← isSome_find?_iff] at absent
  exact Option.not_isSome_iff_eq_none.1 absent

theorem find?_of_mem (distinct : (folds values).Nodup) (member : (name, stored) ∈ values) :
    find? (fold name) values = some stored := by
  induction values with
  | nil => cases member
  | cons value values ih =>
    rw [folds_cons, List.nodup_cons] at distinct
    rw [find?_cons]
    rcases List.mem_cons.1 member with rfl | member
    · rw [if_pos rfl]
    · have present : fold name ∈ folds values :=
        List.mem_map_of_mem (List.mem_map_of_mem member)
      have different : fold value.1 ≠ fold name := fun same => distinct.1 (same ▸ present)
      rw [if_neg different, ih distinct.2 member]

/-! ## Setting a value -/

theorem set_cons (value : String × StoredValue) (values : NamedValues) :
    set folded name stored (value :: values) =
      if fold value.1 = folded then (value.1, stored) :: values
      else value :: set folded name stored values := rfl

theorem find?_set (spelled : fold name = folded) :
    find? other (set folded name stored values) =
      if other = folded then some stored else find? other values := by
  induction values with
  | nil =>
    rw [set, find?_cons, spelled]
    by_cases same : other = folded
    · rw [if_pos same, if_pos same.symm]
    · rw [if_neg same, if_neg (Ne.symm same)]
  | cons value values ih =>
    rw [set_cons]
    by_cases here : fold value.1 = folded
    · rw [if_pos here, find?_cons, find?_cons, here]
      by_cases same : other = folded
      · rw [if_pos same, if_pos same.symm]
      · rw [if_neg same, if_neg (Ne.symm same), if_neg (Ne.symm same)]
    · rw [if_neg here, find?_cons, find?_cons, ih]
      by_cases first : fold value.1 = other
      · have different : other ≠ folded := fun same => here (first.trans same)
        rw [if_pos first, if_pos first, if_neg different]
      · rw [if_neg first, if_neg first]

theorem names_set :
    names (set folded name stored values) =
      if folded ∈ folds values then names values else names values ++ [name] := by
  induction values with
  | nil => rfl
  | cons value values ih =>
    rw [set_cons, folds_cons]
    by_cases here : fold value.1 = folded
    · rw [if_pos here, if_pos (List.mem_cons.2 (Or.inl here.symm))]
      rfl
    · rw [if_neg here, names_cons, ih, names_cons]
      by_cases later : folded ∈ folds values
      · rw [if_pos later, if_pos (List.mem_cons_of_mem _ later)]
      · rw [if_neg later, if_neg, List.cons_append]
        rw [List.mem_cons]
        exact fun member => member.elim (fun same => here same.symm) later

theorem folds_set (spelled : fold name = folded) :
    folds (set folded name stored values) =
      if folded ∈ folds values then folds values else folds values ++ [folded] := by
  rw [folds, names_set]
  split
  · rfl
  · rw [List.map_append, List.map_singleton, spelled]
    rfl

theorem nodup_folds_set (spelled : fold name = folded) (distinct : (folds values).Nodup) :
    (folds (set folded name stored values)).Nodup := by
  rw [folds_set spelled]
  split
  · exact distinct
  · rename_i absent
    exact List.nodup_append.2 ⟨distinct, List.nodup_singleton _, fun left member right same =>
      fun equal => absent (List.mem_singleton.1 same ▸ equal ▸ member)⟩

theorem set_of_not_mem (absent : folded ∉ folds values) :
    set folded name stored values = values ++ [(name, stored)] := by
  induction values with
  | nil => rfl
  | cons value values ih =>
    rw [folds_cons, List.mem_cons, not_or] at absent
    rw [set_cons, if_neg (Ne.symm absent.1), ih absent.2]
    rfl

theorem set_ne_nil : set folded name stored values ≠ [] := by
  intro empty
  have none : names (set folded name stored values) = [] := by rw [empty]; rfl
  rw [names_set] at none
  split at none
  · rename_i member
    rw [folds, none] at member
    cases member
  · exact List.append_ne_nil_of_right_ne_nil _ (List.cons_ne_nil _ _) none

/-! ## Erasing a value -/

theorem erase_cons (value : String × StoredValue) (values : NamedValues) :
    erase folded (value :: values) =
      if fold value.1 = folded then values else value :: erase folded values := by
  rw [erase, List.eraseP_cons]
  by_cases same : fold value.1 = folded
  · rw [if_pos same, beq_iff_eq.2 same, cond_true]
  · rw [if_neg same, beq_eq_false_iff_ne.2 same, cond_false]
    rfl

theorem erase_sublist : (erase folded values).Sublist values :=
  List.eraseP_sublist

theorem folds_erase : folds (erase folded values) = (folds values).erase folded := by
  induction values with
  | nil => rfl
  | cons value values ih =>
    rw [erase_cons, folds_cons, List.erase_cons]
    by_cases same : fold value.1 = folded
    · rw [if_pos same, if_pos (beq_iff_eq.2 same)]
    · rw [if_neg same, if_neg (by rwa [beq_iff_eq]), folds_cons, ih]

theorem find?_erase (distinct : (folds values).Nodup) :
    find? other (erase folded values) =
      if other = folded then none else find? other values := by
  induction values with
  | nil =>
    split
    · rfl
    · rfl
  | cons value values ih =>
    rw [folds_cons, List.nodup_cons] at distinct
    rw [erase_cons, find?_cons]
    by_cases here : fold value.1 = folded
    · rw [if_pos here, here]
      rw [here] at distinct
      by_cases same : other = folded
      · rw [if_pos same, same, find?_eq_none_of_not_mem distinct.1]
      · rw [if_neg same, if_neg (Ne.symm same)]
    · rw [if_neg here, find?_cons, ih distinct.2]
      by_cases first : fold value.1 = other
      · have different : other ≠ folded := fun same => here (first.trans same)
        rw [if_pos first, if_pos first, if_neg different]
      · rw [if_neg first, if_neg first]

end GroupPolicy.NamedValues
