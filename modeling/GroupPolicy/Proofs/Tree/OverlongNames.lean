import GroupPolicy.Proofs.Tree.Frame
import GroupPolicy.Proofs.Tree.LetterCase
import GroupPolicy.Proofs.Tree.Reload

/-!
# Names that are too long

Removing a value asks of its name what setting it does; looking it up asks nothing of the name. The
two agree on every name that is not too long (`found_unless_too_long`), since a name with a NUL
matches none that is accepted (`nul_mem_fold_iff`). But folding makes a name longer by one character
for each capital `İ` (`length_fold`), so an accepted name can match one that is too long. Under
that one its value is found, and cannot be removed (`not_removed_wherever_found`).
-/

namespace GroupPolicy

variable {key name : String}

/-! ## What folding does to a name -/

/-- Folding adds a character for each capital `İ`. -/
theorem length_fold (name : String) :
    (fold name).toList.length = name.toList.length + name.toList.count 'İ' := by
  rw [fold, String.toList_ofList, Text.lowercase, Text.length_lowercaseAfter]

/-- Folding neither brings in NULs nor drops them. -/
theorem nul_mem_fold_iff : '\x00' ∈ (fold name).toList ↔ '\x00' ∈ name.toList := by
  rw [fold, String.toList_ofList]
  exact Text.mem_lowercaseAfter_iff (by decide) (by decide) [] name.toList

/-- Of two names that match, the shorter one has more of the capitals that folding lengthens. -/
theorem dotted_of_matches_longer {other : String} (same : fold other = fold name)
    (longer : other.toList.length < name.toList.length) : 'İ' ∈ other.toList := by
  have counted : (fold other).toList.length = (fold name).toList.length := by rw [same]
  rw [length_fold, length_fold] at counted
  exact List.count_pos_iff.1 (by omega)

/-- A name of capitals that folding lengthens. -/
def dotted (count : Nat) : String :=
  String.ofList (List.replicate count 'İ')

theorem toList_dotted (count : Nat) : (dotted count).toList = List.replicate count 'İ' :=
  String.toList_ofList

theorem fold_dotted (count : Nat) : fold (dotted count) = lowered (dotted count) := by
  rw [fold_eq_lowered_iff]
  rintro ⟨front, after, shape, -⟩
  have member : 'Σ' ∈ (dotted count).toList := shape ▸ List.mem_append_cons_self
  rw [toList_dotted, List.mem_replicate] at member
  exact absurd member.2 (by decide)

theorem length_lowered_dotted (count : Nat) :
    (lowered (dotted count)).toList.length = 2 * count := by
  rw [← fold_dotted, length_fold, toList_dotted, List.length_replicate, List.count_replicate_self]
  omega

/-- An accepted name can match a name that is refused: its capitals are lowered to two characters
each. -/
theorem dotted_matches_refused {path : String} (normalized : KeyPath.normalize key = .ok path)
    (count : Nat) (short : count ≤ 16383) (doubled : 16383 < 2 * count) :
    AcceptedNames key (dotted count) ∧ ¬ AcceptedNames key (lowered (dotted count)) ∧
      foldedPair key (lowered (dotted count)) = foldedPair key (dotted count) := by
  have nulFree : '\x00' ∉ (dotted count).toList := by
    rw [toList_dotted, List.mem_replicate]
    exact fun nul => absurd nul.2 (by decide)
  refine ⟨⟨⟨path, normalized⟩, ValueName.check_eq_ok_iff.2 ⟨nulFree, ?_⟩⟩, fun accepted => ?_, ?_⟩
  · rw [toList_dotted, List.length_replicate]
    exact short
  · have limit := (ValueName.check_eq_ok_iff.1 accepted.2).2
    rw [length_lowered_dotted] at limit
    exact absurd limit (Nat.not_le.2 doubled)
  · rw [foldedPair, foldedPair, fold_lowered, fold_dotted]

/-! ## What is found and what is removed -/

theorem ValueName.check_of_too_long (nulFree : '\x00' ∉ name.toList)
    (long : 16383 < name.toList.length) : check name = .error (.nameTooLong .valueName name) := by
  rw [check, if_neg (by rwa [List.contains_iff_mem])]
  exact if_pos long

namespace RegistryTree

variable {tree start : RegistryTree} {stored : StoredValue}

/-- What is set under accepted names is found under all names that match, accepted or not. -/
theorem WellFormed.get?_after_set {key' name' path' : String} (wellFormed : tree.WellFormed)
    (accepted : AcceptedNames key name) (normalized : KeyPath.normalize key' = .ok path')
    (matching : foldedPair key' name' = foldedPair key name) (stored : StoredValue) :
    (tree.after [.set key name stored]).get? key' name' = some stored := by
  obtain ⟨next, success⟩ : ∃ next, (TreeCall.set key name stored).apply tree = .ok next :=
    TreeCall.exists_apply_eq_ok_iff.2 accepted
  rw [RegistryTree.after, success, get?_eq_findIn normalized, matching]
  exact (TreeCall.findIn_apply wellFormed success _).trans (if_pos rfl)

theorem exists_normalize_of_get? (found : tree.get? key name = some stored) :
    ∃ path, KeyPath.normalize key = .ok path := by
  cases normalized : KeyPath.normalize key with
  | ok path => exact ⟨path, rfl⟩
  | error error =>
    rw [get?_eq_none_of_normalize normalized] at found
    cases found

/-- What is found is listed, under names that match. -/
theorem WellFormed.exists_entry_of_get? (wellFormed : tree.WellFormed)
    (found : tree.get? key name = some stored) :
    ∃ entry ∈ tree.entries, entry.pair = foldedPair key name := by
  obtain ⟨path, normalized⟩ := exists_normalize_of_get? found
  rw [get?_eq_findIn normalized] at found
  have present : foldedPair key name ∈ pairs tree.keys := by
    rw [wellFormed.mem_pairs, found]
    rfl
  rw [← wellFormed.map_pair_entries] at present
  exact List.mem_map.1 present

/-- A value that is found is listed under a name that is accepted and matches. -/
theorem WellFormed.exists_accepted_of_get? (wellFormed : tree.WellFormed)
    (found : tree.get? key name = some stored) :
    ∃ entry ∈ tree.entries, entry.pair = foldedPair key name ∧ fold entry.name = fold name ∧
      '\x00' ∉ entry.name.toList ∧ entry.name.toList.length ≤ 16383 := by
  obtain ⟨entry, member, matching⟩ := wellFormed.exists_entry_of_get? found
  obtain ⟨-, checked⟩ := wellFormed.accepted_of_mem_entries member
  exact ⟨entry, member, matching, congrArg Prod.snd matching, ValueName.check_eq_ok_iff.1 checked⟩

/-- No value is found under a name with a NUL. -/
theorem WellFormed.nulFree_of_get? (wellFormed : tree.WellFormed)
    (found : tree.get? key name = some stored) : '\x00' ∉ name.toList := by
  obtain ⟨entry, -, -, same, nulFree, -⟩ := wellFormed.exists_accepted_of_get? found
  rwa [← nul_mem_fold_iff, ← same, nul_mem_fold_iff]

theorem WellFormed.removed_iff (wellFormed : tree.WellFormed) :
    (∃ next, tree.delete key name = .ok (true, next)) ↔
      (tree.get? key name).isSome = true ∧ name.toList.length ≤ 16383 := by
  constructor
  · rintro ⟨next, deleted⟩
    obtain ⟨path, normalized, checked, present, -⟩ := delete_eq_ok_iff.1 deleted
    rw [get?_eq_of_normalize normalized]
    exact ⟨present.symm, (ValueName.check_eq_ok_iff.1 checked).2⟩
  · rintro ⟨present, short⟩
    obtain ⟨stored, found⟩ := Option.isSome_iff_exists.1 present
    obtain ⟨path, normalized⟩ := exists_normalize_of_get? found
    have checked := ValueName.check_eq_ok_iff.2 ⟨wellFormed.nulFree_of_get? found, short⟩
    rw [get?_eq_of_normalize normalized] at present
    exact ⟨_, delete_eq_ok_iff.2 ⟨path, normalized, checked, present.symm, rfl⟩⟩

theorem WellFormed.delete_of_too_long (wellFormed : tree.WellFormed)
    (found : tree.get? key name = some stored) (long : 16383 < name.toList.length) :
    tree.delete key name = .error (.nameTooLong .valueName name) := by
  obtain ⟨path, normalized⟩ := exists_normalize_of_get? found
  have refused := ValueName.check_of_too_long (wellFormed.nulFree_of_get? found) long
  simp only [RegistryTree.delete, normalized, refused, bind, Except.bind]

/-- In a tree that was made empty or loaded from entries, and then changed by calls, a value is
removed under any names under which it is found if the value name has at most 16383 characters, and
under no others. A longer name under which a value is found is refused for its length, and matches
the name of a listed value in which there is an `İ`. -/
theorem found_unless_too_long (origin : start = empty ∨ ∃ loaded, ofEntries loaded = .ok start)
    (calls : List TreeCall) (key name : String) :
    let tree := start.after calls
    ((∃ next, tree.delete key name = .ok (true, next)) ↔
      (tree.get? key name).isSome = true ∧ name.toList.length ≤ 16383) ∧
    (16383 < name.toList.length → ∀ stored, tree.get? key name = some stored →
      tree.delete key name = .error (.nameTooLong .valueName name) ∧
      ∃ entry ∈ tree.entries, foldedPair entry.key entry.name = foldedPair key name ∧
        'İ' ∈ entry.name.toList) := by
  have wellFormed : (start.after calls).WellFormed := wellFormed_after origin calls
  refine ⟨wellFormed.removed_iff, fun long stored found =>
    ⟨wellFormed.delete_of_too_long found long, ?_⟩⟩
  obtain ⟨entry, member, matching, same, -, short⟩ := wellFormed.exists_accepted_of_get? found
  exact ⟨entry, member, matching, dotted_of_matches_longer same (by omega)⟩

theorem found_unless_too_long_dotted :
    let tree := empty.after [.set "K" (dotted 8192) ⟨1, []⟩]
    let name := lowered (dotted 8192)
    16383 < name.toList.length ∧ tree.get? "K" name = some ⟨1, []⟩ ∧
      tree.delete "K" name = .error (.nameTooLong .valueName name) ∧
      ∃ next, tree.delete "K" (dotted 8192) = .ok (true, next) := by
  intro tree name
  have normalized : KeyPath.normalize "K" = .ok "K" := by rfl
  obtain ⟨accepted, -, matching⟩ :=
    dotted_matches_refused normalized 8192 (by decide) (by decide)
  have long : 16383 < name.toList.length := by
    rw [length_lowered_dotted]
    decide
  have found : tree.get? "K" name = some ⟨1, []⟩ :=
    WellFormed.empty.get?_after_set accepted normalized matching ⟨1, []⟩
  have found' : tree.get? "K" (dotted 8192) = some ⟨1, []⟩ :=
    WellFormed.empty.get?_after_set accepted normalized rfl ⟨1, []⟩
  have told := found_unless_too_long (Or.inl rfl) [.set "K" (dotted 8192) ⟨1, []⟩] "K"
  refine ⟨long, found, ((told name).2 long _ found).1, (told (dotted 8192)).1.2 ⟨?_, ?_⟩⟩
  · exact Option.isSome_iff_exists.2 ⟨_, found'⟩
  · rw [toList_dotted, List.length_replicate]
    decide

/-- A value that is found under a name is not always removed under it. -/
theorem not_removed_wherever_found :
    ¬ ∀ (calls : List TreeCall) (key name : String),
      ((empty.after calls).get? key name).isSome = true ↔
        ∃ next, (empty.after calls).delete key name = .ok (true, next) := by
  intro agree
  have normalized : KeyPath.normalize "K" = .ok "K" := by rfl
  obtain ⟨accepted, refused, matching⟩ :=
    dotted_matches_refused normalized 8192 (by decide) (by decide)
  have found := WellFormed.empty.get?_after_set accepted normalized matching ⟨4, [1, 0, 0, 0]⟩
  have asked := agree [.set "K" (dotted 8192) ⟨4, [1, 0, 0, 0]⟩] "K" (lowered (dotted 8192))
  obtain ⟨last, deleted⟩ := asked.1 (Option.isSome_iff_exists.2 ⟨_, found⟩)
  exact refused (acceptedNames_of_delete deleted)

end RegistryTree

end GroupPolicy
