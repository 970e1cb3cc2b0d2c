import GroupPolicy.Proofs.Tree.Calls
import GroupPolicy.Store.Memory

/-!
# Names are validated alike by every change

Setting and deleting ask the same of the key path and the value name, and nothing of the tree:
`set_eq_map` and `delete_eq_map` say that each of them is a function of `acceptedPath`. Which names
are accepted is `exists_acceptedPath_iff`. A key path counts without the backslashes at its ends,
which only show in an error that quotes the path (`KeyPath.AnsweredAlike`).
-/

namespace GroupPolicy

/-- What names have to be for a registry to accept them. -/
structure ValidNames (key name : String) : Prop where
  nonempty : KeyPath.stripped key ≠ ""
  nulFree : '\x00' ∉ (KeyPath.stripped key).toList
  apart : ¬ ['\\', '\\'] <:+: (KeyPath.stripped key).toList
  short : ∀ segment ∈ Text.split '\\' (KeyPath.stripped key).toList, segment.length ≤ 255
  nameNulFree : '\x00' ∉ name.toList
  nameShort : name.toList.length ≤ 16383

/-- The key path under which a change is made, if the names are accepted. -/
def acceptedPath (key name : String) : Except PolicyError String := do
  let path ← KeyPath.normalize key
  ValueName.check name
  return path

namespace KeyPath

variable {key other path : String}

/-- A key path with backslashes around it. -/
def surrounded (leading trailing : Nat) (path : String) : String :=
  String.ofList (List.replicate leading '\\' ++ path.toList ++ List.replicate trailing '\\')

theorem stripped_surrounded (leading trailing : Nat) (path : String) :
    stripped (surrounded leading trailing path) = stripped path := by
  rw [stripped, surrounded, String.toList_ofList, Text.strip_surrounded, stripped]

theorem exists_surrounded_stripped (key : String) :
    ∃ leading trailing, key = surrounded leading trailing (stripped key) := by
  obtain ⟨leading, trailing, whole⟩ := Text.exists_surrounded '\\' key.toList
  refine ⟨leading, trailing, ?_⟩
  rw [surrounded, stripped, String.toList_ofList, ← whole, String.ofList_toList]

theorem accepted_iff_clean : Accepted path ↔ Clean path := by
  have segments_iff : (∀ segment ∈ Text.split '\\' path.toList,
      segment ≠ [] ∧ segment.length ≤ NamePart.keySegment.maxLength) ↔
        (path.toList ≠ [] ∧ path.toList.head? ≠ some '\\' ∧ path.toList.getLast? ≠ some '\\' ∧
          ¬ ['\\', '\\'] <:+: path.toList) ∧
        ∀ segment ∈ Text.split '\\' path.toList, segment.length ≤ 255 := by
    rw [← Text.split_nonempty_iff, ← forall₂_and]
    rfl
  have empty_iff : path = "" ↔ path.toList = [] := String.toList_eq_nil_iff.symm
  constructor
  · intro ⟨nonempty, nulFree, segments⟩
    obtain ⟨⟨-, leading, trailing, apart⟩, short⟩ := segments_iff.1 segments
    exact ⟨empty_iff.not.2 nonempty, nulFree, leading, trailing, apart, short⟩
  · intro ⟨nonempty, nulFree, leading, trailing, apart, short⟩
    have some := empty_iff.not.1 nonempty
    exact ⟨some, nulFree, segments_iff.2 ⟨⟨some, leading, trailing, apart⟩, short⟩⟩

/-- Two requests that differ only in the key path get the same answer, except that either answer
quotes its own key path as invalid. -/
def AnsweredAlike {α : Type} (key other : String) (answer answer' : Except PolicyError α) : Prop :=
  answer = answer' ∨
    answer = .error (.invalidKeyPath key) ∧ answer' = .error (.invalidKeyPath other)

namespace AnsweredAlike

variable {α β : Type} {answer answer' : Except PolicyError α}

theorem bind {rest rest' : α → Except PolicyError β}
    (alike : AnsweredAlike key other answer answer')
    (later : ∀ value, AnsweredAlike key other (rest value) (rest' value)) :
    AnsweredAlike key other (answer >>= rest) (answer' >>= rest') := by
  rcases alike with rfl | ⟨rfl, rfl⟩
  · cases answer with
    | error error => exact Or.inl rfl
    | ok value => exact later value
  · exact Or.inr ⟨rfl, rfl⟩

theorem map (f : α → β) (alike : AnsweredAlike key other answer answer') :
    AnsweredAlike key other (answer.map f) (answer'.map f) := by
  rcases alike with rfl | ⟨rfl, rfl⟩
  · exact Or.inl rfl
  · exact Or.inr ⟨rfl, rfl⟩

end AnsweredAlike

theorem checkSegments_alike (key other : String) (segments : List (List Char)) :
    AnsweredAlike key other (segments.forM (checkSegment key))
      (segments.forM (checkSegment other)) := by
  induction segments with
  | nil => exact Or.inl rfl
  | cons segment segments ih =>
    refine AnsweredAlike.bind ?_ fun _ => ih
    rw [checkSegment, checkSegment]
    split
    · exact Or.inr ⟨rfl, rfl⟩
    · exact Or.inl rfl

theorem normalize_alike (same : stripped key = stripped other) :
    AnsweredAlike key other (normalize key) (normalize other) := by
  have strips : Text.strip '\\' key.toList = Text.strip '\\' other.toList :=
    String.ofList_injective same
  simp only [normalize, strips]
  split
  · exact Or.inr ⟨rfl, rfl⟩
  · exact (checkSegments_alike key other _).bind fun _ => Or.inl rfl

end KeyPath

variable {key other name : String}

theorem acceptedPath_alike (same : KeyPath.stripped key = KeyPath.stripped other) :
    KeyPath.AnsweredAlike key other (acceptedPath key name) (acceptedPath other name) :=
  (KeyPath.normalize_alike same).bind fun _ => Or.inl rfl

theorem exists_acceptedPath_iff :
    (∃ path, acceptedPath key name = .ok path) ↔ ValidNames key name := by
  have opened : (∃ path, acceptedPath key name = .ok path) ↔
      KeyPath.Clean (KeyPath.stripped key) ∧ ValueName.check name = .ok () := by
    simp only [acceptedPath, Except.bind_eq_ok_iff, KeyPath.normalize_eq_ok_iff,
      KeyPath.accepted_iff_clean]
    constructor
    · rintro ⟨_, _, ⟨rfl, clean⟩, _, checked, -⟩
      exact ⟨clean, checked⟩
    · rintro ⟨clean, checked⟩
      exact ⟨_, _, ⟨rfl, clean⟩, (), checked, rfl⟩
  rw [opened, ValueName.check_eq_ok_iff]
  constructor
  · intro ⟨clean, nulFree, short⟩
    exact ⟨clean.nonempty, clean.nulFree, clean.noDoubled, clean.short, nulFree, short⟩
  · intro ⟨nonempty, nulFree, apart, short, nameNulFree, nameShort⟩
    have ends := Text.strip_ends '\\' key.toList
    refine ⟨⟨nonempty, nulFree, ?_, ?_, apart, short⟩, nameNulFree, nameShort⟩
    · rw [KeyPath.stripped, String.toList_ofList]
      exact ends.1
    · rw [KeyPath.stripped, String.toList_ofList]
      exact ends.2

theorem exists_map_acceptedPath_iff {α : Type} (f : String → α) :
    (∃ answer, (acceptedPath key name).map f = .ok answer) ↔ ValidNames key name := by
  rw [← exists_acceptedPath_iff]
  simp only [Except.map_eq_ok_iff]
  exact ⟨fun ⟨_, path, accepted, _⟩ => ⟨path, accepted⟩,
    fun ⟨path, accepted⟩ => ⟨_, path, accepted, rfl⟩⟩

theorem ValidNames.stripped (valid : ValidNames key name) :
    ValidNames (KeyPath.stripped key) name where
  nonempty := by rw [KeyPath.stripped_stripped]; exact valid.nonempty
  nulFree := by rw [KeyPath.stripped_stripped]; exact valid.nulFree
  apart := by rw [KeyPath.stripped_stripped]; exact valid.apart
  short := by rw [KeyPath.stripped_stripped]; exact valid.short
  nameNulFree := valid.nameNulFree
  nameShort := valid.nameShort

namespace RegistryTree

variable {tree : RegistryTree} {stored : StoredValue}

/-! ## Changes as functions of the validation -/

theorem set_eq_map : tree.set key name stored =
    (acceptedPath key name).map fun path =>
      ⟨setIn (fold path) path (fold name) name stored tree.keys⟩ := by
  rw [set, acceptedPath]
  cases KeyPath.normalize key with
  | error error => rfl
  | ok path =>
    cases ValueName.check name with
    | error error => rfl
    | ok _ => rfl

theorem delete_eq_map : tree.delete key name =
    (acceptedPath key name).map fun path =>
      match findIn (fold path) (fold name) tree.keys with
      | none => (false, tree)
      | some _ => (true, ⟨eraseIn (fold path) (fold name) tree.keys⟩) := by
  rw [delete, acceptedPath]
  cases KeyPath.normalize key with
  | error error => rfl
  | ok path =>
    cases ValueName.check name with
    | error error => rfl
    | ok _ =>
      simp only [bind, Except.bind, pure, Except.pure, Except.map]
      cases findIn (fold path) (fold name) tree.keys with
      | none => rfl
      | some _ => rfl

/-- What a tree holds under a key path depends on what is left when it is stripped. -/
theorem get?_alike (same : KeyPath.stripped key = KeyPath.stripped other) :
    tree.get? key name = tree.get? other name := by
  rw [get?, get?]
  rcases KeyPath.normalize_alike same with equal | ⟨refused, refused'⟩
  · rw [equal]
  · rw [refused, refused']

theorem after_of_error {call : TreeCall} {error : PolicyError}
    (failed : call.apply tree = .error error) : tree.after [call] = tree := by
  rw [after, failed]
  rfl

end RegistryTree

namespace MemoryStore

variable {store : MemoryStore} {value : RegistryValue} {error : PolicyError}

theorem setValue_of_error (failed : store.tree.set key name (.ofValue value) = .error error) :
    store.setValue key name value = (.error error, store) := by
  rw [setValue, failed]

theorem deleteValue_of_error (failed : store.tree.delete key name = .error error) :
    store.deleteValue key name = (.error error, store) := by
  rw [deleteValue, failed]

end MemoryStore

namespace RegistryTree

/-- Whatever trees hold, setting and deleting accept the same names and otherwise fail with the same
error, which changes nothing. Accepted are the names that `ValidNames` describes. What is left of a
key path without the backslashes around it is accepted if the key path is, and is not stripped any
further. Backslashes around a key path change no answer, except that an error quotes a key path that
is invalid as it was given. -/
theorem names_validated_alike :
    (∀ (tree other : RegistryTree) (key name : String) (stored : StoredValue),
      (∀ error, tree.set key name stored = .error error ↔
        other.delete key name = .error error) ∧
      ((∃ next, tree.set key name stored = .ok next) ↔ ValidNames key name) ∧
      ((∃ answer, tree.delete key name = .ok answer) ↔ ValidNames key name)) ∧
    (∀ (tree : RegistryTree) (call : TreeCall) (error : PolicyError),
      call.apply tree = .error error → tree.after [call] = tree) ∧
    (∀ (store : MemoryStore) (key name : String) (value : RegistryValue) (error : PolicyError),
      (store.tree.set key name (.ofValue value) = .error error →
        store.setValue key name value = (.error error, store)) ∧
      (store.tree.delete key name = .error error →
        store.deleteValue key name = (.error error, store))) ∧
    (∀ key, KeyPath.stripped (KeyPath.stripped key) = KeyPath.stripped key ∧
      (∃ leading trailing, key = KeyPath.surrounded leading trailing (KeyPath.stripped key)) ∧
      ∀ name, ValidNames key name → ValidNames (KeyPath.stripped key) name) ∧
    ∀ (tree : RegistryTree) (path name : String) (leading trailing leading' trailing' : Nat)
      (stored : StoredValue),
      let key := KeyPath.surrounded leading trailing path
      let other := KeyPath.surrounded leading' trailing' path
      tree.get? key name = tree.get? other name ∧
      KeyPath.AnsweredAlike key other (tree.set key name stored) (tree.set other name stored) ∧
      KeyPath.AnsweredAlike key other (tree.delete key name) (tree.delete other name) := by
  refine ⟨fun tree other key name stored => ⟨fun error => ?_, ?_, ?_⟩,
    fun tree call error => after_of_error,
    fun store key name value error =>
      ⟨MemoryStore.setValue_of_error, MemoryStore.deleteValue_of_error⟩,
    fun key => ⟨KeyPath.stripped_stripped key, KeyPath.exists_surrounded_stripped key,
      fun name => ValidNames.stripped⟩,
    fun tree path name leading trailing leading' trailing' stored => ?_⟩
  · rw [set_eq_map, delete_eq_map, Except.map_eq_error_iff, Except.map_eq_error_iff]
  · rw [set_eq_map]
    exact exists_map_acceptedPath_iff _
  · rw [delete_eq_map]
    exact exists_map_acceptedPath_iff _
  · have same : KeyPath.stripped (KeyPath.surrounded leading trailing path) =
        KeyPath.stripped (KeyPath.surrounded leading' trailing' path) := by
      rw [KeyPath.stripped_surrounded, KeyPath.stripped_surrounded]
    refine ⟨get?_alike same, ?_, ?_⟩
    · rw [set_eq_map, set_eq_map]
      exact (acceptedPath_alike same).map _
    · rw [delete_eq_map, delete_eq_map]
      exact (acceptedPath_alike same).map _

theorem names_validated_alike_at_ends :
    let tree : RegistryTree := ⟨[("k", ⟨"K", [("N", ⟨1, []⟩)]⟩)]⟩
    (∃ error, (TreeCall.set "K\\\\J" "N" ⟨2, []⟩).apply tree = .error error) ∧
    tree.after [.set "K\\\\J" "N" ⟨2, []⟩] = tree ∧
    ValidNames "\\K\\\\" "N" ∧ ValidNames (KeyPath.stripped "\\K\\\\") "N" ∧
    tree.get? (KeyPath.surrounded 1 2 "K") "N" = tree.get? (KeyPath.surrounded 0 0 "K") "N" := by
  intro tree
  obtain ⟨asked, failed, -, stripped, alike⟩ := names_validated_alike
  have refused : (TreeCall.set "K\\\\J" "N" ⟨2, []⟩).apply tree =
      .error (.invalidKeyPath "K\\\\J") := by rfl
  have valid : ValidNames "\\K\\\\" "N" :=
    (asked tree tree "\\K\\\\" "N" ⟨1, []⟩).2.1.1 ⟨_, by rfl⟩
  exact ⟨⟨_, refused⟩, failed tree _ _ refused, valid, (stripped "\\K\\\\").2.2 "N" valid,
    (alike tree "K" "N" 1 2 0 0 ⟨1, []⟩).1⟩

/-- An error that refuses a key path quotes it with the backslashes around it. -/
theorem not_refused_equally :
    ¬ ∀ (path : String) (leading trailing : Nat),
      empty.set (KeyPath.surrounded leading trailing path) "N" ⟨1, []⟩ =
        empty.set path "N" ⟨1, []⟩ := by
  intro equally
  have refused : empty.set (KeyPath.surrounded 1 0 "a\\\\b") "N" ⟨1, []⟩ =
      .error (.invalidKeyPath "\\a\\\\b") := by rfl
  have refused' : empty.set "a\\\\b" "N" ⟨1, []⟩ = .error (.invalidKeyPath "a\\\\b") := by rfl
  have same := equally "a\\\\b" 1 0
  rw [refused, refused', Except.error.injEq, PolicyError.invalidKeyPath.injEq] at same
  exact absurd same (by decide)

end RegistryTree

end GroupPolicy
