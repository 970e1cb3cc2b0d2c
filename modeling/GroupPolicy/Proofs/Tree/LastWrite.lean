import GroupPolicy.Proofs.Tree.Calls
import Mathlib.Data.Finset.Card

/-!
# The last write wins

A tree that calls have built from nothing is the map in which each pair of names has the value of
the last successful call on it (`findIn_after`). So a tree with keys, nodes and spellings behaves
as a flat map from folded pairs to values.
-/

namespace GroupPolicy

namespace TreeCall

variable {pair : String × String} {call : TreeCall} {calls : List TreeCall}

/-- The last of the given calls that addresses a pair. -/
def lastOn (pair : String × String) (calls : List TreeCall) : Option TreeCall :=
  calls.reverse.find? fun call => call.pair = pair

/-- The last of the given calls that addresses a pair sets a value. -/
def Live (calls : List TreeCall) (pair : String × String) : Prop :=
  ∃ key name stored, lastOn pair calls = some (.set key name stored)

theorem lastOn_concat :
    lastOn pair (calls ++ [call]) = if pair = call.pair then some call else lastOn pair calls := by
  rw [lastOn, List.reverse_append, List.reverse_singleton, List.singleton_append, List.find?_cons]
  by_cases same : pair = call.pair
  · rw [if_pos same, decide_eq_true same.symm]
  · rw [if_neg same, decide_eq_false (Ne.symm same)]
    rfl

theorem mem_of_lastOn (last : lastOn pair calls = some call) : call ∈ calls :=
  List.mem_reverse.1 (List.mem_of_find?_eq_some last)

theorem bind_stored?_eq_some_iff {last : Option TreeCall} {stored : StoredValue} :
    last.bind stored? = some stored ↔ ∃ key name, last = some (.set key name stored) := by
  rcases last with _ | ⟨key, name, value⟩ | ⟨key, name⟩
  · exact ⟨nofun, nofun⟩
  · refine ⟨fun same => ?_, fun ⟨_, _, same⟩ => ?_⟩
    · cases same
      exact ⟨key, name, rfl⟩
    · cases same
      rfl
  · exact ⟨nofun, nofun⟩

theorem live_iff_isSome : Live calls pair ↔ ((lastOn pair calls).bind stored?).isSome := by
  rw [Option.isSome_iff_exists]
  simp only [bind_stored?_eq_some_iff]
  exact ⟨fun ⟨key, name, stored, last⟩ => ⟨stored, key, name, last⟩,
    fun ⟨stored, key, name, last⟩ => ⟨key, name, stored, last⟩⟩

end TreeCall

namespace RegistryTree

/-- Every pair has what the last successful call on it left there. -/
theorem findIn_after (calls : List TreeCall) (pair : String × String) :
    findIn pair.1 pair.2 (empty.after calls).keys =
      (TreeCall.lastOn pair (empty.successes calls)).bind TreeCall.stored? := by
  induction calls using List.reverseRecOn with
  | nil => rfl
  | append_singleton calls call ih =>
    rw [after_append, successes_append, after, successes]
    split
    · rename_i next success
      rw [after, successes, TreeCall.lastOn_concat,
        TreeCall.findIn_apply (WellFormed.empty.after calls) success, ih]
      split
      · rfl
      · rfl
    · rw [after, successes, List.append_nil, ih]

/-- Whatever a tree holds was set by a call. -/
theorem exists_call_of_findIn {calls : List TreeCall} {path name : String} {stored : StoredValue}
    (found : findIn path name (empty.after calls).keys = some stored) :
    ∃ call ∈ calls, call.stored? = some stored := by
  have refined : findIn path name (empty.after calls).keys =
      (TreeCall.lastOn (path, name) (empty.successes calls)).bind TreeCall.stored? :=
    findIn_after calls (path, name)
  obtain ⟨call, last, leaves⟩ := Option.bind_eq_some_iff.1 (refined.symm.trans found)
  exact ⟨call, (successes_sublist empty calls).subset (TreeCall.mem_of_lastOn last), leaves⟩

/-- A call keeps what is under every pair that it does not address. -/
theorem WellFormed.get?_after_singleton {tree : RegistryTree} (wellFormed : tree.WellFormed)
    {call : TreeCall} {key name : String} (different : foldedPair key name ≠ call.pair) :
    (tree.after [call]).get? key name = tree.get? key name := by
  rw [RegistryTree.after]
  split
  · rename_i next success
    cases accepted : KeyPath.normalize key with
    | error error => rw [get?_eq_none_of_normalize accepted, get?_eq_none_of_normalize accepted]
    | ok path =>
      rw [RegistryTree.after, get?_eq_findIn accepted, get?_eq_findIn accepted,
        TreeCall.findIn_apply wellFormed success, if_neg different]
  · rfl

/-- A tree that calls have built from nothing is a finite map in which the last write wins: calls
with accepted names succeed, a pair of names has the value of the last successful call on it, a
delete says whether there was one, the size is the number of pairs with a value, and a call keeps
what it does not address. -/
theorem after_refines_last_write (calls : List TreeCall) :
    (∀ call, (∃ next, TreeCall.apply call (empty.after calls) = .ok next) ↔
      AcceptedNames call.key call.name) ∧
    (∀ key name, AcceptedNames key name →
      (∀ stored, (empty.after calls).get? key name = some stored ↔
        ∃ key' name', TreeCall.lastOn (foldedPair key name) (empty.successes calls) =
          some (.set key' name' stored)) ∧
      ∃ removed next, (empty.after calls).delete key name = .ok (removed, next) ∧
        (removed = true ↔
          TreeCall.Live (empty.successes calls) (foldedPair key name))) ∧
    (∃ live : Finset (String × String),
      (∀ pair, pair ∈ live ↔ TreeCall.Live (empty.successes calls) pair) ∧
        (empty.after calls).size = live.card) ∧
    (∀ call key name, foldedPair key name ≠ TreeCall.pair call →
      ((empty.after calls).after [call]).get? key name = (empty.after calls).get? key name) := by
  have wellFormed : (empty.after calls).WellFormed := WellFormed.empty.after calls
  refine ⟨fun call => TreeCall.exists_apply_eq_ok_iff,
    fun key name accepted => ⟨fun stored => ?_, ?_⟩, ?_, fun call key name different => ?_⟩
  · obtain ⟨path, normalized⟩ := accepted.1
    rw [get?_eq_findIn normalized, findIn_after, TreeCall.bind_stored?_eq_some_iff]
  · obtain ⟨next, deleted⟩ := delete_of_acceptedNames accepted
    refine ⟨_, next, deleted, ?_⟩
    rw [findIn_after, TreeCall.live_iff_isSome]
  · refine ⟨(pairs (empty.after calls).keys).toFinset, fun pair => ?_, ?_⟩
    · rw [List.mem_toFinset, wellFormed.mem_pairs, findIn_after, TreeCall.live_iff_isSome]
    · rw [List.toFinset_card_of_nodup wellFormed.nodup_pairs, length_pairs]
  · exact wellFormed.get?_after_singleton different

theorem after_refines_last_write_spellings :
    let calls : List TreeCall := [.set "\\K\\" "A" ⟨1, [1]⟩, .set "" "A" ⟨1, [2]⟩,
      .set "k" "a" ⟨4, [3]⟩, .delete "K" "B"]
    AcceptedNames "K" "a" ∧
      TreeCall.lastOn (foldedPair "K" "a") (empty.successes calls) =
        some (.set "k" "a" ⟨4, [3]⟩) ∧
      (empty.after calls).get? "K" "a" = some ⟨4, [3]⟩ := by
  intro calls
  have accepted : AcceptedNames "K" "a" := ⟨⟨"K", by rfl⟩, by rfl⟩
  have last : TreeCall.lastOn (foldedPair "K" "a") (empty.successes calls) =
      some (.set "k" "a" ⟨4, [3]⟩) := by rfl
  exact ⟨accepted, last,
    (((after_refines_last_write calls).2.1 "K" "a" accepted).1 _).2 ⟨_, _, last⟩⟩

end RegistryTree

end GroupPolicy
