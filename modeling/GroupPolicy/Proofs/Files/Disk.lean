import GroupPolicy.Files.Disk
import GroupPolicy.Proofs.Files.Path
import GroupPolicy.Proofs.Success
import Mathlib.Data.List.Induction

/-!
# Following paths on a disk

On a disk in which everything is in a directory (`WellFormed`) a path leads to a place in one, and a
path that goes up or has no names leads to a directory. Which place that is depends on nothing but
the directories of the disk (`locate_mono`), and diverging paths lead to different places
(`ne_of_diverge`).
-/

namespace GroupPolicy.Disk

variable {disk after : Disk} {place other inner target : Place} {node : DiskNode}
  {name : String} {names front : List String} {path path' : Path}

/-! ## What is at a place -/

theorem node?_of_ne_root (below : place ≠ []) : disk.node? place = disk.nodes.lookup place := by
  rw [node?, if_neg (by rwa [List.isEmpty_iff])]

theorem lookup_filter {α β : Type} [BEq α] [LawfulBEq α] (keep : α → Bool) (entries : List (α × β))
    (key : α) : (entries.filter fun entry => keep entry.1).lookup key =
      if keep key then entries.lookup key else none := by
  induction entries with
  | nil => simp
  | cons entry entries ih =>
    obtain ⟨first, value⟩ := entry
    by_cases same : key = first
    · subst same
      by_cases kept : keep key = true
      · simp [kept]
      · simp [kept, ih]
    · have skipped : ((first, value) :: entries).lookup key = entries.lookup key := by
        rw [List.lookup_cons, beq_eq_false_iff_ne.2 same]
      rw [skipped, ← ih, List.filter_cons]
      split
      · rw [List.lookup_cons, beq_eq_false_iff_ne.2 same]
      · rfl

theorem node?_put (below : place ≠ []) :
    (disk.put place node).node? other = if other = place then some node else disk.node? other := by
  by_cases root : other = []
  · subst root
    rw [if_neg (Ne.symm below)]
    rfl
  · rw [node?_of_ne_root root, node?_of_ne_root root, put]
    by_cases same : other = place
    · rw [if_pos same, same, List.lookup_cons_self]
    · rw [if_neg same, List.lookup_cons, beq_eq_false_iff_ne.2 same]
      exact (lookup_filter (fun key => decide (key ≠ place)) disk.nodes other).trans
        (if_pos (decide_eq_true same))

theorem node?_erase (below : place ≠ []) :
    (disk.erase place).node? other = if place <+: other then none else disk.node? other := by
  by_cases root : other = []
  · subst root
    rw [if_neg (by rwa [List.prefix_nil])]
    rfl
  · rw [node?_of_ne_root root, node?_of_ne_root root, erase]
    refine (lookup_filter (fun key => !place.isPrefixOf key) disk.nodes other).trans ?_
    by_cases within : place <+: other
    · rw [if_pos within, List.isPrefixOf_iff_prefix.2 within]
      rfl
    · rw [if_neg within, if_pos]
      rwa [Bool.not_eq_true', Bool.eq_false_iff, ne_eq, List.isPrefixOf_iff_prefix]

/-- Everything on a disk is in a directory, and so is whoever uses it. -/
structure WellFormed (disk : Disk) : Prop where
  parents : ∀ {place node}, disk.node? place = some node →
    disk.node? place.dropLast = some .directory
  working : disk.node? disk.working = some .directory

theorem wellFormed_of_nodes
    (parents : ∀ entry ∈ disk.nodes, disk.node? entry.1.dropLast = some .directory)
    (working : disk.node? disk.working = some .directory) : disk.WellFormed where
  working := working
  parents := by
    intro place node found
    by_cases root : place = []
    · subst root
      rfl
    · rw [node?_of_ne_root root, List.lookup_eq_some_iff] at found
      obtain ⟨before, later, whole, -⟩ := found
      exact parents (place, node) (whole ▸ List.mem_append_right _ List.mem_cons_self)

namespace WellFormed

variable (wellFormed : disk.WellFormed)

include wellFormed

/-- What is at a place is below directories only. -/
theorem above {rest : Place} (found : disk.node? (place ++ rest) = some node) (more : rest ≠ []) :
    disk.node? place = some .directory := by
  induction rest using List.reverseRecOn generalizing node with
  | nil => exact absurd rfl more
  | append_singleton rest last ih =>
    have parent := wellFormed.parents found
    rw [← List.append_assoc, List.dropLast_concat] at parent
    by_cases none : rest = []
    · rwa [none, List.append_nil] at parent
    · exact ih parent none

theorem start (path : Path) : disk.node? (disk.start path) = some .directory := by
  rw [Disk.start]
  split
  · rfl
  · exact wellFormed.working

/-- A name leads from a directory to a place in one. -/
theorem step_parent (directory : disk.node? place = some .directory)
    (led : step place name = .ok inner) : disk.node? inner.dropLast = some .directory := by
  rw [step] at led
  split at led
  · cases led
    exact wellFormed.parents (wellFormed.parents directory)
  split at led
  · cases led
  · cases led
    rwa [List.dropLast_concat]

end WellFormed

/-! ## Descending -/

theorem step_eq_ok_of_down (down : name ≠ "..") (led : step place name = .ok inner) :
    inner = place ++ [name] := by
  rw [step, if_neg down] at led
  split at led
  · cases led
  · cases led
    rfl

theorem step_up : step place ".." = .ok place.dropLast := rfl

/-- The directory that a name leads to. -/
def enter (disk : Disk) (place : Place) (name : String) : Except FileFailure Place := do
  let inner ← step place name
  match disk.node? inner with
  | some .directory => .ok inner
  | some (.file _) => .error .notDirectory
  | none => .error .notFound

theorem enter_eq_ok_iff :
    disk.enter place name = .ok inner ↔
      step place name = .ok inner ∧ disk.node? inner = some .directory := by
  rw [enter, Except.bind_eq_ok_iff]
  constructor
  · rintro ⟨value, led, entered⟩
    split at entered
    case h_1 directory =>
      cases entered
      exact ⟨led, directory⟩
    case h_2 => cases entered
    case h_3 => cases entered
  · rintro ⟨led, directory⟩
    refine ⟨inner, led, ?_⟩
    rw [directory]

/-- To follow names is to enter a directory by each, and to take a step by the last. -/
theorem walk_concat (names : List String) (last : String) :
    disk.walk place (names ++ [last]) = (names.foldlM disk.enter place >>= (step · last)) := by
  induction names generalizing place with
  | nil => rfl
  | cons name names ih =>
    obtain ⟨next, more, shape⟩ : ∃ next more, names ++ [last] = next :: more :=
      List.exists_cons_of_ne_nil (List.append_ne_nil_of_right_ne_nil names (List.cons_ne_nil last []))
    rw [List.cons_append, shape, walk, ← shape, List.foldlM_cons, enter]
    cases led : step place name with
    | error failure => rfl
    | ok inner =>
      show (match disk.node? inner with
        | some .directory => disk.walk inner (names ++ [last])
        | some (.file _) => .error .notDirectory
        | none => .error .notFound) = _
      cases found : disk.node? inner with
      | none => simp [bind, Except.bind, found]
      | some node =>
        cases node with
        | file contents => simp [bind, Except.bind, found]
        | directory =>
          rw [ih]
          simp [bind, Except.bind, found]

theorem walk_concat_eq_ok_iff {last : String} :
    disk.walk place (names ++ [last]) = .ok target ↔
      ∃ inner, names.foldlM disk.enter place = .ok inner ∧ step inner last = .ok target := by
  rw [walk_concat, Except.bind_eq_ok_iff]

theorem walk_of_descend (descended : names.foldlM disk.enter place = .ok inner) :
    disk.walk place names = .ok inner := by
  rcases List.eq_nil_or_concat' names with rfl | ⟨front, last, rfl⟩
  · exact descended
  · rw [List.foldlM_append, Except.bind_eq_ok_iff] at descended
    obtain ⟨middle, first, second⟩ := descended
    rw [List.foldlM_cons, Except.bind_eq_ok_iff] at second
    obtain ⟨target, entered, done⟩ := second
    cases done
    exact walk_concat_eq_ok_iff.2 ⟨middle, first, (enter_eq_ok_iff.1 entered).1⟩

theorem directory_of_descend (directory : disk.node? place = some .directory)
    (descended : names.foldlM disk.enter place = .ok inner) :
    disk.node? inner = some .directory := by
  induction names generalizing place with
  | nil =>
    cases descended
    exact directory
  | cons name names ih =>
    rw [List.foldlM_cons, Except.bind_eq_ok_iff] at descended
    obtain ⟨next, entered, rest⟩ := descended
    exact ih (enter_eq_ok_iff.1 entered).2 rest

theorem descend_eq_append (down : ".." ∉ names)
    (descended : names.foldlM disk.enter place = .ok inner) : inner = place ++ names := by
  induction names generalizing place with
  | nil =>
    cases descended
    rw [List.append_nil]
  | cons name names ih =>
    rw [List.mem_cons, not_or] at down
    rw [List.foldlM_cons, Except.bind_eq_ok_iff] at descended
    obtain ⟨next, entered, rest⟩ := descended
    obtain rfl := step_eq_ok_of_down (Ne.symm down.1) (enter_eq_ok_iff.1 entered).1
    rw [ih down.2 rest, List.append_assoc, List.singleton_append]

/-- The way down is the same on a disk with more directories. -/
theorem descend_mono
    (directories : ∀ place, disk.node? place = some .directory →
      after.node? place = some .directory)
    (descended : names.foldlM disk.enter place = .ok inner) :
    names.foldlM after.enter place = .ok inner := by
  induction names generalizing place with
  | nil => exact descended
  | cons name names ih =>
    rw [List.foldlM_cons, Except.bind_eq_ok_iff] at descended ⊢
    obtain ⟨next, entered, rest⟩ := descended
    obtain ⟨led, directory⟩ := enter_eq_ok_iff.1 entered
    exact ⟨next, enter_eq_ok_iff.2 ⟨led, directories next directory⟩, ih rest⟩

/-- The way down to a directory of one disk is the way down to it on another disk on which it is,
provided that it does not go up. -/
theorem WellFormed.descend (wellFormed : disk.WellFormed) (down : ".." ∉ names)
    (descended : names.foldlM after.enter place = .ok inner)
    (directory : disk.node? inner = some .directory) :
    names.foldlM disk.enter place = .ok inner := by
  induction names generalizing place with
  | nil => exact descended
  | cons name names ih =>
    have whole := descend_eq_append down descended
    rw [List.mem_cons, not_or] at down
    rw [List.foldlM_cons, Except.bind_eq_ok_iff] at descended ⊢
    obtain ⟨next, entered, rest⟩ := descended
    have led := (enter_eq_ok_iff.1 entered).1
    obtain rfl := step_eq_ok_of_down (Ne.symm down.1) led
    have first : disk.node? (place ++ [name]) = some .directory := by
      rw [whole, List.append_cons] at directory
      by_cases none : names = []
      · rwa [none, List.append_nil] at directory
      · exact wellFormed.above directory none
    exact ⟨_, enter_eq_ok_iff.2 ⟨led, first⟩, ih down.2 rest⟩

/-! ## Where paths lead -/

theorem locate_eq_ok_iff :
    disk.locate path = .ok place ↔ checkPath path = .ok () ∧ path.text.isEmpty = false ∧
      disk.walk (disk.start path) path.names = .ok place := by
  rw [locate, Except.bind_eq_ok_iff]
  constructor
  · rintro ⟨_, checked, rest⟩
    cases empty : path.text.isEmpty with
    | true =>
      rw [empty] at rest
      cases rest
    | false =>
      rw [empty] at rest
      exact ⟨checked, rfl, rest⟩
  · rintro ⟨checked, nonempty, walked⟩
    refine ⟨(), checked, ?_⟩
    rw [nonempty]
    exact walked

theorem walk_mono
    (directories : ∀ place, disk.node? place = some .directory →
      after.node? place = some .directory)
    (walked : disk.walk place names = .ok target) : after.walk place names = .ok target := by
  rcases List.eq_nil_or_concat' names with rfl | ⟨front, last, rfl⟩
  · exact walked
  · obtain ⟨inner, descended, led⟩ := walk_concat_eq_ok_iff.1 walked
    exact walk_concat_eq_ok_iff.2 ⟨inner, descend_mono directories descended, led⟩

/-- A path leads to the same place on a disk with more directories. -/
theorem locate_mono (working : after.working = disk.working)
    (directories : ∀ place, disk.node? place = some .directory →
      after.node? place = some .directory)
    (located : disk.locate path = .ok place) : after.locate path = .ok place := by
  obtain ⟨checked, nonempty, walked⟩ := locate_eq_ok_iff.1 located
  have same : after.start path = disk.start path := by
    rw [start, start, working]
  exact locate_eq_ok_iff.2 ⟨checked, nonempty, same ▸ walk_mono directories walked⟩

theorem WellFormed.locate_parent (wellFormed : disk.WellFormed)
    (located : disk.locate path = .ok place) : disk.node? place.dropLast = some .directory := by
  obtain ⟨-, -, walked⟩ := locate_eq_ok_iff.1 located
  rcases List.eq_nil_or_concat' path.names with none | ⟨front, last, names⟩
  · rw [none] at walked
    cases walked
    exact wellFormed.parents (wellFormed.start path)
  · rw [names] at walked
    obtain ⟨inner, descended, led⟩ := walk_concat_eq_ok_iff.1 walked
    exact wellFormed.step_parent (directory_of_descend (wellFormed.start path) descended) led

/-- Only a path that ends in a name, and not by going up, leads to anything but a directory. -/
theorem WellFormed.couldBeFile (wellFormed : disk.WellFormed)
    (located : disk.locate path = .ok place) (file : disk.node? place ≠ some .directory) :
    path.CouldBeFile := by
  obtain ⟨-, -, walked⟩ := locate_eq_ok_iff.1 located
  rcases List.eq_nil_or_concat' path.names with none | ⟨front, last, names⟩
  · rw [none] at walked
    cases walked
    exact absurd (wellFormed.start path) file
  · refine ⟨front, last, names, ?_⟩
    rintro rfl
    rw [names] at walked
    obtain ⟨inner, descended, led⟩ := walk_concat_eq_ok_iff.1 walked
    rw [step_up] at led
    cases led
    exact file (wellFormed.parents (directory_of_descend (wellFormed.start path) descended))

/-- Names that do not go up lead to the place below. -/
theorem exists_of_walk {rest : List String} (down : ".." ∉ name :: rest)
    (walked : disk.walk place (front ++ name :: rest) = .ok target) :
    ∃ inner, front.foldlM disk.enter place = .ok inner ∧ target = inner ++ name :: rest := by
  obtain ⟨middle, last, shape⟩ : ∃ middle last, name :: rest = middle ++ [last] :=
    (List.eq_nil_or_concat' (name :: rest)).resolve_left (List.cons_ne_nil _ _)
  rw [shape, List.mem_append, List.mem_singleton, not_or] at down
  rw [shape, ← List.append_assoc, walk_concat_eq_ok_iff] at walked
  obtain ⟨last', descended, led⟩ := walked
  rw [List.foldlM_append, Except.bind_eq_ok_iff] at descended
  obtain ⟨inner, first, second⟩ := descended
  refine ⟨inner, first, ?_⟩
  rw [step_eq_ok_of_down (Ne.symm down.2) led, descend_eq_append down.1 second, shape,
    List.append_assoc]

/-- Diverging paths lead to different places. -/
theorem ne_of_diverge (diverge : path.Diverge path') (located : disk.locate path = .ok place)
    (located' : disk.locate path' = .ok other) : place ≠ other := by
  obtain ⟨same, common, name, rest, name', rest', names, names', differ, down, down'⟩ := diverge
  obtain ⟨-, -, walked⟩ := locate_eq_ok_iff.1 located
  obtain ⟨-, -, walked'⟩ := locate_eq_ok_iff.1 located'
  have starts : disk.start path' = disk.start path := by
    rw [start, start, same]
  rw [names] at walked
  rw [names', starts] at walked'
  obtain ⟨inner, descended, rfl⟩ := exists_of_walk down walked
  obtain ⟨inner', descended', rfl⟩ := exists_of_walk down' walked'
  cases descended.symm.trans descended'
  intro whole
  exact differ (List.cons.inj (List.append_cancel_left whole)).1

end GroupPolicy.Disk
