import GroupPolicy.PolicyFile.Reader
import GroupPolicy.Proofs.Success
import GroupPolicy.Proofs.Text.Utf16

/-!
# Reads take exactly what writing produces

`Cursor.Takes` is the way from one place of a file to another over given bytes. Each read has one
law: it succeeds with a result if and only if the way to the next place is over the written form of
that result. `bind_eq_ok_iff` and `Cursor.takes_append_iff` put such laws together, up to
`readEntry_eq_ok_iff` for an entry and `readEntries_eq_ok_iff` for all that is left of a file.
-/

namespace GroupPolicy

/-- Neither the key nor the name of an entry holds a NUL. -/
def PolicyEntry.NulFree (entry : PolicyEntry) : Prop :=
  '\x00' ∉ entry.key.toList ∧ '\x00' ∉ entry.name.toList

namespace PolicyFile

/-- `cursor.Takes bytes next`: the given bytes stand between the two places. -/
def Cursor.Takes (cursor : Cursor) (bytes : List UInt8) (next : Cursor) : Prop :=
  cursor.rest = bytes ++ next.rest ∧ next.offset = cursor.offset + bytes.length

variable {α β : Type} {cursor next : Cursor}

theorem Cursor.takes_nil_iff : cursor.Takes [] next ↔ next = cursor := by
  obtain ⟨offset, rest⟩ := cursor
  obtain ⟨offset', rest'⟩ := next
  simp only [Takes, List.nil_append, List.length_nil, Nat.add_zero, Cursor.mk.injEq]
  exact ⟨fun ⟨same, place⟩ => ⟨place, same.symm⟩, fun ⟨place, same⟩ => ⟨same.symm, place⟩⟩

theorem Cursor.takes_append_iff {left right : List UInt8} :
    cursor.Takes (left ++ right) next ↔
      ∃ middle, cursor.Takes left middle ∧ Cursor.Takes middle right next := by
  refine ⟨fun ⟨whole, place⟩ => ?_, fun ⟨middle, ⟨whole, place⟩, ⟨whole', place'⟩⟩ => ?_⟩
  · rw [List.length_append] at place
    refine ⟨⟨cursor.offset + left.length, right ++ next.rest⟩, ⟨?_, rfl⟩, ⟨rfl, ?_⟩⟩
    · rw [whole, List.append_assoc]
    · rw [place, Nat.add_assoc]
  · refine ⟨?_, ?_⟩
    · rw [whole, whole', List.append_assoc]
    · rw [place', place, List.length_append, Nat.add_assoc]

theorem Cursor.Takes.append {left right : List UInt8} {middle : Cursor}
    (first : cursor.Takes left middle) (second : middle.Takes right next) :
    cursor.Takes (left ++ right) next :=
  Cursor.takes_append_iff.2 ⟨middle, first, second⟩

/-! ## Reads in a row -/

theorem pure_eq_ok_iff {value result : α} :
    (pure value : Read α) cursor = .ok (result, next) ↔ value = result ∧ cursor = next := by
  refine ⟨fun success => ?_, fun ⟨same, place⟩ => ?_⟩
  · cases success
    exact ⟨rfl, rfl⟩
  · rw [same, place]
    rfl

theorem bind_eq_ok_iff {read : Read α} {continuation : α → Read β} {result : β} :
    (read >>= continuation) cursor = .ok (result, next) ↔
      ∃ value middle, read cursor = .ok (value, middle) ∧
        continuation value middle = .ok (result, next) :=
  Except.bind_eq_ok_iff.trans Prod.exists

/-! ## Single fields -/

theorem splitFirst?_append (first others : List α) :
    splitFirst? first.length (first ++ others) = some (first, others) := by
  induction first with
  | nil => rfl
  | cons x first ih =>
    rw [List.length_cons, List.cons_append, splitFirst?, ih, Option.map_some]

theorem take_eq_ok_iff {count : Nat} {bytes : List UInt8} :
    take count cursor = .ok (bytes, next) ↔ bytes.length = count ∧ cursor.Takes bytes next := by
  obtain ⟨offset, rest⟩ := cursor
  obtain ⟨offset', rest'⟩ := next
  simp only [take, Cursor.Takes]
  refine ⟨fun success => ?_, fun ⟨length, whole, place⟩ => ?_⟩
  · split at success
    · rename_i split
      cases success
      obtain ⟨whole, length⟩ := splitFirst?_eq_some split
      exact ⟨length, whole, by rw [length]⟩
    · cases success
  · subst length
    rw [whole, place, splitFirst?_append]

theorem takeNumber_eq_ok_iff {number : UInt32} :
    takeNumber cursor = .ok (number, next) ↔ cursor.Takes (encodeNumber number) next := by
  have width : LittleEndian.capacity 4 = UInt32.size := rfl
  simp only [takeNumber, bind_eq_ok_iff, take_eq_ok_iff, pure_eq_ok_iff, encodeNumber]
  constructor
  · intro ⟨bytes, middle, ⟨length, way⟩, same, place⟩
    have bound := LittleEndian.ofBytes_lt bytes
    rw [length, width] at bound
    rw [← place, ← same, UInt32.toNat_ofNat_of_lt' bound, ← length, LittleEndian.toBytes_ofBytes]
    exact way
  · intro way
    refine ⟨_, next, ⟨LittleEndian.length_toBytes 4 number.toNat, way⟩, ?_, rfl⟩
    rw [LittleEndian.ofBytes_toBytes, width, Nat.mod_eq_of_lt number.toNat_lt, UInt32.ofNat_toNat]

theorem expect_eq_ok_iff {unit : UInt16} {fault : EntryFault} {result : Unit} :
    expect unit fault cursor = .ok (result, next) ↔
      cursor.Takes (Utf16Bytes.ofUnits [unit]) next := by
  have bytesOfUnit : Utf16Bytes.ofUnits [unit] = LittleEndian.toBytes 2 unit.toNat :=
    List.append_nil _
  rw [expect, bytesOfUnit]
  constructor
  · intro success
    split at success
    · cases success
    · rename_i bytes middle step
      obtain ⟨length, way⟩ := take_eq_ok_iff.1 step
      split at success
      · rename_i same
        cases success
        rwa [← same, ← length, LittleEndian.toBytes_ofBytes]
      · cases success
  · intro way
    have step := take_eq_ok_iff.2 ⟨LittleEndian.length_toBytes 2 unit.toNat, way⟩
    have small : unit.toNat < LittleEndian.capacity 2 := unit.toNat_lt
    have same : LittleEndian.ofBytes (LittleEndian.toBytes 2 unit.toNat) = unit.toNat := by
      rw [LittleEndian.ofBytes_toBytes, Nat.mod_eq_of_lt small]
    simp only [step, same, if_true]

theorem Cursor.takes_unit_iff {offset : Nat} {low high : UInt8} {rest bytes : List UInt8}
    {unit : UInt16} :
    Cursor.Takes ⟨offset, low :: high :: rest⟩ (Utf16Bytes.ofUnits [unit] ++ bytes) next ↔
      Utf16Bytes.unit low high = unit ∧ Cursor.Takes ⟨offset + 2, rest⟩ bytes next := by
  have two : (Utf16Bytes.ofUnits [unit]).length = [low, high].length := by
    rw [Utf16Bytes.ofUnits_singleton, LittleEndian.length_toBytes]
    rfl
  rw [Utf16Bytes.unit_eq_iff, ← Utf16Bytes.ofUnits_singleton]
  constructor
  · intro ⟨whole, place⟩
    have split : [low, high] ++ rest = Utf16Bytes.ofUnits [unit] ++ (bytes ++ next.rest) := by
      rw [← List.append_assoc]
      exact whole
    obtain ⟨front, back⟩ := List.append_inj split two.symm
    rw [List.length_append, two] at place
    exact ⟨front.symm, back, by rw [place, Nat.add_assoc]; rfl⟩
  · intro ⟨front, back, place⟩
    rw [front]
    exact ⟨congrArg (low :: high :: ·) back, by rw [place, Nat.add_assoc, List.length_append]; rfl⟩

theorem unitsFrom_cons_cons_iff {offset : Nat} {low high : UInt8} {rest : List UInt8}
    {units : List UInt16} :
    unitsFrom offset (low :: high :: rest) = .ok (units, next) ↔
      Utf16Bytes.unit low high = 0 ∧ units = [] ∧ next = ⟨offset + 2, rest⟩ ∨
      Utf16Bytes.unit low high ≠ 0 ∧ ∃ later, units = Utf16Bytes.unit low high :: later ∧
        unitsFrom (offset + 2) rest = .ok (later, next) := by
  rw [unitsFrom]
  by_cases last : Utf16Bytes.unit low high = 0
  · simp [last, eq_comm]
  · simp only [last, if_false, false_and, false_or, ne_eq, not_false_eq_true, true_and]
    refine Except.bind_eq_ok_iff.trans ⟨fun ⟨⟨later, place⟩, success, done⟩ => ?_,
      fun ⟨later, whole, success⟩ => ⟨(later, next), success, by rw [whole]; rfl⟩⟩
    cases done
    exact ⟨later, rfl, success⟩

/-- The first two bytes before a terminated text are those of its first unit or of its NUL. -/
theorem Cursor.takes_terminated_iff {offset : Nat} {low high : UInt8} {rest : List UInt8}
    {units : List UInt16} (noNul : 0 ∉ units) :
    Cursor.Takes ⟨offset, low :: high :: rest⟩
        (Utf16Bytes.ofUnits units ++ Utf16Bytes.ofUnits [0]) next ↔
      Utf16Bytes.unit low high = 0 ∧ units = [] ∧ next = ⟨offset + 2, rest⟩ ∨
      Utf16Bytes.unit low high ≠ 0 ∧ ∃ later, units = Utf16Bytes.unit low high :: later ∧
        Cursor.Takes ⟨offset + 2, rest⟩
          (Utf16Bytes.ofUnits later ++ Utf16Bytes.ofUnits [0]) next := by
  cases units with
  | nil =>
    rw [Utf16Bytes.ofUnits_nil, List.nil_append, ← List.append_nil (Utf16Bytes.ofUnits [0]),
      Cursor.takes_unit_iff, Cursor.takes_nil_iff]
    simp
  | cons first units =>
    rw [Utf16Bytes.ofUnits_cons, List.append_assoc, Cursor.takes_unit_iff]
    have nonzero : first ≠ 0 := fun zero => noNul (List.mem_cons.2 (Or.inl zero.symm))
    constructor
    · intro ⟨same, way⟩
      subst same
      exact Or.inr ⟨nonzero, units, rfl, way⟩
    · intro either
      rcases either with ⟨-, none, -⟩ | ⟨-, later, same, way⟩
      · cases none
      · cases same
        exact ⟨rfl, way⟩

/-- Less than two bytes are too few for a NUL. -/
theorem Cursor.two_le_of_takes_terminated {units : List UInt16}
    (way : cursor.Takes (Utf16Bytes.ofUnits units ++ Utf16Bytes.ofUnits [0]) next) :
    2 ≤ cursor.rest.length := by
  have length := congrArg List.length way.1
  rw [List.length_append, List.length_append, Utf16Bytes.ofUnits_singleton,
    LittleEndian.length_toBytes] at length
  omega

theorem unitsFrom_eq_ok_iff : ∀ (offset : Nat) (rest : List UInt8) (units : List UInt16),
    unitsFrom offset rest = .ok (units, next) ↔
      0 ∉ units ∧
        Cursor.Takes ⟨offset, rest⟩ (Utf16Bytes.ofUnits units ++ Utf16Bytes.ofUnits [0]) next
  | offset, [], units => by
    refine ⟨nofun, fun ⟨_, way⟩ => ?_⟩
    have enough := Cursor.two_le_of_takes_terminated way
    simp only [List.length_nil] at enough
    omega
  | offset, [_], units => by
    refine ⟨nofun, fun ⟨_, way⟩ => ?_⟩
    have enough := Cursor.two_le_of_takes_terminated way
    simp only [List.length_singleton] at enough
    omega
  | offset, low :: high :: rest, units => by
    have ih := unitsFrom_eq_ok_iff (offset + 2) rest
    rw [unitsFrom_cons_cons_iff]
    refine ⟨fun success => ?_, fun ⟨noNul, way⟩ => ?_⟩
    · rcases success with ⟨last, rfl, rfl⟩ | ⟨more, later, rfl, success⟩
      · have noNul : (0 : UInt16) ∉ ([] : List UInt16) := List.not_mem_nil
        exact ⟨noNul, (Cursor.takes_terminated_iff noNul).2 (Or.inl ⟨last, rfl, rfl⟩)⟩
      · obtain ⟨noNul, way⟩ := (ih later).1 success
        have noNul' : 0 ∉ Utf16Bytes.unit low high :: later := fun member =>
          (List.mem_cons.1 member).elim (fun zero => more zero.symm) noNul
        exact ⟨noNul', (Cursor.takes_terminated_iff noNul').2 (Or.inr ⟨more, later, rfl, way⟩)⟩
    · rcases (Cursor.takes_terminated_iff noNul).1 way with last | ⟨more, later, rfl, tail⟩
      · exact Or.inl last
      · have noNul' : 0 ∉ later := fun member => noNul (List.mem_cons_of_mem _ member)
        exact Or.inr ⟨more, later, rfl, (ih later).2 ⟨noNul', tail⟩⟩

theorem takeUnits_eq_ok_iff {units : List UInt16} :
    takeUnits cursor = .ok (units, next) ↔
      0 ∉ units ∧ cursor.Takes (Utf16Bytes.ofUnits units ++ Utf16Bytes.ofUnits [0]) next :=
  unitsFrom_eq_ok_iff cursor.offset cursor.rest units

theorem takeText_eq_ok_iff {fault : EntryFault} {text : String} :
    takeText fault cursor = .ok (text, next) ↔
      '\x00' ∉ text.toList ∧ cursor.Takes (encodeText text) next := by
  rw [takeText, encodeText, Utf16Bytes.ofText, ← Text.Utf16.zero_mem_encode]
  constructor
  · intro success
    split at success
    · cases success
    · rename_i units middle step
      split at success
      · rename_i characters read
        cases success
        rw [String.toList_ofList, ← Text.Utf16.decode?_eq_some_iff.1 read]
        exact takeUnits_eq_ok_iff.1 step
      · cases success
  · intro way
    have step := takeUnits_eq_ok_iff.2 way
    simp only [step, Text.Utf16.decode?_encode, String.ofList_toList]

/-! ## Entries -/

/-- An entry is read from exactly its bytes: every delimiter, both NULs and the size are forced. -/
theorem readEntry_eq_ok_iff {entry : PolicyEntry} :
    readEntry cursor = .ok (entry, next) ↔
      entry.NulFree ∧ entry.data.length < UInt32.size ∧ cursor.Takes (entryBytes entry) next := by
  simp only [readEntry, bind_eq_ok_iff, expect_eq_ok_iff, takeText_eq_ok_iff, takeNumber_eq_ok_iff,
    take_eq_ok_iff, pure_eq_ok_iff, entryBytes]
  constructor
  · intro success
    obtain ⟨-, c₁, open_, key, c₂, ⟨keyFree, atKey⟩, -, c₃, afterKey, name, c₄, ⟨nameFree, atName⟩,
      -, c₅, afterName, code, c₆, atCode, -, c₇, afterCode, size, c₈, atSize, -, c₉, afterSize,
      data, c₁₀, ⟨length, atData⟩, -, c₁₁, close, rfl, rfl⟩ := success
    have fits : data.length < UInt32.size := length ▸ size.toNat_lt
    have sizeEq : UInt32.ofNat data.length = size := by rw [length, UInt32.ofNat_toNat]
    refine ⟨⟨keyFree, nameFree⟩, fits, ?_⟩
    rw [sizeEq]
    exact open_.append atKey |>.append afterKey |>.append atName |>.append afterName
      |>.append atCode |>.append afterCode |>.append atSize |>.append afterSize
      |>.append atData |>.append close
  · intro ⟨⟨keyFree, nameFree⟩, fits, way⟩
    simp only [Cursor.takes_append_iff] at way
    obtain ⟨c₁₀, ⟨c₉, ⟨c₈, ⟨c₇, ⟨c₆, ⟨c₅, ⟨c₄, ⟨c₃, ⟨c₂, ⟨c₁, open_, atKey⟩, afterKey⟩, atName⟩,
      afterName⟩, atCode⟩, afterCode⟩, atSize⟩, afterSize⟩, atData⟩, close⟩ := way
    exact ⟨(), c₁, open_, entry.key, c₂, ⟨keyFree, atKey⟩, (), c₃, afterKey, entry.name, c₄,
      ⟨nameFree, atName⟩, (), c₅, afterName, entry.code, c₆, atCode, (), c₇, afterCode, _, c₈,
      atSize, (), c₉, afterSize, entry.data, c₁₀, ⟨(UInt32.toNat_ofNat_of_lt' fits).symm, atData⟩,
      (), next, close, rfl, rfl⟩

theorem readEntries_of_rest_eq_nil (empty : cursor.rest = []) : readEntries cursor = .ok [] := by
  rw [readEntries, if_pos (List.isEmpty_iff.2 empty)]

theorem readEntries_of_rest_ne_nil (more : cursor.rest ≠ []) :
    readEntries cursor = readEntry cursor >>= fun found =>
      readEntries found.2 >>= fun entries => .ok (found.1 :: entries) := by
  rw [readEntries, if_neg (by rwa [List.isEmpty_iff])]
  split
  · rename_i error step
    rw [step]
    rfl
  · rename_i entry next step
    simp only [step]
    rfl

theorem readEntries_eq_nil_iff : readEntries cursor = .ok [] ↔ cursor.rest = [] := by
  refine ⟨fun success => ?_, readEntries_of_rest_eq_nil⟩
  by_contra more
  rw [readEntries_of_rest_ne_nil more, Except.bind_eq_ok_iff] at success
  obtain ⟨found, _, later⟩ := success
  obtain ⟨entries, _, whole⟩ := Except.bind_eq_ok_iff.1 later
  cases whole

theorem readEntries_eq_cons_iff {entry : PolicyEntry} {entries : List PolicyEntry} :
    readEntries cursor = .ok (entry :: entries) ↔
      ∃ next, readEntry cursor = .ok (entry, next) ∧ readEntries next = .ok entries := by
  by_cases empty : cursor.rest = []
  · rw [readEntries_of_rest_eq_nil empty]
    refine ⟨nofun, fun ⟨next, step, _⟩ => ?_⟩
    have shorter := readEntry_shortens step
    rw [empty] at shorter
    exact absurd shorter (Nat.not_lt_zero _)
  rw [readEntries_of_rest_ne_nil empty, Except.bind_eq_ok_iff]
  refine ⟨fun ⟨⟨first, next⟩, step, later⟩ => ?_, fun ⟨next, step, later⟩ =>
    ⟨(entry, next), step, Except.bind_eq_ok_iff.2 ⟨entries, later, rfl⟩⟩⟩
  obtain ⟨others, read, whole⟩ := Except.bind_eq_ok_iff.1 later
  cases whole
  exact ⟨next, step, read⟩

/-- The rest of a file is read as entries exactly if it is their bytes. -/
theorem readEntries_eq_ok_iff {entries : List PolicyEntry} :
    readEntries cursor = .ok entries ↔
      (∀ entry ∈ entries, entry.NulFree ∧ entry.data.length < UInt32.size) ∧
        cursor.rest = entries.flatMap entryBytes := by
  induction entries generalizing cursor with
  | nil =>
    rw [readEntries_eq_nil_iff]
    exact ⟨fun empty => ⟨nofun, empty⟩, fun ⟨_, empty⟩ => empty⟩
  | cons entry entries ih =>
    rw [readEntries_eq_cons_iff, List.flatMap_cons, List.forall_mem_cons]
    refine ⟨fun ⟨next, step, later⟩ => ?_, fun ⟨⟨⟨nulFree, fits⟩, others⟩, whole⟩ => ?_⟩
    · obtain ⟨nulFree, fits, way, -⟩ := readEntry_eq_ok_iff.1 step
      obtain ⟨others, rest⟩ := ih.1 later
      exact ⟨⟨⟨nulFree, fits⟩, others⟩, by rw [way, rest]⟩
    · let next : Cursor :=
        ⟨cursor.offset + (entryBytes entry).length, entries.flatMap entryBytes⟩
      exact ⟨next, readEntry_eq_ok_iff.2 ⟨nulFree, fits, whole, rfl⟩, ih.2 ⟨others, rfl⟩⟩

end PolicyFile

end GroupPolicy
