import GroupPolicy.PolicyFile.Entry

/-!
# Reading bytes in order

A cursor is a place in a file: the bytes that are still to be read and the offset of the first of
them. A read either takes bytes from the front or fails. The main statement is `Advances.bind`:
reads in a row take from the front, and at least as many bytes as the first of them.
-/

namespace GroupPolicy.PolicyFile

/-- A place in a file. -/
structure Cursor where
  /-- The offset of the next byte. -/
  offset : Nat
  /-- The bytes from there on. -/
  rest : List UInt8
  deriving DecidableEq

/-- Reads from a cursor and moves it on. -/
abbrev Read (α : Type) := StateT Cursor (Except PolicyError) α

/-- The first elements of a list, as many as asked for, and the others. -/
def splitFirst? {α : Type} : Nat → List α → Option (List α × List α)
  | 0, xs => some ([], xs)
  | _ + 1, [] => none
  | count + 1, x :: xs => (splitFirst? count xs).map fun (first, others) => (x :: first, others)

/-- Takes the next bytes, as many as asked for. -/
def take (count : Nat) : Read (List UInt8) := fun cursor =>
  match splitFirst? count cursor.rest with
  | some (first, others) => .ok (first, ⟨cursor.offset + count, others⟩)
  | none => .error (.unexpectedEnd cursor.offset count cursor.rest.length)

/-- Takes a 32-bit number. -/
def takeNumber : Read UInt32 :=
  return UInt32.ofNat (LittleEndian.ofBytes (← take 4))

/-- The code units before the first NUL of the given bytes, and the place after the NUL. -/
def unitsFrom (offset : Nat) : List UInt8 → Except PolicyError (List UInt16 × Cursor)
  | low :: high :: rest =>
    let unit := Utf16Bytes.unit low high
    if unit = 0 then .ok ([], ⟨offset + 2, rest⟩)
    else do
      let (units, cursor) ← unitsFrom (offset + 2) rest
      return (unit :: units, cursor)
  | rest => .error (.unexpectedEnd offset 2 rest.length)

/-- Takes code units up to a NUL, which is taken but not returned. -/
def takeUnits : Read (List UInt16) := fun cursor =>
  unitsFrom cursor.offset cursor.rest

/-- Takes a code unit, which has to be the expected one. -/
def expect (unit : UInt16) (fault : EntryFault) : Read Unit := fun cursor =>
  match take 2 cursor with
  | .error error => .error error
  | .ok (bytes, next) =>
    if LittleEndian.ofBytes bytes = unit.toNat then .ok ((), next)
    else .error (.malformedEntry cursor.offset fault)

/-- Takes a text and the NUL at its end. -/
def takeText (fault : EntryFault) : Read String := fun cursor =>
  match takeUnits cursor with
  | .error error => .error error
  | .ok (units, next) =>
    match Text.Utf16.decode? units with
    | some text => .ok (String.ofList text, next)
    | none => .error (.malformedEntry cursor.offset fault)

/-- A read that takes at least so many bytes from the front whenever it succeeds. -/
def Advances {α : Type} (least : Nat) (read : Read α) : Prop :=
  ∀ ⦃cursor next : Cursor⦄ ⦃result : α⦄, read cursor = .ok (result, next) →
    ∃ taken, cursor.rest = taken ++ next.rest ∧ next.offset = cursor.offset + taken.length ∧
      least ≤ taken.length

/-- The two parts of a split make up the list, and the first has the length asked for. -/
theorem splitFirst?_eq_some {α : Type} {count : Nat} {xs first others : List α}
    (split : splitFirst? count xs = some (first, others)) :
    xs = first ++ others ∧ first.length = count := by
  induction count generalizing xs first with
  | zero => simp_all [splitFirst?]
  | succ count ih =>
    cases xs with
    | nil => simp [splitFirst?] at split
    | cons x xs =>
      simp only [splitFirst?, Option.map_eq_some_iff, Prod.mk.injEq, Prod.exists] at split
      obtain ⟨front, back, found, rfl, rfl⟩ := split
      obtain ⟨rfl, rfl⟩ := ih found
      simp

/-- A result that takes nothing. -/
theorem Advances.pure {α : Type} (result : α) : Advances 0 (Pure.pure result : Read α) := by
  intro cursor next other success
  cases success
  exact ⟨[], by simp⟩

/-- A read that takes some bytes takes no fewer than none. -/
theorem Advances.weaken {α : Type} {least : Nat} {read : Read α} (some : Advances least read) :
    Advances 0 read := by
  intro cursor next result success
  obtain ⟨taken, before, offset, _⟩ := some success
  exact ⟨taken, before, offset, Nat.zero_le _⟩

/-- Reads in a row take at least the bytes of the first. -/
theorem Advances.bind {α β : Type} {least : Nat} {read : Read α} {continuation : α → Read β}
    (left : Advances least read) (right : ∀ result, Advances 0 (continuation result)) :
    Advances least (read >>= continuation) := by
  intro cursor next result success
  simp only [Bind.bind, StateT.bind, Except.bind] at success
  cases step : read cursor with
  | error error => simp [step] at success
  | ok middle =>
    obtain ⟨value, place⟩ := middle
    rw [step] at success
    obtain ⟨taken, before, offset, enough⟩ := left step
    obtain ⟨more, after, further, _⟩ := right value success
    simp only at before offset after further
    refine ⟨taken ++ more, by rw [before, after, List.append_assoc], ?_, ?_⟩ <;>
      rw [List.length_append] <;> omega

/-- Taking bytes takes as many as asked for. -/
theorem take_advances (count : Nat) : Advances count (take count) := by
  intro cursor next result success
  unfold take at success
  split at success
  · rename_i split
    cases success
    obtain ⟨whole, length⟩ := splitFirst?_eq_some split
    exact ⟨result, whole, by rw [length], by omega⟩
  · cases success

/-- A 32-bit number takes four bytes. -/
theorem takeNumber_advances : Advances 4 takeNumber :=
  (take_advances 4).bind fun _ => .pure _

/-- The code units of a text take at least their NUL. -/
theorem takeUnits_advances : Advances 2 takeUnits := by
  intro cursor next result success
  obtain ⟨offset, rest⟩ := cursor
  simp only [takeUnits] at success ⊢
  fun_induction unitsFrom offset rest generalizing result with
  | case1 => cases success; exact ⟨[_, _], rfl, rfl, Nat.le_refl _⟩
  | case2 offset low high rest unit nonzero =>
    rename_i ih
    simp only [Bind.bind, Except.bind] at success
    cases step : unitsFrom (offset + 2) rest with
    | error error => simp [step] at success
    | ok found =>
      obtain ⟨units, place⟩ := found
      rw [step] at success
      cases success
      obtain ⟨taken, before, further, _⟩ := ih step
      simp only at before further
      exact ⟨low :: high :: taken, by rw [before]; rfl, by simp only [List.length_cons]; omega,
        by simp⟩
  | case3 => cases success

/-- An expected code unit takes two bytes. -/
theorem expect_advances (unit : UInt16) (fault : EntryFault) : Advances 2 (expect unit fault) := by
  intro cursor next result success
  unfold expect at success
  split at success
  · cases success
  · rename_i step
    split at success
    · cases success; exact take_advances 2 step
    · cases success

/-- A text takes at least its NUL. -/
theorem takeText_advances (fault : EntryFault) : Advances 2 (takeText fault) := by
  intro cursor next result success
  unfold takeText at success
  split at success
  · cases success
  · rename_i step
    split at success
    · cases success; exact takeUnits_advances step
    · cases success

end GroupPolicy.PolicyFile
