import GroupPolicy.Proofs.PolicyFile.RoundTrip

/-!
# Policy files that go on

A read does not depend on what follows the bytes that it takes. If the file goes on with more bytes,
then it gives the same result or fails in the same way, unless it failed because the file ended.
`Continues` says so of one outcome, and `Steady` of a read. `Steady.bind` carries it from the fields
of an entry to the entry, and `readEntries_extend` and `readEntries_fault` to all that is left of a
file. A failure also names a place that is in the file (`Cursor.Locates`).
-/

namespace GroupPolicy

/-- The policy file ended within a field. -/
def PolicyError.EndsFile (error : PolicyError) : Prop :=
  ∃ offset needed remaining, error = .unexpectedEnd offset needed remaining

namespace PolicyFile

/-- The same place in a file that goes on with more bytes. -/
def Cursor.extend (cursor : Cursor) (more : List UInt8) : Cursor :=
  { cursor with rest := cursor.rest ++ more }

/-- The length of the file that a place is in. -/
def Cursor.fileLength (cursor : Cursor) : Nat :=
  cursor.offset + cursor.rest.length

/-- A failure names a place that is in the file and not before the cursor. A version is at no other
place than its own, so it needs no name. -/
inductive Cursor.Locates (cursor : Cursor) : PolicyError → Prop
  | ended {offset needed remaining : Nat} :
      cursor.offset ≤ offset → offset + remaining = cursor.fileLength → remaining < needed →
      Locates cursor (.unexpectedEnd offset needed remaining)
  | malformed {offset : Nat} {fault : EntryFault} :
      cursor.offset ≤ offset → offset + 2 ≤ cursor.fileLength →
      Locates cursor (.malformedEntry offset fault)
  | version {found : UInt32} : Locates cursor (.unsupportedVersion found)

variable {α β : Type} {cursor next : Cursor} {more taken : List UInt8} {error : PolicyError}
  {front : List PolicyEntry}

theorem Cursor.Takes.fileLength (way : cursor.Takes taken next) :
    next.fileLength = cursor.fileLength := by
  obtain ⟨whole, place⟩ := way
  unfold Cursor.fileLength
  rw [whole, place, List.length_append, Nat.add_assoc]

theorem Cursor.Takes.extend (way : cursor.Takes taken next) :
    (cursor.extend more).Takes taken (next.extend more) := by
  obtain ⟨whole, place⟩ := way
  refine ⟨?_, place⟩
  simp only [Cursor.extend, whole, List.append_assoc]

theorem Cursor.Locates.of_takes (way : cursor.Takes taken next) (located : next.Locates error) :
    cursor.Locates error := by
  have place := way.2
  have length := way.fileLength
  cases located with
  | ended after inside short => exact .ended (by omega) (by omega) short
  | malformed after inside => exact .malformed (by omega) (by omega)
  | version => exact .version

/-! ## Outcomes of reads -/

/-- What a read comes to in a file, beside what it comes to if the file goes on. -/
def Continues (cursor : Cursor) (more : List UInt8) :
    Except PolicyError (α × Cursor) → Except PolicyError (α × Cursor) → Prop
  | .ok (result, next), whole =>
    (∃ taken, cursor.Takes taken next) ∧ whole = .ok (result, next.extend more)
  | .error error, whole => cursor.Locates error ∧ (error.EndsFile ∨ whole = .error error)

theorem Continues.of_takes {outcome whole : Except PolicyError (α × Cursor)}
    (way : cursor.Takes taken next) (continued : Continues next more outcome whole) :
    Continues cursor more outcome whole := by
  cases outcome with
  | error error => exact ⟨.of_takes way continued.1, continued.2⟩
  | ok answer =>
    obtain ⟨⟨further, way'⟩, same⟩ := continued
    exact ⟨⟨taken ++ further, way.append way'⟩, same⟩

/-- What comes after a read may depend on its result and on the place after it. -/
theorem Continues.bind {first whole : Except PolicyError (α × Cursor)}
    {later : α × Cursor → Except PolicyError (β × Cursor)}
    (head : Continues cursor more first whole)
    (tail : ∀ value next, first = .ok (value, next) →
      Continues cursor more (later (value, next)) (later (value, next.extend more))) :
    Continues cursor more (first >>= later) (whole >>= later) := by
  cases first with
  | error error =>
    obtain ⟨located, ended | same⟩ := head
    · exact ⟨located, Or.inl ended⟩
    · subst same
      exact ⟨located, Or.inr rfl⟩
  | ok answer =>
    obtain ⟨value, next⟩ := answer
    obtain ⟨-, same⟩ := head
    subst same
    exact tail value next rfl

/-- A read that does not depend on what follows the bytes that it takes. -/
def Steady (read : Read α) : Prop :=
  ∀ cursor more, Continues cursor more (read cursor) (read (cursor.extend more))

theorem Steady.pure (result : α) : Steady (Pure.pure result : Read α) := fun _ _ =>
  ⟨⟨[], Cursor.takes_nil_iff.2 rfl⟩, rfl⟩

theorem Steady.bind {read : Read α} {continuation : α → Read β} (left : Steady read)
    (right : ∀ value, Steady (continuation value)) : Steady (read >>= continuation) := by
  intro cursor more
  have head := left cursor more
  refine Continues.bind head fun value next success => ?_
  rw [success] at head
  obtain ⟨⟨taken, way⟩, -⟩ := head
  exact .of_takes way (right value next more)

/-! ## Single fields -/

theorem splitFirst?_eq_none_iff {count : Nat} {xs : List α} :
    splitFirst? count xs = none ↔ xs.length < count := by
  induction count generalizing xs with
  | zero => simp [splitFirst?]
  | succ count ih =>
    cases xs with
    | nil => simp [splitFirst?]
    | cons x xs => simp [splitFirst?, ih]

theorem take_eq_error_iff {count : Nat} :
    take count cursor = .error error ↔ cursor.rest.length < count ∧
      error = .unexpectedEnd cursor.offset count cursor.rest.length := by
  rw [take, ← splitFirst?_eq_none_iff]
  cases splitFirst? count cursor.rest with
  | none => simp [eq_comm]
  | some parts => simp

theorem take_steady (count : Nat) : Steady (take count) := by
  intro cursor more
  cases step : take count cursor with
  | error error =>
    obtain ⟨short, rfl⟩ := take_eq_error_iff.1 step
    exact ⟨.ended (Nat.le_refl _) rfl short, Or.inl ⟨_, _, _, rfl⟩⟩
  | ok answer =>
    obtain ⟨bytes, next⟩ := answer
    obtain ⟨length, way⟩ := take_eq_ok_iff.1 step
    exact ⟨⟨bytes, way⟩, take_eq_ok_iff.2 ⟨length, way.extend⟩⟩

theorem takeNumber_steady : Steady takeNumber :=
  (take_steady 4).bind fun _ => .pure _

theorem unitsFrom_continues (more : List UInt8) : ∀ (offset : Nat) (rest : List UInt8),
    Continues ⟨offset, rest⟩ more (unitsFrom offset rest) (unitsFrom offset (rest ++ more))
  | offset, [] => ⟨.ended (Nat.le_refl _) rfl (by simp), Or.inl ⟨_, _, _, rfl⟩⟩
  | offset, [_] => ⟨.ended (Nat.le_refl _) rfl (by simp), Or.inl ⟨_, _, _, rfl⟩⟩
  | offset, low :: high :: rest => by
    have way : Cursor.Takes ⟨offset, low :: high :: rest⟩ [low, high] ⟨offset + 2, rest⟩ :=
      ⟨rfl, rfl⟩
    rw [List.cons_append, List.cons_append, unitsFrom, unitsFrom]
    split
    · exact ⟨⟨_, way⟩, rfl⟩
    · have ih := (unitsFrom_continues more (offset + 2) rest).of_takes way
      refine ih.bind fun units next success => ?_
      rw [success] at ih
      exact ⟨ih.1, rfl⟩

theorem takeUnits_steady : Steady takeUnits := fun cursor more =>
  unitsFrom_continues more cursor.offset cursor.rest

theorem expect_steady (unit : UInt16) (fault : EntryFault) : Steady (expect unit fault) := by
  intro cursor more
  have opened (place : Cursor) : expect unit fault place =
      take 2 place >>= fun (bytes, next) =>
        if LittleEndian.ofBytes bytes = unit.toNat then .ok ((), next)
        else .error (.malformedEntry place.offset fault) := by
    rw [expect]
    cases take 2 place <;> rfl
  rw [opened, opened]
  refine (take_steady 2 cursor more).bind fun bytes next success => ?_
  obtain ⟨length, way⟩ := take_eq_ok_iff.1 success
  dsimp only
  split
  · exact ⟨⟨bytes, way⟩, rfl⟩
  · have inside := way.fileLength
    have place := way.2
    unfold Cursor.fileLength at inside
    refine ⟨.malformed (Nat.le_refl _) ?_, Or.inr rfl⟩
    unfold Cursor.fileLength
    omega

/-- A text is read once all of its units are taken. -/
theorem takeText_eq_bind (fault : EntryFault) (cursor : Cursor) :
    takeText fault cursor = takeUnits cursor >>= fun taken =>
      (Text.Utf16.decode? taken.1).elim (.error (.malformedEntry cursor.offset fault))
        fun text => .ok (String.ofList text, taken.2) := by
  rw [takeText]
  rcases takeUnits cursor with error | ⟨units, next⟩
  · rfl
  · show _ = (Text.Utf16.decode? units).elim _ _
    dsimp only
    cases Text.Utf16.decode? units <;> rfl

theorem takeText_steady (fault : EntryFault) : Steady (takeText fault) := by
  intro cursor more
  rw [takeText_eq_bind, takeText_eq_bind]
  refine (takeUnits_steady cursor more).bind fun units next success => ?_
  obtain ⟨-, way⟩ := takeUnits_eq_ok_iff.1 success
  dsimp only
  cases Text.Utf16.decode? units with
  | some text => exact ⟨⟨_, way⟩, rfl⟩
  | none =>
    -- The NUL at the end was taken before the units were found not to be a text.
    have enough := Cursor.two_le_of_takes_terminated way
    refine ⟨.malformed (Nat.le_refl _) ?_, Or.inr rfl⟩
    unfold Cursor.fileLength
    omega

theorem readEntry_steady : Steady readEntry := by
  unfold readEntry
  refine (expect_steady _ _).bind fun _ => (takeText_steady _).bind fun _ => ?_
  refine (expect_steady _ _).bind fun _ => (takeText_steady _).bind fun _ => ?_
  refine (expect_steady _ _).bind fun _ => takeNumber_steady.bind fun _ => ?_
  refine (expect_steady _ _).bind fun _ => takeNumber_steady.bind fun _ => ?_
  refine (expect_steady _ _).bind fun _ => (take_steady _).bind fun _ => ?_
  exact (expect_steady _ _).bind fun _ => .pure _

theorem readVersion_steady : Steady readVersion := by
  unfold readVersion
  refine takeNumber_steady.bind fun found => ?_
  split
  · exact .pure ()
  · exact fun cursor more => ⟨.version, Or.inr rfl⟩

/-! ## Entries -/

theorem Cursor.rest_extend_ne_nil (more_left : cursor.rest ≠ []) :
    (cursor.extend more).rest ≠ [] :=
  List.append_ne_nil_of_left_ne_nil more_left more

/-- What is read up to the end of a file is read first if the file goes on. -/
theorem readEntries_extend (read : readEntries cursor = .ok front) :
    readEntries (cursor.extend more) =
      (readEntries ⟨cursor.fileLength, more⟩).map (front ++ ·) := by
  induction front generalizing cursor with
  | nil =>
    have ended := readEntries_eq_nil_iff.1 read
    have here : cursor.extend more = ⟨cursor.fileLength, more⟩ := by
      simp [Cursor.extend, Cursor.fileLength, ended]
    rw [here]
    cases readEntries ⟨cursor.fileLength, more⟩ <;> rfl
  | cons entry front ih =>
    obtain ⟨next, step, later⟩ := readEntries_eq_cons_iff.1 read
    have head := readEntry_steady cursor more
    rw [step] at head
    obtain ⟨⟨taken, way⟩, step'⟩ := head
    have shorter := readEntry_shortens step
    have more_left : cursor.rest ≠ [] := List.ne_nil_of_length_pos (by omega)
    rw [readEntries_of_rest_ne_nil (Cursor.rest_extend_ne_nil more_left), step', ← way.fileLength]
    show (readEntries (next.extend more) >>= fun entries => .ok (entry :: entries)) = _
    rw [ih later]
    cases readEntries ⟨next.fileLength, more⟩ <;> rfl

/-- A failure to read entries names a place among them. It stays if the file goes on, unless it was
that the file ended. -/
theorem readEntries_fault (failed : readEntries cursor = .error error) :
    cursor.Locates error ∧
      (error.EndsFile ∨ ∀ more, readEntries (cursor.extend more) = .error error) := by
  fun_induction readEntries cursor with
  | case1 cursor empty => cases failed
  | case2 cursor nonempty fault step =>
    obtain rfl := Except.error.inj failed
    have steady (more : List UInt8) : cursor.Locates fault ∧
        (fault.EndsFile ∨ readEntry (cursor.extend more) = .error fault) := by
      have continued := readEntry_steady cursor more
      rwa [step] at continued
    refine ⟨(steady []).1, or_iff_not_imp_left.2 fun unended more => ?_⟩
    have step' := (steady more).2.resolve_left unended
    rw [List.isEmpty_iff] at nonempty
    rw [readEntries_of_rest_ne_nil (Cursor.rest_extend_ne_nil nonempty), step']
    rfl
  | case3 cursor nonempty entry next step shorter ih =>
    have steady (more : List UInt8) : (∃ taken, cursor.Takes taken next) ∧
        readEntry (cursor.extend more) = .ok (entry, next.extend more) := by
      have continued := readEntry_steady cursor more
      rwa [step] at continued
    have later : readEntries next = .error error := by
      obtain same | ⟨_, _, done⟩ := Except.bind_eq_error_iff.1 failed
      · exact same
      · cases done
    obtain ⟨taken, way⟩ := (steady []).1
    obtain ⟨located, stays⟩ := ih later
    refine ⟨.of_takes way located, stays.imp_right fun stays more => ?_⟩
    rw [List.isEmpty_iff] at nonempty
    rw [readEntries_of_rest_ne_nil (Cursor.rest_extend_ne_nil nonempty), (steady more).2]
    show (readEntries (next.extend more) >>= fun entries => .ok (entry :: entries)) = _
    rw [stays more]
    rfl

/-! ## Files -/

theorem decode_signed (rest : List UInt8) :
    decode (signature ++ rest) = readVersion ⟨4, rest⟩ >>= fun found => readEntries found.2 := by
  have signed : signature.isPrefixOf (signature ++ rest) = true :=
    List.isPrefixOf_iff_prefix.2 (List.prefix_append _ _)
  rw [decode, if_neg (by simp [signature]), if_pos signed, List.drop_left]
  rfl

theorem decode_signed_extend (rest more : List UInt8) :
    decode (signature ++ (rest ++ more)) =
      readVersion (Cursor.extend ⟨4, rest⟩ more) >>= fun found => readEntries found.2 :=
  decode_signed (rest ++ more)

theorem decode_unsigned {bytes : List UInt8} (nonempty : bytes ≠ [])
    (unsigned : ¬ signature <+: bytes) :
    decode bytes = .error (.badSignature (firstFour bytes)) := by
  rw [decode, if_neg (by rwa [List.isEmpty_iff]), if_neg (by rwa [List.isPrefixOf_iff_prefix])]

/-- A version is not read if the file ends within it or if it is another one. -/
theorem readVersion_fault (failed : readVersion cursor = .error error) :
    error.EndsFile ∨ ∃ found, error = .unsupportedVersion found := by
  cases step : take 4 cursor with
  | error fault =>
    have opened : readVersion cursor = .error fault := by
      simp only [readVersion, takeNumber, bind, StateT.bind, step, Except.bind]
    obtain rfl := Except.error.inj (opened.symm.trans failed)
    exact Or.inl ⟨_, _, _, (take_eq_error_iff.1 step).2⟩
  | ok answer =>
    obtain ⟨bytes, next⟩ := answer
    have opened : readVersion cursor =
        (if UInt32.ofNat (LittleEndian.ofBytes bytes) = version then pure ()
          else throw (.unsupportedVersion (UInt32.ofNat (LittleEndian.ofBytes bytes))) :
          Read Unit) next := by
      simp only [readVersion, takeNumber, bind, StateT.bind, step, Except.bind]
      rfl
    rw [opened] at failed
    split at failed
    · cases failed
    · exact Or.inr ⟨_, (Except.error.inj failed).symm⟩

/-- A failure to read what comes after the signature names a place that is not before the version,
and only an entry is said to be malformed. -/
theorem decode_signed_fault {rest : List UInt8}
    (failed : decode (signature ++ rest) = .error error) :
    Cursor.Locates ⟨4, rest⟩ error ∧
      (∀ offset fault, error = .malformedEntry offset fault → 8 ≤ offset) ∧
      (error.EndsFile ∨ ∀ more, decode (signature ++ (rest ++ more)) = .error error) := by
  have opened (more : List UInt8) := readVersion_steady ⟨4, rest⟩ more
  rw [decode_signed] at failed
  cases versioned : readVersion ⟨4, rest⟩ with
  | error fault =>
    rw [versioned] at failed opened
    obtain rfl := Except.error.inj failed
    refine ⟨(opened []).1, fun offset fault same => ?_, ?_⟩
    · rcases readVersion_fault versioned with ⟨_, _, _, ended⟩ | ⟨_, other⟩
      · cases same.symm.trans ended
      · cases same.symm.trans other
    · refine or_iff_not_imp_left.2 fun unended more => ?_
      have again := (opened more).2.resolve_left unended
      rw [decode_signed_extend, again]
      rfl
  | ok answer =>
    obtain ⟨_, cursor⟩ := answer
    rw [versioned] at failed opened
    have way := readVersion_eq_ok_iff.1 versioned
    have read : readEntries cursor = .error error := failed
    obtain ⟨located, stays⟩ := readEntries_fault read
    refine ⟨.of_takes way located, fun offset fault same => ?_,
      stays.imp_right fun stays more => ?_⟩
    · subst same
      cases located with
      | malformed after inside =>
        have place : cursor.offset = 8 := way.2
        omega
    · rw [decode_signed_extend, (opened more).2]
      exact stays more

end PolicyFile

end GroupPolicy
