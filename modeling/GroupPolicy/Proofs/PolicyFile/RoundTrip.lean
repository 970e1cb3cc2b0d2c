import GroupPolicy.Proofs.PolicyFile.Reads

/-!
# Policy files and their entries

A file that is not empty is read as given entries if and only if it is the file that is written for
them and their names hold no NUL (`decode_eq_ok_iff`, `encode_eq_ok_iff`). So reading and writing
undo each other, up to the empty file and to names with a NUL.
-/

namespace GroupPolicy.PolicyFile

variable {bytes : List UInt8} {entries : List PolicyEntry} {cursor next : Cursor}

/-! ## Writing -/

theorem encodeEntry_eq_ok_iff {entry : PolicyEntry} {part : List UInt8} :
    encodeEntry entry = .ok part ↔ entry.data.length < UInt32.size ∧ entryBytes entry = part := by
  rw [encodeEntry]
  by_cases fits : entry.data.length < UInt32.size
  · rw [if_pos fits, Except.ok.injEq]
    exact ⟨fun same => ⟨fits, same⟩, fun same => same.2⟩
  · rw [if_neg fits]
    exact ⟨nofun, fun same => absurd same.1 fits⟩

/-- The writer fails only for data that is longer than the size field can say. -/
theorem encode_eq_ok_iff :
    encode entries = .ok bytes ↔
      (∀ entry ∈ entries, entry.data.length < UInt32.size) ∧
        bytes = header ++ entries.flatMap entryBytes := by
  have parts_iff (parts : List (List UInt8)) : entries.mapM encodeEntry = .ok parts ↔
      (∀ entry ∈ entries, entry.data.length < UInt32.size) ∧ entries.map entryBytes = parts := by
    simp only [Except.mapM_eq_ok_iff, encodeEntry_eq_ok_iff, List.forall₂_and_left]
    rw [← List.forall₂_map_left_iff, List.forall₂_eq_eq_eq]
  rw [encode, Except.bind_eq_ok_iff, List.flatMap_def]
  refine ⟨fun ⟨parts, written, whole⟩ => ?_, fun ⟨fits, whole⟩ => ?_⟩
  · obtain ⟨fits, rfl⟩ := (parts_iff parts).1 written
    cases whole
    exact ⟨fits, rfl⟩
  · exact ⟨_, (parts_iff _).2 ⟨fits, rfl⟩, by rw [whole]; rfl⟩

/-- If the writer fails, then it names an entry whose data is too long. -/
theorem encode_eq_error {error : PolicyError} (failed : encode entries = .error error) :
    ∃ entry ∈ entries, UInt32.size ≤ entry.data.length ∧
      error = .valueTooLarge entry.key entry.name entry.data.length := by
  rcases Except.mapM_ok_or_first_error encodeEntry entries with
    ⟨parts, written⟩ | ⟨front, entry, later, parts, reason, rfl, before, refused⟩
  · rw [encode, written] at failed
    cases failed
  · rw [encode, Except.mapM_append_cons_error before refused] at failed
    cases failed
    refine ⟨entry, List.mem_append_right front List.mem_cons_self, ?_⟩
    rw [encodeEntry] at refused
    split at refused
    · cases refused
    · cases refused
      exact ⟨Nat.not_lt.1 ‹_›, rfl⟩

/-- An entry alone is refused if its data is too long. -/
theorem encode_singleton_of_large {entry : PolicyEntry} (large : UInt32.size ≤ entry.data.length) :
    encode [entry] = .error (.valueTooLarge entry.key entry.name entry.data.length) := by
  cases written : encode [entry] with
  | ok bytes =>
    exact absurd large (Nat.not_le.2 ((encode_eq_ok_iff.1 written).1 entry List.mem_cons_self))
  | error error =>
    obtain ⟨refused, among, -, rfl⟩ := encode_eq_error written
    cases List.mem_singleton.1 among
    rfl

theorem header_append_ne_nil (rest : List UInt8) : header ++ rest ≠ [] := nofun

/-! ## Reading -/

theorem readVersion_eq_ok_iff {result : Unit} :
    readVersion cursor = .ok (result, next) ↔ cursor.Takes (encodeNumber version) next := by
  simp only [readVersion, bind_eq_ok_iff, takeNumber_eq_ok_iff]
  refine ⟨fun ⟨found, middle, way, known⟩ => ?_, fun way => ⟨version, next, way, rfl⟩⟩
  by_cases same : found = version
  · subst same
    cases known
    exact way
  · rw [if_neg same] at known
    cases known

theorem decode_eq_ok_iff (nonempty : bytes ≠ []) :
    decode bytes = .ok entries ↔
      (∀ entry ∈ entries, entry.NulFree ∧ entry.data.length < UInt32.size) ∧
        bytes = header ++ entries.flatMap entryBytes := by
  rw [decode, if_neg (by rwa [List.isEmpty_iff])]
  constructor
  · intro success
    split at success
    · rename_i signed
      obtain ⟨rest, rfl⟩ := List.isPrefixOf_iff_prefix.1 signed
      obtain ⟨⟨result, cursor⟩, versioned, read⟩ := Except.bind_eq_ok_iff.1 success
      have way := readVersion_eq_ok_iff.1 versioned
      obtain ⟨valid, whole⟩ := readEntries_eq_ok_iff.1 read
      have atVersion : rest = encodeNumber version ++ cursor.rest := by
        have same := way.1
        rwa [List.drop_left] at same
      exact ⟨valid, by rw [atVersion, whole, header, List.append_assoc]⟩
    · cases success
  · intro ⟨valid, whole⟩
    have signed : signature.isPrefixOf bytes = true := by
      rw [List.isPrefixOf_iff_prefix, whole, header, List.append_assoc]
      exact List.prefix_append _ _
    rw [if_pos signed, Except.bind_eq_ok_iff]
    let cursor : Cursor :=
      ⟨signature.length + (encodeNumber version).length, entries.flatMap entryBytes⟩
    have way : Cursor.Takes ⟨signature.length, bytes.drop signature.length⟩
        (encodeNumber version) cursor := by
      refine ⟨?_, rfl⟩
      rw [whole, header, List.append_assoc, List.drop_left]
    exact ⟨((), cursor), readVersion_eq_ok_iff.2 way, readEntries_eq_ok_iff.2 ⟨valid, rfl⟩⟩

/-! ## Both -/

theorem encode_of_decode (nonempty : bytes ≠ []) (read : decode bytes = .ok entries) :
    (∀ entry ∈ entries, entry.NulFree) ∧ encode entries = .ok bytes := by
  obtain ⟨valid, whole⟩ := (decode_eq_ok_iff nonempty).1 read
  exact ⟨fun entry member => (valid entry member).1,
    encode_eq_ok_iff.2 ⟨fun entry member => (valid entry member).2, whole⟩⟩

/-- Data that was read is short enough for the size field. -/
theorem short_of_decode (read : decode bytes = .ok entries) :
    ∀ entry ∈ entries, entry.data.length < UInt32.size := by
  by_cases empty : bytes = []
  · subst empty
    cases read
    exact fun _ => nofun
  · exact fun entry member => (((decode_eq_ok_iff empty).1 read).1 entry member).2

theorem decode_of_encode (nulFree : ∀ entry ∈ entries, entry.NulFree)
    (written : encode entries = .ok bytes) : decode bytes = .ok entries := by
  obtain ⟨fits, rfl⟩ := encode_eq_ok_iff.1 written
  exact (decode_eq_ok_iff (header_append_ne_nil _)).2
    ⟨fun entry member => ⟨nulFree entry member, fits entry member⟩, rfl⟩

/-- Written entries are read back if and only if none of their names holds a NUL, whatever their
kinds and data are. -/
theorem decode_encode_iff_nulFree
    (fits : ∀ entry ∈ entries, entry.data.length < UInt32.size) :
    ∃ bytes, encode entries = .ok bytes ∧
      (decode bytes = .ok entries ↔ ∀ entry ∈ entries, entry.NulFree) := by
  have written := encode_eq_ok_iff.2 ⟨fits, rfl⟩
  exact ⟨_, written, fun read => (encode_of_decode (header_append_ne_nil _) read).1,
    fun nulFree => decode_of_encode nulFree written⟩

theorem decode_encode_iff_nulFree_delimiters :
    let entries := [PolicyEntry.mk "K😀;" "];\n" 99 [0x5D, 0, 0x3B, 0, 0, 0]]
    (∀ entry ∈ entries, entry.data.length < UInt32.size) ∧
    ∃ bytes, encode entries = .ok bytes ∧
      (decode bytes = .ok entries ↔ ∀ entry ∈ entries, entry.NulFree) :=
  ⟨by decide, decode_encode_iff_nulFree (by decide)⟩

/-- A file is read as entries if and only if it is empty or written for entries without NULs in
their names; if it is not empty, then it is the file that is written for those entries. -/
theorem decode_accepts_exactly :
    (∀ bytes entries, bytes ≠ [] → decode bytes = .ok entries →
      (∀ entry ∈ entries, entry.NulFree) ∧ encode entries = .ok bytes) ∧
    (∀ bytes, (∃ entries, decode bytes = .ok entries) ↔
      bytes = [] ∨
        ∃ entries, (∀ entry ∈ entries, PolicyEntry.NulFree entry) ∧ encode entries = .ok bytes) ∧
    (∀ left right entries, left ≠ [] → right ≠ [] →
      decode left = .ok entries → decode right = .ok entries → left = right) := by
  refine ⟨fun bytes entries => encode_of_decode, fun bytes => ?_, ?_⟩
  · refine ⟨fun ⟨entries, read⟩ => ?_, fun accepted => ?_⟩
    · by_cases empty : bytes = []
      · exact Or.inl empty
      · exact Or.inr ⟨entries, encode_of_decode empty read⟩
    · rcases accepted with rfl | ⟨entries, nulFree, written⟩
      · exact ⟨[], rfl⟩
      · exact ⟨entries, decode_of_encode nulFree written⟩
  · intro left right entries left_ne right_ne read read'
    have written := (encode_of_decode left_ne read).2
    have written' := (encode_of_decode right_ne read').2
    exact Except.ok.inj (written.symm.trans written')

theorem decode_accepts_exactly_odd_names :
    let bytes := header ++ entryBytes ⟨"K😀;", "];\n", 99, [0x5D, 0, 0]⟩
    let entries := [PolicyEntry.mk "K😀;" "];\n" 99 [0x5D, 0, 0]]
    bytes ≠ [] ∧ decode bytes = .ok entries ∧
      (∀ entry ∈ entries, entry.NulFree) ∧ encode entries = .ok bytes := by
  intro bytes entries
  have nonempty : bytes ≠ [] := nofun
  have nulFree : ∀ entry ∈ entries, entry.NulFree := by
    rw [List.forall_mem_singleton]
    exact ⟨by decide, by decide⟩
  have read : decode bytes = .ok entries :=
    decode_of_encode nulFree (encode_eq_ok_iff.2 ⟨by decide, rfl⟩)
  exact ⟨nonempty, read, decode_accepts_exactly.1 bytes entries nonempty read⟩

/-- The writer also accepts names with a NUL, and the reader takes the NUL for the name's end. -/
theorem not_decode_accepts_every_written_file :
    ¬ ((∃ entries, decode (header ++ entryBytes ⟨"a\x00b", "", 0, []⟩) = .ok entries) ↔
      header ++ entryBytes ⟨"a\x00b", "", 0, []⟩ = [] ∨
        ∃ entries, encode entries = .ok (header ++ entryBytes ⟨"a\x00b", "", 0, []⟩)) := by
  intro accepts
  have written : encode [⟨"a\x00b", "", 0, []⟩] =
      .ok (header ++ entryBytes ⟨"a\x00b", "", 0, []⟩) :=
    encode_eq_ok_iff.2 ⟨by decide, rfl⟩
  obtain ⟨entries, read⟩ := accepts.2 (Or.inr ⟨_, written⟩)
  have opened : decode (header ++ entryBytes ⟨"a\x00b", "", 0, []⟩) =
      readEntries ⟨8, entryBytes ⟨"a\x00b", "", 0, []⟩⟩ := rfl
  have failed : readEntry ⟨8, entryBytes ⟨"a\x00b", "", 0, []⟩⟩ =
      .error (.malformedEntry 14 .afterKey) := rfl
  rw [opened, readEntries_of_rest_ne_nil (by decide), failed] at read
  cases read

end GroupPolicy.PolicyFile
