import GroupPolicy.Proofs.PolicyFile.Extension

/-!
# What is said of faulty policy files

A file that was written and then cut short is never misread: its first entries are read, or it is
said to end where it does (`truncated_file_not_misread`). Whatever is wrong with a file, it is
wrong at the place that is named, and more bytes can cure nothing but an early end
(`decode_faults_located`).
-/

namespace GroupPolicy.PolicyFile

variable {more : List UInt8} {error : PolicyError} {entries : List PolicyEntry}

/-! ## Files that are cut short -/

/-- A file that is cut short after its signature is read as the first entries of the whole file, or
it ends within a field. -/
theorem decode_signed_cut {rest more : List UInt8}
    (whole : decode (signature ++ (rest ++ more)) = .ok entries) :
    (∃ read, decode (signature ++ rest) = .ok read ∧ read <+: entries) ∨
      ∃ offset needed remaining,
        decode (signature ++ rest) = .error (.unexpectedEnd offset needed remaining) ∧
        offset + remaining = 4 + rest.length ∧ remaining < needed := by
  cases cut : decode (signature ++ rest) with
  | error error =>
    obtain ⟨located, -, ended | stays⟩ := decode_signed_fault cut
    · obtain ⟨offset, needed, remaining, rfl⟩ := ended
      cases located with
      | ended after inside short => exact Or.inr ⟨_, _, _, rfl, inside, short⟩
    · cases (stays more).symm.trans whole
  | ok read =>
    refine Or.inl ⟨read, rfl, ?_⟩
    rw [decode_signed, Except.bind_eq_ok_iff] at cut
    obtain ⟨⟨_, cursor⟩, versioned, found⟩ := cut
    have opened := readVersion_steady ⟨4, rest⟩ more
    rw [versioned] at opened
    have again : decode (signature ++ (rest ++ more)) = readEntries (cursor.extend more) := by
      rw [decode_signed_extend, opened.2]
      rfl
    rw [again, readEntries_extend found, Except.map_eq_ok_iff] at whole
    obtain ⟨others, -, rfl⟩ := whole
    exact List.prefix_append read others

section Truncation

variable {bytes : List UInt8} {n : Nat}

theorem decode_take_unsigned (written : encode entries = .ok bytes) (positive : 1 ≤ n)
    (short : n ≤ 3) : decode (bytes.take n) =
      .error (.badSignature (signature.take n ++ List.replicate (4 - n) 0)) := by
  obtain ⟨-, rfl⟩ := encode_eq_ok_iff.1 written
  obtain rfl | rfl | rfl : n = 1 ∨ n = 2 ∨ n = 3 := by omega
  · rfl
  · rfl
  · rfl

theorem decode_take_signed (nulFree : ∀ entry ∈ entries, entry.NulFree)
    (written : encode entries = .ok bytes) (cut : n ≤ bytes.length) (signed : 4 ≤ n) :
    (∃ read, decode (bytes.take n) = .ok read ∧ read <+: entries) ∨
      ∃ offset needed remaining,
        decode (bytes.take n) = .error (.unexpectedEnd offset needed remaining) ∧
        offset + remaining = n ∧ remaining < needed := by
  have whole := decode_of_encode nulFree written
  obtain ⟨-, same⟩ := encode_eq_ok_iff.1 written
  obtain ⟨rest, rfl⟩ : ∃ rest, bytes = signature ++ rest :=
    ⟨_, same.trans (List.append_assoc _ _ _)⟩
  have front : (signature ++ rest).take n = signature ++ rest.take (n - 4) := by
    rw [List.take_append, List.take_of_length_le signed]
    rfl
  have length : 4 + (rest.take (n - 4)).length = n := by
    have all : (signature ++ rest).length = 4 + rest.length := List.length_append
    rw [List.length_take]
    omega
  rw [← List.take_append_drop (n - 4) rest] at whole
  have either := decode_signed_cut whole
  rwa [← front, length] at either

/-- The first bytes of a file, up to the end of an entry, are the file of the entries up to it. -/
theorem encode_take (written : encode entries = .ok bytes) {k : Nat}
    (boundary : n = 8 + ((entries.take k).flatMap entryBytes).length) :
    encode (entries.take k) = .ok (bytes.take n) := by
  obtain ⟨fits, rfl⟩ := encode_eq_ok_iff.1 written
  have parts : entries.flatMap entryBytes =
      (entries.take k).flatMap entryBytes ++ (entries.drop k).flatMap entryBytes := by
    rw [← List.flatMap_append, List.take_append_drop]
  have length : n = (header ++ (entries.take k).flatMap entryBytes).length := by
    rw [boundary, List.length_append]
    rfl
  rw [length, parts, ← List.append_assoc, List.take_left]
  exact encode_eq_ok_iff.2 ⟨fun entry member => fits entry (List.mem_of_mem_take member), rfl⟩

/-- What was read has all of the bytes, so they end where its last entry does. -/
theorem boundary_of_decode_take {read : List PolicyEntry} (cut : n ≤ bytes.length)
    (signed : 4 ≤ n) (success : decode (bytes.take n) = .ok read) (first : read <+: entries) :
    n = 8 + ((entries.take read.length).flatMap entryBytes).length := by
  have length : (bytes.take n).length = n := List.length_take_of_le cut
  have nonempty : bytes.take n ≠ [] := List.ne_nil_of_length_pos (by omega)
  obtain ⟨-, own⟩ := encode_eq_ok_iff.1 (encode_of_decode nonempty success).2
  rw [own, List.length_append] at length
  rw [← List.prefix_iff_eq_take.1 first]
  exact length.symm

/-- The first bytes of a file that was written are never misread. No bytes are no entries, and less
than the signature is no signature. From there on the first entries are read if the file was cut at
the end of one, and otherwise the file is said to end where it does, within a field. -/
theorem truncated_file_not_misread (nulFree : ∀ entry ∈ entries, entry.NulFree)
    (written : encode entries = .ok bytes) (cut : n < bytes.length) :
    (n = 0 → decode (bytes.take n) = .ok []) ∧
    (1 ≤ n → n ≤ 3 → decode (bytes.take n) =
      .error (.badSignature (signature.take n ++ List.replicate (4 - n) 0))) ∧
    (∀ k, n = 8 + ((entries.take k).flatMap entryBytes).length →
      decode (bytes.take n) = .ok (entries.take k)) ∧
    (4 ≤ n → (∀ k, n ≠ 8 + ((entries.take k).flatMap entryBytes).length) →
      ∃ offset needed remaining,
        decode (bytes.take n) = .error (.unexpectedEnd offset needed remaining) ∧
        offset + remaining = n ∧ remaining < needed) ∧
    (∀ read, decode (bytes.take n) = .ok read → read <+: entries) ∧
    ∀ offset fault, decode (bytes.take n) ≠ .error (.malformedEntry offset fault) := by
  have inside := Nat.le_of_lt cut
  have outcome : (∃ read, decode (bytes.take n) = .ok read ∧ read <+: entries) ∨
      ∃ error, decode (bytes.take n) = .error error ∧
        ∀ offset fault, error ≠ .malformedEntry offset fault := by
    obtain rfl | positive : n = 0 ∨ 1 ≤ n := by omega
    · exact Or.inl ⟨[], rfl, List.nil_prefix⟩
    · obtain short | signed : n ≤ 3 ∨ 4 ≤ n := by omega
      · exact Or.inr ⟨_, decode_take_unsigned written positive short, nofun⟩
      · exact (decode_take_signed nulFree written inside signed).imp_right
          fun ⟨_, _, _, failed, _⟩ => ⟨_, failed, nofun⟩
  refine ⟨fun zero => ?_, decode_take_unsigned written, fun k boundary => ?_,
    fun signed between => ?_, fun read success => ?_, fun offset fault failed => ?_⟩
  · subst zero
    rfl
  · exact decode_of_encode (fun entry member => nulFree entry (List.mem_of_mem_take member))
      (encode_take written boundary)
  · refine (decode_take_signed nulFree written inside signed).resolve_left ?_
    exact fun ⟨read, success, first⟩ =>
      between read.length (boundary_of_decode_take inside signed success first)
  · obtain ⟨found, success', first⟩ | ⟨error, failed, -⟩ := outcome
    · cases success.symm.trans success'
      exact first
    · cases success.symm.trans failed
  · obtain ⟨found, success, -⟩ | ⟨error, failed', other⟩ := outcome
    · cases failed.symm.trans success
    · cases failed.symm.trans failed'
      exact other offset fault rfl

theorem truncated_file_not_misread_within_pair :
    let entries := [PolicyEntry.mk "K😀;" "];\n" 99 [0x5D, 0, 0x3B, 0], ⟨"J", "", 4, [1]⟩]
    ∃ bytes, (∀ entry ∈ entries, entry.NulFree) ∧ encode entries = .ok bytes ∧
      15 < bytes.length ∧ 50 < bytes.length ∧
      (∃ offset needed remaining,
        decode (bytes.take 15) = .error (.unexpectedEnd offset needed remaining) ∧
        offset + remaining = 15 ∧ remaining < needed) ∧
      decode (bytes.take 50) = .ok [⟨"K😀;", "];\n", 99, [0x5D, 0, 0x3B, 0]⟩] := by
  intro entries
  have nulFree : ∀ entry ∈ entries, entry.NulFree := by
    simp only [entries, List.forall_mem_cons, PolicyEntry.NulFree]
    decide
  have written := encode_eq_ok_iff.2 ⟨(by decide : ∀ entry ∈ entries,
    entry.data.length < UInt32.size), rfl⟩
  have between (k : Nat) : 15 ≠ 8 + ((entries.take k).flatMap entryBytes).length := by
    cases k with
    | zero => decide
    | succ k =>
      have first : (entryBytes ⟨"K😀;", "];\n", 99, [0x5D, 0, 0x3B, 0]⟩).length = 42 := by rfl
      simp only [entries, List.take_succ_cons, List.flatMap_cons, List.length_append, first]
      omega
  have inPair : 15 < (header ++ entries.flatMap entryBytes).length := by decide
  have afterFirst : 50 < (header ++ entries.flatMap entryBytes).length := by decide
  obtain ⟨-, -, -, within, -⟩ := truncated_file_not_misread nulFree written inPair
  obtain ⟨-, -, complete, -⟩ := truncated_file_not_misread nulFree written afterFirst
  exact ⟨_, nulFree, written, inPair, afterFirst, within (by decide) between,
    complete 1 (by rfl)⟩

end Truncation

/-! ## Files that go on -/

theorem firstFour_append {bytes : List UInt8} (long : 4 ≤ bytes.length) (more : List UInt8) :
    firstFour (bytes ++ more) = firstFour bytes := by
  rw [firstFour, firstFour, List.append_assoc, List.take_append_of_le_length long,
    List.take_append_of_le_length long]

/-- What is said of a faulty file of four bytes or more is true of it: the file is said to end where
it does, by a field that does not fit, and an entry is said to be malformed at a place within the
entries. Only a file that ended too early can be cured by more bytes. -/
theorem decode_faults_located {bytes : List UInt8} (long : 4 ≤ bytes.length)
    (failed : decode bytes = .error error) :
    (∀ offset needed remaining, error = .unexpectedEnd offset needed remaining →
      4 ≤ offset ∧ offset + remaining = bytes.length ∧ remaining < needed) ∧
    (∀ offset fault, error = .malformedEntry offset fault →
      8 ≤ offset ∧ offset + 2 ≤ bytes.length) ∧
    ((∀ offset needed remaining, error ≠ .unexpectedEnd offset needed remaining) →
      ∀ more, decode (bytes ++ more) = .error error) := by
  rcases Classical.em (signature <+: bytes) with ⟨rest, rfl⟩ | unsigned
  · have length : (signature ++ rest).length = Cursor.fileLength ⟨4, rest⟩ := List.length_append
    rw [length]
    obtain ⟨located, amongEntries, stays⟩ := decode_signed_fault failed
    refine ⟨fun offset needed remaining same => ?_, fun offset fault same => ?_,
      fun unended more => ?_⟩
    · subst same
      cases located with
      | ended after inside few => exact ⟨after, inside, few⟩
    · subst same
      cases located with
      | malformed after inside => exact ⟨amongEntries _ _ rfl, inside⟩
    · rw [List.append_assoc]
      refine stays.resolve_left ?_ more
      exact fun ⟨offset, needed, remaining, same⟩ => unended offset needed remaining same
  · have nonempty : bytes ≠ [] := List.ne_nil_of_length_pos (by omega)
    have refused := decode_unsigned nonempty unsigned
    obtain rfl := Except.error.inj (refused.symm.trans failed)
    refine ⟨nofun, nofun, fun _ more => ?_⟩
    have unsigned' : ¬ signature <+: bytes ++ more := fun signed =>
      unsigned (List.prefix_of_prefix_length_le signed (List.prefix_append _ _) long)
    rw [decode_unsigned (List.append_ne_nil_of_left_ne_nil nonempty more) unsigned',
      firstFour_append long]

theorem decode_faults_located_size_and_surrogate :
    let endless := header ++ [0x5B, 0, 0x4B, 0, 0, 0, 0x3B, 0, 0, 0, 0x3B, 0, 1, 0, 0, 0, 0x3B, 0,
      0xFF, 0xFF, 0xFF, 0xFF, 0x3B, 0, 7]
    let lone := header ++ [0x5B, 0, 0x00, 0xD8, 0, 0]
    (4 ≤ endless.length ∧ decode endless = .error (.unexpectedEnd 32 4294967295 1) ∧
      32 + 1 = endless.length) ∧
    4 ≤ lone.length ∧ decode lone = .error (.malformedEntry 10 .keyText) ∧
      10 + 2 ≤ lone.length ∧
      decode (lone ++ [0x3B, 0, 0, 0]) = .error (.malformedEntry 10 .keyText) := by
  intro endless lone
  have ended : decode endless = .error (.unexpectedEnd 32 4294967295 1) := by
    have opened : decode endless = readEntries ⟨8, endless.drop 8⟩ := rfl
    rw [opened, readEntries_of_rest_ne_nil (by decide)]
    rfl
  have refused : decode lone = .error (.malformedEntry 10 .keyText) := by
    have opened : decode lone = readEntries ⟨8, lone.drop 8⟩ := rfl
    rw [opened, readEntries_of_rest_ne_nil (by decide)]
    rfl
  obtain ⟨atEnd, -, -⟩ := decode_faults_located (by decide) ended
  obtain ⟨-, atKey, stays⟩ := decode_faults_located (by decide) refused
  exact ⟨⟨by decide, ended, (atEnd _ _ _ rfl).2.1⟩, by decide, refused, (atKey _ _ rfl).2,
    stays nofun _⟩

end GroupPolicy.PolicyFile
