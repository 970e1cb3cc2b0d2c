import GroupPolicy.Proofs.Command.Line
import GroupPolicy.Proofs.Text.Blank
import GroupPolicy.Proofs.Text.Numeral

/-!
# The grammar of command lines

`Fields.Spells` puts a line together from fields and semicolons, `KindField` puts a kind together
from a code, blanks, colons and filters, and `Reads` gives each shape of a line its result. Lines
are read by this grammar and by nothing else (`parse_follows_grammar`): every line has a result in
it, and parsing gives that result.
-/

namespace GroupPolicy

namespace Command

/-! ## Fields -/

/-- How a line is made of its fields: the kind and the data are empty if the line ends before them,
and what is between the third and the fourth semicolon does not count. -/
inductive Fields.Spells : Fields → List Char → Prop
  | named {key name : List Char} : ';' ∉ key → ';' ∉ name →
    Spells ⟨key, name, [], []⟩ (key ++ ';' :: name)
  | kinded {key name kind : List Char} : ';' ∉ key → ';' ∉ name → ';' ∉ kind →
    Spells ⟨key, name, kind, []⟩ (key ++ ';' :: (name ++ ';' :: kind))
  | reserved {key name kind reserved : List Char} : ';' ∉ key → ';' ∉ name → ';' ∉ kind →
    ';' ∉ reserved →
    Spells ⟨key, name, kind, []⟩ (key ++ ';' :: (name ++ ';' :: (kind ++ ';' :: reserved)))
  | full {key name kind reserved data : List Char} : ';' ∉ key → ';' ∉ name → ';' ∉ kind →
    ';' ∉ reserved →
    Spells ⟨key, name, kind, data⟩
      (key ++ ';' :: (name ++ ';' :: (kind ++ ';' :: (reserved ++ ';' :: data))))

namespace Fields

variable {line : List Char} {fields : Fields}

theorem ofLine?_eq_none_iff : ofLine? line = none ↔ ';' ∉ line := by
  rcases Text.cut_cases ';' line with ⟨absent, uncut⟩ | ⟨key, rest, rfl, -, found⟩
  · simp [ofLine?, uncut, absent]
  · simp [ofLine?, found]

/-- The fields of a line are those that spell it. -/
theorem ofLine?_eq_some_iff : ofLine? line = some fields ↔ fields.Spells line := by
  constructor
  · intro read
    -- Each semicolon in turn is there or is not, and the line ends in another shape at each of them.
    rcases Text.cut_cases ';' line with ⟨absent, -⟩ | ⟨key, afterKey, rfl, keyFree, atKey⟩
    · rw [ofLine?_eq_none_iff.2 absent] at read
      cases read
    rw [ofLine?, atKey, Option.some.injEq] at read
    subst read
    rcases Text.cut_cases ';' afterKey with
      ⟨nameFree, uncut⟩ | ⟨name, afterName, rfl, nameFree, atName⟩
    · simpa [uncut, Text.cut] using Spells.named keyFree nameFree
    rcases Text.cut_cases ';' afterName with
      ⟨kindFree, uncut⟩ | ⟨kind, afterKind, rfl, kindFree, atKind⟩
    · simpa [atName, uncut, Text.cut] using Spells.kinded keyFree nameFree kindFree
    rcases Text.cut_cases ';' afterKind with
      ⟨free, uncut⟩ | ⟨reserved, data, rfl, free, atReserved⟩
    · simpa [atName, atKind, uncut] using Spells.reserved keyFree nameFree kindFree free
    · simpa [atName, atKind, atReserved] using Spells.full keyFree nameFree kindFree free
  · intro spelled
    cases spelled with
    | named key name =>
      simp [ofLine?, Text.cut_append_cons key, Text.cut_of_not_mem name, Text.cut]
    | kinded key name kind =>
      simp [ofLine?, Text.cut_append_cons key, Text.cut_append_cons name,
        Text.cut_of_not_mem kind, Text.cut]
    | reserved key name kind reserved =>
      simp [ofLine?, Text.cut_append_cons key, Text.cut_append_cons name,
        Text.cut_append_cons kind, Text.cut_of_not_mem reserved]
    | full key name kind reserved =>
      simp [ofLine?, Text.cut_append_cons key, Text.cut_append_cons name,
        Text.cut_append_cons kind, Text.cut_append_cons reserved]

/-- The key is what comes before the first semicolon. -/
theorem Spells.exists_rest (spelled : fields.Spells line) :
    ';' ∉ fields.key ∧ ∃ rest, line = fields.key ++ ';' :: rest := by
  cases spelled with
  | named key => exact ⟨key, _, rfl⟩
  | kinded key => exact ⟨key, _, rfl⟩
  | reserved key => exact ⟨key, _, rfl⟩
  | full key => exact ⟨key, _, rfl⟩

theorem Spells.mem {c : Char} (spelled : fields.Spells line)
    (member : c ∈ fields.key ∨ c ∈ fields.name ∨ c ∈ fields.data) : c ∈ line := by
  cases spelled with
  | named | kinded | reserved | full =>
    rcases member with member | member | member <;> simp_all

theorem Spells.key_eq_nil_iff (spelled : fields.Spells line) :
    fields.key = [] ↔ line.head? = some ';' := by
  obtain ⟨free, rest, rfl⟩ := spelled.exists_rest
  cases shape : fields.key with
  | nil => simp
  | cons c key =>
    rw [shape, List.mem_cons, not_or] at free
    simpa using Ne.symm free.1

end Fields

/-! ## Kinds -/

/-- How a kind field is made: a code with blanks around it, and filters, each after a colon. -/
def KindField (kind code : List Char) (filters : List (List Char)) : Prop :=
  ∃ first, kind = [':'].intercalate (first :: filters) ∧
    (∀ segment ∈ first :: filters, ':' ∉ segment) ∧ Text.TrimsTo first code

variable {kind code : List Char} {filters : List (List Char)}

theorem kindField_iff :
    KindField kind code filters ↔
      Text.trim (Text.pieces ':' kind).1 = code ∧ (Text.pieces ':' kind).2 = filters := by
  constructor
  · rintro ⟨first, rfl, free, trimmed⟩
    have segments := List.splitOn_intercalate ':' free (List.cons_ne_nil first filters)
    rw [← Text.split_eq_splitOn, Text.split, List.cons.injEq] at segments
    rw [segments.1, segments.2]
    exact ⟨Text.trim_eq_iff.2 trimmed, rfl⟩
  · rintro ⟨trimmed, rfl⟩
    have joined : [':'].intercalate (Text.split ':' kind) = kind := by
      rw [Text.split_eq_splitOn, List.intercalate_splitOn]
    exact ⟨_, joined.symm, fun segment => Text.not_mem_of_mem_split, Text.trim_eq_iff.1 trimmed⟩

/-- The codes of the seven kinds. -/
theorem exists_code_eq_iff {number : Nat} :
    (∃ kind : ValueKind, kind.code.toNat = number) ↔ number ∈ [0, 1, 2, 3, 4, 7, 11] := by
  constructor
  · rintro ⟨kind, rfl⟩
    cases kind <;> decide
  · intro listed
    have named : ∀ number ∈ [0, 1, 2, 3, 4, 7, 11],
        ∃ kind ∈ ValueKind.all, kind.code.toNat = number := by decide
    obtain ⟨kind, -, same⟩ := named number listed
    exact ⟨kind, same⟩

section ReadKind

variable {number : Nat}

theorem readKind_of_unsigned (written : Text.Unsigned code number) (small : number < UInt32.size) :
    readKind code = (ValueKind.ofCode? (UInt32.ofNat number)).elim
      (.error (.unsupportedKind (UInt32.ofNat number))) .ok := by
  have kept : (Text.unsigned? code).filter (· < UInt32.size) = some number := by
    rw [Text.unsigned?_eq_some_iff.2 written, Option.filter_some, if_pos (decide_eq_true small)]
  rw [readKind, kept]
  dsimp only
  cases ValueKind.ofCode? (UInt32.ofNat number) <;> rfl

theorem readKind_of_code {kind : ValueKind} (written : Text.Unsigned code kind.code.toNat) :
    readKind code = .ok kind := by
  rw [readKind_of_unsigned written kind.code.toNat_lt_size, UInt32.ofNat_toNat,
    ValueKind.ofCode?_code, Option.elim_some]

theorem readKind_of_unknown (written : Text.Unsigned code number) (small : number < UInt32.size)
    (unknown : number ∉ [0, 1, 2, 3, 4, 7, 11]) :
    readKind code = .error (.unsupportedKind (UInt32.ofNat number)) := by
  rw [readKind_of_unsigned written small]
  cases found : ValueKind.ofCode? (UInt32.ofNat number) with
  | none => exact Option.elim_none _ _
  | some kind =>
    refine absurd (exists_code_eq_iff.1 ⟨kind, ?_⟩) unknown
    rw [ValueKind.code_of_ofCode? found, UInt32.toNat_ofNat_of_lt' small]

theorem readKind_of_no_number
    (none : ¬ ∃ number, Text.Unsigned code number ∧ number < UInt32.size) :
    readKind code = .error (.invalidKindCode (String.ofList code)) := by
  rw [readKind]
  split
  · rfl
  · rename_i number found
    obtain ⟨written, small⟩ := Option.filter_eq_some_iff.1 found
    exact absurd ⟨number, Text.unsigned?_eq_some_iff.1 written, by simpa using small⟩ none

end ReadKind

theorem encodingOf_eq_iff {encoding : InputEncoding} :
    encodingOf filters = encoding ↔ (encoding = .text ↔ "text".toList ∈ filters) := by
  rw [encodingOf, textFilter]
  by_cases marked : "text".toList ∈ filters
  · rw [if_pos marked, iff_true_right marked]
    exact eq_comm
  · rw [if_neg marked, iff_false_right marked]
    cases encoding <;> decide

theorem ofFields_of_kindField {fields : Fields} (field : KindField fields.kind code filters) :
    ofFields fields =
      if code.isEmpty then .ok (.delete (String.ofList fields.key) (String.ofList fields.name))
      else (readKind code).map fun kind => .set (String.ofList fields.key)
        (String.ofList fields.name) kind (encodingOf filters) (String.ofList fields.data) := by
  obtain ⟨trimmed, rfl⟩ := kindField_iff.1 field
  rw [ofFields]
  dsimp only
  rw [trimmed]
  cases readKind code <;> rfl

/-! ## Lines -/

/-- What a line is read as. -/
inductive Reads (line : String) : Except PolicyError Command → Prop
  | single : ';' ∉ line.toList → Reads line (.error (.missingFields line))
  | unkeyed : line.toList.head? = some ';' → Reads line (.error (.emptyKey line))
  | delete {fields : Fields} {filters : List (List Char)} : fields.Spells line.toList →
    fields.key ≠ [] → KindField fields.kind [] filters →
    Reads line (.ok (.delete (String.ofList fields.key) (String.ofList fields.name)))
  | set {fields : Fields} {code : List Char} {filters : List (List Char)} {kind : ValueKind}
    {encoding : InputEncoding} : fields.Spells line.toList → fields.key ≠ [] →
    KindField fields.kind code filters → Text.Unsigned code kind.code.toNat →
    (encoding = .text ↔ "text".toList ∈ filters) →
    Reads line (.ok (.set (String.ofList fields.key) (String.ofList fields.name) kind encoding
      (String.ofList fields.data)))
  | unsupported {fields : Fields} {code : List Char} {filters : List (List Char)} {number : Nat} :
    fields.Spells line.toList → fields.key ≠ [] → KindField fields.kind code filters →
    Text.Unsigned code number → number < 4294967296 → number ∉ [0, 1, 2, 3, 4, 7, 11] →
    Reads line (.error (.unsupportedKind (UInt32.ofNat number)))
  | invalid {fields : Fields} {code : List Char} {filters : List (List Char)} :
    fields.Spells line.toList → fields.key ≠ [] → KindField fields.kind code filters → code ≠ [] →
    (¬ ∃ number, Text.Unsigned code number ∧ number < 4294967296) →
    Reads line (.error (.invalidKindCode (String.ofList code)))

variable {line : String} {result : Except PolicyError Command}

theorem parse_of_spells {fields : Fields} (spelled : fields.Spells line.toList)
    (keyed : fields.key ≠ []) : parse line = ofFields fields := by
  rw [parse, Fields.ofLine?_eq_some_iff.2 spelled]
  exact if_neg (by simpa using keyed)

/-- A line is parsed as what it reads as. -/
theorem Reads.parse_eq (reads : Reads line result) : parse line = result := by
  cases reads with
  | single absent => rw [parse, Fields.ofLine?_eq_none_iff.2 absent]
  | unkeyed leading =>
    cases read : Fields.ofLine? line.toList with
    | none =>
      exact absurd (List.mem_of_mem_head? leading) (Fields.ofLine?_eq_none_iff.1 read)
    | some fields =>
      have unkeyed := (Fields.ofLine?_eq_some_iff.1 read).key_eq_nil_iff.2 leading
      rw [parse, read]
      exact if_pos (List.isEmpty_iff.2 unkeyed)
  | delete spelled keyed field =>
    rw [parse_of_spells spelled keyed, ofFields_of_kindField field]
    rfl
  | set spelled keyed field written encoded =>
    rw [parse_of_spells spelled keyed, ofFields_of_kindField field,
      if_neg (by simpa using written.ne_nil), readKind_of_code written,
      encodingOf_eq_iff.2 encoded]
    rfl
  | unsupported spelled keyed field written small unknown =>
    rw [parse_of_spells spelled keyed, ofFields_of_kindField field,
      if_neg (by simpa using written.ne_nil), readKind_of_unknown written small unknown]
    rfl
  | invalid spelled keyed field nonempty none =>
    rw [parse_of_spells spelled keyed, ofFields_of_kindField field,
      if_neg (by simpa using nonempty), readKind_of_no_number none]
    rfl

/-- Every line reads as something. -/
theorem exists_reads (line : String) : ∃ result, Reads line result := by
  cases read : Fields.ofLine? line.toList with
  | none => exact ⟨_, .single (Fields.ofLine?_eq_none_iff.1 read)⟩
  | some fields =>
    have spelled := Fields.ofLine?_eq_some_iff.1 read
    by_cases unkeyed : fields.key = []
    · exact ⟨_, .unkeyed (spelled.key_eq_nil_iff.1 unkeyed)⟩
    obtain ⟨code, filters, field⟩ : ∃ code filters, KindField fields.kind code filters :=
      ⟨_, _, kindField_iff.2 ⟨rfl, rfl⟩⟩
    by_cases empty : code = []
    · subst empty
      exact ⟨_, .delete spelled unkeyed field⟩
    by_cases numbered : ∃ number, Text.Unsigned code number ∧ number < 4294967296
    · obtain ⟨number, written, small⟩ := numbered
      by_cases known : number ∈ [0, 1, 2, 3, 4, 7, 11]
      · obtain ⟨kind, rfl⟩ := exists_code_eq_iff.2 known
        exact ⟨_, .set spelled unkeyed field written (encodingOf_eq_iff.1 rfl)⟩
      · exact ⟨_, .unsupported spelled unkeyed field written small known⟩
    · exact ⟨_, .invalid spelled unkeyed field empty numbered⟩

/-- Parsing a line gives what the line reads as in the grammar, and nothing else. In particular it
fails for want of fields exactly if there is no semicolon, and for want of a key exactly if the
first character is one. -/
theorem parse_follows_grammar (line : String) :
    (∀ result, parse line = result ↔ Reads line result) ∧
    (parse line = .error (.missingFields line) ↔ ';' ∉ line.toList) ∧
    (parse line = .error (.emptyKey line) ↔ line.toList.head? = some ';') := by
  have follows (result : Except PolicyError Command) : parse line = result ↔ Reads line result := by
    refine ⟨?_, Reads.parse_eq⟩
    rintro rfl
    obtain ⟨result, reads⟩ := exists_reads line
    rwa [reads.parse_eq]
  refine ⟨follows, ?_, ?_⟩
  · rw [follows]
    refine ⟨fun reads => ?_, .single⟩
    cases reads with
    | single absent => exact absent
  · rw [follows]
    refine ⟨fun reads => ?_, .unkeyed⟩
    cases reads with
    | unkeyed leading => exact leading

end Command

end GroupPolicy
