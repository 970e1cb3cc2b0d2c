import GroupPolicy.Files.Path
import GroupPolicy.Proofs.Text.Split
import Mathlib.Data.List.TakeWhile

/-!
# Paths made from other paths

The names of a path that starts where another one ends are those of both (`names_join`). The path of
a temporary file has the names of the path beside which it stands, but for the last
(`beside_temporary`); there are paths beside which no file can stand, and for those it leads to a
directory.
-/

namespace GroupPolicy

namespace Path

variable {path other : Path} {before blanks : List String} {name : String}

/-! ## Pieces -/

theorem pieces_of_split {text : String} {first second : List Char}
    (split : text.toList = first ++ '/' :: second) :
    (⟨text⟩ : Path).pieces =
      (⟨String.ofList first⟩ : Path).pieces ++ (⟨String.ofList second⟩ : Path).pieces := by
  simp only [pieces, split, Text.split_eq_splitOn, List.splitOn_append_cons_self,
    String.toList_ofList, List.map_append]

theorem pieces_of_slashFree (free : '/' ∉ name.toList) : (⟨name⟩ : Path).pieces = [name] := by
  simp only [pieces, Text.split_eq_splitOn, List.splitOn_eq_singleton free, List.map_cons,
    List.map_nil, String.ofList_toList]

theorem slashFree_of_mem_pieces (member : name ∈ path.pieces) : '/' ∉ name.toList := by
  obtain ⟨piece, inSplit, rfl⟩ := List.mem_map.1 member
  rw [String.toList_ofList]
  exact Text.not_mem_of_mem_split inSplit

/-- Slash-free pieces with a slash after each, and a last one, are the pieces of their text. -/
theorem pieces_join (free : ∀ piece ∈ before, '/' ∉ piece.toList) (last : '/' ∉ name.toList) :
    (⟨String.join (before.map (· ++ "/")) ++ name⟩ : Path).pieces = before ++ [name] := by
  induction before with
  | nil =>
    rw [List.map_nil, List.nil_append, String.join_nil, String.empty_append]
    exact pieces_of_slashFree last
  | cons piece before ih =>
    rw [List.forall_mem_cons] at free
    have split : (String.join ((piece :: before).map (· ++ "/")) ++ name).toList =
        piece.toList ++ '/' :: (String.join (before.map (· ++ "/")) ++ name).toList := by
      simp [String.join_cons]
    rw [pieces_of_split split, String.ofList_toList, String.ofList_toList, ih free.2,
      pieces_of_slashFree free.1]
    rfl

/-- An absolute path has an empty piece before its first slash. -/
theorem isAbsolute_iff :
    path.isAbsolute = true ↔ ∃ others, others ≠ [] ∧ path.pieces = "" :: others := by
  rw [isAbsolute, pieces]
  cases path.text.toList with
  | nil => simp
  | cons c rest =>
    by_cases slash : c = '/'
    · subst slash
      simp [Text.split_cons_self]
    · obtain ⟨piece, others, -, whole⟩ := Text.exists_split_cons_of_ne slash rest
      simp [whole, slash]

/-! ## Paths that start where another one ends -/

theorem names_of_split {text : String} {first second : List Char}
    (split : text.toList = first ++ '/' :: second) :
    (⟨text⟩ : Path).names =
      (⟨String.ofList first⟩ : Path).names ++ (⟨String.ofList second⟩ : Path).names := by
  rw [names, pieces_of_split split, List.filter_append]
  rfl

theorem names_empty : (⟨""⟩ : Path).names = [] := by rfl

theorem names_join (relative : other.isAbsolute = false) :
    (path.join other).names = path.names ++ other.names := by
  obtain ⟨text⟩ := path
  obtain ⟨added⟩ := other
  rw [join, if_neg (by rw [relative]; exact Bool.false_ne_true)]
  split
  case isTrue whole =>
    rcases Bool.or_eq_true_iff.1 whole with empty | slash
    · obtain rfl : text = "" := String.isEmpty_iff.1 empty
      rw [String.empty_append, names_empty, List.nil_append]
    · -- The slash at the end of the text is the one between the names.
      obtain ⟨front, shape⟩ : ∃ front, text.toList = front ++ ['/'] :=
        List.getLast?_eq_some_iff.1 (beq_iff_eq.1 slash)
      have split : (text ++ added).toList = front ++ '/' :: added.toList := by
        rw [String.toList_append, shape, List.append_assoc]
        rfl
      rw [names_of_split shape, names_of_split split, String.ofList_toList, String.ofList_nil,
        names_empty, List.append_nil]
  case isFalse =>
    have split : (text ++ "/" ++ added).toList = text.toList ++ '/' :: added.toList := by
      rw [String.toList_append, String.toList_append, List.append_assoc]
      rfl
    rw [names_of_split split, String.ofList_toList, String.ofList_toList]

theorem isAbsolute_join (relative : other.isAbsolute = false) :
    (path.join other).isAbsolute = path.isAbsolute := by
  obtain ⟨text⟩ := path
  rw [join, if_neg (by rw [relative]; exact Bool.false_ne_true)]
  cases shape : text.toList with
  | nil =>
    obtain rfl : text = "" := String.toList_inj.1 shape
    rw [if_pos (by rfl), isAbsolute, String.empty_append]
    exact relative
  | cons c rest =>
    split
    · simp only [isAbsolute, String.toList_append, shape, List.cons_append, List.head?_cons]
    · simp only [isAbsolute, String.toList_append, shape, List.cons_append, List.head?_cons]

/-! ## Temporary files -/

/-- The path of the temporary file that stands in for a file while that is written. -/
def temporary (path : Path) : Path :=
  path.withExtension "pol.tmp"

/-- A path could lead to a file: it ends in a name, and not by going up. -/
def CouldBeFile (path : Path) : Prop :=
  ∃ front last, path.names = front ++ [last] ∧ last ≠ ".."

/-- Two paths start at the same place, have names in common and then different ones, and do not go
up after that. -/
def Diverge (path other : Path) : Prop :=
  path.isAbsolute = other.isAbsolute ∧ ∃ common name rest name' rest',
    path.names = common ++ name :: rest ∧ other.names = common ++ name' :: rest' ∧
    name ≠ name' ∧ ".." ∉ name :: rest ∧ ".." ∉ name' :: rest'

/-- Two paths to files differ in their last names only. -/
def Beside (path other : Path) : Prop :=
  path.isAbsolute = other.isAbsolute ∧ ∃ front name name',
    path.names = front ++ [name] ∧ other.names = front ++ [name'] ∧
    name ≠ name' ∧ name ≠ ".." ∧ name' ≠ ".."

theorem Beside.diverge (beside : path.Beside other) : path.Diverge other := by
  obtain ⟨same, front, name, name', names, names', differ, down, down'⟩ := beside
  refine ⟨same, front, name, [], name', [], names, names', differ, ?_, ?_⟩
  · rw [List.mem_singleton]
    exact down.symm
  · rw [List.mem_singleton]
    exact down'.symm

/-- The last name of a path comes after other pieces, and only blank pieces come after it. -/
theorem lastName?_eq_some {last : LastName} (found : path.lastName? = some last) :
    ∃ before blanks, path.pieces = before ++ last.name :: blanks ∧
      isBlank last.name = false ∧ (∀ piece ∈ blanks, isBlank piece = true) ∧
      last.front = String.join (before.map (· ++ "/")) := by
  rw [lastName?] at found
  split at found
  · cases found
  · rename_i name before shape
    cases found
    refine ⟨before.reverse, (path.pieces.reverse.takeWhile isBlank).reverse, ?_, ?_, ?_, rfl⟩
    · have whole := List.takeWhile_append_dropWhile (p := isBlank) (l := path.pieces.reverse)
      rw [shape] at whole
      simpa using (congrArg List.reverse whole).symm
    · have kept := List.head?_dropWhile_not isBlank path.pieces.reverse
      rw [shape] at kept
      exact kept
    · intro piece member
      exact List.mem_takeWhile_imp (List.mem_reverse.1 member)

theorem lastName?_eq_none (missing : path.lastName? = none) : path.names = [] := by
  rw [lastName?] at missing
  split at missing
  · rename_i all
    rw [List.dropWhile_eq_nil_iff] at all
    rw [names, List.filter_eq_nil_iff]
    intro piece member
    rw [all piece (List.mem_reverse.2 member)]
    exact Bool.false_ne_true
  · cases missing

/-- Paths whose last pieces are names have the same start if they have the same pieces before. -/
theorem isAbsolute_eq {name' : String} {blanks' : List String}
    (pieces : path.pieces = before ++ name :: blanks)
    (pieces' : other.pieces = before ++ name' :: blanks')
    (named : isBlank name = false) (named' : isBlank name' = false) :
    path.isAbsolute = other.isAbsolute := by
  have nonempty {name : String} (named : isBlank name = false) : name ≠ "" := by
    rintro rfl
    cases named
  rw [Bool.eq_iff_iff, isAbsolute_iff, isAbsolute_iff, pieces, pieces']
  cases before with
  | nil => simp [nonempty named, nonempty named']
  | cons piece before => simp

theorem stem_append_extension (text : String) : stem (text ++ ".pol.tmp") = text ++ ".pol" := by
  have backwards : (text ++ ".pol.tmp").toList.reverse =
      ['p', 'm', 't'] ++ '.' :: (['l', 'o', 'p', '.'] ++ text.toList.reverse) := by
    rw [String.toList_append, List.reverse_append]
    rfl
  have cut : Text.cut '.' (text ++ ".pol.tmp").toList.reverse =
      (['p', 'm', 't'], some (['l', 'o', 'p', '.'] ++ text.toList.reverse)) := by
    rw [backwards]
    exact Text.cut_append_cons (by decide) _
  rw [stem, cut]
  simp [String.ofList_append]

theorem slashFree_stem (free : '/' ∉ name.toList) : '/' ∉ (stem name).toList := by
  rw [stem]
  split
  · rename_i c rest shape
    have suffix : c :: rest <:+ name.toList.reverse :=
      Text.suffix_of_cut (congrArg Prod.snd shape)
    rw [String.toList_ofList, List.mem_reverse]
    exact fun member => free (List.mem_reverse.1 (suffix.subset member))
  · exact free

theorem names_of_pieces (pieces : path.pieces = before ++ name :: blanks)
    (named : isBlank name = false) (blank : ∀ piece ∈ blanks, isBlank piece = true) :
    path.names = before.filter (fun piece => !isBlank piece) ++ [name] := by
  have none : blanks.filter (fun piece => !isBlank piece) = [] := by
    rw [List.filter_eq_nil_iff]
    intro piece member
    rw [blank piece member]
    exact Bool.false_ne_true
  rw [names, pieces, List.filter_append, List.filter_cons_of_pos (by rw [named]; rfl), none]

theorem not_couldBeFile_of_up {front : List String} (names : path.names = front ++ [".."]) :
    ¬ path.CouldBeFile := by
  rintro ⟨front', last, names', named⟩
  obtain ⟨-, same⟩ := List.append_inj' (names.symm.trans names') rfl
  cases same
  exact named rfl

theorem append_extension_ne {short : String} (text : String) (length : short.length < 8) :
    text ++ ".pol.tmp" ≠ short := by
  rintro rfl
  rw [String.length_append] at length
  exact absurd length (Nat.not_lt.2 (Nat.le_add_left _ _))

theorem stem_extension_ne (name : String) : stem name ++ ".pol.tmp" ≠ name := by
  intro same
  have stems := stem_append_extension (stem name)
  rw [same] at stems
  have lengths := congrArg String.length stems
  rw [String.length_append] at lengths
  exact absurd lengths (Nat.lt_add_of_pos_right (by decide)).ne

/-- The path of a temporary file leads up, or it is that of the file with another last name. -/
theorem temporary_of_lastName? {last : LastName} (found : path.lastName? = some last)
    (front : last.front = String.join (before.map (· ++ "/"))) :
    (last.name = ".." ∧ path.temporary = path) ∨
      path.temporary = ⟨String.join (before.map (· ++ "/")) ++ ".."⟩ ∨
      (last.name ≠ ".." ∧ path.temporary =
        ⟨String.join (before.map (· ++ "/")) ++ (stem last.name ++ ".pol.tmp")⟩) := by
  rw [temporary, withExtension, found, ← front]
  by_cases up : last.name = ".."
  · exact Or.inl ⟨up, if_pos up⟩
  by_cases dots : (stem last.name = "." && !last.followed) = true
  · exact Or.inr (Or.inl ((if_neg up).trans (if_pos dots)))
  · refine Or.inr (Or.inr ⟨up, ((if_neg up).trans (if_neg dots)).trans ?_⟩)
    rw [String.append_assoc, String.append_assoc]
    rfl

/-- A temporary file that can be written stands beside the file. -/
theorem beside_temporary (file : path.temporary.CouldBeFile) : path.Beside path.temporary := by
  cases found : path.lastName? with
  | none =>
    have same : path.temporary = path := by
      rw [temporary, withExtension, found]
    obtain ⟨front, last, names, -⟩ := file
    rw [same, lastName?_eq_none found] at names
    simp at names
  | some last =>
    obtain ⟨before, blanks, pieces, named, blank, front⟩ := lastName?_eq_some found
    have names := names_of_pieces pieces named blank
    have free : ∀ piece ∈ path.pieces, '/' ∉ piece.toList := fun _ => slashFree_of_mem_pieces
    rw [pieces, List.forall_mem_append, List.forall_mem_cons] at free
    obtain ⟨freeBefore, freeName, -⟩ := free
    rcases temporary_of_lastName? found front with ⟨up, same⟩ | shape | ⟨notUp, shape⟩
    · rw [up, ← same] at names
      exact absurd file (not_couldBeFile_of_up names)
    · have up : path.temporary.pieces = before ++ [".."] := by
        rw [shape]
        exact pieces_join freeBefore (by decide)
      exact absurd file (not_couldBeFile_of_up (names_of_pieces up (by decide) (by simp)))
    · have freeNew : '/' ∉ (stem last.name ++ ".pol.tmp").toList := by
        rw [String.toList_append, List.mem_append, not_or]
        exact ⟨slashFree_stem freeName, by decide⟩
      have pieces' : path.temporary.pieces = before ++ [stem last.name ++ ".pol.tmp"] := by
        rw [shape]
        exact pieces_join freeBefore freeNew
      have named' : isBlank (stem last.name ++ ".pol.tmp") = false := by
        rw [isBlank, Bool.or_eq_false_iff, beq_eq_false_iff_ne, beq_eq_false_iff_ne]
        exact ⟨append_extension_ne _ (by decide), append_extension_ne _ (by decide)⟩
      exact ⟨isAbsolute_eq pieces pieces' named named', _, _, _, names,
        names_of_pieces pieces' named' (by simp), (stem_extension_ne last.name).symm, notUp,
        append_extension_ne _ (by decide)⟩

end Path

end GroupPolicy
