import GroupPolicy.Listing
import GroupPolicy.Proofs.Hex
import GroupPolicy.Proofs.Text.Numeral
import GroupPolicy.Proofs.Tree.Calls

/-!
# What listings tell

A listing has one line for each record, made of the fields of the record, and a record tells all of
an entry (`ListingRecord.Tells`). A line is not escaped, but it can be taken apart at its semicolons
if the names have none (`split_listingLine`), and the pieces determine the entry
(`lineFields_injective`). So trees with the same listing have the same entries
(`listing_tells_entries`).
-/

namespace GroupPolicy

namespace ListingRecord

/-- The line of a record. -/
def line (record : ListingRecord) : String :=
  "[" ++ record.key ++ ";" ++ record.name ++ ";" ++ toString record.kind.toNat ++ ";" ++
    toString record.length ++ ";" ++ record.data ++ "]"

/-- A record tells what there is of an entry; its bytes are those that its hex text denotes. -/
structure Tells (record : ListingRecord) (entry : PolicyEntry) : Prop where
  key : record.key = entry.key
  name : record.name = entry.name
  kind : record.kind = entry.code
  length : record.length = entry.data.length
  data : Hex.decode record.data = .ok entry.data

theorem tells_ofEntry (entry : PolicyEntry) : (ofEntry entry).Tells entry :=
  ⟨rfl, rfl, rfl, rfl, Hex.decode_encode entry.data⟩

end ListingRecord

/-! ## Lines taken apart -/

/-- What stands between the semicolons of the line that lists an entry. -/
def PolicyEntry.lineFields (entry : PolicyEntry) : List (List Char) :=
  ['[' :: entry.key.toList, entry.name.toList, (toString entry.code.toNat).toList,
    (toString entry.data.length).toList, (Hex.encode entry.data).toList ++ [']']]

theorem not_mem_toString (number : Nat) : ';' ∉ (toString number).toList := fun member =>
  absurd ((Text.decimal_repr number).isDigit ';' member) (by decide)

theorem toString_injective {left right : Nat}
    (same : (toString left).toList = (toString right).toList) : left = right := by
  have first := (Text.decimal_repr left).value
  have second := (Text.decimal_repr right).value
  have repr : left.repr.toList = right.repr.toList := same
  rw [← first, ← second, repr]

namespace PolicyEntry

variable {entry : PolicyEntry}

/-- The pieces of a line determine the entry. -/
theorem lineFields_injective : Function.Injective lineFields := by
  intro left right same
  obtain ⟨key, name, kind, -, data⟩ : _ ∧ _ ∧ _ ∧ _ ∧ _ := by
    simpa only [lineFields, List.cons.injEq, true_and, and_true, List.append_cancel_right_eq]
      using same
  have bytes : left.data = right.data := by
    have read := Hex.decode_encode left.data
    rw [String.toList_inj.1 data, Hex.decode_encode] at read
    exact (Except.ok.inj read).symm
  have code : left.code = right.code := UInt32.toNat_inj.1 (toString_injective kind)
  cases left
  cases right
  cases String.toList_inj.1 key
  cases String.toList_inj.1 name
  cases bytes
  cases code
  rfl

theorem split_listingLine (key : ';' ∉ entry.key.toList) (name : ';' ∉ entry.name.toList) :
    Text.split ';' (RegistryTree.listingLine entry).toList = entry.lineFields := by
  have joined : (RegistryTree.listingLine entry).toList = [';'].intercalate entry.lineFields := by
    simp [RegistryTree.listingLine, lineFields]
  have hex : ';' ∉ (Hex.encode entry.data).toList := fun member =>
    absurd (Hex.isDigit_of_mem_encode member (by decide)) (by decide)
  have first : ';' ∉ '[' :: entry.key.toList :=
    List.not_mem_cons_of_ne_of_not_mem (by decide) key
  have last : ';' ∉ (Hex.encode entry.data).toList ++ [']'] :=
    List.not_mem_append hex (by decide)
  rw [joined, Text.split_eq_splitOn]
  refine List.splitOn_intercalate ';' ?_ (List.cons_ne_nil _ _)
  simp only [lineFields, List.forall_mem_cons]
  exact ⟨first, name, not_mem_toString _, not_mem_toString _, last, nofun⟩

end PolicyEntry

namespace RegistryTree

variable {tree : RegistryTree}

theorem map_split_listing (free : ∀ entry ∈ tree.entries,
      ';' ∉ entry.key.toList ∧ ';' ∉ entry.name.toList) :
    tree.listing.map (fun line => Text.split ';' line.toList) =
      tree.entries.map PolicyEntry.lineFields := by
  rw [listing, List.map_map]
  refine List.map_congr_left fun entry member => ?_
  exact PolicyEntry.split_listingLine (free entry member).1 (free entry member).2

/-- A listing has as many lines as there are records. Each line is put together from the fields of
its record, and the record tells the entry in its place. Trees in whose names there is no semicolon
have the same entries in the same order if they have the same listing. -/
theorem listing_tells_entries (tree : RegistryTree) :
    tree.listing.length = tree.records.length ∧
    (∀ (i : Nat) (record : ListingRecord), tree.records[i]? = some record →
      tree.listing[i]? = some record.line ∧
        ∃ entry, tree.entries[i]? = some entry ∧ record.Tells entry) ∧
    ∀ other : RegistryTree,
      (∀ entry ∈ tree.entries, ';' ∉ entry.key.toList ∧ ';' ∉ entry.name.toList) →
      (∀ entry ∈ other.entries, ';' ∉ entry.key.toList ∧ ';' ∉ entry.name.toList) →
      tree.listing = other.listing → tree.entries = other.entries := by
  refine ⟨?_, fun i record told => ?_, fun other free free' same => ?_⟩
  · rw [listing, records, List.length_map, List.length_map]
  · rw [records, List.getElem?_map] at told
    obtain ⟨entry, there, rfl⟩ := Option.map_eq_some_iff.1 told
    refine ⟨?_, entry, there, ListingRecord.tells_ofEntry entry⟩
    rw [listing, List.getElem?_map, there]
    rfl
  · have pieces := map_split_listing free
    rw [same, map_split_listing free'] at pieces
    exact (List.map_injective_iff.2 PolicyEntry.lineFields_injective pieces).symm

theorem listing_tells_entries_brackets :
    let tree := empty.after [.set "\\K]" "" ⟨4, [10, 255]⟩, .set "k]" "4\n[-]" ⟨77, []⟩]
    let other := empty.after [.set "K]" "x" ⟨1, []⟩, .set "K]" "" ⟨1, []⟩, .delete "K]" "X",
      .set "k]" "4\n[-]" ⟨77, []⟩, .set "k]" "" ⟨4, [10, 255]⟩]
    tree.records[0]? = some ⟨"K]", "", 4, some "REG_DWORD", 2, "0A-FF"⟩ ∧
      tree.listing[0]? = some "[K];;4;2;0A-FF]" ∧
      (∀ entry ∈ tree.entries, ';' ∉ entry.key.toList ∧ ';' ∉ entry.name.toList) ∧
      (∀ entry ∈ other.entries, ';' ∉ entry.key.toList ∧ ';' ∉ entry.name.toList) ∧
      tree.listing = other.listing ∧ tree.entries = other.entries := by
  intro tree other
  obtain ⟨-, lines, determined⟩ := listing_tells_entries tree
  have first : tree.records[0]? = some ⟨"K]", "", 4, some "REG_DWORD", 2, "0A-FF"⟩ := by
    decide +kernel
  have free : ∀ entry ∈ tree.entries, ';' ∉ entry.key.toList ∧ ';' ∉ entry.name.toList := by
    decide +kernel
  have free' : ∀ entry ∈ other.entries, ';' ∉ entry.key.toList ∧ ';' ∉ entry.name.toList := by
    decide +kernel
  have same : tree.listing = other.listing := by decide +kernel
  exact ⟨first, (lines 0 _ first).1, free, free', same, determined other free free' same⟩

-- With a semicolon in a name, the line does not say where the key ends.
example : listingLine ⟨"a", "b;c", 1, []⟩ = listingLine ⟨"a;b", "c", 1, []⟩ := by decide

end RegistryTree

end GroupPolicy
