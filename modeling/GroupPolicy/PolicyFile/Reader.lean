import GroupPolicy.PolicyFile.Cursor

/-!
# Reading policy files

A policy file is read entry by entry until no byte is left. A file of no bytes holds no entries.
-/

namespace GroupPolicy.PolicyFile

/-- Takes an entry. -/
def readEntry : Read PolicyEntry := do
  expect opening .opening
  let key ← takeText .keyText
  expect separator .afterKey
  let name ← takeText .nameText
  expect separator .afterName
  let code ← takeNumber
  expect separator .afterKind
  let size ← takeNumber
  expect separator .afterSize
  let data ← take size.toNat
  expect closing .closing
  return { key, name, code, data }

/-- An entry takes at least its opening bracket. -/
theorem readEntry_advances : Advances 2 readEntry := by
  unfold readEntry
  refine (expect_advances ..).bind fun _ => .weaken <| (takeText_advances _).bind fun _ => ?_
  refine .weaken <| (expect_advances ..).bind fun _ => ?_
  refine .weaken <| (takeText_advances _).bind fun _ => ?_
  refine .weaken <| (expect_advances ..).bind fun _ => ?_
  refine .weaken <| takeNumber_advances.bind fun _ => ?_
  refine .weaken <| (expect_advances ..).bind fun _ => ?_
  refine .weaken <| takeNumber_advances.bind fun _ => ?_
  refine .weaken <| (expect_advances ..).bind fun _ => ?_
  refine .weaken <| (take_advances _).bind fun _ => ?_
  exact .weaken <| (expect_advances ..).bind fun _ => .pure _

/-- Fewer bytes are left after an entry than before it. -/
theorem readEntry_shortens {cursor next : Cursor} {entry : PolicyEntry}
    (step : readEntry cursor = .ok (entry, next)) : next.rest.length < cursor.rest.length := by
  obtain ⟨taken, before, _, enough⟩ := readEntry_advances step
  rw [before, List.length_append]
  omega

/-- The entries from a place on. -/
def readEntries (cursor : Cursor) : Except PolicyError (List PolicyEntry) :=
  if cursor.rest.isEmpty then .ok []
  else
    match step : readEntry cursor with
    | .error error => .error error
    | .ok (entry, next) =>
      have _shorter := readEntry_shortens step
      return entry :: (← readEntries next)
termination_by cursor.rest.length

/-- The first four bytes of a file, with zeros for those that are missing. -/
def firstFour (bytes : List UInt8) : List UInt8 :=
  (bytes ++ List.replicate 4 0).take 4

/-- Takes the version, which has to be the known one. -/
def readVersion : Read Unit := do
  let found ← takeNumber
  unless found = version do throw (.unsupportedVersion found)

/-- The entries of a policy file. -/
def decode (bytes : List UInt8) : Except PolicyError (List PolicyEntry) :=
  if bytes.isEmpty then .ok []
  else if signature.isPrefixOf bytes then do
    let ((), cursor) ← readVersion ⟨signature.length, bytes.drop signature.length⟩
    readEntries cursor
  else .error (.badSignature (firstFour bytes))

end GroupPolicy.PolicyFile
