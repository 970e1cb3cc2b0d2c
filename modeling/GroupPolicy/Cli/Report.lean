import GroupPolicy.Batch
import GroupPolicy.Command.Preview
import GroupPolicy.Json
import GroupPolicy.Listing
import GroupPolicy.Store.File

/-!
# Reports

The output of the subcommands, as lines or as a JSON document.
-/

namespace GroupPolicy.Cli

/-- What a batch did, in which section and how. -/
structure BatchSummary where
  /-- The section. -/
  part : PolicySection
  /-- The mode. -/
  mode : ApplyMode
  /-- Whether the policy file was left as it is. -/
  dryRun : Bool
  /-- The numbers of commands. -/
  report : ApplyReport
  deriving DecidableEq

/-- The word for a truth value. -/
def truthWord (value : Bool) : String :=
  if value then "true" else "false"

/-- The lines of a summary. -/
def BatchSummary.lines (summary : BatchSummary) : List String :=
  ["section: " ++ summary.part.label,
   "mode: " ++ summary.mode.label,
   "dry_run: " ++ truthWord summary.dryRun,
   "set: " ++ toString summary.report.set,
   "deleted: " ++ toString summary.report.deleted,
   "absent: " ++ toString summary.report.absent]

/-- The JSON document of a summary. -/
def BatchSummary.json (summary : BatchSummary) : JsonValue :=
  .object [
    ("section", .string summary.part.label),
    ("mode", .string summary.mode.label),
    ("dry_run", .boolean summary.dryRun),
    ("set", .number summary.report.set),
    ("deleted", .number summary.report.deleted),
    ("absent", .number summary.report.absent)]

/-- The JSON value of a listed value. -/
def recordJson (record : ListingRecord) : JsonValue :=
  .object [
    ("key", .string record.key),
    ("name", .string record.name),
    ("kind", .number record.kind.toNat),
    ("kind_name", .ofText? record.kindName),
    ("length", .number record.length),
    ("data", .string record.data)]

/-- The JSON value of a preview. -/
def previewJson : CommandPreview → JsonValue
  | .set key name kind encoding value =>
    .object [
      ("action", .string "set"),
      ("key", .string key),
      ("name", .string name),
      ("kind", .string kind.registryName),
      ("encoding", .string encoding.label),
      ("value", .string value.display),
      ("hex", .string (Hex.encode value.toBytes))]
  | .delete key name =>
    .object [
      ("action", .string "delete"),
      ("key", .string key),
      ("name", .string name),
      ("kind", .null),
      ("encoding", .null),
      ("value", .null),
      ("hex", .null)]

/-- Lines with a line feed after each. -/
def textOfLines (lines : List String) : String :=
  String.join (lines.map (· ++ "\n"))

/-- A JSON document with a line feed after it. -/
def textOfJson (value : JsonValue) : String :=
  value.document ++ "\n"

end GroupPolicy.Cli
