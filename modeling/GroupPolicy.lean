import GroupPolicy.Batch
import GroupPolicy.Bytes.LittleEndian
import GroupPolicy.Cli.Arguments
import GroupPolicy.Cli.CommandLine
import GroupPolicy.Cli.Help
import GroupPolicy.Cli.Option
import GroupPolicy.Cli.Report
import GroupPolicy.Cli.Run
import GroupPolicy.Command
import GroupPolicy.Command.Preview
import GroupPolicy.Command.Script
import GroupPolicy.Config
import GroupPolicy.Error
import GroupPolicy.Files.Disk
import GroupPolicy.Files.Path
import GroupPolicy.Files.System
import GroupPolicy.Hex
import GroupPolicy.Json
import GroupPolicy.Kind
import GroupPolicy.Listing
import GroupPolicy.Main
import GroupPolicy.Naming
import GroupPolicy.PolicyFile.Cursor
import GroupPolicy.PolicyFile.Entry
import GroupPolicy.PolicyFile.Reader
import GroupPolicy.Proofs.Batch.Calls
import GroupPolicy.Proofs.Batch.Discipline
import GroupPolicy.Proofs.Batch.Modes
import GroupPolicy.Proofs.Batch.Planning
import GroupPolicy.Proofs.Batch.Simulation
import GroupPolicy.Proofs.Batch.Splitting
import GroupPolicy.Proofs.Cli.Applying
import GroupPolicy.Proofs.Cli.Batch
import GroupPolicy.Proofs.Cli.DryRun
import GroupPolicy.Proofs.Cli.Previewing
import GroupPolicy.Proofs.Cli.Splitting
import GroupPolicy.Proofs.Cli.Survival
import GroupPolicy.Proofs.Command.Grammar
import GroupPolicy.Proofs.Command.KindCode
import GroupPolicy.Proofs.Command.Line
import GroupPolicy.Proofs.Command.Script
import GroupPolicy.Proofs.Files.Contents
import GroupPolicy.Proofs.Files.Disk
import GroupPolicy.Proofs.Files.Faults
import GroupPolicy.Proofs.Files.Path
import GroupPolicy.Proofs.Hex
import GroupPolicy.Proofs.Listing
import GroupPolicy.Proofs.Naming
import GroupPolicy.Proofs.PolicyFile.Extension
import GroupPolicy.Proofs.PolicyFile.Faults
import GroupPolicy.Proofs.PolicyFile.Reads
import GroupPolicy.Proofs.PolicyFile.RoundTrip
import GroupPolicy.Proofs.PolicyFile.Texts
import GroupPolicy.Proofs.Store.Accounting
import GroupPolicy.Proofs.Store.Applying
import GroupPolicy.Proofs.Store.Backup
import GroupPolicy.Proofs.Store.Memory
import GroupPolicy.Proofs.Store.Reached
import GroupPolicy.Proofs.Store.Recorded
import GroupPolicy.Proofs.Store.Reordering
import GroupPolicy.Proofs.Store.SaveCases
import GroupPolicy.Proofs.Store.Saving
import GroupPolicy.Proofs.Success
import GroupPolicy.Proofs.Text.Lowercase
import GroupPolicy.Proofs.Text.Split
import GroupPolicy.Proofs.Text.Surrogate
import GroupPolicy.Proofs.Text.Utf16
import GroupPolicy.Proofs.Tree.Calls
import GroupPolicy.Proofs.Tree.Commuting
import GroupPolicy.Proofs.Tree.Frame
import GroupPolicy.Proofs.Tree.History
import GroupPolicy.Proofs.Tree.Invariant
import GroupPolicy.Proofs.Tree.Keys
import GroupPolicy.Proofs.Tree.LastWrite
import GroupPolicy.Proofs.Tree.LetterCase
import GroupPolicy.Proofs.Tree.Loading
import GroupPolicy.Proofs.Tree.OverlongNames
import GroupPolicy.Proofs.Tree.Parts
import GroupPolicy.Proofs.Tree.Reload
import GroupPolicy.Proofs.Tree.Representation
import GroupPolicy.Proofs.Tree.Undoing
import GroupPolicy.Proofs.Tree.Validation
import GroupPolicy.Proofs.Tree.Values
import GroupPolicy.Proofs.Value.Display
import GroupPolicy.Proofs.Value.Exactness
import GroupPolicy.Proofs.Value.Integer
import GroupPolicy.Proofs.Value.Layout
import GroupPolicy.Proofs.Value.Sequence
import GroupPolicy.Store.Basic
import GroupPolicy.Store.File
import GroupPolicy.Store.Memory
import GroupPolicy.Store.Recording
import GroupPolicy.Text.Blank
import GroupPolicy.Text.CaseTables
import GroupPolicy.Text.CharRanges
import GroupPolicy.Text.EscapedTable
import GroupPolicy.Text.Lowercase
import GroupPolicy.Text.Numeral
import GroupPolicy.Text.Quoted
import GroupPolicy.Text.Split
import GroupPolicy.Text.Utf16
import GroupPolicy.Toml.Document
import GroupPolicy.Toml.Quoted
import GroupPolicy.Toml.Scalar
import GroupPolicy.Toml.Value
import GroupPolicy.Tree
import GroupPolicy.Value
import GroupPolicy.Value.Input
import GroupPolicy.Value.Layout
