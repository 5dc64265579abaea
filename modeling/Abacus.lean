import Abacus.Aggregate
import Abacus.Calculator.Advanced
import Abacus.Calculator.Basic
import Abacus.Calculator.Error
import Abacus.Calculator.Events
import Abacus.Calculator.Scientific
import Abacus.Command.Answer
import Abacus.Command.Basic
import Abacus.Command.Events
import Abacus.Command.Outcome
import Abacus.CommandLine.Basic
import Abacus.CommandLine.Help
import Abacus.CommandLine.Parser
import Abacus.Decimal.Layout
import Abacus.Decimal.Shortest
import Abacus.Demo
import Abacus.Dict
import Abacus.Envelope
import Abacus.FileTree.Basic
import Abacus.FileTree.Path
import Abacus.Json.Draft
import Abacus.Json.Number
import Abacus.Json.Record
import Abacus.Json.Value
import Abacus.Json.Writer
import Abacus.Log.Event
import Abacus.Log.Filter
import Abacus.Machine
import Abacus.Main
import Abacus.Operation
import Abacus.Outline
import Abacus.Program
import Abacus.Proofs.Aggregate
import Abacus.Proofs.Command
import Abacus.Proofs.CommandLine.Reading
import Abacus.Proofs.CommandLine.Words
import Abacus.Proofs.Decimal.Shortest
import Abacus.Proofs.Doubles
import Abacus.Proofs.Entries
import Abacus.Proofs.Envelope
import Abacus.Proofs.History
import Abacus.Proofs.Json.Decimals
import Abacus.Proofs.Json.Drafts
import Abacus.Proofs.Json.Exact
import Abacus.Proofs.Json.Grammar
import Abacus.Proofs.Json.Literals
import Abacus.Proofs.Json.Numerals
import Abacus.Proofs.Json.Records
import Abacus.Proofs.Json.Slots
import Abacus.Proofs.Json.Texts
import Abacus.Proofs.Listing
import Abacus.Proofs.Log.Isolation
import Abacus.Proofs.Log.Trace
import Abacus.Proofs.Memory
import Abacus.Proofs.Operation
import Abacus.Proofs.Payloads
import Abacus.Proofs.Places
import Abacus.Proofs.Policy
import Abacus.Proofs.Program
import Abacus.Proofs.Replay
import Abacus.Proofs.Reset
import Abacus.Proofs.Residues
import Abacus.Proofs.Runs
import Abacus.Proofs.Script
import Abacus.Proofs.Settings.Decoding
import Abacus.Proofs.Settings.Discovery
import Abacus.Proofs.Settings.Environment
import Abacus.Proofs.Settings.Faults
import Abacus.Proofs.Settings.Init
import Abacus.Proofs.Settings.Layers
import Abacus.Proofs.Settings.Leaves
import Abacus.Proofs.Settings.Offences
import Abacus.Proofs.Settings.Precedence
import Abacus.Proofs.Settings.Saved
import Abacus.Proofs.Shared
import Abacus.Proofs.Text.Blanks
import Abacus.Proofs.Text.Digits
import Abacus.Proofs.Text.Fields
import Abacus.Proofs.Text.Integers
import Abacus.Proofs.Toml.Ordered
import Abacus.Proofs.Toml.Statements
import Abacus.Proofs.Toml.Strings
import Abacus.Proofs.Toml.Tables
import Abacus.Proofs.Validation
import Abacus.Proofs.Workspace
import Abacus.Script
import Abacus.Settings.Basic
import Abacus.Settings.Environment
import Abacus.Settings.Extract
import Abacus.Settings.Json
import Abacus.Settings.Layer
import Abacus.Settings.Load
import Abacus.Settings.Save
import Abacus.Settings.Toml
import Abacus.Text.Alphanumeric
import Abacus.Text.Blank
import Abacus.Text.GraphemeExtend
import Abacus.Text.Integer
import Abacus.Text.Pad
import Abacus.Text.Quoted
import Abacus.Text.Unprintable
import Abacus.Toml.Document
import Abacus.Toml.Statement
import Abacus.Toml.Value
import Abacus.Toml.Writer
import Abacus.Workspace
import Abacus.Proofs.Completion
import Abacus.Proofs.Demo
import Abacus.Proofs.Log.Directives
import Abacus.Proofs.Outputs
