import SecurityKey.Bytes
import SecurityKey.Channel
import SecurityKey.CommandLine.Arguments
import SecurityKey.CommandLine.Console
import SecurityKey.CommandLine.Derivation
import SecurityKey.CommandLine.Disk
import SecurityKey.CommandLine.Program
import SecurityKey.CommandLine.Storage
import SecurityKey.Deadline
import SecurityKey.Digest
import SecurityKey.Error
import SecurityKey.Link.Basic
import SecurityKey.Link.File
import SecurityKey.Link.Memory
import SecurityKey.Link.Stream
import SecurityKey.Log.Filter
import SecurityKey.Log.Line
import SecurityKey.Log.Record
import SecurityKey.Main
import SecurityKey.Message.Catalogue
import SecurityKey.Message.KeyPath
import SecurityKey.Message.Kind
import SecurityKey.Metrics
import SecurityKey.Mnemonic.Lookup
import SecurityKey.Mnemonic.Phrase
import SecurityKey.Mnemonic.Words
import SecurityKey.Pattern.Automaton
import SecurityKey.Pattern.Basic
import SecurityKey.Pattern.CharClass
import SecurityKey.Pattern.Escape
import SecurityKey.Pattern.Options
import SecurityKey.Pattern.Reader
import SecurityKey.Pattern.Search
import SecurityKey.Prompt
import SecurityKey.Report.Frame
import SecurityKey.Report.Reassembler
import SecurityKey.Schema.Decode
import SecurityKey.Schema.Encode
import SecurityKey.Schema.Shape
import SecurityKey.Session.Dialogue
import SecurityKey.Session.HostInfo
import SecurityKey.Session.Records
import SecurityKey.Session.Run
import SecurityKey.Session.Secret
import SecurityKey.Settings.Basic
import SecurityKey.Settings.Environment
import SecurityKey.Settings.File
import SecurityKey.Settings.Validity
import SecurityKey.Settings.Violation
import SecurityKey.Text.Blank
import SecurityKey.Text.CaseFolding
import SecurityKey.Text.Category
import SecurityKey.Text.CharSet
import SecurityKey.Text.Literal
import SecurityKey.Text.Path
import SecurityKey.Text.Quoted
import SecurityKey.Toml.Document
import SecurityKey.Toml.Number
import SecurityKey.Toml.Printer
import SecurityKey.Toml.Scanner
import SecurityKey.Toml.Table
import SecurityKey.Toml.Text
import SecurityKey.Toml.Value
import SecurityKey.Wire.Cursor
import SecurityKey.Wire.Kind
import SecurityKey.Wire.Reader
import SecurityKey.Wire.Varint
import SecurityKey.Wire.Writer
import SecurityKey.Proofs.Link.Memory
import SecurityKey.Proofs.Link.Queue
import SecurityKey.Proofs.Link.Tally
import SecurityKey.Proofs.Link.Traffic
import SecurityKey.Proofs.Session.Answers
import SecurityKey.Proofs.Session.History
import SecurityKey.Proofs.Session.Account
import SecurityKey.Proofs.Session.Faults
import SecurityKey.Proofs.Session.Life
import SecurityKey.Proofs.Session.SecretLength
import SecurityKey.Proofs.Session.Verdict
import SecurityKey.Proofs.Session.Queued
import SecurityKey.Proofs.Session.Talk
import SecurityKey.Proofs.Session.Grammar
import SecurityKey.Proofs.Session.Requests
import SecurityKey.Proofs.Link.Arrival
import SecurityKey.Proofs.Session.Indistinct
import SecurityKey.Proofs.Link.Stream
import SecurityKey.Proofs.Session.Greeting
import SecurityKey.Proofs.Session.Transports
import SecurityKey.Proofs.Schema.Leaves
import SecurityKey.Proofs.Schema.Absorb
import SecurityKey.Proofs.Schema.RoundTrip
import SecurityKey.Proofs.Schema.OnWriter
import SecurityKey.Proofs.Schema.OnReader
import SecurityKey.Proofs.Schema.Required
import SecurityKey.Proofs.Report.Transcript
import SecurityKey.Proofs.Schema.Recall
import SecurityKey.Proofs.Schema.Unknown
import SecurityKey.Proofs.Wire.Spelled
import SecurityKey.Proofs.Mnemonic.Bits
import SecurityKey.Proofs.Text.Separation
import SecurityKey.Proofs.Mnemonic.Inverse
import SecurityKey.Proofs.Schema.Refusals
import SecurityKey.Proofs.Session.Blame
import SecurityKey.Proofs.Link.Waiting
import SecurityKey.Proofs.Session.Ending
import SecurityKey.Proofs.Session.Payloads
import SecurityKey.Proofs.Session.Identity
import SecurityKey.Proofs.Session.Delivered
import SecurityKey.Proofs.Session.Binding
import SecurityKey.Proofs.CommandLine.Requests
import SecurityKey.Proofs.CommandLine.Output
import SecurityKey.Proofs.Wire.Canonical
import SecurityKey.Proofs.Report.Grammar
import SecurityKey.Proofs.Schema.Nesting
import SecurityKey.Proofs.Settings.Saved
import SecurityKey.Proofs.Schema.Order
import SecurityKey.Proofs.Schema.Packed
import SecurityKey.Proofs.Schema.Boxes
import SecurityKey.Proofs.Wire.Found
import SecurityKey.Proofs.Schema.Merging
import SecurityKey.Proofs.Schema.Truncation
import SecurityKey.Proofs.Schema.Integers
import SecurityKey.Proofs.Settings.Limits
import SecurityKey.Proofs.Schema.Ranges
import SecurityKey.Proofs.Wire.Isolation
import SecurityKey.Proofs.Link.Interrupted
import SecurityKey.Proofs.Settings.Layers
import SecurityKey.Proofs.Prompt.Confirmation
