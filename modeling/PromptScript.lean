import PromptScript.Backend.Anthropic
import PromptScript.Backend.Basic
import PromptScript.Backend.Google
import PromptScript.Backend.HttpReply
import PromptScript.Backend.Mistral
import PromptScript.Backend.OpenAi
import PromptScript.Backend.Registry
import PromptScript.Catalog
import PromptScript.CommandLine.Arguments
import PromptScript.CommandLine.Execute
import PromptScript.Config
import PromptScript.Content
import PromptScript.Conversation.Codec
import PromptScript.Conversation.Message
import PromptScript.Conversation.Pairing
import PromptScript.Credentials
import PromptScript.Decimal.Shortest
import PromptScript.Engine.Basic
import PromptScript.Engine.Counters
import PromptScript.Engine.Exchange
import PromptScript.Engine.Invocation
import PromptScript.Engine.Payload
import PromptScript.Engine.Perform
import PromptScript.Engine.Setup
import PromptScript.Engine.State
import PromptScript.Expression.Escape
import PromptScript.Expression.Matcher
import PromptScript.Expression.Strict
import PromptScript.Expression.Threads
import PromptScript.Expression.Tree
import PromptScript.Expression.Wide
import PromptScript.Files.Path
import PromptScript.Files.Tree
import PromptScript.Functions.Registry
import PromptScript.Json.Basic
import PromptScript.Json.Exact
import PromptScript.Json.Numeral
import PromptScript.Json.Printer
import PromptScript.Json.Reader
import PromptScript.Json.Selection
import PromptScript.Main
import PromptScript.Pattern.CharSet
import PromptScript.Pattern.Expand
import PromptScript.Pattern.Glob
import PromptScript.Pattern.Regular
import PromptScript.Pattern.Regular.Reader
import PromptScript.Process.Basic
import PromptScript.Process.Host
import PromptScript.Proofs.Attempt
import PromptScript.Proofs.Backend.Acceptance
import PromptScript.Proofs.Backend.Echo
import PromptScript.Proofs.Backend.Entries
import PromptScript.Proofs.Backend.Nulls
import PromptScript.Proofs.Backend.ReadOff
import PromptScript.Proofs.Backend.Replies
import PromptScript.Proofs.Backend.Wire
import PromptScript.Proofs.Conversation.Appending
import PromptScript.Proofs.Conversation.FreshIds
import PromptScript.Proofs.Conversation.Ledger
import PromptScript.Proofs.Conversation.PairingRule
import PromptScript.Proofs.Conversation.Stored
import PromptScript.Proofs.Decimal.Magnitude
import PromptScript.Proofs.Engine.Assignment
import PromptScript.Proofs.Engine.Change
import PromptScript.Proofs.Engine.Clearing
import PromptScript.Proofs.Engine.Completion
import PromptScript.Proofs.Engine.Contents
import PromptScript.Proofs.Engine.Course
import PromptScript.Proofs.Engine.Exchange
import PromptScript.Proofs.Engine.Failure
import PromptScript.Proofs.Engine.FollowUp
import PromptScript.Proofs.Engine.Growth
import PromptScript.Proofs.Engine.Halted
import PromptScript.Proofs.Engine.Invocation
import PromptScript.Proofs.Engine.Lifecycle
import PromptScript.Proofs.Engine.ModelChoice
import PromptScript.Proofs.Engine.Namespace
import PromptScript.Proofs.Engine.Pairing
import PromptScript.Proofs.Engine.Perform
import PromptScript.Proofs.Engine.Placement
import PromptScript.Proofs.Engine.PlainArguments
import PromptScript.Proofs.Engine.Reachable
import PromptScript.Proofs.Engine.Secrecy
import PromptScript.Proofs.Engine.Transcript
import PromptScript.Proofs.Engine.TurnOrder
import PromptScript.Proofs.Engine.Usage
import PromptScript.Proofs.Files.Path
import PromptScript.Proofs.Files.Places
import PromptScript.Proofs.Files.Tree
import PromptScript.Proofs.Functions.Descriptors
import PromptScript.Proofs.Functions.Discovery
import PromptScript.Proofs.Json.Limits
import PromptScript.Proofs.Json.Members
import PromptScript.Proofs.Json.Numeral
import PromptScript.Proofs.Json.Padding
import PromptScript.Proofs.Json.Quoted
import PromptScript.Proofs.Json.ReadBack
import PromptScript.Proofs.Json.Trace
import PromptScript.Proofs.Json.WellFormed
import PromptScript.Proofs.Json.Without
import PromptScript.Proofs.Pattern.Braces
import PromptScript.Proofs.Pattern.Choices
import PromptScript.Proofs.Pattern.Expand
import PromptScript.Proofs.Pattern.Matching
import PromptScript.Proofs.Pattern.Removal
import PromptScript.Proofs.Pattern.Walk
import PromptScript.Proofs.Script.Grammar
import PromptScript.Proofs.Script.Lines
import PromptScript.Proofs.Script.Source
import PromptScript.Proofs.Session.Confinement
import PromptScript.Proofs.Session.History
import PromptScript.Proofs.Session.ReadBack
import PromptScript.Proofs.Session.Resumption
import PromptScript.Proofs.Session.Saving
import PromptScript.Proofs.Session.Stability
import PromptScript.Proofs.Text.Trim
import PromptScript.Proofs.Text.Utf8
import PromptScript.Proofs.Timestamp.Calendar
import PromptScript.Proofs.Timestamp.ReadBack
import PromptScript.Proofs.Variables.Decomposition
import PromptScript.Proofs.Variables.Substitute
import PromptScript.RunError
import PromptScript.Schema.Apply
import PromptScript.Schema.Check
import PromptScript.Schema.Draft
import PromptScript.Schema.Format
import PromptScript.Schema.Library
import PromptScript.Schema.Problem
import PromptScript.Schema.Reference
import PromptScript.Schema.Rules
import PromptScript.Schema.Validate
import PromptScript.Script.Program
import PromptScript.Script.Statement
import PromptScript.Session.Record
import PromptScript.Session.Store
import PromptScript.Shell.Arithmetic
import PromptScript.Shell.Builtin.Arguments
import PromptScript.Shell.Builtin.Lines
import PromptScript.Shell.Builtin.Places
import PromptScript.Shell.Builtin.Settings
import PromptScript.Shell.Builtin.Signals
import PromptScript.Shell.Command
import PromptScript.Shell.Condition
import PromptScript.Shell.Edit.Reader
import PromptScript.Shell.Edit.Run
import PromptScript.Shell.Field
import PromptScript.Shell.Format
import PromptScript.Shell.Integer
import PromptScript.Shell.Launch
import PromptScript.Shell.Printf
import PromptScript.Shell.Reader
import PromptScript.Shell.Record.Collection
import PromptScript.Shell.Record.Program
import PromptScript.Shell.Record.Reader
import PromptScript.Shell.Record.Run
import PromptScript.Shell.Record.Session
import PromptScript.Shell.Record.Token
import PromptScript.Shell.Record.Value
import PromptScript.Shell.Redirect
import PromptScript.Shell.Run
import PromptScript.Shell.State
import PromptScript.Shell.Token
import PromptScript.Shell.Tool.Basic
import PromptScript.Shell.Tool.Blocks
import PromptScript.Shell.Tool.Calculation
import PromptScript.Shell.Tool.Checksum
import PromptScript.Shell.Tool.Collation
import PromptScript.Shell.Tool.Columns
import PromptScript.Shell.Tool.Copying
import PromptScript.Shell.Tool.Files
import PromptScript.Shell.Tool.Find
import PromptScript.Shell.Tool.Letters
import PromptScript.Shell.Tool.Listing
import PromptScript.Shell.Tool.Notation
import PromptScript.Shell.Tool.Order
import PromptScript.Shell.Tool.Paths
import PromptScript.Shell.Tool.Processes
import PromptScript.Shell.Tool.Registry
import PromptScript.Shell.Tool.Report
import PromptScript.Shell.Tool.Scripted
import PromptScript.Shell.Tool.Search
import PromptScript.Shell.Tool.Sequence
import PromptScript.Shell.Tool.Surroundings
import PromptScript.Shell.Word
import PromptScript.Text.Base64
import PromptScript.Text.Basic
import PromptScript.Text.Case
import PromptScript.Text.Category
import PromptScript.Text.Digest
import PromptScript.Text.Property
import PromptScript.Text.Runs
import PromptScript.Text.Utf8
import PromptScript.Text.WritingSystem
import PromptScript.Timestamp
import PromptScript.Toml.Reader
import PromptScript.Uri.Basic
import PromptScript.Uri.Reader
import PromptScript.Variables.Store
import PromptScript.Variables.Substitute
