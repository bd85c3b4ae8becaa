import CommandAgent.Agent
import CommandAgent.Archive.Deflate
import CommandAgent.Archive.Zip.Basic
import CommandAgent.Archive.Zip.Content
import CommandAgent.Archive.Zip.Directory
import CommandAgent.Archive.Zip.EndRecord
import CommandAgent.Archive.Zip.Extra
import CommandAgent.Batch.Bundle
import CommandAgent.Batch.Handler
import CommandAgent.Batch.Invocation
import CommandAgent.Batch.Output
import CommandAgent.Batch.Run
import CommandAgent.Cipher.Block
import CommandAgent.Cipher.Chaining
import CommandAgent.CommandLine
import CommandAgent.Database.Link
import CommandAgent.Database.Mysql
import CommandAgent.Database.Oracle
import CommandAgent.Encoding.Base64
import CommandAgent.ErrorCodes
import CommandAgent.Failure
import CommandAgent.Handler.Basic
import CommandAgent.Handler.Executor
import CommandAgent.Host.Base
import CommandAgent.Host.Environment
import CommandAgent.Host.FileSystem
import CommandAgent.Host.Machine
import CommandAgent.Host.Path
import CommandAgent.Host.Search
import CommandAgent.Host.World
import CommandAgent.Http.Exchange
import CommandAgent.Interactive.Handler
import CommandAgent.Interactive.Prompt
import CommandAgent.Json.Basic
import CommandAgent.Json.Expect
import CommandAgent.Json.Merge
import CommandAgent.Json.Printer
import CommandAgent.Json.Reader
import CommandAgent.Log.Level
import CommandAgent.Log.Logger
import CommandAgent.Log.Stamp
import CommandAgent.Log.Tree
import CommandAgent.Main
import CommandAgent.Number.Binary64
import CommandAgent.Orchestrator.Decision
import CommandAgent.Orchestrator.Reporter
import CommandAgent.Plan.Basic
import CommandAgent.Plan.Check
import CommandAgent.Plan.Document
import CommandAgent.Plan.Load
import CommandAgent.Plan.Overlay
import CommandAgent.Proofs.Batch.Arguments
import CommandAgent.Proofs.Batch.Banner
import CommandAgent.Proofs.Batch.Marker
import CommandAgent.Proofs.Batch.Once
import CommandAgent.Proofs.Batch.Verdict
import CommandAgent.Proofs.Cipher.Block
import CommandAgent.Proofs.Cipher.Chaining
import CommandAgent.Proofs.Cipher.Lengths
import CommandAgent.Proofs.Cipher.Opening
import CommandAgent.Proofs.CommandLine
import CommandAgent.Proofs.Database.Credentials
import CommandAgent.Proofs.Handler.Connection
import CommandAgent.Proofs.Handler.Life
import CommandAgent.Proofs.Handler.Preview
import CommandAgent.Proofs.Handler.Secrecy
import CommandAgent.Proofs.Host.Alike
import CommandAgent.Proofs.Host.Growth
import CommandAgent.Proofs.Host.Removal
import CommandAgent.Proofs.Host.Steps
import CommandAgent.Proofs.Interactive.Attribution
import CommandAgent.Proofs.Interactive.Output
import CommandAgent.Proofs.Interactive.Prompt
import CommandAgent.Proofs.Json.Algebra
import CommandAgent.Proofs.Json.Canonical
import CommandAgent.Proofs.Json.Entries
import CommandAgent.Proofs.Json.Equality
import CommandAgent.Proofs.Json.Grammar
import CommandAgent.Proofs.Json.Ignored
import CommandAgent.Proofs.Json.Nulls
import CommandAgent.Proofs.Json.Numbers
import CommandAgent.Proofs.Json.Overlay
import CommandAgent.Proofs.Json.Quoted
import CommandAgent.Proofs.Json.Ranged
import CommandAgent.Proofs.Json.Record
import CommandAgent.Proofs.Json.RoundTrip
import CommandAgent.Proofs.Json.Scan
import CommandAgent.Proofs.Json.Spelling
import CommandAgent.Proofs.Json.Strings
import CommandAgent.Proofs.Json.Tokens
import CommandAgent.Proofs.Log.Journal
import CommandAgent.Proofs.Log.Lines
import CommandAgent.Proofs.Log.Secrecy
import CommandAgent.Proofs.Log.Tree
import CommandAgent.Proofs.Orchestrator.Decision
import CommandAgent.Proofs.Orchestrator.Reporter
import CommandAgent.Proofs.Orchestrator.Secrecy
import CommandAgent.Proofs.Plan.Absence
import CommandAgent.Proofs.Plan.Completion
import CommandAgent.Proofs.Plan.Failures
import CommandAgent.Proofs.Plan.Files
import CommandAgent.Proofs.Plan.Held
import CommandAgent.Proofs.Plan.Mark
import CommandAgent.Proofs.Plan.Reload
import CommandAgent.Proofs.Plan.Rereading
import CommandAgent.Proofs.Plan.Sealed
import CommandAgent.Proofs.Plan.Stages
import CommandAgent.Proofs.Plan.Transparency
import CommandAgent.Proofs.Plan.Validity
import CommandAgent.Proofs.Plan.Variables
import CommandAgent.Proofs.Task.CommandStream
import CommandAgent.Proofs.Task.Consent
import CommandAgent.Proofs.Task.Endpoints
import CommandAgent.Proofs.Task.Exchanges
import CommandAgent.Proofs.Task.Lifecycle
import CommandAgent.Proofs.Task.Recorded
import CommandAgent.Proofs.Task.Secrecy
import CommandAgent.Proofs.Task.Story
import CommandAgent.Proofs.Terminal.Release
import CommandAgent.Proofs.Redaction.Between
import CommandAgent.Proofs.Redaction.Members
import CommandAgent.Proofs.Redaction.Removal
import CommandAgent.Proofs.Text.Boundary
import CommandAgent.Proofs.Text.Bounds
import CommandAgent.Proofs.Text.Decoding
import CommandAgent.Proofs.Text.Masking
import CommandAgent.Proofs.Text.Pattern
import CommandAgent.Proofs.Text.Pieces
import CommandAgent.Proofs.Text.Search
import CommandAgent.Proofs.Text.Trimming
import CommandAgent.Proofs.Text.Utf8
import CommandAgent.Proofs.Url.Authority
import CommandAgent.Proofs.Url.Base
import CommandAgent.Proofs.Url.Host
import CommandAgent.Proofs.Url.Ipv6
import CommandAgent.Proofs.Url.Path
import CommandAgent.Proofs.Url.Percent
import CommandAgent.Proofs.Url.RoundTrip
import CommandAgent.Proofs.Url.Special
import CommandAgent.Redaction
import CommandAgent.Shell.Arithmetic
import CommandAgent.Shell.Condition
import CommandAgent.Shell.Evaluate
import CommandAgent.Shell.Expansion
import CommandAgent.Shell.Filter
import CommandAgent.Shell.Format
import CommandAgent.Shell.Lexer
import CommandAgent.Shell.Machine
import CommandAgent.Shell.Parser
import CommandAgent.Shell.Pattern
import CommandAgent.Shell.Process
import CommandAgent.Shell.Syntax
import CommandAgent.Shell.Utility
import CommandAgent.Standalone
import CommandAgent.Task.Event
import CommandAgent.Task.Run
import CommandAgent.Terminal.Basic
import CommandAgent.Terminal.Console
import CommandAgent.Terminal.Discipline
import CommandAgent.Terminal.Parties
import CommandAgent.Terminal.Session
import CommandAgent.Terminal.Spawn
import CommandAgent.Text.Blank
import CommandAgent.Text.Preview
import CommandAgent.Text.Quote
import CommandAgent.Text.Utf8
import CommandAgent.Unicode.Direction
import CommandAgent.Unicode.Folding
import CommandAgent.Unicode.Joining
import CommandAgent.Unicode.Mark
import CommandAgent.Unicode.Normal
import CommandAgent.Unicode.Table
import CommandAgent.Url.Basic
import CommandAgent.Url.DomainName
import CommandAgent.Url.Fault
import CommandAgent.Url.Form
import CommandAgent.Url.Host
import CommandAgent.Url.Percent
import CommandAgent.Url.Punycode
import CommandAgent.Proofs.Batch.Leftovers
