import Registrar.Decimal.Fraction
import Registrar.Decimal.Shortest
import Registrar.Decimal.Whole
import Registrar.Descriptor.Basic
import Registrar.Descriptor.Check
import Registrar.Descriptor.Fault
import Registrar.Descriptor.Reader
import Registrar.Descriptor.Slot
import Registrar.Entries
import Registrar.Failure
import Registrar.Http.Message
import Registrar.Http.Percent
import Registrar.Http.Route
import Registrar.Http.Server
import Registrar.Json.Basic
import Registrar.Json.Draft
import Registrar.Json.Printer
import Registrar.Key
import Registrar.Operation
import Registrar.Pattern.Automaton
import Registrar.Pattern.Basic
import Registrar.Pattern.Bytes
import Registrar.Pattern.CharSet
import Registrar.Pattern.Form
import Registrar.Pattern.Formats
import Registrar.Pattern.Property
import Registrar.Pattern.Reader
import Registrar.Pattern.Spans
import Registrar.Pattern.Trie
import Registrar.Query.Basic
import Registrar.Query.Compile
import Registrar.Record.Basic
import Registrar.Record.Merge
import Registrar.Record.Validation
import Registrar.Registry
import Registrar.Rule.Basic
import Registrar.Rule.Tag
import Registrar.Schema
import Registrar.Service.Basic
import Registrar.Service.Lifecycle
import Registrar.Settings
import Registrar.Sorting
import Registrar.Statement.Basic
import Registrar.Statement.Bind
import Registrar.Statement.Buffer
import Registrar.Statement.Build
import Registrar.Store.Basic
import Registrar.Store.Filter
import Registrar.Store.Table
import Registrar.Text.Blank
import Registrar.Text.Break
import Registrar.Text.Category
import Registrar.Text.Edition
import Registrar.Text.Fold
import Registrar.Text.Hex
import Registrar.Text.Letter
import Registrar.Text.Property
import Registrar.Text.Ranges
import Registrar.Text.Runs
import Registrar.Text.Script
import Registrar.Text.Split
import Registrar.Text.Upper
import Registrar.Text.Utf8
import Registrar.Validator
import Registrar.Value.Basic
import Registrar.Value.Json
import Registrar.Value.Kind
import Registrar.Value.Literal
import Registrar.Value.Order
import Registrar.Verdict
import Registrar.Proofs.Keys
import Registrar.Proofs.Outcomes
import Registrar.Proofs.Resolving
import Registrar.Proofs.Comparing
import Registrar.Proofs.FloatOrder
import Registrar.Proofs.Frozen
import Registrar.Proofs.Selection
import Registrar.Proofs.Tokens
import Registrar.Proofs.Updates
import Registrar.Proofs.Tags
import Registrar.Proofs.Valid
import Registrar.Proofs.NanFree
import Registrar.Proofs.Deletion
import Registrar.Proofs.Failures
import Registrar.Proofs.Stability
import Registrar.Proofs.Serving
import Registrar.Proofs.InPlace
import Registrar.Proofs.Lookups
import Registrar.Proofs.Typing
import Registrar.Proofs.Changes
import Registrar.Proofs.Races
import Registrar.Proofs.Merging
import Registrar.Proofs.Lexing
import Registrar.Proofs.Rendering
import Registrar.Proofs.Executors
import Registrar.Proofs.Secrets
import Registrar.Proofs.Acceptance
import Registrar.Proofs.Scanning
import Registrar.Proofs.Grammar
import Registrar.Proofs.Canonical
import Registrar.Proofs.Creation
import Registrar.Proofs.Revision
import Registrar.Proofs.Checking
import Registrar.Proofs.Verdicts
import Registrar.Proofs.RoundTrip
import Registrar.Proofs.Lossless
import Registrar.Proofs.Addressing
import Registrar.Proofs.Carrying
import Registrar.Proofs.Buffers
import Registrar.Proofs.ByKey
import Registrar.Proofs.Numbering
import Registrar.Proofs.Clauses
import Registrar.Proofs.Columns
import Registrar.Proofs.Ordering
import Registrar.Proofs.Unclosed
import Registrar.Proofs.DottedQuads
