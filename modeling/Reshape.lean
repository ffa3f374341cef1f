import Reshape.Arguments
import Reshape.Arguments.Grammar
import Reshape.Arguments.Reader
import Reshape.Calendar.Date
import Reshape.Calendar.Directive
import Reshape.Calendar.Fields
import Reshape.Calendar.Moment
import Reshape.Calendar.Reader
import Reshape.Calendar.Writer
import Reshape.Catalog
import Reshape.Command
import Reshape.Command.Action
import Reshape.Command.Check
import Reshape.Command.Inputs
import Reshape.Command.Map
import Reshape.Command.Show
import Reshape.Container
import Reshape.Descriptor
import Reshape.Descriptor.Builder
import Reshape.Descriptor.Json
import Reshape.Digest.Sha256
import Reshape.Engine
import Reshape.Engine.Batch
import Reshape.Engine.Shared
import Reshape.Engine.Switches
import Reshape.Error
import Reshape.Error.Json
import Reshape.FileName
import Reshape.Files
import Reshape.Filter.Arguments
import Reshape.Filter.Builtin
import Reshape.Filter.Collection
import Reshape.Filter.Conversion
import Reshape.Filter.Date
import Reshape.Filter.Failure
import Reshape.Filter.Json
import Reshape.Filter.Pattern
import Reshape.Filter.Reference
import Reshape.Filter.Registry
import Reshape.Filter.Text
import Reshape.Json.Decode
import Reshape.Json.Reader
import Reshape.Json.Value
import Reshape.Json.Writer
import Reshape.Log
import Reshape.Log.Event
import Reshape.Log.Filter
import Reshape.Log.Format
import Reshape.Log.Line
import Reshape.Main
import Reshape.Number.Binary64
import Reshape.Number.Shortest
import Reshape.Number.Text
import Reshape.Output
import Reshape.Output.Format
import Reshape.Output.Listing
import Reshape.Output.Paint
import Reshape.Overrides
import Reshape.Overrides.Json
import Reshape.Path
import Reshape.Pattern.Bracket
import Reshape.Pattern.CharSet
import Reshape.Pattern.Expr
import Reshape.Pattern.Memory
import Reshape.Pattern.Primitive
import Reshape.Pattern.Program
import Reshape.Pattern.Property
import Reshape.Pattern.Reader
import Reshape.Pattern.Replace
import Reshape.Pattern.Search
import Reshape.Pipeline
import Reshape.Plan
import Reshape.Plan.Build
import Reshape.Plan.Cache
import Reshape.Plan.Trace
import Reshape.Problem
import Reshape.Program
import Reshape.Proofs.Catalog
import Reshape.Proofs.Catalog.Acceptance
import Reshape.Proofs.Catalog.Json
import Reshape.Proofs.Command.Batch
import Reshape.Proofs.Command.Check
import Reshape.Proofs.Command.Effects
import Reshape.Proofs.Command.Outcome
import Reshape.Proofs.Descriptor
import Reshape.Proofs.Engine.Answers
import Reshape.Proofs.Engine.Appended
import Reshape.Proofs.Engine.Batch
import Reshape.Proofs.Engine.Build
import Reshape.Proofs.Engine.Calls
import Reshape.Proofs.Engine.Counts
import Reshape.Proofs.Engine.Plans
import Reshape.Proofs.Engine.Reads
import Reshape.Proofs.Engine.Repeated
import Reshape.Proofs.Engine.Transparency
import Reshape.Proofs.Filter.Idempotent
import Reshape.Proofs.Filter.Integer
import Reshape.Proofs.Filter.Reference
import Reshape.Proofs.Filter.Separator
import Reshape.Proofs.Filter.Slice
import Reshape.Proofs.Filter.Uniform
import Reshape.Proofs.Json.Characters
import Reshape.Proofs.Json.Injective
import Reshape.Proofs.Number.Rounding
import Reshape.Proofs.Number.Shortest
import Reshape.Proofs.Number.Text
import Reshape.Proofs.Number.Whole
import Reshape.Proofs.Outcome
import Reshape.Proofs.Output
import Reshape.Proofs.Overrides.Canonical
import Reshape.Proofs.Overrides.Fingerprint
import Reshape.Proofs.Path
import Reshape.Proofs.Path.Address
import Reshape.Proofs.Path.Malformed
import Reshape.Proofs.Pattern.CharSet
import Reshape.Proofs.Pipeline
import Reshape.Proofs.Plan.Answers
import Reshape.Proofs.Plan.Appended
import Reshape.Proofs.Plan.Build
import Reshape.Proofs.Plan.Cache
import Reshape.Proofs.Plan.Failure
import Reshape.Proofs.Plan.Precedence
import Reshape.Proofs.Plan.Run
import Reshape.Proofs.Plan.Sources
import Reshape.Proofs.Problem
import Reshape.Proofs.Records
import Reshape.Proofs.Redaction
import Reshape.Proofs.Sorted
import Reshape.Proofs.Template.Alternatives
import Reshape.Proofs.Template.Append
import Reshape.Proofs.Template.Check
import Reshape.Proofs.Template.Complete
import Reshape.Proofs.Template.Cursor
import Reshape.Proofs.Template.Grammar
import Reshape.Proofs.Template.Known
import Reshape.Proofs.Template.Literal
import Reshape.Proofs.Template.Marks
import Reshape.Proofs.Template.Opening
import Reshape.Proofs.Template.Place
import Reshape.Proofs.Template.Readable
import Reshape.Proofs.Template.Regroup
import Reshape.Proofs.Template.Reprint
import Reshape.Proofs.Template.Reread
import Reshape.Proofs.Template.Sound
import Reshape.Proofs.Template.Spelling
import Reshape.Proofs.Text
import Reshape.Proofs.Text.Occurrences
import Reshape.Proofs.Words
import Reshape.Proofs.Words.Notation
import Reshape.Proofs.Words.Segmentation
import Reshape.Records
import Reshape.Redaction
import Reshape.Setting
import Reshape.Settings
import Reshape.Settings.Reader
import Reshape.Settings.Writer
import Reshape.Sorted
import Reshape.Template.Checked
import Reshape.Template.Eval
import Reshape.Template.Expr
import Reshape.Template.Fault
import Reshape.Template.Reader
import Reshape.Template.Token
import Reshape.Text.Basic
import Reshape.Text.Case
import Reshape.Text.CaseTable
import Reshape.Text.Category
import Reshape.Text.Fold
import Reshape.Text.Property
import Reshape.Text.Quoted
import Reshape.Text.Ranges
import Reshape.Text.Script
import Reshape.Text.Table
import Reshape.Text.Trait
import Reshape.Toml.Reader
import Reshape.Toml.Scalar
import Reshape.Toml.Text
import Reshape.Toml.Value
import Reshape.Toml.Writer
import Reshape.Words
import Reshape.Yaml.Character
import Reshape.Yaml.Document
import Reshape.Yaml.Json
import Reshape.Yaml.Node
import Reshape.Yaml.Plain
import Reshape.Yaml.Scalar
import Reshape.Yaml.Tag
import Reshape.Yaml.Token
import Reshape.Yaml.Token.Lexer
import Reshape.Yaml.Writer
