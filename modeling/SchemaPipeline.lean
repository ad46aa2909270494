import SchemaPipeline.Agenda
import SchemaPipeline.Command.Arguments
import SchemaPipeline.Command.Check
import SchemaPipeline.Command.Help
import SchemaPipeline.Command.Invocation
import SchemaPipeline.Command.Run
import SchemaPipeline.Command.Transcript
import SchemaPipeline.Command.Validate
import SchemaPipeline.Config.Basic
import SchemaPipeline.Config.Decode
import SchemaPipeline.Config.Environment
import SchemaPipeline.Config.Yaml
import SchemaPipeline.Documents
import SchemaPipeline.Engine.Context
import SchemaPipeline.Engine.Format
import SchemaPipeline.Engine.Inquiry
import SchemaPipeline.Engine.Judge
import SchemaPipeline.Engine.Report
import SchemaPipeline.Engine.Retrieval
import SchemaPipeline.Engine.Scripted
import SchemaPipeline.Engine.Session
import SchemaPipeline.Engine.Settings
import SchemaPipeline.Fetch.Cache
import SchemaPipeline.Fetch.Network
import SchemaPipeline.Files
import SchemaPipeline.Formats.Clock
import SchemaPipeline.Formats.Mailbox
import SchemaPipeline.Formats.Template
import SchemaPipeline.Fresh
import SchemaPipeline.Idna.Direction
import SchemaPipeline.Idna.Domain
import SchemaPipeline.Idna.Hostname
import SchemaPipeline.Idna.Mapping
import SchemaPipeline.Json.Binary64
import SchemaPipeline.Json.Reader
import SchemaPipeline.Json.Shortest
import SchemaPipeline.Json.Skim
import SchemaPipeline.Json.Value
import SchemaPipeline.Json.Writer
import SchemaPipeline.Load
import SchemaPipeline.Main
import SchemaPipeline.Pattern.Basic
import SchemaPipeline.Pattern.Bracket
import SchemaPipeline.Pattern.CharSet
import SchemaPipeline.Pattern.Commitment
import SchemaPipeline.Pattern.Escape
import SchemaPipeline.Pattern.Grammar
import SchemaPipeline.Pattern.NamedSet
import SchemaPipeline.Pattern.Reader
import SchemaPipeline.Pipeline.Basic
import SchemaPipeline.Pointer
import SchemaPipeline.Proofs.Agenda.Graph
import SchemaPipeline.Proofs.Agenda.Search
import SchemaPipeline.Reference.Resolution
import SchemaPipeline.Reference.Uri
import SchemaPipeline.Registry.Basic
import SchemaPipeline.Registry.Compile
import SchemaPipeline.Schema.Draft
import SchemaPipeline.Schema.Resource
import SchemaPipeline.Schema.Tree
import SchemaPipeline.Text.Blank
import SchemaPipeline.Text.Percent
import SchemaPipeline.Text.Pieces
import SchemaPipeline.Text.Punycode
import SchemaPipeline.Text.Utf8
import SchemaPipeline.Transform.Defaults
import SchemaPipeline.Transform.Edits
import SchemaPipeline.Transform.Filling
import SchemaPipeline.Unicode.Case
import SchemaPipeline.Unicode.Category
import SchemaPipeline.Unicode.Direction
import SchemaPipeline.Unicode.Joining
import SchemaPipeline.Unicode.Naming
import SchemaPipeline.Unicode.Normal
import SchemaPipeline.Unicode.Property
import SchemaPipeline.Unicode.Script
import SchemaPipeline.Unicode.Table
import SchemaPipeline.Uri.Basic
import SchemaPipeline.Uri.Resolve
import SchemaPipeline.Url.Basic
import SchemaPipeline.Url.Host
import SchemaPipeline.Url.Parser
import SchemaPipeline.Url.Path
import SchemaPipeline.Validation.Dialect
import SchemaPipeline.Validation.Fault
import SchemaPipeline.Validation.Judgment
import SchemaPipeline.Validation.Keyword
import SchemaPipeline.Validation.Library
import SchemaPipeline.Validation.Likeness
import SchemaPipeline.Validation.Metaschema
import SchemaPipeline.Validation.Obligation
import SchemaPipeline.Validation.Plan
import SchemaPipeline.Validation.Rule
import SchemaPipeline.Validation.SchemaError
import SchemaPipeline.Validation.Scope
import SchemaPipeline.Validation.Standard
import SchemaPipeline.Validation.StandardFormat
import SchemaPipeline.Validation.Vocabulary
import SchemaPipeline.Walk.Basic
import SchemaPipeline.Walk.Effective
import SchemaPipeline.Yaml.Cursor
import SchemaPipeline.Yaml.Layout
import SchemaPipeline.Yaml.Look
import SchemaPipeline.Yaml.Node
import SchemaPipeline.Yaml.Property
import SchemaPipeline.Yaml.Reader
import SchemaPipeline.Yaml.Scalar
import SchemaPipeline.Yaml.Token
import SchemaPipeline.Yaml.Value
import SchemaPipeline.Proofs.Agenda.Admission
import SchemaPipeline.Proofs.Agenda.Counting
import SchemaPipeline.Proofs.Agenda.Order
import SchemaPipeline.Proofs.Formats.Synchronous
import SchemaPipeline.Proofs.Registry.Coverage
import SchemaPipeline.Proofs.Fetch.Retention
import SchemaPipeline.Proofs.Registry.Course
import SchemaPipeline.Proofs.Registry.Rounds
import SchemaPipeline.Proofs.Registry.Safety
import SchemaPipeline.Proofs.Transform.Idempotence
import SchemaPipeline.Proofs.Walk.Distinct
import SchemaPipeline.Proofs.Walk.Order
import SchemaPipeline.Proofs.Engine.Table
import SchemaPipeline.Proofs.Engine.Referral
import SchemaPipeline.Proofs.Registry.Examination
import SchemaPipeline.Proofs.Registry.Transparency
import SchemaPipeline.Proofs.Schema.Resources
import SchemaPipeline.Proofs.Validation.Lookup
import SchemaPipeline.Proofs.Validation.Quiet
import SchemaPipeline.Proofs.Pointer.Index
import SchemaPipeline.Proofs.Pointer.Text
import SchemaPipeline.Proofs.Fetch.History
import SchemaPipeline.Proofs.Walk.Addresses
import SchemaPipeline.Proofs.Pipeline.Contract
import SchemaPipeline.Proofs.Pipeline.Interleaving
import SchemaPipeline.Proofs.Formats.Registration
import SchemaPipeline.Proofs.Schema.Positions
import SchemaPipeline.Proofs.Schema.Anchors
import SchemaPipeline.Proofs.Reference.Ownership
import SchemaPipeline.Proofs.Transform.Filled
import SchemaPipeline.Proofs.Formats.Passes
import SchemaPipeline.Proofs.Walk.Ending
import SchemaPipeline.Proofs.Walk.Extent
import SchemaPipeline.Proofs.Transform.Expansion
import SchemaPipeline.Proofs.Transform.Inserted
import SchemaPipeline.Proofs.Transform.Feeding
import SchemaPipeline.Proofs.Text.Utf8
import SchemaPipeline.Proofs.Pointer.Fragment
import SchemaPipeline.Proofs.Walk.Chain
import SchemaPipeline.Proofs.Schema.Places
import SchemaPipeline.Proofs.Schema.References
import SchemaPipeline.Proofs.Engine.Retrieval
import SchemaPipeline.Proofs.Registry.Gains
import SchemaPipeline.Proofs.Agenda.Permutation
import SchemaPipeline.Proofs.Registry.Blame
import SchemaPipeline.Proofs.Transform.Origin
import SchemaPipeline.Proofs.Command.Reports
import SchemaPipeline.Proofs.Config.Spelling
import SchemaPipeline.Proofs.Config.Variables
import SchemaPipeline.Proofs.Schema.Declarations
