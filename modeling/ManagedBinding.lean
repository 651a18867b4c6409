import ManagedBinding.Diagnostic.Finding
import ManagedBinding.Eligibility
import ManagedBinding.Include
import ManagedBinding.Json.Basic
import ManagedBinding.Json.Reader
import ManagedBinding.Json.Writer
import ManagedBinding.Model.CompilationUnit
import ManagedBinding.Model.Declaration
import ManagedBinding.Model.Geometry
import ManagedBinding.Model.Member
import ManagedBinding.Model.NativeType
import ManagedBinding.Model.Operator
import ManagedBinding.Number.Binary64
import ManagedBinding.Number.Digits
import ManagedBinding.Number.Numeral
import ManagedBinding.Number.Range
import ManagedBinding.Options.Basic
import ManagedBinding.Options.Document
import ManagedBinding.Options.Error
import ManagedBinding.Render.Header
import ManagedBinding.Render.HookTable
import ManagedBinding.Render.Identifier
import ManagedBinding.Render.IndentedText
import ManagedBinding.Render.Layout
import ManagedBinding.Render.LogEvent
import ManagedBinding.Render.Rendering
import ManagedBinding.Render.TypePrinter
import ManagedBinding.Schema.Decode
import ManagedBinding.Schema.Encode
import ManagedBinding.Schema.Error
import ManagedBinding.Schema.Kind
import ManagedBinding.Schema.Vocabulary
import ManagedBinding.Text.Blank
import ManagedBinding.Text.Invisible
import ManagedBinding.Text.Lines
import ManagedBinding.Text.Quoted
import ManagedBinding.Text.Scopes
import ManagedBinding.Text.Wrap
import ManagedBinding.Toml.Blank
import ManagedBinding.Toml.DateTime
import ManagedBinding.Toml.Document
import ManagedBinding.Toml.Numeral
import ManagedBinding.Toml.Quoted
import ManagedBinding.Toml.Scalar
import ManagedBinding.Toml.Span
import ManagedBinding.Toml.Table
import ManagedBinding.Toml.Value
import ManagedBinding.Proofs.Json.DistinctKeys
import ManagedBinding.Proofs.Schema.Readers
import ManagedBinding.Proofs.Schema.RoundTrip
import ManagedBinding.Proofs.Render.Listing
import ManagedBinding.Proofs.Render.Writing
import ManagedBinding.Proofs.Render.Emission
import ManagedBinding.Proofs.Model.ExclusionRules
import ManagedBinding.Proofs.Header.Reference
import ManagedBinding.Proofs.Header.Refinement
import ManagedBinding.Proofs.Header.Eligibility
import ManagedBinding.Proofs.Text.Wrap
import ManagedBinding.Proofs.Header.CommentLines
import ManagedBinding.Proofs.Render.OperationRun
import ManagedBinding.Proofs.Header.HookedRun
import ManagedBinding.Proofs.Header.IncludeBlock
import ManagedBinding.Proofs.Schema.Acceptance
import ManagedBinding.Proofs.Text.Scopes
import ManagedBinding.Proofs.Text.Runs
import ManagedBinding.Proofs.Text.Paragraphs
import ManagedBinding.Proofs.Text.Packing
import ManagedBinding.Proofs.Text.GreedyWrap
import ManagedBinding.Proofs.Text.FewestLines
import ManagedBinding.Proofs.Text.VisibleWords
import ManagedBinding.Proofs.Header.SummaryBlock
import ManagedBinding.Proofs.Options.Decision
import ManagedBinding.Proofs.Options.QualifiedNames
import ManagedBinding.Proofs.Header.ConstructorParameters
import ManagedBinding.Proofs.Header.Visibility
import ManagedBinding.Proofs.Header.InlineComments
import ManagedBinding.Proofs.Header.PrintedTypes
import ManagedBinding.Proofs.Render.Registrations
import ManagedBinding.Proofs.Schema.Slots
import ManagedBinding.Proofs.Schema.Inside
import ManagedBinding.Proofs.Schema.FieldChanges
import ManagedBinding.Proofs.Schema.Positions
import ManagedBinding.Proofs.Include.Insertions
import ManagedBinding.Proofs.Model.TypeChains
import ManagedBinding.Proofs.Model.UniqueSpelling
import ManagedBinding.Proofs.Text.Rewrapping
import ManagedBinding.Proofs.Include.Comparison
import ManagedBinding.Proofs.Options.UnambiguousNames
import ManagedBinding.Proofs.Header.ParameterLists
import ManagedBinding.Proofs.Model.MethodCalls
import ManagedBinding.Proofs.Model.Frames
