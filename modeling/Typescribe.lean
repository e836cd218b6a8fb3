import Typescribe.Builder
import Typescribe.Configuration
import Typescribe.Decimal.Binary64
import Typescribe.Decimal.Reading
import Typescribe.Decimal.Shortest
import Typescribe.Definition.Declaration
import Typescribe.Definition.Decorator
import Typescribe.Definition.Member
import Typescribe.Definition.Modifier
import Typescribe.Diagnostic
import Typescribe.Failure
import Typescribe.Feature
import Typescribe.Flags
import Typescribe.Folder
import Typescribe.Indent
import Typescribe.Json.Basic
import Typescribe.Json.Form
import Typescribe.Model.Classifier
import Typescribe.Model.Member
import Typescribe.Model.Multiplicity
import Typescribe.Model.TypeRef
import Typescribe.Model.ValueSpec
import Typescribe.Model.Visibility
import Typescribe.Naming
import Typescribe.Options
import Typescribe.Program
import Typescribe.Proofs.Blindness
import Typescribe.Proofs.Lines
import Typescribe.Rendering.Declaration
import Typescribe.Rendering.Docs
import Typescribe.Rendering.Member
import Typescribe.Resolver
import Typescribe.Sheet
import Typescribe.Text.Blank
import Typescribe.Text.CaseTable
import Typescribe.Text.Casing
import Typescribe.Text.Digits
import Typescribe.Text.Quoted
import Typescribe.Text.Split
import Typescribe.Text.Wrap
import Typescribe.Toml.Basic
import Typescribe.Toml.Document
import Typescribe.Toml.Moment
import Typescribe.Toml.Number
import Typescribe.Toml.Quotation
import Typescribe.Toml.Space
import Typescribe.Toml.Table
import Typescribe.Toml.Value
import Typescribe.Writer.Basic
import Typescribe.Writer.Block
import Typescribe.Writer.FromModel
import Typescribe.Proofs.Programs
import Typescribe.Proofs.Blocks
import Typescribe.Proofs.Comments
import Typescribe.Proofs.Documentation
import Typescribe.Proofs.Brackets
import Typescribe.Proofs.Avoiding
import Typescribe.Proofs.LineRules
import Typescribe.Proofs.Nesting
import Typescribe.Proofs.Literals
import Typescribe.Proofs.Members
import Typescribe.Proofs.Delimiters
import Typescribe.Proofs.Digits
import Typescribe.Proofs.PropertyLines
import Typescribe.Proofs.Signatures
import Typescribe.Proofs.Optionality
import Typescribe.Proofs.EnumTexts
import Typescribe.Proofs.Tokens
import Typescribe.Proofs.Failures
import Typescribe.Proofs.Changes
import Typescribe.Proofs.Levels
import Typescribe.Proofs.Appending
import Typescribe.Proofs.Traversal
import Typescribe.Proofs.Lossless
import Typescribe.Proofs.FlagTexts
import Typescribe.Proofs.Records
import Typescribe.Proofs.RealFree
import Typescribe.Proofs.CallbackFree
import Typescribe.Proofs.RecordKinds
import Typescribe.Proofs.Initializers
import Typescribe.Proofs.Summaries
import Typescribe.Proofs.Unbroken
import Typescribe.Proofs.Shifting
import Typescribe.Proofs.Headers
import Typescribe.Proofs.CommentLines
import Typescribe.Proofs.Bodies
import Typescribe.Proofs.Imports
import Typescribe.Proofs.TypeNames
import Typescribe.Proofs.Ledgers
import Typescribe.Proofs.Bookings
import Typescribe.Proofs.LegacyPrefix
import Typescribe.Proofs.Renaming
import Typescribe.Proofs.Values
import Typescribe.Proofs.InterfaceMembers
import Typescribe.Proofs.GreedyFill
import Typescribe.Proofs.FewestLines
import Typescribe.Proofs.MissingNames
import Typescribe.Proofs.FeatureScopes
import Typescribe.Proofs.Paragraphs
import Typescribe.Proofs.SignatureLayouts
import Typescribe.Proofs.LiteralUnions
import Typescribe.Proofs.Aliases
import Typescribe.Proofs.WordCasing
