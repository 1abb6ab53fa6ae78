import SymbolScript.Action.Basic
import SymbolScript.Action.Compilation
import SymbolScript.Action.Dispatch
import SymbolScript.Action.NumberCode
import SymbolScript.Action.Rewriting
import SymbolScript.Action.Schema
import SymbolScript.Action.SymbolList
import SymbolScript.Action.TokenCost
import SymbolScript.Base64Number.Basic
import SymbolScript.Base64Number.Literal
import SymbolScript.CommandLine.Arguments
import SymbolScript.CommandLine.Command
import SymbolScript.CommandLine.Run
import SymbolScript.Construct.Bracket
import SymbolScript.Construct.Component
import SymbolScript.Construct.Conditional
import SymbolScript.Construct.Field
import SymbolScript.Construct.Function
import SymbolScript.Construct.Import
import SymbolScript.Construct.Layout
import SymbolScript.Construct.Literal
import SymbolScript.Construct.NumberLiteral
import SymbolScript.Construct.State
import SymbolScript.Construct.Style
import SymbolScript.Construct.TaggedBlock
import SymbolScript.Decimal.Basic
import SymbolScript.Decimal.Binary
import SymbolScript.Decimal.Fixed
import SymbolScript.Decimal.Reading
import SymbolScript.Decimal.Rounding
import SymbolScript.Decimal.Shortest
import SymbolScript.Dictionary
import SymbolScript.Failure
import SymbolScript.Glossary.Basic
import SymbolScript.Glossary.CategoryTheory
import SymbolScript.Glossary.Correspondence
import SymbolScript.Glossary.Expansion
import SymbolScript.Glossary.Fallback
import SymbolScript.Glossary.Tables
import SymbolScript.Instances
import SymbolScript.LanguageModel
import SymbolScript.LogLevel
import SymbolScript.Logging
import SymbolScript.Main
import SymbolScript.Mean
import SymbolScript.Number
import SymbolScript.Pipeline
import SymbolScript.Positional
import SymbolScript.Proofs.Action.Answer
import SymbolScript.Proofs.Action.Finite
import SymbolScript.Proofs.Action.NumberCode
import SymbolScript.Proofs.Action.TokenCost
import SymbolScript.Proofs.Base64Number.Canonical
import SymbolScript.Proofs.Base64Number.FirstLiteral
import SymbolScript.Proofs.Base64Number.Literal
import SymbolScript.Proofs.Base64Number.RoundTrip
import SymbolScript.Proofs.CommandLine.Ending
import SymbolScript.Proofs.CommandLine.Integer
import SymbolScript.Proofs.CommandLine.Numeral
import SymbolScript.Proofs.Construct.Balance
import SymbolScript.Proofs.Construct.Block
import SymbolScript.Proofs.Construct.BlockSource
import SymbolScript.Proofs.Construct.BracketKind
import SymbolScript.Proofs.Construct.Comment
import SymbolScript.Proofs.Construct.Component
import SymbolScript.Proofs.Construct.Composite
import SymbolScript.Proofs.Construct.Conditional
import SymbolScript.Proofs.Construct.ConditionalLine
import SymbolScript.Proofs.Construct.DecodedNumbers
import SymbolScript.Proofs.Construct.Field
import SymbolScript.Proofs.Construct.FieldScan
import SymbolScript.Proofs.Construct.Function
import SymbolScript.Proofs.Construct.Import
import SymbolScript.Proofs.Construct.JoinedFields
import SymbolScript.Proofs.Construct.Joining
import SymbolScript.Proofs.Construct.Layout
import SymbolScript.Proofs.Construct.LiteralTree
import SymbolScript.Proofs.Construct.Mark
import SymbolScript.Proofs.Construct.NearestClose
import SymbolScript.Proofs.Construct.NestedBlock
import SymbolScript.Proofs.Construct.Nesting
import SymbolScript.Proofs.Construct.NumberLiteral
import SymbolScript.Proofs.Construct.Respacing
import SymbolScript.Proofs.Construct.SelfContained
import SymbolScript.Proofs.Construct.State
import SymbolScript.Proofs.Construct.StateDeclaration
import SymbolScript.Proofs.Construct.StateString
import SymbolScript.Proofs.Construct.StringLiteral
import SymbolScript.Proofs.Construct.StyleDeclaration
import SymbolScript.Proofs.Construct.TaggedBlock
import SymbolScript.Proofs.Construct.Tidy
import SymbolScript.Proofs.Construct.Unclosed
import SymbolScript.Proofs.Decimal.Binary
import SymbolScript.Proofs.Decimal.Grid
import SymbolScript.Proofs.Decimal.Head
import SymbolScript.Proofs.Decimal.Interval
import SymbolScript.Proofs.Decimal.Nearest
import SymbolScript.Proofs.Decimal.Numeral
import SymbolScript.Proofs.Decimal.Order
import SymbolScript.Proofs.Decimal.Packing
import SymbolScript.Proofs.Decimal.Parts
import SymbolScript.Proofs.Decimal.Place
import SymbolScript.Proofs.Decimal.Reading
import SymbolScript.Proofs.Decimal.Rounding
import SymbolScript.Proofs.Decimal.Shortest
import SymbolScript.Proofs.Decimal.Whole
import SymbolScript.Proofs.Glossary.Basic
import SymbolScript.Proofs.Glossary.Compression
import SymbolScript.Proofs.Glossary.Substitution
import SymbolScript.Proofs.Glossary.WholeWord
import SymbolScript.Proofs.Number
import SymbolScript.Proofs.Pipeline.Composition
import SymbolScript.Proofs.Pipeline.Nesting
import SymbolScript.Proofs.Pipeline.NormalForm
import SymbolScript.Proofs.Pipeline.Numbers
import SymbolScript.Proofs.Pipeline.Stages
import SymbolScript.Proofs.Pipeline.Vectorized
import SymbolScript.Proofs.Positional
import SymbolScript.Proofs.Program.Compile
import SymbolScript.Proofs.Program.Item
import SymbolScript.Proofs.Program.Part
import SymbolScript.Proofs.Program.Rewriting
import SymbolScript.Proofs.Program.Stage
import SymbolScript.Proofs.Report.Table
import SymbolScript.Proofs.Service.Sending
import SymbolScript.Proofs.Service.Settled
import SymbolScript.Proofs.Service.Settled.Costs
import SymbolScript.Proofs.Service.Settled.Numbers
import SymbolScript.Proofs.Service.Settled.Texts
import SymbolScript.Proofs.Service.Status
import SymbolScript.Proofs.SourceFile
import SymbolScript.Proofs.SourceFile.Failure
import SymbolScript.Proofs.SourceFile.Overwriting
import SymbolScript.Proofs.Store.Basic
import SymbolScript.Proofs.Store.Path
import SymbolScript.Proofs.SymbolChoice.Refinement
import SymbolScript.Proofs.Text.Basic
import SymbolScript.Proofs.Text.Casing
import SymbolScript.Proofs.Text.Recogniser
import SymbolScript.Proofs.Text.Run
import SymbolScript.Proofs.Text.Utf8
import SymbolScript.Proofs.Text.WordChar
import SymbolScript.Proofs.TokenCost
import SymbolScript.Proofs.Value
import SymbolScript.Proofs.VectorNumber.Boundary
import SymbolScript.Proofs.VectorNumber.Decoding
import SymbolScript.Proofs.VectorNumber.Failure
import SymbolScript.Proofs.VectorNumber.Fractional
import SymbolScript.Proofs.VectorNumber.Glyphs
import SymbolScript.Proofs.VectorNumber.Grammar
import SymbolScript.Proofs.VectorNumber.Literal
import SymbolScript.Proofs.VectorNumber.Numeral
import SymbolScript.Proofs.VectorNumber.Part
import SymbolScript.Proofs.VectorNumber.RoundTrip
import SymbolScript.Proofs.VectorNumber.Whole
import SymbolScript.Proofs.WordCode
import SymbolScript.Report.Adaptation
import SymbolScript.Report.Base64Number
import SymbolScript.Report.Basic
import SymbolScript.Report.Catalogue
import SymbolScript.Report.CategoryTheory
import SymbolScript.Report.Cluster
import SymbolScript.Report.KeywordSpelling
import SymbolScript.Report.Recognition
import SymbolScript.Report.Refinement
import SymbolScript.Report.StyleSheet
import SymbolScript.Report.Table
import SymbolScript.Report.TypeMark
import SymbolScript.Report.VectorNumber
import SymbolScript.Service.Endpoint
import SymbolScript.Service.Operation
import SymbolScript.Service.Page
import SymbolScript.Service.Routes
import SymbolScript.Service.Standalone
import SymbolScript.Settings
import SymbolScript.SourceFile
import SymbolScript.Store.Basic
import SymbolScript.Store.Path
import SymbolScript.SymbolChoice.Cluster
import SymbolScript.SymbolChoice.Efficiency
import SymbolScript.SymbolChoice.Recognition
import SymbolScript.Text.Basic
import SymbolScript.Text.Blank
import SymbolScript.Text.Casing
import SymbolScript.Text.Category
import SymbolScript.Text.CodePoints
import SymbolScript.Text.Digit
import SymbolScript.Text.Printable
import SymbolScript.Text.Quoted
import SymbolScript.Text.Recogniser
import SymbolScript.Text.Utf8
import SymbolScript.Text.WordChar
import SymbolScript.TokenCost
import SymbolScript.Value
import SymbolScript.VectorNumber.Basic
import SymbolScript.VectorNumber.Literal
import SymbolScript.VectorNumber.Numeral
import SymbolScript.WordCode
