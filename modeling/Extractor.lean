import Extractor.Text.Ranges
import Extractor.Text.Alphabetic
import Extractor.Text.Numeric
import Extractor.Text.Word
import Extractor.Text.Blank
import Extractor.Text.Split
import Extractor.Text.Runs
import Extractor.Text.Printable
import Extractor.Text.Quoted
import Extractor.Text.Uppercase
import Extractor.Keyed
import Extractor.Failure
import Extractor.Number.Binary64
import Extractor.Number.Shortest
import Extractor.Number.Decimal
import Extractor.Json.Value
import Extractor.Json.Reader
import Extractor.Libraries
import Extractor.Number.DecimalText
import Extractor.Libraries.Standard
import Extractor.ValueType
import Extractor.SchemaKind
import Extractor.Literal
import Extractor.Source.Position
import Extractor.Source.Token
import Extractor.Source.Lexer
import Extractor.Css.Token
import Extractor.Css.Component
import Extractor.Css.Grammar
import Extractor.Css.StandIn
import Extractor.XPath.Token
import Extractor.XPath.Grammar
import Extractor.Number.Unsigned
import Extractor.Css.Selector
import Extractor.Css.Reader
import Extractor.XPath.OfCss
import Extractor.XPath.TopLevel
import Extractor.XPath.Predicate
import Extractor.XPath.ToCss
import Extractor.BuildError
import Extractor.Query.Check
import Extractor.Query.Suffix
import Extractor.Regex.Unicode.Category
import Extractor.Regex.Unicode.Script
import Extractor.Regex.Unicode.Age
import Extractor.Regex.Unicode.Binary
import Extractor.Regex.Unicode.Break
import Extractor.Regex.Property
import Extractor.Regex.Syntax
import Extractor.Regex.Spelling
import Extractor.Regex.Trie
import Extractor.Regex.Form
import Extractor.Regex.Size
import Extractor.Regex.Reader
import Extractor.Pattern
import Extractor.JsonShape.Basic
import Extractor.JsonShape.Infer
import Extractor.Predicate.Text
import Extractor.Predicate.Element
import Extractor.Chain.Operation
import Extractor.Chain.Basic
import Extractor.Draft.TextFilter
import Extractor.Draft.ElementFilter
import Extractor.Draft.Basic
import Extractor.Check.Error
import Extractor.AssembleError
import Extractor.Schema.Basic
import Extractor.Schema.Registry
import Extractor.Check.Chain
import Extractor.Check.Schema
import Extractor.Program.Basic
import Extractor.Program.Json
import Extractor.Program.Lower
import Extractor.Signature
import Extractor.Conversion
import Extractor.Module.Order
import Extractor.Module.Basic
import Extractor.Declaration.Error
import Extractor.Declaration.Arguments
import Extractor.Declaration.Method
import Extractor.Declaration.Expression
import Extractor.Declaration.Module
import Extractor.Command.Basic
import Extractor.Command.Line
import Extractor.Main
import Extractor.Proofs.Outcome
import Extractor.Proofs.Dependencies
import Extractor.Proofs.Flow
import Extractor.Proofs.Draft
import Extractor.Proofs.Checked
import Extractor.Proofs.Conversion
import Extractor.Proofs.Assembly
import Extractor.Proofs.Declaration
import Extractor.Proofs.Linking
import Extractor.Proofs.Recheck
import Extractor.Proofs.Characters
import Extractor.Proofs.Lexing
import Extractor.Proofs.Numerals
import Extractor.Proofs.Reading
import Extractor.Proofs.ShapeText
import Extractor.Proofs.LiteralText
import Extractor.Proofs.Inference
import Extractor.Proofs.DeclarationTokens
import Extractor.Proofs.SelectorText
import Extractor.Proofs.TopLevel
import Extractor.Proofs.Splitting
import Extractor.Proofs.Recognition
import Extractor.Proofs.RoundTrip
import Extractor.Proofs.Fields
import Extractor.Proofs.Consumption
import Extractor.Proofs.BareChain
import Extractor.Proofs.Parsed
import Extractor.Proofs.Reordering
import Extractor.Proofs.XPathGrammar
import Extractor.Proofs.XPathRecogniser
import Extractor.Proofs.Inheritance
import Extractor.Proofs.Views
import Extractor.Proofs.Restoration
import Extractor.Proofs.SiblingCount
import Extractor.Proofs.ConditionMeaning
import Extractor.Proofs.Selection
import Extractor.Proofs.TokenLayout
import Extractor.Proofs.Replay
import Extractor.Proofs.Composition
import Extractor.Proofs.Counterpart
import Extractor.Proofs.Shadowing
import Extractor.Proofs.Guards
import Extractor.Proofs.PatternFlags
import Extractor.Proofs.VerbosePattern
import Extractor.Proofs.Cutting
import Extractor.Proofs.Suffix
import Extractor.Proofs.XPathText
import Extractor.Proofs.PathAcceptance
import Extractor.Proofs.Lowering
import Extractor.Proofs.Expansion
import Extractor.Proofs.Identifiers
import Extractor.Proofs.OperandDue
import Extractor.Proofs.LastStep
import Extractor.Proofs.TokenStops
import Extractor.Proofs.SuffixCut
import Extractor.Proofs.StandIns
import Extractor.Proofs.Ambiguity
