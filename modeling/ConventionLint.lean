import ConventionLint.Annotation.Family
import ConventionLint.Annotation.Group
import ConventionLint.Annotation.Matcher
import ConventionLint.Check.Checker
import ConventionLint.Check.File
import ConventionLint.Check.Registry
import ConventionLint.Check.Run
import ConventionLint.Command.Answer
import ConventionLint.Command.Copies
import ConventionLint.Command.Line
import ConventionLint.Command.Lint
import ConventionLint.Command.Listing
import ConventionLint.Comment.Pragma
import ConventionLint.Config.Basic
import ConventionLint.Config.Source
import ConventionLint.Copy.Known
import ConventionLint.Copy.Writing
import ConventionLint.Digest.Sha1
import ConventionLint.Encoding.Basic
import ConventionLint.Encoding.Cookie
import ConventionLint.Encoding.DoubleByte
import ConventionLint.Encoding.Gb18030
import ConventionLint.Encoding.Index
import ConventionLint.Encoding.Japanese
import ConventionLint.Encoding.Label
import ConventionLint.Encoding.Machine
import ConventionLint.Encoding.SingleByte
import ConventionLint.Encoding.Utf16
import ConventionLint.Glob.Pattern
import ConventionLint.Grammar.Atom
import ConventionLint.Grammar.CasePattern
import ConventionLint.Grammar.Compound
import ConventionLint.Grammar.Comprehension
import ConventionLint.Grammar.Concrete
import ConventionLint.Grammar.Expression
import ConventionLint.Grammar.Goal
import ConventionLint.Grammar.Layout
import ConventionLint.Grammar.Lexer
import ConventionLint.Grammar.Numeral
import ConventionLint.Grammar.Parameter
import ConventionLint.Grammar.Program
import ConventionLint.Grammar.Simple
import ConventionLint.Grammar.Stream
import ConventionLint.Grammar.Token
import ConventionLint.Grammar.TypeForm
import ConventionLint.Ignore.Layer
import ConventionLint.Ignore.Pattern
import ConventionLint.Ignore.RuleSet
import ConventionLint.Inference.Binding
import ConventionLint.Inference.Hierarchy
import ConventionLint.Inference.Value
import ConventionLint.Inference.WellKnown
import ConventionLint.Inspection.Basic
import ConventionLint.Inspection.Run
import ConventionLint.Main
import ConventionLint.Proofs.Annotation.Blocks
import ConventionLint.Proofs.Annotation.Matcher
import ConventionLint.Proofs.Annotation.Order
import ConventionLint.Proofs.Annotation.Preceding
import ConventionLint.Proofs.Annotation.Problems
import ConventionLint.Proofs.Annotation.Told
import ConventionLint.Proofs.Check.Calls
import ConventionLint.Proofs.Check.Location
import ConventionLint.Proofs.Check.ModuleName
import ConventionLint.Proofs.Check.Notes
import ConventionLint.Proofs.Check.Registry
import ConventionLint.Proofs.Check.Runs
import ConventionLint.Proofs.Check.Suppression
import ConventionLint.Proofs.Check.Walk
import ConventionLint.Proofs.Comment.Blocks
import ConventionLint.Proofs.Comment.Literals
import ConventionLint.Proofs.Comment.Pragma
import ConventionLint.Proofs.Comment.Written
import ConventionLint.Proofs.Config.Source
import ConventionLint.Proofs.Copy.Failure
import ConventionLint.Proofs.Copy.Writing
import ConventionLint.Proofs.Digest.Sha1
import ConventionLint.Proofs.Encoding.Declared
import ConventionLint.Proofs.Glob.Literal
import ConventionLint.Proofs.Glob.Pattern
import ConventionLint.Proofs.Grammar.Blocks
import ConventionLint.Proofs.Grammar.Expressions
import ConventionLint.Proofs.Grammar.Indentation
import ConventionLint.Proofs.Grammar.Lines
import ConventionLint.Proofs.Grammar.Onward
import ConventionLint.Proofs.Grammar.OnwardExpressions
import ConventionLint.Proofs.Grammar.OnwardProgram
import ConventionLint.Proofs.Grammar.OnwardStatements
import ConventionLint.Proofs.Grammar.Order
import ConventionLint.Proofs.Grammar.Places
import ConventionLint.Proofs.Grammar.Program
import ConventionLint.Proofs.Grammar.Regular
import ConventionLint.Proofs.Grammar.RegularExpressions
import ConventionLint.Proofs.Grammar.RegularStatements
import ConventionLint.Proofs.Grammar.Scan
import ConventionLint.Proofs.Grammar.Shape
import ConventionLint.Proofs.Grammar.Statements
import ConventionLint.Proofs.Inference.Bases
import ConventionLint.Proofs.Inference.Depth
import ConventionLint.Proofs.Inference.Hierarchy
import ConventionLint.Proofs.Inference.Import
import ConventionLint.Proofs.Inference.Latest
import ConventionLint.Proofs.Inference.Linearization
import ConventionLint.Proofs.Inference.LookupOrder
import ConventionLint.Proofs.Inference.Parameter
import ConventionLint.Proofs.Inference.Scope
import ConventionLint.Proofs.Inspection.Bytes
import ConventionLint.Proofs.Inspection.Compact
import ConventionLint.Proofs.Inspection.Exclusion
import ConventionLint.Proofs.Inspection.FileOrder
import ConventionLint.Proofs.Inspection.Parts
import ConventionLint.Proofs.Inspection.Selection
import ConventionLint.Proofs.Inspection.SetUp
import ConventionLint.Proofs.Inspection.Survey
import ConventionLint.Proofs.List
import ConventionLint.Proofs.Report.Order
import ConventionLint.Proofs.Report.Template
import ConventionLint.Proofs.Rule.AttributeName
import ConventionLint.Proofs.Rule.FeatureToggle
import ConventionLint.Proofs.Rule.InheritedTests
import ConventionLint.Proofs.Rule.Notes
import ConventionLint.Proofs.Rule.ParentCall
import ConventionLint.Proofs.Rule.Quoted
import ConventionLint.Proofs.Rule.RangeCall
import ConventionLint.Proofs.Rule.RequiredBase
import ConventionLint.Proofs.Storage.Edit
import ConventionLint.Proofs.Storage.Grounded
import ConventionLint.Proofs.Storage.Path
import ConventionLint.Proofs.Storage.Sealed
import ConventionLint.Proofs.Storage.Store
import ConventionLint.Proofs.Text.Cut
import ConventionLint.Proofs.Text.Line
import ConventionLint.Proofs.Text.Number
import ConventionLint.Proofs.Text.Utf8
import ConventionLint.Proofs.Tree.Arena
import ConventionLint.Proofs.Tree.Arguments
import ConventionLint.Proofs.Tree.Calls
import ConventionLint.Proofs.Tree.Constant
import ConventionLint.Proofs.Tree.Continuation
import ConventionLint.Proofs.Tree.Docstring
import ConventionLint.Proofs.Tree.Escape
import ConventionLint.Proofs.Tree.Every
import ConventionLint.Proofs.Tree.Integer
import ConventionLint.Proofs.Tree.Lowering
import ConventionLint.Proofs.Tree.Names
import ConventionLint.Proofs.Tree.Order
import ConventionLint.Proofs.Tree.Piece
import ConventionLint.Proofs.Tree.Places
import ConventionLint.Proofs.Tree.Quotes
import ConventionLint.Proofs.Tree.Sites
import ConventionLint.Proofs.Tree.Sound
import ConventionLint.Proofs.Tree.SourceOrder
import ConventionLint.Proofs.Tree.Standing
import ConventionLint.Proofs.Tree.StringToken
import ConventionLint.Proofs.Tree.WellFormed
import ConventionLint.Proofs.Tree.Whole
import ConventionLint.Report.Diagnostic
import ConventionLint.Report.Document
import ConventionLint.Report.Findings
import ConventionLint.Report.Format
import ConventionLint.Rule.AnnotatedCall
import ConventionLint.Rule.AnnotationGroups
import ConventionLint.Rule.AttributeName
import ConventionLint.Rule.EventAnnotation
import ConventionLint.Rule.FeatureToggle
import ConventionLint.Rule.FilterDocstring
import ConventionLint.Rule.InheritedTests
import ConventionLint.Rule.LocalizedText
import ConventionLint.Rule.ParentCall
import ConventionLint.Rule.PlainAssert
import ConventionLint.Rule.PreciseAssert
import ConventionLint.Rule.Preset
import ConventionLint.Rule.RangeCall
import ConventionLint.Rule.RequiredBase
import ConventionLint.Rule.ToggleAnnotation
import ConventionLint.Rule.VisitRecord
import ConventionLint.Rule.YamlLoad
import ConventionLint.Storage.Path
import ConventionLint.Storage.Sealed
import ConventionLint.Storage.Store
import ConventionLint.Text.Binary64
import ConventionLint.Text.CharClass
import ConventionLint.Text.Cut
import ConventionLint.Text.Line
import ConventionLint.Text.Number
import ConventionLint.Text.Property
import ConventionLint.Text.Quoted
import ConventionLint.Text.Utf8
import ConventionLint.Toml.Document
import ConventionLint.Toml.Number
import ConventionLint.Toml.Quoted
import ConventionLint.Toml.Scan
import ConventionLint.Toml.Table
import ConventionLint.Toml.Value
import ConventionLint.Tree.Basic
import ConventionLint.Tree.Literal
import ConventionLint.Tree.Lowering
import ConventionLint.Tree.Node
import ConventionLint.Tree.Outline
