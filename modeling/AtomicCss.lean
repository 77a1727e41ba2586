import AtomicCss.Ambient
import AtomicCss.Calendar
import AtomicCss.ClassName.Contribution
import AtomicCss.ClassName.FontFace
import AtomicCss.ClassName.Keyframes
import AtomicCss.ClassName.Part
import AtomicCss.ClassName.Query
import AtomicCss.ClassName.Reading
import AtomicCss.CommandLine.Arguments
import AtomicCss.CommandLine.Report
import AtomicCss.CommandLine.Run
import AtomicCss.Cursor
import AtomicCss.Decimal.Binary
import AtomicCss.Decimal.Fixed
import AtomicCss.Decimal.Leading
import AtomicCss.Decimal.Reader
import AtomicCss.Decimal.Shortest
import AtomicCss.Document.Basic
import AtomicCss.Document.Json
import AtomicCss.Document.Reader
import AtomicCss.Document.Toml.Basic
import AtomicCss.Document.Toml.Scalar
import AtomicCss.Document.Toml.Table
import AtomicCss.Engine
import AtomicCss.Error
import AtomicCss.Expansion
import AtomicCss.Files.Host
import AtomicCss.Files.Inputs
import AtomicCss.Files.Path
import AtomicCss.Files.Tree
import AtomicCss.Grammar
import AtomicCss.Lexicon.Aliases
import AtomicCss.Lexicon.Basic
import AtomicCss.Lexicon.Blueprints
import AtomicCss.Lexicon.Characters
import AtomicCss.Lexicon.Fluid
import AtomicCss.Lexicon.Functions
import AtomicCss.Lexicon.Longest
import AtomicCss.Lexicon.Marker
import AtomicCss.Lexicon.Template
import AtomicCss.Main
import AtomicCss.Notice
import AtomicCss.OrderedMap
import AtomicCss.Outline
import AtomicCss.Rules.AtRuleOrder
import AtomicCss.Rules.Store
import AtomicCss.Scan
import AtomicCss.Schedule
import AtomicCss.Selector.Escaping
import AtomicCss.Selector.Target
import AtomicCss.Settings
import AtomicCss.Source
import AtomicCss.Stylesheet
import AtomicCss.Text.Basic
import AtomicCss.Text.Blank
import AtomicCss.Text.DecimalDigit
import AtomicCss.Text.Display
import AtomicCss.Units
import AtomicCss.Value.Basic
import AtomicCss.Value.Chunk
import AtomicCss.Value.Evaluation
import AtomicCss.Value.Reading
import AtomicCss.Value.Resolution
import AtomicCss.Proofs.Selector.Owner
import AtomicCss.Proofs.ClassName.Form
import AtomicCss.Proofs.ClassName.Selector
import AtomicCss.Proofs.OrderedMap
import AtomicCss.Proofs.Rules.Growth
import AtomicCss.Proofs.Engine.Session
import AtomicCss.Proofs.Engine.Selectors
import AtomicCss.Proofs.Expansion.Balance
import AtomicCss.Proofs.Expansion.Ceiling
import AtomicCss.Proofs.Value.Ceiling
import AtomicCss.Proofs.ClassName.Ceiling
import AtomicCss.Proofs.ClassName.Inlining
import AtomicCss.Proofs.ClassName.Transparency
import AtomicCss.Proofs.Rules.AtRuleOrder
import AtomicCss.Proofs.Rules.History
import AtomicCss.Proofs.Stylesheet.Canonical
import AtomicCss.Proofs.Engine.Discovery
import AtomicCss.Proofs.Engine.Calls
import AtomicCss.Proofs.Engine.Freshness
import AtomicCss.Proofs.Engine.Replay
import AtomicCss.Proofs.Engine.RootVariables
import AtomicCss.Proofs.ClassName.RootOrder
import AtomicCss.Proofs.Text.Splitting
import AtomicCss.Proofs.ClassName.Joining
import AtomicCss.Proofs.Value.Chunks
import AtomicCss.Proofs.Value.Composition
import AtomicCss.Proofs.Value.Blank
import AtomicCss.Proofs.ClassName.Incomplete
import AtomicCss.Proofs.Decimal.Whole
import AtomicCss.Proofs.Units
import AtomicCss.Proofs.Decimal.Quotient
import AtomicCss.Proofs.ClassName.Shorthand
import AtomicCss.Proofs.Expansion.Calls
import AtomicCss.Proofs.Value.Calls
import AtomicCss.Proofs.ClassName.Accounts
import AtomicCss.Proofs.Value.Range
import AtomicCss.Proofs.Value.Room
import AtomicCss.Proofs.ClassName.Range
import AtomicCss.Proofs.ClassName.SingleValues
import AtomicCss.Proofs.Value.Trailing
import AtomicCss.Proofs.Rules.Refinement
import AtomicCss.Proofs.Engine.ClassLists
import AtomicCss.Proofs.Engine.Reset
import AtomicCss.Proofs.Expansion.Renaming
import AtomicCss.Proofs.Value.Induction
import AtomicCss.Proofs.Value.Independence
import AtomicCss.Proofs.ClassName.Independence
import AtomicCss.Proofs.ClassName.Placement
import AtomicCss.Proofs.ClassName.Cycles
import AtomicCss.Proofs.Selector.Arrangement
import AtomicCss.Proofs.Scan.Runs
import AtomicCss.Proofs.Text.Replacing
import AtomicCss.Proofs.Lexicon.Filling
import AtomicCss.Proofs.Lexicon.Shape
import AtomicCss.Proofs.Lexicon.Substitution
import AtomicCss.Proofs.Lexicon.Longest
import AtomicCss.Proofs.Lexicon.Markers
import AtomicCss.Proofs.Lexicon.NumericNames
import AtomicCss.Proofs.Text.Digits
import AtomicCss.Proofs.Rules.WidthCondition
import AtomicCss.Proofs.ClassName.WidthQueries
import AtomicCss.Proofs.Stylesheet.Layout
import AtomicCss.Proofs.ClassName.Frames
import AtomicCss.Proofs.Value.Neighbours
import AtomicCss.Proofs.Value.Quotes
import AtomicCss.Proofs.Value.QuotedTokens
import AtomicCss.Proofs.Schedule
import AtomicCss.Proofs.Selector.Identifier
import AtomicCss.Proofs.Units.NormalForm
import AtomicCss.Proofs.Engine.Statistics
import AtomicCss.Proofs.Cursor
