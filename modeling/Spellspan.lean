import Spellspan.Command.Arguments
import Spellspan.Command.Execution
import Spellspan.Command.Invocation
import Spellspan.Diagnostic
import Spellspan.Engine.Batch
import Spellspan.Engine.Message
import Spellspan.Engine.Process
import Spellspan.Engine.Settings
import Spellspan.Engine.Transport
import Spellspan.Files.Collect
import Spellspan.Files.Load
import Spellspan.Files.Path
import Spellspan.Files.Snapshot
import Spellspan.Files.System
import Spellspan.Json.Choice
import Spellspan.Json.Document
import Spellspan.Json.Printer
import Spellspan.Json.Value
import Spellspan.Main
import Spellspan.Numeric.Binary64
import Spellspan.Numeric.Reading
import Spellspan.Numeric.Scaled
import Spellspan.Numeric.Shortest
import Spellspan.Options
import Spellspan.Parse.Conversion
import Spellspan.Parse.Draft
import Spellspan.Parse.Listing
import Spellspan.Parse.Literal
import Spellspan.Parse.Mapping
import Spellspan.Parse.Tree
import Spellspan.Report.FileReport
import Spellspan.Report.Issue
import Spellspan.Report.Pretty
import Spellspan.Report.Run
import Spellspan.Report.RunReport
import Spellspan.Report.Suggestion
import Spellspan.Scope.Decision
import Spellspan.Scope.Label
import Spellspan.Scope.Path
import Spellspan.Scope.Pattern
import Spellspan.Scope.RuleSet
import Spellspan.Select.Bindings
import Spellspan.Select.Candidate
import Spellspan.Select.Range
import Spellspan.Settings
import Spellspan.SourceFile
import Spellspan.Surroundings.Glob.Basic
import Spellspan.Surroundings.Glob.Parser
import Spellspan.Surroundings.Process.Arithmetic
import Spellspan.Surroundings.Process.ByteText
import Spellspan.Surroundings.Process.Condition
import Spellspan.Surroundings.Process.Find
import Spellspan.Surroundings.Process.Format
import Spellspan.Surroundings.Process.Naming
import Spellspan.Surroundings.Process.Options
import Spellspan.Surroundings.Process.Outcome
import Spellspan.Surroundings.Process.Pattern
import Spellspan.Surroundings.Process.Program
import Spellspan.Surroundings.Process.Script.Basic
import Spellspan.Surroundings.Process.Script.Input
import Spellspan.Surroundings.Process.Script.Parser
import Spellspan.Surroundings.Process.Script.Tokens
import Spellspan.Surroundings.Process.Script.Words
import Spellspan.Surroundings.Process.Shell.Builtin
import Spellspan.Surroundings.Process.Shell.Compound
import Spellspan.Surroundings.Process.Shell.Expansion
import Spellspan.Surroundings.Process.Shell.Lines
import Spellspan.Surroundings.Process.Shell.Lookup
import Spellspan.Surroundings.Process.Shell.Redirection
import Spellspan.Surroundings.Process.Shell.Run
import Spellspan.Surroundings.Process.Shell.Signals
import Spellspan.Surroundings.Process.Shell.Simple
import Spellspan.Surroundings.Process.Shell.State
import Spellspan.Surroundings.Process.Shell.Variables
import Spellspan.Surroundings.WordList
import Spellspan.Surroundings.Yaml.Cursor
import Spellspan.Surroundings.Yaml.Folded
import Spellspan.Surroundings.Yaml.Layout
import Spellspan.Surroundings.Yaml.Literal
import Spellspan.Surroundings.Yaml.Node
import Spellspan.Surroundings.Yaml.Scalar
import Spellspan.Surroundings.Yaml.Token
import Spellspan.Text.Alphabetic
import Spellspan.Text.Bytes
import Spellspan.Text.CodePoints
import Spellspan.Text.Duration
import Spellspan.Text.GraphemeExtend
import Spellspan.Text.Location
import Spellspan.Text.Lossy
import Spellspan.Text.OffsetMap
import Spellspan.Text.Pieces
import Spellspan.Text.Printable
import Spellspan.Text.Quoted
import Spellspan.Text.Styled
import Spellspan.Text.WhiteSpace
import Spellspan.Tree.Basic
import Spellspan.Tree.Bundle
import Spellspan.Tree.ChildTable
import Spellspan.Tree.Node
import Spellspan.Tree.Path
import Spellspan.Tree.Problem
import Spellspan.Tree.Span
import Spellspan.Tree.Walk
import Spellspan.Proofs.Traversal
import Spellspan.Proofs.WalkLoop
import Spellspan.Proofs.WalkRefinement
import Spellspan.Proofs.VisitedPaths
import Spellspan.Proofs.WalkReachability
import Spellspan.Proofs.ByteOffsets
import Spellspan.Proofs.CandidateScopes
import Spellspan.Proofs.CheckedIssues
import Spellspan.Proofs.RuleVerdicts
import Spellspan.Proofs.SentRanges
import Spellspan.Proofs.References
import Spellspan.Proofs.WalkProblems
import Spellspan.Proofs.Preorder
import Spellspan.Proofs.BundlePreorder
import Spellspan.Proofs.ConversionSteps
import Spellspan.Proofs.ConversionGrowth
import Spellspan.Proofs.ConvertedTree
import Spellspan.Proofs.PhraseParts
import Spellspan.Proofs.CommentRows
import Spellspan.Proofs.LiftedComments
import Spellspan.Proofs.KeptComments
import Spellspan.Proofs.StandardRules
import Spellspan.Proofs.DecisionMemos
import Spellspan.Proofs.RememberedDecisions
import Spellspan.Proofs.KindSwitches
import Spellspan.Proofs.ImportedProperties
import Spellspan.Proofs.FileIsolation
import Spellspan.Proofs.FailedExchanges
import Spellspan.Proofs.RecordForms
import Spellspan.Proofs.OptionForms
import Spellspan.Proofs.MessageForms
import Spellspan.Proofs.RuleChanges
import Spellspan.Proofs.TextPieces
import Spellspan.Proofs.TextWords
import Spellspan.Proofs.SegmentGrammar
import Spellspan.Proofs.ReadablePatterns
import Spellspan.Proofs.PatternScores
import Spellspan.Proofs.PatternRefinement
import Spellspan.Proofs.PatternGrammar
import Spellspan.Proofs.WrittenScopes
import Spellspan.Proofs.ParentLinks
import Spellspan.Proofs.WalkAccounts
import Spellspan.Proofs.DepthLimit
import Spellspan.Proofs.CodeUnits
import Spellspan.Proofs.CheckedTexts
import Spellspan.Proofs.NormalizedSuggestions
import Spellspan.Proofs.InsertedTexts
import Spellspan.Proofs.LineLocations
import Spellspan.Proofs.SourceOrder
import Spellspan.Proofs.NestedSpans
import Spellspan.Proofs.UnusablePatterns
import Spellspan.Proofs.CommentSearch
import Spellspan.Proofs.ConvertedParts
import Spellspan.Proofs.CutPhrases
import Spellspan.Proofs.ConvertedHeights
import Spellspan.Proofs.NestingLimit
import Spellspan.Proofs.TemplateTiles
