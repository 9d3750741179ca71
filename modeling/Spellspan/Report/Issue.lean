import Spellspan.Engine.Batch
import Spellspan.Report.Suggestion
import Spellspan.Text.Location

/-!
Issues as they are reported, made from what an engine says of a range.
-/
set_option autoImplicit false

namespace Spellspan.Report

open Engine (EngineIssue Severity)
open Select (CheckRange)

/-- A finding in a checked range. -/
structure Issue where
  word : String
  start : Nat
  stop : Nat
  severity : Severity
  suggestions : List Suggestion
  originKind : String
  originNode : Tree.NodeId
  rangeIndex : Nat
  fix : Option String
  location : Text.Location := {}
  deriving DecidableEq, Repr

def Issue.toJson (issue : Issue) : Json :=
  .object (
    [("word", .string issue.word),
      ("start", .nat issue.start),
      ("end", .nat issue.stop),
      ("severity", issue.severity.toJson),
      ("suggestions", .array (issue.suggestions.map Suggestion.toJson)),
      ("originKind", .string issue.originKind),
      ("originNode", .nat issue.originNode),
      ("rangeIndex", .nat issue.rangeIndex)] ++
    (issue.fix.map fun fix => ("fix", Json.string fix)).toList ++
    [("line", .nat issue.location.line), ("column", .nat issue.location.column)])

/-- The suggestion that a value stands for in a range: identifiers get identifiers. -/
def suggestionFor (range : CheckRange) (value : Json) : Except SuggestionError Suggestion :=
  (Suggestion.ofJson value).map fun suggestion =>
    if isIdentifierKind range.originKind then suggestion.asIdentifier else suggestion

def suggestionProblem? (word : String) (range : CheckRange) (value : Json) : Option Diagnostic :=
  match Suggestion.ofJson value with
  | .ok _ => none
  | .error error =>
    some {
      kind := .normalization
      message := s!"suggestion for {Text.quoted word}: {error.message}"
      node := some range.originNode
      span := some range.span }

/-- The replacement that is proposed as a fix: that of the first preferred suggestion, when fixes
are asked for. -/
def proposedFix (options : CheckOptions) (suggestions : List Suggestion) : Option String :=
  if options.autoFix then (suggestions.find? Suggestion.isPreferred).map Suggestion.replacement
  else none

/-- The reported issue for an engine's issue in a range, and what was wrong with its suggestions. -/
def normalize (options : CheckOptions) (range : CheckRange) (issue : EngineIssue) :
    Issue × List Diagnostic :=
  let usable := issue.suggestions.filterMap fun value => (suggestionFor range value).toOption
  let suggestions := usable.take options.numSuggestions
  ({ word := issue.word, start := issue.start, stop := issue.stop, severity :=
    issue.severity, suggestions
     originKind := range.originKind, originNode := range.originNode, rangeIndex := issue.rangeIndex
     fix := proposedFix options suggestions },
   issue.suggestions.filterMap (suggestionProblem? issue.word range))

end Spellspan.Report
