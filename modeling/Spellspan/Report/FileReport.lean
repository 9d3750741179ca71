import Spellspan.Report.Issue
import Spellspan.Select.Candidate

/-!
The report on one file, and the check that makes it. A check selects the ranges of a file, asks the
engine once, and reports the issues that it answers with. Whatever goes wrong ends up in the report.
-/
set_option autoImplicit false

namespace Spellspan.Report

open Engine (Batch BatchOutcome EngineError EngineOptions EngineRequest Transport TransportError)
open Spellspan.Tree (ChildTable CycleError)

/-- Why the check of a file ended early. -/
inductive FileError where
  | load (reason : String)
  | cycle (error : CycleError)
  | transport (error : TransportError)
  deriving DecidableEq, Repr

def FileError.message : FileError → String
  | .load reason => s!"failed to load: {reason}"
  | .cycle error => error.message
  | .transport error => s!"engine request failed: {error.message}"

/-- All that is reported for one file. -/
structure FileReport where
  filename : String
  issues : List Issue := []
  engineErrors : List EngineError := []
  diagnostics : List Diagnostic := []
  ranges : Nat := 0
  error : Option FileError := none
  deriving DecidableEq, Repr

namespace FileReport

def isClean (report : FileReport) : Bool :=
  report.issues.isEmpty && report.engineErrors.isEmpty && report.error.isNone

def toJson (report : FileReport) : Json :=
  .object (
    [("filename", .string report.filename),
      ("issues", .array (report.issues.map Issue.toJson)),
      ("engineErrors", .array (report.engineErrors.map EngineError.toJson)),
      ("diagnostics", .array (report.diagnostics.map Diagnostic.toJson)),
      ("ranges", .nat report.ranges)] ++
    (report.error.map fun error => ("error", Json.string error.message)).toList)

def unreadable (filename reason : String) : FileReport :=
  { filename, error := some (.load reason) }

end FileReport

/-- What all files of a run share. -/
structure Checker where
  options : CheckOptions := {}
  table : ChildTable := {}
  transport : Transport Id := Transport.unconfigured

/-- A report, and the requests that were sent for it. -/
structure Checked where
  report : FileReport
  requests : List EngineRequest := []

/-- The issues that an outcome gives rise to, each with what was wrong with its suggestions. -/
def normalizeAll (options : CheckOptions) (outcome : BatchOutcome) :
    List (Issue × List Diagnostic) :=
  outcome.issues.filterMap fun issue =>
    (outcome.ranges[issue.rangeIndex]?).map fun range => normalize options range issue

def reportOutcome (options : CheckOptions) (file : SourceFile) (diagnostics : List Diagnostic)
    (outcome : BatchOutcome) :
    FileReport :=
  let lines := Text.LineIndex.ofText file.text
  let normalized := normalizeAll options outcome
  { filename := file.filename
    issues := normalized.map fun entry => { entry.1 with location := lines.locate entry.1.start }
    engineErrors := outcome.errors
    diagnostics := diagnostics ++ outcome.diagnostics ++ normalized.flatMap Prod.snd
    ranges := outcome.ranges.length }

def checkFile {m : Type → Type} [Monad m] (options : CheckOptions) (table : ChildTable)
    (transport : Transport m) (file : SourceFile)
    : m FileReport :=
  match Select.select options table file with
  | .error cycle => pure { filename := file.filename, diagnostics := file.diagnostics, error := some (.cycle cycle) }
  | .ok selection => do
    let diagnostics := file.diagnostics ++ selection.problems.map Diagnostic.ofTraversal
    let batch := Batch.ofRanges (selection.candidates.filterMap fun candidate => candidate.range)
    match ← batch.dispatch file.filename file.text (EngineOptions.ofOptions options) transport with
    | .error error => return { filename := file.filename, diagnostics, error := some (.transport error) }
    | .ok outcome => return reportOutcome options file diagnostics outcome

namespace Checker

def configDiagnostics (checker : Checker) : List Diagnostic :=
  (Scope.RuleSet.ofOptions checker.options).diagnostics

def check (checker : Checker) (file : SourceFile) : Checked :=
  let (report, requests) :=
    (checkFile checker.options checker.table checker.transport.logged file).run [] |>.run
  { report, requests }

end Checker
end Spellspan.Report
