import Spellspan.Report.RunReport
import Spellspan.Text.Styled

/-!
Reports for people: the issues of a run file by file with a summary, and the candidates of a file
with their scopes.
-/
set_option autoImplicit false

namespace Spellspan.Report

open Engine (EngineError Severity)
open Select (Candidate)
open Text (Style)

def severityTag (color : Bool) : Severity → String
  | .forbidden => Style.red.paint color "FORBID "
  | .hint => Style.blue.paint color "HINT   "
  | .unknown => Style.yellow.paint color "UNKNOWN"

def issueLine (color : Bool) (issue : Issue) : String :=
  let place := Style.dimmed.paintPadded color 10 issue.location.render
  let word := Style.bold.paintPadded color 20 issue.word
  let suggestions :=
    if issue.suggestions.isEmpty then ""
    else " " ++ Style.green.paint color
      (Text.joined ", " (issue.suggestions.map Suggestion.replacement))
  let fix :=
    match issue.fix with
    | some fix => " " ++ Style.dimmed.paint color s!"(fix: {fix})"
    | none => ""
  s!"    {severityTag color issue.severity} {place} {word}{suggestions}{fix}\n"

/-- The lines of a file: its name, its error, its issues, the errors of the engine, and on request
its diagnostics. -/
def fileLines (color verbose : Bool) (file : FileReport) : List String :=
  let error :=
    match file.error with
    | some error => ["    " ++ Style.red.paint color "ERROR" ++ s!" {error.message}\n"]
    | none => []
  [s!"  {Style.blue.paint color file.filename}\n"] ++ error ++
    file.issues.map (issueLine color) ++
    file.engineErrors.map
      (fun error => "    " ++ Style.red.paint color "ENGINE" ++ s!" {error.message}\n") ++
    (if verbose then
      file.diagnostics.map fun diagnostic => s!"    {Style.dimmed.paint color diagnostic.render}\n"
    else [])

def pluralEnding (count : Nat) : String :=
  if count = 1 then "" else "s"

def summaryLine (color : Bool) (report : RunReport) : String :=
  let verdict :=
    if report.isClean then Style.green.paint color "✓ CLEAN" else Style.red.paint color "✗ ISSUES"
  let issues := report.issueCount
  let files := report.files.length
  let failed :=
    if report.failedFiles = 0 then ""
    else "  " ++ Style.red.paint color s!"{report.failedFiles} failed"
  let count := report.total fun file => file.diagnostics.length
  let diagnostics := if count = 0 then ""
    else "  " ++ Style.dimmed.paint color s!"({count} diagnostics)"
  s!"  {verdict}  {issues} issue{pluralEnding issues} in {files} file{pluralEnding files}{failed}{diagnostics}\n"

def configurationLines (color : Bool) (diagnostics : List Diagnostic) : List String :=
  if diagnostics.isEmpty then []
  else
    ["  " ++ Style.bold.paint color "Configuration" ++ s!" ({diagnostics.length}):\n"] ++
    diagnostics.map (fun diagnostic => s!"    {Style.yellow.paint color diagnostic.render}\n") ++
      ["\n"]

def isShown (verbose : Bool) (file : FileReport) : Bool :=
  !file.isClean || (verbose && !file.diagnostics.isEmpty)

/-- A run report for people. Diagnostics of files are listed when `verbose` is set, and counted
otherwise. -/
def RunReport.prettyText (report : RunReport) (color verbose : Bool) : String :=
  let shown := report.files.filter (isShown verbose)
  String.join (
    ["\n", "  " ++ Style.boldCyan.paint color "wordscope" ++ s!" v{RunReport.version}\n", "\n"] ++
    configurationLines color report.diagnostics ++
    shown.flatMap (fun file => fileLines color verbose file ++ ["\n"]) ++
    [summaryLine color report, "\n"])

/-- At most `count` characters, with an ellipsis when there are more. -/
def shortened (count : Nat) (text : List Char) : String :=
  if text.length ≤ count then String.ofList text else String.ofList (text.take count ++ ['…'])

def candidateMark (color : Bool) (candidate : Candidate) : String :=
  if candidate.range.isSome then Style.green.paint color "check"
  else if !candidate.enabled then Style.dimmed.paint color "off  "
  else if candidate.importProperty then Style.yellow.paint color "prop "
  else Style.dimmed.paint color "skip "

/-- The line of a candidate: mark, score, scope and the start of its text. -/
def candidateLine (color : Bool) (text : List Char) (candidate : Candidate) : String :=
  let snippet := (candidate.range.bind fun range => range.span.text? text).map fun text =>
    Text.quoted (shortened 40 text)
  let score := Text.padLeft 3 (toString candidate.decision.score)
  let shown := Style.dimmed.paint color (snippet.getD "")
  s!"    {candidateMark color candidate} {score}  {candidate.scope.render}  {shown}\n"

def scopesText (color : Bool) (filename : String) (text : List Char) (candidates : List Candidate) :
    String :=
  String.join (s!"  {Style.blue.paint color filename}\n" :: candidates.map
    (candidateLine color text))

end Spellspan.Report
