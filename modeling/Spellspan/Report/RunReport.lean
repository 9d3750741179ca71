import Spellspan.Json.Printer
import Spellspan.Report.FileReport

/-!
The report on a run over several files, with its record form.
-/
set_option autoImplicit false

namespace Spellspan.Report

/-- The reports on the files of a run, by filename, and the diagnostics about its options. -/
structure RunReport where
  files : List FileReport
  diagnostics : List Diagnostic
  deriving DecidableEq, Repr

namespace RunReport

def version : String := "0.1.0"

/-- Reports by filename; those with one filename stay in their order. -/
def ofReports (files : List FileReport) (diagnostics : List Diagnostic) : RunReport where
  files := files.mergeSort fun left right => !(right.filename < left.filename)
  diagnostics := diagnostics

def total (count : FileReport → Nat) (report : RunReport) : Nat :=
  report.files.foldr (fun file rest => count file + rest) 0

def issueCount (report : RunReport) : Nat :=
  report.total fun file => file.issues.length

def failedFiles (report : RunReport) : Nat :=
  report.files.countP fun file => file.error.isSome

def isClean (report : RunReport) : Bool :=
  report.files.all FileReport.isClean

def toJson (report : RunReport) : Json :=
  .object (
    [("version", .string version),
      ("filesChecked", .nat report.files.length),
      ("issueCount", .nat report.issueCount),
      ("failedFiles", .nat report.failedFiles),
      ("clean", .bool report.isClean),
      ("files", .array (report.files.map FileReport.toJson))] ++
    (if report.diagnostics.isEmpty then []
      else [("diagnostics", .array (report.diagnostics.map Diagnostic.toJson))]))

def jsonText (report : RunReport) : String :=
  report.toJson.pretty ++ "\n"

end RunReport
end Spellspan.Report
