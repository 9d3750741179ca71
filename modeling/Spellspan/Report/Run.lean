import Spellspan.Files.Load
import Spellspan.Report.RunReport

/-!
Checking several files. A file that cannot be loaded is reported and does not stop the others.
-/
set_option autoImplicit false

namespace Spellspan.Report

open Engine (EngineRequest)
open Files (FileSystem)

def Checker.checkPath (checker : Checker) (system : FileSystem) (path : String) : Checked :=
  match Files.load system path with
  | .ok file => checker.check file
  | .error error => { report := .unreadable path error.message }

/-- A report, and the requests that were sent for it. -/
structure Run where
  report : RunReport
  requests : List EngineRequest

def Checker.run (checker : Checker) (system : FileSystem) (paths : List String) : Run :=
  let checked := paths.map (checker.checkPath system)
  { report := .ofReports (checked.map Checked.report) checker.configDiagnostics
    requests := checked.flatMap Checked.requests }

end Spellspan.Report
