import Mathlib
import Spellspan.Proofs.SentRanges

/-!
Checks of one file by an engine that fails and by one that answers. Both are sent the same request,
if any, and both report first what the loader and the walk found. A failure adds nothing to that but
its cause; an answer adds what was wrong with it.
-/
set_option autoImplicit false

namespace Spellspan

namespace Select

open Spellspan.Tree (ChildTable)

theorem problems_of_select {options : CheckOptions} {table : ChildTable} {file : SourceFile}
    {selection : Selection} (selected : select options table file = .ok selection) :
    selection.problems = (fileWalk table file).errors := by
  simp only [select] at selected
  split at selected
  · cases selected
  · obtain rfl := Except.ok.inj selected
    rfl

end Select

namespace Report

open Engine (EngineResponse Transport)
open Select (Candidate Selection fileWalk)
open Spellspan.Tree (ChildTable)

theorem kind_of_rejected {file : SourceFile} {selection : Selection} {response : EngineResponse} :
    ∀ diagnostic ∈ (outcomeOf file selection response).diagnostics, diagnostic.kind = .engine := by
  intro diagnostic member
  obtain ⟨issue, _, problem⟩ := List.mem_filterMap.mp member
  exact (Engine.rejects_of_issueProblem? problem).kind

/-- What is known of a file before an engine is asked: what its loader found, then what the walk
found. -/
theorem earlyDiagnostics_of_select {options : CheckOptions} {table : ChildTable} {file : SourceFile}
    {selection : Selection} (selected : Select.select options table file = .ok selection) :
    earlyDiagnostics file selection = file.diagnostics ++ (fileWalk table file).errors.map
      Diagnostic.ofTraversal := by
  rw [earlyDiagnostics, Select.problems_of_select selected]

/-- An engine that fails and one that answers are sent the same request. With nothing to send their
reports are one and the same. Otherwise the failure is reported with what the loader and the walk
found and with nothing else, and the answer adds behind these diagnostics some of the engine, then
some about suggestions. -/
theorem check_of_failing_and_answering (options : CheckOptions) (table : ChildTable)
    (file : SourceFile) (acyclic : (fileWalk table file).cycle = none)
    {failing answering : Transport Id}
    (fails : ∀ request, ∃ error, failing.exchange request = .error error)
    (answers : ∀ request, ∃ response, answering.exchange request = .ok response) :
    ∃ selection, Select.select options table file = .ok selection ∧
      (Checker.check ⟨options, table, failing⟩ file).requests =
        (Checker.check ⟨options, table, answering⟩ file).requests ∧
      ((∀ candidate ∈ selection.candidates, candidate.range = none) →
        (Checker.check ⟨options, table, failing⟩ file).report =
          (Checker.check ⟨options, table, answering⟩ file).report ∧
        (Checker.check ⟨options, table, failing⟩ file).report.error = none ∧
        (Checker.check ⟨options, table, failing⟩ file).requests = []) ∧
      ((∃ candidate ∈ selection.candidates, candidate.range ≠ none) →
        ∃ request error response rejected notes,
          (Checker.check ⟨options, table, failing⟩ file).requests = [request] ∧
          failing.exchange request = .error error ∧ answering.exchange request = .ok response ∧
          (Checker.check ⟨options, table, failing⟩ file).report = {
            filename := file.filename, issues := [], engineErrors := [], ranges := 0, error :=
              some (.transport error)
            diagnostics := file.diagnostics ++ (fileWalk table file).errors.map
              Diagnostic.ofTraversal } ∧
          (Checker.check ⟨options, table, answering⟩ file).report.error = none ∧
          (Checker.check ⟨options, table, answering⟩ file).report.engineErrors = response.errors ∧
          (Checker.check ⟨options, table, answering⟩ file).report.diagnostics =
            (Checker.check ⟨options, table, failing⟩ file).report.diagnostics ++ rejected ++ notes ∧
          (∀ diagnostic ∈ rejected, diagnostic.kind = .engine) ∧
          ∀ diagnostic ∈ notes, diagnostic.kind = .normalization) := by
  obtain ⟨selection, selected⟩ := Select.select_of_acyclic options acyclic
  refine ⟨selection, selected, ?_⟩
  have nothing_iff : sentRanges selection = [] ↔
      ∀ candidate ∈ selection.candidates, candidate.range = none := by
    rw [sentRanges_eq_nil_iff selected, List.filterMap_eq_nil_iff]
  by_cases nothing : sentRanges selection = []
  · rw [@check_of_unsent ⟨options, table, failing⟩ file selection selected nothing,
      @check_of_unsent ⟨options, table, answering⟩ file selection selected nothing]
    refine ⟨rfl, fun _ => ⟨rfl, rfl, rfl⟩, ?_⟩
    rintro ⟨candidate, member, ranged⟩
    exact absurd (nothing_iff.mp nothing candidate member) ranged
  · generalize sent : requestOf options file (sentRanges selection) = request
    obtain ⟨error, failed⟩ := fails request
    obtain ⟨response, answered⟩ := answers request
    rw [@check_of_sent ⟨options, table, failing⟩ file selection selected nothing,
      @check_of_sent ⟨options, table, answering⟩ file selection selected nothing]
    simp only [sent, failed, answered, reportAnswer, earlyDiagnostics_of_select selected]
    refine ⟨trivial, fun unranged => absurd (nothing_iff.mpr unranged) nothing, fun _ => ?_⟩
    exact ⟨request, error, response, _, _, rfl, failed, answered, rfl, rfl, rfl, rfl,
      kind_of_rejected, kind_of_note⟩

/-- A comment below a node of a kind that no table lists, in a file whose loader had a remark. -/
def remarked : SourceFile where
  filename := "a.js"
  text := "// teh".toList
  tree := {
    nodes := #[
      { kind := "Shelf", span := ⟨0, 6⟩, slots := [("body", .list [.node 1])] },
        { kind := "Line", span := ⟨0, 6⟩ }]
    root := 0 }
  diagnostics := [{ kind := .traversal, message := "cut short" }]

theorem walk_remarked :
    fileWalk careless.table remarked =
      { visits := [⟨⟨0, none⟩, []⟩, ⟨⟨1, some ⟨"body", some 0⟩⟩, [⟨0, none⟩]⟩]
        visited := 2, errors := [.unknownKind 0 "Shelf"], parents :=
          #[none, some 0], cycle := none } := by
  cbv

theorem ranged_remarked {selection : Selection}
    (selected : Select.select careless.options careless.table remarked = .ok selection) :
    ∃ candidate ∈ selection.candidates, candidate.range ≠ none := by
  have walked := walk_remarked
  unfold fileWalk at walked
  simp only [Select.select, walked] at selected
  obtain rfl := Except.ok.inj selected
  exact ⟨_, List.mem_cons_self, by decide⟩

theorem check_of_failing_and_answering_remarked :
    (fileWalk careless.table remarked).cycle = none ∧
    (∀ request, ∃ error, (Transport.unconfigured : Transport Id).exchange request = .error error) ∧
    (∀ request, ∃ response, careless.transport.exchange request = .ok response) ∧
    (Checker.check ⟨careless.options, careless.table, .unconfigured⟩ remarked).report = {
      filename := "a.js", error := some (.transport .notConfigured)
      diagnostics := [{ kind := .traversal, message := "cut short" },
        .ofTraversal (.unknownKind 0 "Shelf")] } ∧
    ∃ rejected notes, (careless.check remarked).report.diagnostics =
        [{ kind := .traversal, message := "cut short" }, .ofTraversal (.unknownKind 0 "Shelf")] ++
          rejected ++ notes ∧
      ∀ diagnostic ∈ rejected, diagnostic.kind = .engine := by
  have acyclic : (fileWalk careless.table remarked).cycle = none := by rw [walk_remarked]
  have fails : ∀ request, ∃ error, (Transport.unconfigured : Transport Id).exchange
      request = .error error :=
    fun _ => ⟨_, rfl⟩
  have answers : ∀ request, ∃ response, careless.transport.exchange request = .ok response :=
    fun _ => ⟨_, rfl⟩
  obtain ⟨selection, selected, _, _, ranged⟩ :=
    check_of_failing_and_answering careless.options careless.table remarked acyclic fails answers
  obtain ⟨request, error, response, rejected, notes, _, failed, _, reported, _, _,
    extended, engine, _⟩ :=
    ranged (ranged_remarked selected)
  obtain rfl : Engine.TransportError.notConfigured = error := Except.error.inj failed
  rw [walk_remarked] at reported
  rw [reported] at extended
  exact ⟨acyclic, fails, answers, reported, rejected, notes, extended, engine⟩

end Report
end Spellspan
