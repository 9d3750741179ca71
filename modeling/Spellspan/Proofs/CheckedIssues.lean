import Mathlib
import Spellspan.Proofs.CheckedTexts
import Spellspan.Report.FileReport

/-!
Issues of a report stay within what was sent. An engine may answer with anything: an issue is
reported exactly when it names a range of the request and its ends are in order within that range,
and every other issue leaves one diagnostic. A range that was sent is what some visited node yields,
so every reported issue leads back to a node of the file.
-/
set_option autoImplicit false

namespace Spellspan

/-! ## Ranges come from visited nodes -/

namespace Select

open Scope (Decision DecisionMemo ScopeRule)
open Spellspan.Tree (ChildTable NodeId Walker)

/-- An extracted range belongs to its node, and is not empty and within the text. -/
theorem extract?_eq_some {tree : SyntaxTree} {id : NodeId} {text : List Char} {range : CheckRange}
    (extracted : extract? tree id text = some range) :
    range.originNode = id ∧ (∃ node, tree.get? id = some node ∧ node.kind = range.originKind) ∧
      range.span.start < range.span.stop ∧ range.span.stop ≤ Text.byteLength text := by
  obtain ⟨node, _, found, _, _, nonempty, cut, origin, own⟩ := extract?_eq_some_iff.mp extracted
  obtain ⟨middle, cut⟩ := Option.isSome_iff_exists.mp cut
  exact ⟨own, ⟨node, found, origin.symm⟩, nonempty, (Text.le_byteLength_of_slice? cut).2⟩

theorem mem_decideAll {rules : List ScopeRule} {finish : Pending → Decision → Candidate}
    {memo : DecisionMemo} {pending : List Pending} {candidate : Candidate}
    (member : candidate ∈ decideAll rules finish memo pending) :
    ∃ entry ∈ pending, ∃ decision, candidate = finish entry decision := by
  induction pending generalizing memo with
  | nil => simp [decideAll] at member
  | cons entry rest ih =>
      simp only [decideAll] at member
      rcases List.mem_cons.mp member with rfl | member
      · exact ⟨entry, List.mem_cons_self, _, rfl⟩
      · obtain ⟨later, listed, decided⟩ := ih member
        exact ⟨later, List.mem_cons_of_mem _ listed, decided⟩

def fileWalk (table : ChildTable) (file : SourceFile) : Tree.Walk :=
  Walker.walk { tree := file.tree, table := fileTable table file }

/-- The range of a candidate is what a visited node yields. -/
theorem visited_of_range {options : CheckOptions} {table : ChildTable} {file : SourceFile}
    {selection : Selection} (selected : select options table file = .ok selection)
    {range : CheckRange}
    (listed : range ∈ selection.candidates.filterMap fun candidate => candidate.range) :
    ∃ path ∈ (fileWalk table file).visits, extract? file.tree path.node file.text = some range := by
  simp only [select] at selected
  split at selected
  · cases selected
  · obtain rfl := Except.ok.inj selected
    obtain ⟨candidate, member, ranged⟩ := List.mem_filterMap.mp listed
    obtain ⟨entry, pending, decision, rfl⟩ := mem_decideAll member
    obtain ⟨path, visited, made⟩ := List.mem_filterMap.mp pending
    obtain ⟨kind, _, rfl⟩ := Option.map_eq_some_iff.mp made
    simp only [Pending.decide] at ranged
    split at ranged
    · exact ⟨path, visited, ranged⟩
    · cases ranged

end Select

/-! ## What is sent and what comes back -/

namespace Engine

open Select (CheckRange)

theorem Batch.mem_push {batch : Batch} {added range : CheckRange}
    (member : range ∈ (batch.push added).ranges) :
    range ∈ batch.ranges ∨ range = added := by
  unfold Batch.push at member
  split at member
  · simpa using member
  · exact .inl member

theorem Batch.mem_of_mem_sorted {ranges : List CheckRange} {range : CheckRange}
    (member : range ∈ (Batch.ofRanges ranges).sorted) : range ∈ ranges := by
  have queued : ∀ (ranges : List CheckRange) (batch : Batch),
      range ∈ (ranges.foldl Batch.push batch).ranges → range ∈ batch.ranges ∨ range ∈ ranges := by
    intro ranges
    induction ranges with
    | nil => exact fun _ => .inl
    | cons added rest ih =>
        intro batch member
        rcases ih (batch.push added) member with before | later
        · rcases Batch.mem_push before with earlier | rfl
          · exact .inl earlier
          · exact .inr List.mem_cons_self
        · exact .inr (List.mem_cons_of_mem _ later)
  exact (queued ranges .empty (List.mem_mergeSort.mp member)).resolve_left List.not_mem_nil

/-- An issue names a range of a request, and its ends are in order within that range. -/
def EngineRequest.admits (request : EngineRequest) (issue : EngineIssue) : Bool :=
  match request.ranges[issue.rangeIndex]? with
  | none => false
  | some (start, stop) => start ≤ issue.start && issue.start ≤ issue.stop && issue.stop ≤ stop

/-- A diagnostic about an issue that is not reported: it comes from the engine and names the
word. -/
structure Rejects (diagnostic : Diagnostic) (issue : EngineIssue) : Prop where
  kind : diagnostic.kind = .engine
  message : ∃ reason, diagnostic.message = "issue " ++ Text.quoted issue.word ++ reason

theorem EngineRequest.admits_iff {request : EngineRequest} {issue : EngineIssue} :
    request.admits issue = true ↔
      ∃ start stop, request.ranges[issue.rangeIndex]? = some (start, stop) ∧ start ≤ issue.start ∧
        issue.start ≤ issue.stop ∧ issue.stop ≤ stop := by
  unfold admits
  split
  · next missing => simp [missing]
  · next start stop found => simp [found, and_assoc]

section
variable {ranges : List CheckRange} {size : Nat} {request : EngineRequest} {issue : EngineIssue}

/-- The bounds of the text decide nothing when the ranges are within it. -/
theorem issueProblem?_eq_none_iff (bounded : ∀ range ∈ ranges, range.span.stop ≤ size)
    (sent : request.ranges = ranges.map fun range => (range.span.start, range.span.stop)) :
    issueProblem? ranges size issue = none ↔ request.admits issue = true := by
  rw [EngineRequest.admits_iff, sent, issueProblem?]
  cases found : ranges[issue.rangeIndex]? with
  | none => simp [found]
  | some range =>
      have inText := bounded range (List.mem_of_getElem? found)
      have sameBounds : (issue.start ≤ issue.stop ∧ issue.stop ≤ size) ∧
          (range.span.start ≤ issue.start ∧ issue.stop ≤ range.span.stop) ∧
            issue.start ≤ issue.stop ↔
          range.span.start ≤ issue.start ∧ issue.start ≤ issue.stop ∧
            issue.stop ≤ range.span.stop := by
        omega
      simpa [found, Tree.Span.contains] using sameBounds

theorem rejects_of_issueProblem? {diagnostic : Diagnostic}
    (problem : issueProblem? ranges size issue = some diagnostic) :
    Rejects diagnostic issue := by
  unfold issueProblem? at problem
  split at problem
  · obtain rfl := Option.some.inj problem
    exact ⟨rfl, _, by simp only [String.append_assoc, toString]; rfl⟩
  · dsimp only at problem
    split at problem
    · obtain rfl := Option.some.inj problem
      exact ⟨rfl, _, by simp only [String.append_assoc, toString]; rfl⟩
    · cases problem

theorem issues_ofResponse (bounded : ∀ range ∈ ranges, range.span.stop ≤ size)
    (sent : request.ranges = ranges.map fun range => (range.span.start, range.span.stop))
    (response : EngineResponse) :
    (BatchOutcome.ofResponse ranges size response).issues =
      response.issues.filter request.admits := by
  refine List.filter_congr fun issue _ => ?_
  rw [Bool.eq_iff_iff, Option.isNone_iff_eq_none]
  exact issueProblem?_eq_none_iff bounded sent

theorem diagnostics_ofResponse (bounded : ∀ range ∈ ranges, range.span.stop ≤ size)
    (sent : request.ranges = ranges.map fun range => (range.span.start, range.span.stop))
    (response : EngineResponse) :
    List.Forall₂ Rejects (BatchOutcome.ofResponse ranges size response).diagnostics
      (response.issues.filter fun issue => !request.admits issue) := by
  have rejected : ∀ issues : List EngineIssue,
      List.Forall₂ Rejects (issues.filterMap (issueProblem? ranges size))
        (issues.filter fun issue => !request.admits issue) := by
    intro issues
    induction issues with
    | nil => exact .nil
    | cons issue rest ih =>
        cases problem : issueProblem? ranges size issue with
        | none =>
            have admitted := (issueProblem?_eq_none_iff bounded sent).mp problem
            simpa [problem, admitted] using ih
        | some diagnostic =>
            have refused : request.admits issue = false := by
              rw [Bool.eq_false_iff]
              intro admitted
              simp [(issueProblem?_eq_none_iff bounded sent).mpr admitted] at problem
            simpa [problem, refused] using And.intro (rejects_of_issueProblem? problem) ih
  exact rejected response.issues

end
end Engine

/-! ## One exchange at most -/

namespace Engine

variable {m : Type → Type} [Monad m]

theorem Batch.dispatch_of_nil {batch : Batch} (nothing : batch.sorted = []) (filename : String)
    (text : List Char) (options : EngineOptions) (transport : Transport m) :
    batch.dispatch filename text options transport = pure (.ok {}) := by
  rw [dispatch, nothing]
  rfl

theorem Batch.dispatch_of_ne_nil [LawfulMonad m] {batch : Batch} (something : batch.sorted ≠ [])
    (filename : String) (text : List Char) (options : EngineOptions) (transport : Transport m) :
    batch.dispatch filename text options transport =
      (fun answer => answer.map (BatchOutcome.ofResponse batch.sorted (Text.byteLength text))) <$>
        transport.exchange ⟨filename, String.ofList text,
          batch.sorted.map Select.CheckRange.key, options⟩ := by
  have sent : batch.sorted.isEmpty = false := by simpa using something
  rw [dispatch, map_eq_pure_bind]
  simp only [sent, Bool.false_eq_true, if_false]

theorem Transport.run_exchange_logged [LawfulMonad m] (transport : Transport m)
    (request : EngineRequest) (log : List EngineRequest) :
    (transport.logged.exchange request).run log =
      (fun answer => (answer, log ++ [request])) <$> transport.exchange request := by
  simp [logged]

end Engine

/-! ## The check of a file, case by case -/

namespace Report

open Engine (BatchOutcome Batch EngineIssue EngineOptions EngineRequest EngineResponse Rejects
    Transport TransportError)
open Select (CheckRange Selection extract? fileWalk)
open Spellspan.Tree (ChildTable)

def sentRanges (selection : Selection) : List CheckRange :=
  (Batch.ofRanges (selection.candidates.filterMap fun candidate => candidate.range)).sorted

def requestOf (options : CheckOptions) (file : SourceFile) (ranges : List CheckRange) :
    EngineRequest where
  filename := file.filename
  text := String.ofList file.text
  ranges := ranges.map CheckRange.key
  options := EngineOptions.ofOptions options

def earlyDiagnostics (file : SourceFile) (selection : Selection) : List Diagnostic :=
  file.diagnostics ++ selection.problems.map Diagnostic.ofTraversal

def outcomeOf (file : SourceFile) (selection : Selection) (response : EngineResponse) :
    BatchOutcome :=
  .ofResponse (sentRanges selection) (Text.byteLength file.text) response

def reportAnswer (options : CheckOptions) (file : SourceFile) (selection : Selection) :
    Except TransportError EngineResponse → FileReport
  | .error error =>
      { filename := file.filename, diagnostics := earlyDiagnostics file selection, error :=
        some (.transport error) }
  | .ok response => reportOutcome options file (earlyDiagnostics file selection)
      (outcomeOf file selection response)

section
variable {m : Type → Type} [Monad m] {options : CheckOptions} {table : ChildTable}
    {file : SourceFile}
  {selection : Selection}

theorem checkFile_of_cycle (transport : Transport m) {cycle : Tree.CycleError}
    (selected : Select.select options table file = .error cycle) :
    checkFile options table transport file =
      pure { filename := file.filename, diagnostics := file.diagnostics, error := some (.cycle cycle) } := by
  simp only [checkFile, selected]

variable [LawfulMonad m]

theorem checkFile_of_unsent (transport : Transport m)
    (selected : Select.select options table file = .ok selection)
    (nothing : sentRanges selection = []) :
    checkFile options table transport file =
      pure (reportOutcome options file (earlyDiagnostics file selection) {}) := by
  simp only [checkFile, selected, Batch.dispatch_of_nil nothing, pure_bind]
  rfl

/-- With something to send, a check in any monad is one exchange and the report on it. -/
theorem checkFile_of_sent (transport : Transport m)
    (selected : Select.select options table file = .ok selection)
    (something : sentRanges selection ≠ []) :
    checkFile options table transport file =
      reportAnswer options file selection <$> transport.exchange
        (requestOf options file (sentRanges selection)) := by
  simp only [checkFile, selected, Batch.dispatch_of_ne_nil something, map_eq_pure_bind,
    bind_assoc, pure_bind]
  refine congrArg (transport.exchange _ >>= ·) (funext fun answer => ?_)
  cases answer with
  | error error => rfl
  | ok response => rfl

theorem run_checkFile_logged_of_unsent (transport : Transport m)
    (selected : Select.select options table file = .ok selection)
    (nothing : sentRanges selection = []) (log : List EngineRequest) :
    (checkFile options table transport.logged file).run log =
      pure (reportOutcome options file (earlyDiagnostics file selection) {}, log) := by
  rw [checkFile_of_unsent transport.logged selected nothing, StateT.run_pure]

theorem run_checkFile_logged_of_sent (transport : Transport m)
    (selected : Select.select options table file = .ok selection)
    (something : sentRanges selection ≠ []) (log : List EngineRequest) :
    (checkFile options table transport.logged file).run log =
      (fun answer => (reportAnswer options file selection answer,
        log ++ [requestOf options file (sentRanges selection)])) <$>
        transport.exchange (requestOf options file (sentRanges selection)) := by
  rw [checkFile_of_sent transport.logged selected something, StateT.run_map,
    Transport.run_exchange_logged, Functor.map_map]

end

section
variable {checker : Checker} {file : SourceFile} {selection : Selection}

theorem check_of_cycle {cycle : Tree.CycleError}
    (selected : Select.select checker.options checker.table file = .error cycle) :
    checker.check file =
      { report := { filename := file.filename, diagnostics := file.diagnostics, error := some (.cycle cycle) } } := by
  rw [Checker.check, checkFile_of_cycle checker.transport.logged selected]
  rfl

theorem check_of_unsent
    (selected : Select.select checker.options checker.table file = .ok selection)
    (nothing : sentRanges selection = []) :
    checker.check file =
      { report := reportOutcome checker.options file (earlyDiagnostics file selection) {} } := by
  rw [Checker.check, run_checkFile_logged_of_unsent checker.transport selected nothing]
  rfl

/-- With something to send, a check is a function of the answer to its one request. -/
theorem check_of_sent (selected : Select.select checker.options checker.table file = .ok selection)
    (something : sentRanges selection ≠ []) :
    checker.check file = {
      report := reportAnswer checker.options file selection
        (checker.transport.exchange (requestOf checker.options file (sentRanges selection)))
      requests := [requestOf checker.options file (sentRanges selection)] } := by
  rw [Checker.check, run_checkFile_logged_of_sent checker.transport selected something]
  rfl

end

/-- All that the check of a file can come to. -/
inductive CheckCases (checker : Checker) (file : SourceFile) : Checked → Prop where
  | cyclic (cycle : Tree.CycleError) (selected : Select.select checker.options checker.table file =
      .error cycle) :
      CheckCases checker file
        { report := { filename := file.filename, diagnostics := file.diagnostics, error := some (.cycle cycle) } }
  | unasked (selection : Selection) (selected : Select.select checker.options checker.table file =
      .ok selection)
      (nothing : sentRanges selection = []) :
      CheckCases checker file
        { report := reportOutcome checker.options file (earlyDiagnostics file selection) {} }
  | failed (selection : Selection) (selected : Select.select checker.options checker.table file =
      .ok selection)
      (something : sentRanges selection ≠ []) (error : TransportError)
      (exchanged : checker.transport.exchange
        (requestOf checker.options file (sentRanges selection)) = .error error) :
      CheckCases checker file
        { report := {
            filename := file.filename, diagnostics := earlyDiagnostics file selection, error :=
              some (.transport error) }
          requests := [requestOf checker.options file (sentRanges selection)] }
  | answered (selection : Selection) (selected : Select.select checker.options checker.table file =
      .ok selection)
      (something : sentRanges selection ≠ []) (response : EngineResponse)
      (exchanged : checker.transport.exchange
        (requestOf checker.options file (sentRanges selection)) = .ok response) :
      CheckCases checker file
        { report := reportOutcome checker.options file (earlyDiagnostics file selection) (outcomeOf file selection response)
          requests := [requestOf checker.options file (sentRanges selection)] }

theorem check_cases (checker : Checker) (file : SourceFile) :
    CheckCases checker file (checker.check file) := by
  cases selected : Select.select checker.options checker.table file with
  | error cycle =>
      rw [check_of_cycle selected]
      exact .cyclic cycle selected
  | ok selection =>
      by_cases nothing : sentRanges selection = []
      · rw [check_of_unsent selected nothing]
        exact .unasked selection selected nothing
      · rw [check_of_sent selected nothing]
        cases exchanged : checker.transport.exchange
          (requestOf checker.options file (sentRanges selection)) with
        | error error => exact .failed selection selected nothing error exchanged
        | ok response => exact .answered selection selected nothing response exchanged

/-- What a reported issue takes over from the engine. -/
structure Reports (issue : Issue) (found : EngineIssue) : Prop where
  word : issue.word = found.word
  start : issue.start = found.start
  stop : issue.stop = found.stop
  severity : issue.severity = found.severity
  rangeIndex : issue.rangeIndex = found.rangeIndex

theorem visited_of_sent {options : CheckOptions} {table : ChildTable} {file : SourceFile}
    {selection : Selection} (selected : Select.select options table file = .ok selection)
    {range : CheckRange} (sent : range ∈ sentRanges selection) :
    ∃ path ∈ (fileWalk table file).visits, extract? file.tree path.node file.text = some range :=
  Select.visited_of_range selected (Batch.mem_of_mem_sorted sent)

theorem sent_within_text {options : CheckOptions} {table : ChildTable} {file : SourceFile}
    {selection : Selection} (selected : Select.select options table file = .ok selection) :
    ∀ range ∈ sentRanges selection, range.span.stop ≤ Text.byteLength file.text := by
  intro range sent
  obtain ⟨_, _, extracted⟩ := visited_of_sent selected sent
  exact (Select.extract?_eq_some extracted).2.2.2

theorem normalizeAll_forall₂ {options : CheckOptions} {outcome : BatchOutcome}
    (named : ∀ issue ∈ outcome.issues, (outcome.ranges[issue.rangeIndex]?).isSome) :
    List.Forall₂ (fun entry issue => Reports entry.1 issue) (normalizeAll options outcome)
      outcome.issues := by
  unfold normalizeAll
  generalize outcome.issues = issues at named
  induction issues with
  | nil => exact .nil
  | cons issue rest ih =>
      obtain ⟨range, found⟩ := Option.isSome_iff_exists.mp (named issue List.mem_cons_self)
      simp only [List.filterMap_cons, found, Option.map_some]
      exact .cons ⟨rfl, rfl, rfl, rfl, rfl⟩ (ih fun later member =>
        named later (List.mem_cons_of_mem _ member))

theorem kind_normalize {options : CheckOptions} {range : CheckRange} {issue : EngineIssue} :
    ∀ diagnostic ∈ (normalize options range issue).2, diagnostic.kind = .normalization := by
  intro diagnostic member
  obtain ⟨value, _, problem⟩ := List.mem_filterMap.mp member
  unfold suggestionProblem? at problem
  split at problem
  · cases problem
  · obtain rfl := Option.some.inj problem
    rfl

theorem kind_of_note {options : CheckOptions} {outcome : BatchOutcome} :
    ∀ diagnostic ∈ (normalizeAll options outcome).flatMap Prod.snd, diagnostic.kind =
      .normalization := by
  intro diagnostic member
  obtain ⟨entry, normalized, noted⟩ := List.mem_flatMap.mp member
  obtain ⟨found, _, made⟩ := List.mem_filterMap.mp normalized
  obtain ⟨range, _, rfl⟩ := Option.map_eq_some_iff.mp made
  exact kind_normalize diagnostic noted

/-- An issue of a report is an issue of the outcome, normalized for its range. -/
theorem mem_issues_reportOutcome {options : CheckOptions} {file : SourceFile}
    {diagnostics : List Diagnostic} {outcome : BatchOutcome} {issue : Issue}
    (member : issue ∈ (reportOutcome options file diagnostics outcome).issues) :
    ∃ found ∈ outcome.issues, ∃ range, outcome.ranges[found.rangeIndex]? = some range ∧
      Reports issue found ∧
      issue.originNode = range.originNode ∧ issue.originKind = range.originKind := by
  obtain ⟨entry, normalized, rfl⟩ := List.mem_map.mp member
  obtain ⟨found, kept, made⟩ := List.mem_filterMap.mp normalized
  obtain ⟨range, named, rfl⟩ := Option.map_eq_some_iff.mp made
  exact ⟨found, kept, range, named, ⟨rfl, rfl, rfl, rfl, rfl⟩, rfl, rfl⟩

/-- The range of an issue that the request for some ranges admits. -/
theorem range_of_admits {options : CheckOptions} {file : SourceFile} {ranges : List CheckRange}
    {issue : EngineIssue} (admitted : (requestOf options file ranges).admits issue = true) :
    ∃ range, ranges[issue.rangeIndex]? = some range ∧ range.span.start ≤ issue.start ∧
      issue.start ≤ issue.stop ∧
      issue.stop ≤ range.span.stop := by
  obtain ⟨start, stop, named, within⟩ := EngineRequest.admits_iff.mp admitted
  simp only [requestOf, List.getElem?_map, Option.map_eq_some_iff] at named
  obtain ⟨range, found, bounds⟩ := named
  obtain ⟨rfl, rfl⟩ := Prod.mk.inj bounds
  exact ⟨range, found, within⟩

section
variable {options : CheckOptions} {table : ChildTable} {file : SourceFile} {selection : Selection}

theorem issues_outcomeOf (selected : Select.select options table file = .ok selection)
    (response : EngineResponse) :
    (outcomeOf file selection response).issues =
      response.issues.filter (requestOf options file (sentRanges selection)).admits :=
  Engine.issues_ofResponse (sent_within_text selected) rfl response

theorem admits_of_mem_outcomeOf (selected : Select.select options table file = .ok selection)
    {response : EngineResponse} {issue : EngineIssue}
    (member : issue ∈ (outcomeOf file selection response).issues) :
    (requestOf options file (sentRanges selection)).admits issue = true := by
  rw [issues_outcomeOf selected] at member
  exact (List.mem_filter.mp member).2

theorem reportOutcome_issues (selected : Select.select options table file = .ok selection)
    (diagnostics : List Diagnostic) (response : EngineResponse) :
    List.Forall₂ Reports
      (reportOutcome options file diagnostics (outcomeOf file selection response)).issues
      (response.issues.filter (requestOf options file (sentRanges selection)).admits) := by
  have named : ∀ issue ∈ (outcomeOf file selection response).issues,
      ((outcomeOf file selection response).ranges[issue.rangeIndex]?).isSome := by
    intro issue member
    obtain ⟨range, found, _⟩ := range_of_admits (admits_of_mem_outcomeOf selected member)
    exact Option.isSome_iff_exists.mpr ⟨range, found⟩
  rw [← issues_outcomeOf selected]
  exact List.forall₂_map_left_iff.mpr ((normalizeAll_forall₂ named).imp fun _ _ reports =>
    ⟨reports.word, reports.start, reports.stop, reports.severity, reports.rangeIndex⟩)

theorem reportOutcome_diagnostics (selected : Select.select options table file = .ok selection)
    (response : EngineResponse) :
    ∃ walked rejected notes,
      (reportOutcome options file (earlyDiagnostics file selection)
        (outcomeOf file selection response)).diagnostics = file.diagnostics ++ walked ++
          rejected ++ notes ∧
      (∀ diagnostic ∈ walked, diagnostic.kind = .traversal) ∧
      List.Forall₂ Rejects rejected
        (response.issues.filter fun issue =>
          !(requestOf options file (sentRanges selection)).admits issue) ∧
      (∀ diagnostic ∈ notes, diagnostic.kind = .normalization) := by
  exact ⟨selection.problems.map Diagnostic.ofTraversal, _, _, rfl, by simp [Diagnostic.ofTraversal],
    Engine.diagnostics_ofResponse (sent_within_text selected) rfl response, kind_of_note⟩

/-- A reported issue is within the range it names, and a visited node yields that range. -/
theorem origin_of_reported (selected : Select.select options table file = .ok selection)
    {diagnostics : List Diagnostic} {response : EngineResponse} {issue : Issue}
    (reported : issue ∈ (reportOutcome options file diagnostics
      (outcomeOf file selection response)).issues) :
    issue.start ≤ issue.stop ∧ issue.stop ≤ Text.byteLength file.text ∧
      ∃ start stop, (requestOf options file (sentRanges selection)).ranges[issue.rangeIndex]? =
        some (start, stop) ∧
        start ≤ issue.start ∧ issue.stop ≤ stop ∧
        ∃ path ∈ (fileWalk table file).visits, path.node = issue.originNode ∧
          extract? file.tree path.node file.text =
            some ⟨⟨start, stop⟩, issue.originKind, issue.originNode⟩ ∧
          ∃ node, file.tree.get? path.node = some node ∧ node.kind = issue.originKind := by
  obtain ⟨found, kept, range, named, reports, originNode, originKind⟩ :=
    mem_issues_reportOutcome reported
  obtain ⟨same, sent, first, ordered, last⟩ :=
    range_of_admits (admits_of_mem_outcomeOf selected kept)
  obtain rfl : range = same := Option.some.inj (named.symm.trans sent)
  obtain ⟨path, visited, extracted⟩ := visited_of_sent selected (List.mem_of_getElem? sent)
  obtain ⟨fromPath, typed, _, inText⟩ := Select.extract?_eq_some extracted
  rw [reports.start, reports.stop, reports.rangeIndex, originNode, originKind]
  refine ⟨ordered, Nat.le_trans last inText, range.span.start, range.span.stop, ?_, first, last,
    path, visited, fromPath.symm, extracted, typed⟩
  simp [requestOf, sent, CheckRange.key]

end

/-- Whatever the engine answers, the reported issues are in order those that the request admits, and
each of the others leaves one diagnostic of the engine. Every reported issue is within the text and
the range it names, and that range is what a visited node of its kind yields. -/
theorem check_reports_admitted_issues (checker : Checker) (file : SourceFile) :
    (∀ request response, request ∈ (checker.check file).requests →
      checker.transport.exchange request = .ok response →
      List.Forall₂ Reports (checker.check file).report.issues
        (response.issues.filter request.admits) ∧
      ∃ walked rejected notes,
        (checker.check file).report.diagnostics = file.diagnostics ++ walked ++ rejected ++ notes ∧
        (∀ diagnostic ∈ walked, diagnostic.kind = .traversal) ∧
        List.Forall₂ Rejects rejected (response.issues.filter fun issue => !request.admits issue) ∧
        (∀ diagnostic ∈ notes, diagnostic.kind = .normalization)) ∧
    ∀ issue ∈ (checker.check file).report.issues,
      issue.start ≤ issue.stop ∧ issue.stop ≤ Text.byteLength file.text ∧
      ∃ request response start stop,
        (checker.check file).requests = [request] ∧
        checker.transport.exchange request = .ok response ∧
        request.ranges[issue.rangeIndex]? = some (start, stop) ∧
        start ≤ issue.start ∧ issue.stop ≤ stop ∧
        ∃ path ∈ (fileWalk checker.table file).visits, path.node = issue.originNode ∧
          extract? file.tree path.node file.text =
            some ⟨⟨start, stop⟩, issue.originKind, issue.originNode⟩ ∧
          ∃ node, file.tree.get? path.node = some node ∧ node.kind = issue.originKind := by
  have outcome := check_cases checker file
  generalize checker.check file = checked at outcome
  cases outcome with
  | cyclic cycle selected => exact ⟨by simp, by simp⟩
  | unasked selection selected nothing => exact ⟨by simp, fun issue reported => by cases reported⟩
  | failed selection selected something error exchanged =>
      refine ⟨fun request response sent answered => ?_, by simp⟩
      obtain rfl := List.mem_singleton.mp sent
      simp [exchanged] at answered
  | answered selection selected something response exchanged =>
      refine ⟨fun request other sent answered => ?_, fun issue reported => ?_⟩
      · obtain rfl := List.mem_singleton.mp sent
        obtain rfl := Except.ok.inj (exchanged.symm.trans answered)
        exact ⟨reportOutcome_issues selected _ response,
          reportOutcome_diagnostics selected response⟩
      · obtain ⟨ordered, inText, start, stop, named, within⟩ := origin_of_reported selected reported
        exact ⟨ordered, inText, _, response, start, stop, rfl, exchanged, named, within⟩

/-- An engine that answers with one issue in its place, and with one that is inverted, one that
leaves its range and one for a range that was not sent. -/
def careless : Checker where
  options := {
    checkStrings := false, checkStringTemplates := false, checkIdentifiers :=
      false, checkElementText := false
    ignoreImports := false }
  table := { registered := [("Line", [])] }
  transport := .inProcess fun _ => .ok { issues := [
    { rangeIndex := 0, word := "teh", start := 3, stop := 6 },
    { rangeIndex := 0, word := "teh", start := 6, stop := 3 },
    { rangeIndex := 0, word := "teh", start := 3, stop := 9 },
    { rangeIndex := 1, word := "teh", start := 3, stop := 6 }] }

def commented : SourceFile where
  filename := "a.js"
  text := "// teh".toList
  tree := { nodes := #[{ kind := "Line", span := ⟨0, 6⟩ }], root := 0 }

theorem select_commented :
    ∃ candidate, candidate.range = some ⟨⟨0, 6⟩, "Line", 0⟩ ∧
      Select.select careless.options careless.table commented = .ok ⟨[candidate], []⟩ := by
  have walked : Tree.Walker.walk { tree := commented.tree, table := Select.fileTable careless.table commented } =
      { visits := [⟨⟨0, none⟩, []⟩], visited := 1, errors := [], parents :=
        #[none], cycle := none } := by
    cbv
  unfold Select.select
  rw [walked]
  exact ⟨_, by decide, rfl⟩

theorem request_commented :
    (careless.check commented).requests =
      [requestOf careless.options commented [⟨⟨0, 6⟩, "Line", 0⟩]] := by
  obtain ⟨candidate, ranged, selected⟩ := select_commented
  have sent : sentRanges ⟨[candidate], []⟩ = [⟨⟨0, 6⟩, "Line", 0⟩] := by
    simp only [sentRanges, List.filterMap_cons, ranged, List.filterMap_nil]
    cbv
  have outcome := check_cases careless commented
  generalize careless.check commented = checked at outcome
  cases outcome with
  | cyclic cycle cyclic => cases selected.symm.trans cyclic
  | unasked other same nothing =>
      obtain rfl := Except.ok.inj (selected.symm.trans same)
      simp [sent] at nothing
  | failed other same something error exchanged => cases exchanged
  | answered other same something response exchanged =>
      obtain rfl := Except.ok.inj (selected.symm.trans same)
      rw [sent]

theorem check_reports_admitted_issues_careless :
    ∃ request response, (careless.check commented).requests = [request] ∧
      careless.transport.exchange request = .ok response ∧ response.issues.length = 4 ∧
      (careless.check commented).report.issues.length = 1 ∧
      ∃ issue ∈ (careless.check commented).report.issues, issue.originNode = 0 := by
  have reported := (check_reports_admitted_issues careless commented).1
    _ _ (by rw [request_commented]; exact List.mem_singleton_self _) rfl
  have single : (careless.check commented).report.issues.length = 1 := reported.1.length_eq
  refine ⟨_, _, request_commented, rfl, rfl, single, ?_⟩
  obtain ⟨issue, only⟩ := List.length_eq_one_iff.mp single
  obtain ⟨_, _, request, response, start, stop, _, _, _, _, _, path, visited, origin, _⟩ :=
    (check_reports_admitted_issues careless commented).2 issue (by simp [only])
  have nodes : (fileWalk careless.table commented).visits = [⟨⟨0, none⟩, []⟩] := by cbv
  rw [nodes, List.mem_singleton] at visited
  exact ⟨issue, by simp [only], by rw [← origin, visited]; rfl⟩

end Report
end Spellspan
