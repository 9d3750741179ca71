import Mathlib
import Spellspan.Proofs.CheckedIssues
import Spellspan.Report.Run

/-!
A run keeps its files apart. Every path gets the report that it gets in a run of its own, whatever
becomes of the other paths, and a run puts these reports in the order of their filenames. Filenames
may come from within a file, so two reports can bear one name; such reports stay in the order of
their paths. Hence the order of the paths decides nothing else.
-/
set_option autoImplicit false

namespace Spellspan.Report

open Files (FileSystem)

/-! ## Reports by filename -/

/-- Reports in the order of their filenames, those of one filename in the order in which they were
given. -/
structure ByFilename (ordered given : List FileReport) : Prop where
  perm : ordered.Perm given
  ascending : ordered.Pairwise fun left right => left.filename ≤ right.filename
  stable : ∀ name,
    ordered.filter (fun report => report.filename = name) = given.filter fun report =>
      report.filename = name

theorem byFilename_ofReports (given : List FileReport) (diagnostics : List Diagnostic) :
    ByFilename (RunReport.ofReports given diagnostics).files given := by
  have transitive : ∀ first second third : FileReport,
    (!decide (second.filename < first.filename)) = true →
      (!decide (third.filename < second.filename)) = true →
        (!decide (third.filename < first.filename)) = true := by
    intro first second third
    simp only [Bool.not_eq_true', decide_eq_false_iff_not, not_lt]
    exact le_trans
  have total : ∀ left right : FileReport,
      (!decide (right.filename < left.filename) || !decide (left.filename < right.filename)) =
        true := by
    intro left right
    simp only [Bool.or_eq_true, Bool.not_eq_true', decide_eq_false_iff_not, not_lt]
    exact le_total _ _
  have perm := List.mergeSort_perm given fun left right => !decide (right.filename < left.filename)
  refine ⟨perm, (List.pairwise_mergeSort transitive total given).imp ?_, fun name => ?_⟩
  · intro left right ordered
    simpa only [Bool.not_eq_true', decide_eq_false_iff_not, not_lt] using ordered
  · -- Reports of one filename are in order as they are given, so sorting keeps them as a sublist.
    have alike : (given.filter fun report => report.filename = name).Pairwise
        fun left right => (!decide (right.filename < left.filename)) = true := by
      refine List.pairwise_of_forall_mem_list fun left leftListed right rightListed => ?_
      have leftNamed : left.filename = name := by simpa using (List.mem_filter.mp leftListed).2
      have rightNamed : right.filename = name := by simpa using (List.mem_filter.mp rightListed).2
      simp [leftNamed, rightNamed]
    have kept := (List.sublist_mergeSort transitive total alike List.filter_sublist).filter
      fun report => report.filename = name
    rw [List.filter_filter] at kept
    simp only [Bool.and_self] at kept
    exact (kept.eq_of_length (perm.filter _).length_eq.symm).symm

namespace ByFilename
variable {first second ordered given : List FileReport}

theorem unique (one : ByFilename first given) (other : ByFilename second given) :
    first = second := by
  -- Both begin with a least filename, and the first report of that filename is the same in both.
  induction first generalizing second given with
  | nil => exact (other.perm.trans one.perm.symm).eq_nil.symm
  | cons head rest ih =>
      cases second with
      | nil => exact one.perm.trans other.perm.symm |>.eq_nil
      | cons otherHead otherRest =>
          have perm : (head :: rest).Perm (otherHead :: otherRest) := one.perm.trans other.perm.symm
          have stable : ∀ name, (head :: rest).filter (fun report => report.filename = name) =
              (otherHead :: otherRest).filter fun report => report.filename = name :=
            fun name => (one.stable name).trans (other.stable name).symm
          have sameName : head.filename = otherHead.filename := by
            apply le_antisymm
            · rcases List.mem_cons.mp (perm.mem_iff.mpr List.mem_cons_self) with same | later
              · exact (congrArg FileReport.filename same).ge
              · exact (List.pairwise_cons.mp one.ascending).1 _ later
            · rcases List.mem_cons.mp (perm.mem_iff.mp List.mem_cons_self) with same | later
              · exact (congrArg FileReport.filename same).ge
              · exact (List.pairwise_cons.mp other.ascending).1 _ later
          obtain rfl : head = otherHead := by
            have heads := stable head.filename
            simp only [List.filter_cons, sameName, decide_true, if_true] at heads
            exact (List.cons.inj heads).1
          have tails : ByFilename otherRest rest := by
            refine ⟨perm.cons_inv.symm, (List.pairwise_cons.mp other.ascending).2, fun name => ?_⟩
            have both := stable name
            simp only [List.filter_cons] at both
            split at both
            · exact (List.cons.inj both).2.symm
            · exact both.symm
          have refl : ByFilename rest rest :=
            ⟨.rfl, (List.pairwise_cons.mp one.ascending).2, fun _ => rfl⟩
          rw [ih refl tails]

/-- A report that is not given is missing from its place, and nothing else changes. -/
theorem without {before after : List FileReport} {report : FileReport}
    (sorted : ByFilename ordered (before ++ report :: after)) :
    ∃ earlier later, ordered = earlier ++ report :: later ∧
      ByFilename (earlier ++ later) (before ++ after) := by
  -- Among the reports of its filename the report stands behind those of `before`, which tells
  -- its place in the whole order.
  have own := sorted.stable report.filename
  rw [List.filter_append, List.filter_cons_of_pos (by simp), List.filter_eq_append_iff] at own
  obtain ⟨front, back, rfl, frontNamed, backNamed⟩ := own
  obtain ⟨apart, later, rfl, noneNamed, _, laterNamed⟩ := List.filter_eq_cons_iff.mp backNamed
  refine ⟨front ++ apart, later, by simp, ?_, ?_, fun name => ?_⟩
  · have perm := sorted.perm
    rw [← List.append_assoc] at perm
    exact (List.perm_middle.symm.trans (perm.trans List.perm_middle)).cons_inv
  · refine sorted.ascending.sublist ?_
    rw [List.append_assoc]
    exact (List.Sublist.refl front).append
      ((List.Sublist.refl apart).append (List.sublist_cons_self report later))
  · by_cases same : report.filename = name
    · subst same
      have unnamed : apart.filter (fun other => other.filename = report.filename) = [] :=
        List.filter_eq_nil_iff.mpr noneNamed
      simp only [List.filter_append, frontNamed, unnamed, laterNamed, List.append_nil]
    · have others := sorted.stable name
      simpa [List.filter_cons, same] using others

/-- Where every report has a filename of its own, the order in which they are given does not
matter. -/
theorem eq_of_perm {otherGiven : List FileReport} (one : ByFilename first given)
    (other : ByFilename second otherGiven) (perm : given.Perm otherGiven)
    (distinct : (first.map FileReport.filename).Nodup) :
    first = second := by
  have samePerm : first.Perm second := one.perm.trans (perm.trans other.perm.symm)
  refine List.Perm.eq_of_pairwise ?_ one.ascending other.ascending samePerm
  intro left right leftListed rightListed below above
  exact List.inj_on_of_nodup_map distinct leftListed (samePerm.mem_iff.mpr rightListed)
    (le_antisymm below above)

end ByFilename

/-! ## What a run counts -/

namespace RunReport
variable {left right : RunReport}

theorem issueCount_of_perm (perm : left.files.Perm right.files) :
    left.issueCount = right.issueCount := by
  unfold issueCount total
  refine perm.foldr_eq' (fun first _ second _ rest => ?_) 0
  exact Nat.add_left_comm _ _ _

theorem failedFiles_of_perm (perm : left.files.Perm right.files) :
    left.failedFiles = right.failedFiles :=
  perm.countP_eq _

theorem isClean_of_perm (perm : left.files.Perm right.files) : left.isClean = right.isClean :=
  perm.all_eq

end RunReport

/-! ## Runs -/

section
variable (checker : Checker) (system : FileSystem)

theorem byFilename_run (paths : List String) :
    ByFilename (checker.run system paths).report.files
      (paths.map fun path => (checker.checkPath system path).report) := by
  have sorted := byFilename_ofReports ((paths.map (checker.checkPath system)).map Checked.report)
    checker.configDiagnostics
  simpa only [Checker.run, List.map_map, Function.comp_def] using sorted

theorem files_run_singleton (path : String) :
    (checker.run system [path]).report.files = [(checker.checkPath system path).report] := by
  simp [Checker.run, RunReport.ofReports]

theorem files_run_without (before : List String) (path : String) (after : List String) :
    ∃ earlier later,
      (checker.run system (before ++ path :: after)).report.files =
        earlier ++ (checker.checkPath system path).report :: later ∧
      (checker.run system (before ++ after)).report.files = earlier ++ later := by
  have whole := byFilename_run checker system (before ++ path :: after)
  have rest := byFilename_run checker system (before ++ after)
  rw [List.map_append, List.map_cons] at whole
  rw [List.map_append] at rest
  obtain ⟨earlier, later, split, remaining⟩ := whole.without
  exact ⟨earlier, later, split, rest.unique remaining⟩

theorem perm_files_run {paths others : List String} (perm : paths.Perm others) :
    (checker.run system paths).report.files.Perm (checker.run system others).report.files :=
  (byFilename_run checker system paths).perm.trans
    ((perm.map _).trans (byFilename_run checker system others).perm.symm)

theorem report_run_of_perm {paths others : List String} (perm : paths.Perm others)
    (distinct : ((checker.run system paths).report.files.map FileReport.filename).Nodup) :
    (checker.run system paths).report = (checker.run system others).report := by
  have sameFiles : (checker.run system paths).report.files =
      (checker.run system others).report.files :=
    (byFilename_run checker system paths).eq_of_perm (byFilename_run checker system others)
      (perm.map _) distinct
  unfold Checker.run at sameFiles ⊢
  exact congrArg (RunReport.mk · checker.configDiagnostics) sameFiles

end

/-- Every path of a run gets the report that it gets alone: that of the check of its file, or that
its file cannot be loaded. The reports stand in the order of their filenames, and a path that is
left out, whatever its report, takes away that report only. So other orders of the paths give the
same reports and the same counts, and the same run where no two reports bear one filename. -/
theorem run_isolates_files (checker : Checker) (system : FileSystem) :
    ∃ alone : String → FileReport,
      (∀ path, (checker.run system [path]).report.files = [alone path]) ∧
      (∀ path file, Files.load system path = .ok file → alone path = (checker.check file).report) ∧
      (∀ path error, Files.load system path = .error error →
        alone path = .unreadable path error.message) ∧
      (∀ paths, ByFilename (checker.run system paths).report.files (paths.map alone)) ∧
      (∀ before path after, ∃ earlier later,
        (checker.run system (before ++ path :: after)).report.files =
          earlier ++ alone path :: later ∧
        (checker.run system (before ++ after)).report.files = earlier ++ later) ∧
      ∀ paths others, paths.Perm others →
        (checker.run system paths).report.files.Perm (checker.run system others).report.files ∧
        (((checker.run system paths).report.files.map FileReport.filename).Nodup →
          (checker.run system paths).report = (checker.run system others).report) ∧
        (checker.run system paths).report.issueCount =
          (checker.run system others).report.issueCount ∧
        (checker.run system paths).report.failedFiles =
          (checker.run system others).report.failedFiles ∧
        (checker.run system paths).report.isClean = (checker.run system others).report.isClean := by
  refine ⟨fun path => (checker.checkPath system path).report,
    files_run_singleton checker system, ?_, ?_, byFilename_run checker system,
    files_run_without checker system, ?_⟩
  · intro path file loaded
    simp only [Checker.checkPath, loaded]
  · intro path error failed
    simp only [Checker.checkPath, failed]
  · intro paths others perm
    have samePerm := perm_files_run checker system perm
    exact ⟨samePerm, report_run_of_perm checker system perm, RunReport.issueCount_of_perm samePerm,
      RunReport.failedFiles_of_perm samePerm, RunReport.isClean_of_perm samePerm⟩

theorem filename_check (checker : Checker) (file : SourceFile) :
    (checker.check file).report.filename = file.filename := by
  have outcome := check_cases checker file
  generalize checker.check file = checked at outcome
  cases outcome with
  | cyclic cycle selected => rfl
  | unasked selection selected nothing => rfl
  | failed selection selected something error exchanged => rfl
  | answered selection selected something response exchanged => rfl

def halfReadable : FileSystem where
  files := [(["b.js"], { bytes := ⟨#[]⟩, parse := some (.mk none "program" true ⟨0, 0⟩ []) })]

theorem load_halfReadable :
    (∃ file, Files.load halfReadable "b.js" = .ok file ∧ file.filename = "b.js") ∧
      Files.load halfReadable "a.js" = .error (.unreadable "a.js" .notFound) := by
  have source : Files.isBundle "b.js" = false ∧ Files.isBundle "a.js" = false := by
    constructor <;> cbv
  have language : Files.SourceLanguage.ofPath? "b.js" = some .javascript ∧
      Files.SourceLanguage.ofPath? "a.js" = some .javascript := by constructor <;> cbv
  have present : halfReadable.readText "b.js" =
    .ok ("", some (.mk none "program" true ⟨0, 0⟩ [])) := by cbv
  have missing : halfReadable.readText "a.js" = .error .notFound := by cbv
  constructor
  · refine ⟨Parse.load "b.js" [] (.mk none "program" true ⟨0, 0⟩ []), ?_, rfl⟩
    simp only [Files.load, Files.loadSource, source.1, language.1, present,
      Bool.false_eq_true, if_false]
    rfl
  · simp only [Files.load, Files.loadSource, source.2, language.2, missing,
      Bool.false_eq_true, if_false]

theorem run_isolates_files_halfReadable :
    ["b.js", "a.js"].Perm ["a.js", "b.js"] ∧
    (∃ file, Files.load halfReadable "b.js" = .ok file ∧
      FileReport.unreadable "a.js" (Files.LoadError.unreadable "a.js" .notFound).message ∈
        (Checker.run {} halfReadable ["b.js", "a.js"]).report.files ∧
      (Checker.check {} file).report ∈
        (Checker.run {} halfReadable ["b.js", "a.js"]).report.files) ∧
    ((Checker.run {} halfReadable ["b.js", "a.js"]).report.files.map FileReport.filename).Nodup ∧
    (Checker.run {} halfReadable ["b.js", "a.js"]).report =
      (Checker.run {} halfReadable ["a.js", "b.js"]).report := by
  obtain ⟨⟨file, loaded, named⟩, failed⟩ := load_halfReadable
  obtain ⟨alone, _, checked, unread, sorted, _, reordered⟩ := run_isolates_files {} halfReadable
  have swapped : ["b.js", "a.js"].Perm ["a.js", "b.js"] := .swap _ _ _
  have reports := (sorted ["b.js", "a.js"]).perm
  simp only [List.map_cons, List.map_nil, checked _ _ loaded, unread _ _ failed] at reports
  have distinct : ((Checker.run {} halfReadable ["b.js", "a.js"]).report.files.map
      FileReport.filename).Nodup := by
    rw [(reports.map FileReport.filename).nodup_iff]
    simp only [List.map_cons, List.map_nil, filename_check, named, FileReport.unreadable]
    decide
  refine ⟨swapped, ⟨file, loaded, ?_, ?_⟩, distinct, (reordered _ _ swapped).2.1 distinct⟩
  · exact reports.mem_iff.mpr (List.mem_cons_of_mem _ List.mem_cons_self)
  · exact reports.mem_iff.mpr List.mem_cons_self

end Spellspan.Report
