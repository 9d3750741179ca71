import Mathlib
import Spellspan.Proofs.CheckedIssues
import Spellspan.Proofs.WalkReachability

/-!
What the check of a file sends. The ranges of its candidates are queued once each, the first
candidate of a span standing for all of them, and are sent in the order of their offsets: one
exchange when there is a range at all, and none otherwise. That holds for engines of every kind,
also for those that keep a state or answer one request in several ways.
-/
set_option autoImplicit false

namespace Spellspan

/-! ## Extracted ranges can be cut from the text -/

namespace Tree.Span

theorem ext_iff {left right : Span} : left = right ↔
    left.start = right.start ∧ left.stop = right.stop := by
  cases left
  cases right
  simp

theorem precedes_iff {left right : Span} :
    left.precedes right = true ↔ left.start < right.start ∨ left.start = right.start ∧
      left.stop < right.stop := by
  simp [precedes]

theorem isEmpty_eq_false_iff {span : Span} : span.isEmpty = false ↔ span.start < span.stop := by
  simp [isEmpty]

end Tree.Span

namespace Select

open Scope (Decision DecisionMemo ScopeRule)
open Spellspan.Tree (ChildTable NodeId Walker)

theorem boundaries_of_extract? {tree : SyntaxTree} {id : NodeId} {text : List Char}
    {range : CheckRange} (extracted : extract? tree id text = some range) :
    Text.IsBoundary text range.span.start ∧ Text.IsBoundary text range.span.stop := by
  obtain ⟨_, _, _, _, _, _, cut, _⟩ := extract?_eq_some_iff.mp extracted
  obtain ⟨middle, cut⟩ := Option.isSome_iff_exists.mp cut
  exact Text.isBoundary_of_slice? cut

theorem map_node_decideAll {rules : List ScopeRule} {finish : Pending → Decision → Candidate}
    (kept : ∀ entry decision, (finish entry decision).node = entry.node) (memo : DecisionMemo)
    (pending : List Pending) :
    (decideAll rules finish memo pending).map Candidate.node = pending.map Pending.node := by
  induction pending generalizing memo with
  | nil => rfl
  | cons entry rest ih =>
      simp only [decideAll, List.map_cons, kept]
      rw [ih]

/-- A file whose walk meets no cycle has a selection, with its candidates in the order of the
walk. -/
theorem select_of_acyclic (options : CheckOptions) {table : ChildTable} {file : SourceFile}
    (acyclic : (fileWalk table file).cycle = none) :
    ∃ selection, select options table file = .ok selection := by
  unfold fileWalk at acyclic
  simp only [select, acyclic]
  exact ⟨_, rfl⟩

theorem nodes_sublist_walk {options : CheckOptions} {table : ChildTable} {file : SourceFile}
    {selection : Selection} (selected : select options table file = .ok selection) :
    (selection.candidates.map Candidate.node).Sublist (fileWalk table file).nodes := by
  simp only [select] at selected
  split at selected
  · cases selected
  · obtain rfl := Except.ok.inj selected
    rw [map_node_decideAll fun _ _ => rfl]
    change ((fileWalk table file).visits.filterMap (Pending.ofPath? file.tree)).map
      Pending.node |>.Sublist _
    rw [Tree.Walk.nodes]
    induction (fileWalk table file).visits with
    | nil => exact .slnil
    | cons path rest ih =>
        cases found : Pending.ofPath? file.tree path with
        | none => simpa [found] using ih.cons path.node
        | some entry =>
            obtain ⟨kind, _, rfl⟩ := Option.map_eq_some_iff.mp found
            simpa [found] using ih

/-- The range of a candidate is extracted from the candidate's own node. -/
theorem extract?_of_candidate {options : CheckOptions} {table : ChildTable} {file : SourceFile}
    {selection : Selection} (selected : select options table file = .ok selection)
    {candidate : Candidate} (listed : candidate ∈ selection.candidates) {range : CheckRange}
    (ranged : candidate.range = some range) :
    extract? file.tree candidate.node file.text = some range := by
  simp only [select] at selected
  split at selected
  · cases selected
  · obtain rfl := Except.ok.inj selected
    obtain ⟨entry, _, decision, rfl⟩ := mem_decideAll listed
    simp only [Pending.decide] at ranged
    split at ranged
    · exact ranged
    · cases ranged

end Select

/-! ## The queue keeps the first range of every span -/

namespace Engine

open Select (CheckRange)
open Spellspan.Tree (Span)

theorem key_eq_iff {left right : CheckRange} : left.key = right.key ↔ left.span = right.span := by
  rw [Span.ext_iff, CheckRange.key, CheckRange.key, Prod.mk.injEq]

/-- A key was seen exactly when a range with that span is queued. -/
theorem Batch.accepts_iff {batch : Batch} {range : CheckRange} :
    batch.accepts range = true ↔
      range.span.isEmpty = false ∧ ∀ queued ∈ batch.ranges, queued.span ≠ range.span := by
  have unseen : batch.seen.contains range.key = false ↔
      ∀ queued ∈ batch.ranges, queued.span ≠ range.span := by
    rw [← Bool.not_eq_true, ← Std.HashSet.mem_iff_contains, batch.mem_seen]
    push Not
    simp only [Ne, key_eq_iff]
  rw [accepts, Bool.and_eq_true, Bool.not_eq_true', Bool.not_eq_true', unseen]

/-- What stands for a span in a queue: the range that stands for it already, or the one that is
added. -/
theorem Batch.find?_push (batch : Batch) (range : CheckRange) (span : Span) :
    (batch.push range).ranges.find? (fun queued => queued.span == span) =
      (batch.ranges.find? fun queued => queued.span == span).or
        (if range.span = span ∧ range.span.isEmpty = false then some range else none) := by
  unfold push
  split
  · next accepted =>
      have nonempty := (accepts_iff.mp accepted).1
      by_cases same : range.span = span <;> simp [List.find?_append, same, nonempty]
      simp [← same, nonempty]
  · next refused =>
      rw [accepts_iff, not_and] at refused
      by_cases fits : range.span = span ∧ range.span.isEmpty = false
      · obtain ⟨rfl, nonempty⟩ := fits
        have found := refused nonempty
        push Not at found
        obtain ⟨queued, member, same⟩ := found
        have some : (batch.ranges.find? fun queued => queued.span == range.span).isSome :=
          List.find?_isSome.mpr ⟨queued, member, by simpa using same⟩
        obtain ⟨first, found⟩ := Option.isSome_iff_exists.mp some
        simp [found]
      · simp [fits]

theorem Batch.find?_foldl_push (ranges : List CheckRange) (batch : Batch) (span : Span)
    (nonempty : span.isEmpty = false) :
    (ranges.foldl Batch.push batch).ranges.find? (fun queued => queued.span == span) =
      (batch.ranges.find? fun queued => queued.span == span).or (ranges.find? fun range =>
        range.span == span) := by
  induction ranges generalizing batch with
  | nil => simp
  | cons range rest ih =>
      rw [List.foldl_cons, ih, find?_push, List.find?_cons, Option.or_assoc]
      by_cases same : range.span = span
      · simp [same, nonempty]
      · simp [same, beq_eq_false_iff_ne.mpr same]

theorem Batch.find?_ofRanges (ranges : List CheckRange) {span : Span}
    (nonempty : span.isEmpty = false) :
    (ofRanges ranges).ranges.find? (fun queued => queued.span == span) = ranges.find? fun range =>
      range.span == span := by
  rw [ofRanges, find?_foldl_push ranges .empty span nonempty]
  rfl

theorem Batch.nodup_push {batch : Batch} (unique : (batch.ranges.map CheckRange.span).Nodup)
    (range : CheckRange) :
    ((batch.push range).ranges.map CheckRange.span).Nodup := by
  unfold push
  split
  · next accepted =>
      have apart := (accepts_iff.mp accepted).2
      rw [List.map_append, List.nodup_append]
      refine ⟨unique, List.pairwise_singleton _ _, ?_⟩
      rintro span member _ last rfl
      obtain ⟨queued, listed, same⟩ := List.mem_map.mp member
      exact apart queued listed (same.trans (List.mem_singleton.mp last))
  · exact unique

theorem Batch.nodup_ofRanges (ranges : List CheckRange) :
    ((ofRanges ranges).ranges.map CheckRange.span).Nodup := by
  have queued : ∀ (ranges : List CheckRange) (batch : Batch),
    (batch.ranges.map CheckRange.span).Nodup →
      ((ranges.foldl Batch.push batch).ranges.map CheckRange.span).Nodup := by
    intro ranges
    induction ranges with
    | nil => exact fun _ => id
    | cons range rest ih => exact fun batch unique => ih _ (nodup_push unique range)
  exact queued ranges .empty List.nodup_nil

/-! ## Sorting a queue orders its spans strictly -/

theorem Batch.perm_sorted (batch : Batch) : batch.sorted.Perm batch.ranges :=
  List.mergeSort_perm _ _

theorem Batch.sorted_strict {batch : Batch} (unique : (batch.ranges.map CheckRange.span).Nodup) :
    batch.sorted.Pairwise fun left right => left.span.precedes right.span = true := by
  have ordered : batch.sorted.Pairwise fun left right =>
      (!right.span.precedes left.span) = true := by
    refine List.pairwise_mergeSort ?_ ?_ batch.ranges
    · intro first second third
      simp only [Bool.not_eq_true', ← Bool.not_eq_true, Span.precedes_iff]
      omega
    · intro left right
      simp only [Bool.or_eq_true, Bool.not_eq_true', ← Bool.not_eq_true, Span.precedes_iff]
      omega
  have apart : batch.sorted.Pairwise fun left right => left.span ≠ right.span :=
    List.pairwise_map.mp ((batch.perm_sorted.map CheckRange.span).nodup_iff.mpr unique)
  refine (ordered.and apart).imp ?_
  rintro left right ⟨notAfter, different⟩
  rw [Ne, Span.ext_iff] at different
  simp only [Bool.not_eq_true', ← Bool.not_eq_true, Span.precedes_iff] at notAfter ⊢
  omega

theorem Batch.first_of_mem_sorted {ranges : List CheckRange} {range : CheckRange}
    (nonempty : range.span.isEmpty = false) (sent : range ∈ (ofRanges ranges).sorted) :
    ranges.find? (fun other => other.span == range.span) = some range := by
  have queued : range ∈ (ofRanges ranges).ranges := (ofRanges ranges).perm_sorted.mem_iff.mp sent
  rw [← find?_ofRanges ranges nonempty]
  obtain ⟨first, found⟩ := Option.isSome_iff_exists.mp
    (List.find?_isSome.mpr ⟨range, queued, by simp⟩ :
      ((ofRanges ranges).ranges.find? fun other => other.span == range.span).isSome)
  have same : first.span = range.span := by simpa using List.find?_some found
  rw [found, List.inj_on_of_nodup_map (nodup_ofRanges ranges)
    (List.mem_of_find?_eq_some found) queued same]

theorem Batch.mem_sorted_of_mem {ranges : List CheckRange} {range : CheckRange}
    (nonempty : range.span.isEmpty = false) (member : range ∈ ranges) :
    ∃ sent ∈ (ofRanges ranges).sorted, sent.span = range.span := by
  have listed : (ranges.find? fun other => other.span == range.span).isSome :=
    List.find?_isSome.mpr ⟨range, member, by simp⟩
  obtain ⟨first, found⟩ := Option.isSome_iff_exists.mp listed
  rw [← find?_ofRanges ranges nonempty] at found
  exact ⟨first, (ofRanges ranges).perm_sorted.mem_iff.mpr (List.mem_of_find?_eq_some found), by
    simpa using List.find?_some found⟩

end Engine

/-! ## The exchange of a check -/

namespace Report

open Engine (Batch EngineRequest EngineResponse Transport TransportError)
open Relation (ReflTransGen TransGen)
open Select (Candidate CheckRange Selection extract? fileTable fileWalk)
open Spellspan.Tree (ChildTable Walker)

section
variable {options : CheckOptions} {table : ChildTable} {file : SourceFile} {selection : Selection}

theorem nonempty_of_candidate (selected : Select.select options table file = .ok selection)
    {range : CheckRange} (listed : range ∈ selection.candidates.filterMap Candidate.range) :
    range.span.isEmpty = false := by
  obtain ⟨_, _, extracted⟩ := Select.visited_of_range selected listed
  exact Tree.Span.isEmpty_eq_false_iff.mpr (Select.extract?_eq_some extracted).2.2.1

theorem sentRanges_eq_nil_iff (selected : Select.select options table file = .ok selection) :
    sentRanges selection = [] ↔ selection.candidates.filterMap Candidate.range = [] := by
  simp only [List.eq_nil_iff_forall_not_mem]
  refine ⟨fun unsent range listed => ?_, fun unranged range sent =>
    unranged range (Batch.mem_of_mem_sorted sent)⟩
  obtain ⟨sent, member, _⟩ := Batch.mem_sorted_of_mem (nonempty_of_candidate selected listed) listed
  exact unsent sent member

/-- A candidate stands for its range when no candidate before it has a range of the same span. -/
def StandsFor (selection : Selection) (candidate : Candidate) (range : CheckRange) : Prop :=
  candidate.range = some range ∧ candidate.node = range.originNode ∧
    selection.candidates.find? (fun other => other.range.any fun ranged =>
      ranged.span == range.span) = some candidate

theorem find?_filterMap_range {candidates : List Candidate} {range : CheckRange}
    {test : CheckRange → Bool}
    (found : (candidates.filterMap Candidate.range).find? test = some range) :
    ∃ candidate ∈ candidates, candidate.range = some range ∧
      candidates.find? (fun other => other.range.any test) = some candidate := by
  induction candidates with
  | nil => cases found
  | cons first rest ih =>
      cases ranged : first.range with
      | none =>
          rw [List.filterMap_cons_none ranged] at found
          obtain ⟨candidate, member, own, earliest⟩ := ih found
          exact ⟨candidate, List.mem_cons_of_mem _ member, own, by simpa [ranged] using earliest⟩
      | some own =>
          rw [List.filterMap_cons_some ranged, List.find?_cons] at found
          cases passed : test own with
          | true =>
              obtain rfl : own = range := by simpa [passed] using found
              exact ⟨first, List.mem_cons_self, ranged, by simp [ranged, passed]⟩
          | false =>
              obtain ⟨candidate, member, owned, earliest⟩ := ih (by simpa [passed] using found)
              exact ⟨candidate, List.mem_cons_of_mem _ member,
                owned, by simpa [ranged, passed] using earliest⟩

theorem standsFor_of_sent (selected : Select.select options table file = .ok selection)
    {range : CheckRange} (sent : range ∈ sentRanges selection) :
    ∃ candidate ∈ selection.candidates, StandsFor selection candidate range := by
  have listed := Batch.mem_of_mem_sorted sent
  obtain ⟨candidate, member, own, first⟩ :=
    find?_filterMap_range (Batch.first_of_mem_sorted (nonempty_of_candidate selected listed) sent)
  have extracted := Select.extract?_of_candidate selected member own
  exact ⟨candidate, member, own, (Select.extract?_eq_some extracted).1.symm, first⟩

/-- A request that sends the ranges of a selection. The kept ranges are those that the answer is
read against. -/
structure Sends (file : SourceFile) (selection : Selection) (request : EngineRequest)
    (kept : List CheckRange) : Prop where
  ranges : request.ranges = kept.map fun range => (range.span.start, range.span.stop)
  increasing : request.ranges.Pairwise (Prod.Lex (· < ·) (· < ·))
  cut : ∀ start stop, (start, stop) ∈ request.ranges →
    start < stop ∧ stop ≤ Text.byteLength file.text ∧
    Text.IsBoundary file.text start ∧ Text.IsBoundary file.text stop
  spans : ∀ start stop, (start, stop) ∈ request.ranges ↔
    ∃ candidate ∈ selection.candidates, ∃ range, candidate.range = some range ∧
      range.span = ⟨start, stop⟩
  origins : ∀ range ∈ kept, ∃ candidate ∈ selection.candidates,
    StandsFor selection candidate range ∧
    ∃ node, file.tree.get? candidate.node = some node ∧ node.kind = range.originKind

theorem mem_ranges_requestOf {start stop : Nat} :
    (start, stop) ∈ (requestOf options file (sentRanges selection)).ranges ↔
      ∃ range ∈ sentRanges selection, range.span = ⟨start, stop⟩ := by
  simp [requestOf, CheckRange.key, Tree.Span.ext_iff]

theorem sends_requestOf (selected : Select.select options table file = .ok selection) :
    Sends file selection (requestOf options file (sentRanges selection))
      (sentRanges selection) where
  ranges := rfl
  increasing := by
    refine List.pairwise_map.mpr ((Batch.sorted_strict (Batch.nodup_ofRanges _)).imp
      fun {left right} before => ?_)
    rw [Prod.lex_def]
    exact Tree.Span.precedes_iff.mp before
  cut start stop member := by
    obtain ⟨range, sent, span⟩ := mem_ranges_requestOf.mp member
    obtain ⟨path, _, extracted⟩ := visited_of_sent selected sent
    obtain ⟨_, _, nonempty, inText⟩ := Select.extract?_eq_some extracted
    have boundaries := Select.boundaries_of_extract? extracted
    rw [span] at nonempty inText boundaries
    exact ⟨nonempty, inText, boundaries⟩
  spans start stop := by
    rw [mem_ranges_requestOf]
    constructor
    · rintro ⟨range, sent, span⟩
      obtain ⟨candidate, member, own, _⟩ := standsFor_of_sent selected sent
      exact ⟨candidate, member, range, own, span⟩
    · rintro ⟨candidate, member, range, own, span⟩
      have listed : range ∈ selection.candidates.filterMap Candidate.range :=
        List.mem_filterMap.mpr ⟨candidate, member, own⟩
      obtain ⟨sent, sorted, same⟩ :=
        Batch.mem_sorted_of_mem (nonempty_of_candidate selected listed) listed
      exact ⟨sent, sorted, same.trans span⟩
  origins range sent := by
    obtain ⟨candidate, member, stands⟩ := standsFor_of_sent selected sent
    have extracted := Select.extract?_of_candidate selected member stands.1
    exact ⟨candidate, member, stands, (Select.extract?_eq_some extracted).2.1⟩

/-- A report on what came of sending a request. -/
structure Accounts (request : EngineRequest) (kept : List CheckRange)
    (report : Except TransportError EngineResponse → FileReport) : Prop where
  answered : ∀ response, (report (.ok response)).error = none ∧ (report (.ok response)).ranges =
    request.ranges.length
  origins : ∀ response, ∀ issue ∈ (report (.ok response)).issues, ∃ range,
    kept[issue.rangeIndex]? = some range ∧
    issue.originNode = range.originNode ∧ issue.originKind = range.originKind
  failed : ∀ error, (report (.error error)).error = some (.transport error) ∧
    (report (.error error)).ranges = 0

theorem accounts_reportAnswer :
    Accounts (requestOf options file (sentRanges selection)) (sentRanges selection)
      (reportAnswer options file selection) where
  answered response := by
    refine ⟨rfl, ?_⟩
    simp [reportAnswer, reportOutcome, outcomeOf, Engine.BatchOutcome.ofResponse, requestOf]
  origins response issue reported := by
    obtain ⟨found, _, range, named, reports, originNode, originKind⟩ :=
      mem_issues_reportOutcome reported
    exact ⟨range, reports.rangeIndex ▸ named, originNode, originKind⟩
  failed error := ⟨rfl, rfl⟩

end

/-- Whether the ranges of a file are sent depends on its candidates alone. With none, a check does
nothing but report. With some it is one exchange, in whatever monad, followed by the report on its
answer; the request sends every span of the candidates once and in order. So an engine that lists
its requests lists none, or that one. -/
theorem check_exchanges_once (options : CheckOptions) (table : ChildTable) (file : SourceFile) :
    ((¬ ∃ id, ReflTransGen (Walker.Edge { tree := file.tree, table := fileTable table file })
      file.tree.root id ∧
        TransGen (Walker.Edge { tree := file.tree, table := fileTable table file }) id id) →
      ∃ selection, Select.select options table file = .ok selection) ∧
    ∀ selection, Select.select options table file = .ok selection →
      (selection.candidates.map Candidate.node).Sublist (fileWalk table file).nodes ∧
      ((∀ candidate ∈ selection.candidates, candidate.range = none) →
        ∃ report : FileReport, report.error = none ∧ report.ranges = 0 ∧
          (∀ (m : Type → Type) [Monad m] [LawfulMonad m] (transport : Transport m),
            checkFile options table transport file = pure report ∧
            ∀ log, (checkFile options table transport.logged file).run log = pure (report, log)) ∧
          ∀ transport, Checker.check ⟨options, table, transport⟩ file = ⟨report, []⟩) ∧
      ((∃ candidate ∈ selection.candidates, candidate.range ≠ none) →
        ∃ request kept report, Sends file selection request kept ∧ Accounts request kept report ∧
          (∀ (m : Type → Type) [Monad m] [LawfulMonad m] (transport : Transport m),
            checkFile options table transport file = report <$> transport.exchange request ∧
            ∀ log, (checkFile options table transport.logged file).run log =
              (fun answer => (report answer, log ++ [request])) <$> transport.exchange request) ∧
          ∀ transport, Checker.check ⟨options, table, transport⟩ file =
            ⟨report (transport.exchange request), [request]⟩) := by
  constructor
  · intro acyclic
    refine Select.select_of_acyclic options
      (Option.eq_none_iff_forall_ne_some.mpr fun error found => acyclic ?_)
    obtain ⟨reachable, returns, key, _, refers⟩ := (Walker.walk_sound _).2.2 error found
    exact ⟨error.node, reachable, TransGen.tail' returns ⟨key, refers⟩⟩
  intro selection selected
  refine ⟨Select.nodes_sublist_walk selected, fun unranged => ?_, fun ranged => ?_⟩
  · have nothing : sentRanges selection = [] := by
      rw [sentRanges_eq_nil_iff selected, List.filterMap_eq_nil_iff]
      exact unranged
    refine ⟨reportOutcome options file (earlyDiagnostics file selection) {}, rfl, rfl,
      fun m _ _ transport => ?_, ?_⟩
    · exact ⟨checkFile_of_unsent transport selected nothing,
        run_checkFile_logged_of_unsent transport selected nothing⟩
    · exact fun transport =>
        @check_of_unsent ⟨options, table, transport⟩ file selection selected nothing
  · have something : sentRanges selection ≠ [] := by
      rw [Ne, sentRanges_eq_nil_iff selected, List.filterMap_eq_nil_iff]
      obtain ⟨candidate, member, own⟩ := ranged
      exact fun unranged => own (unranged candidate member)
    refine ⟨requestOf options file (sentRanges selection), sentRanges selection,
      reportAnswer options file selection, sends_requestOf selected, accounts_reportAnswer,
      fun m _ _ transport => ?_, ?_⟩
    · exact ⟨checkFile_of_sent transport selected something,
        run_checkFile_logged_of_sent transport selected something⟩
    · exact fun transport =>
        @check_of_sent ⟨options, table, transport⟩ file selection selected something

/-- Three comments; the first two cover the same text, and the last stands before them. -/
def overlapping : SourceFile where
  filename := "a.js"
  text := "é cd".toList
  tree := {
    nodes := #[
      { kind := "File", span := ⟨0, 5⟩, slots := [("items", .list [.node 1, .node 2, .node 3])] },
      { kind := "Line", span := ⟨3, 5⟩ }, { kind := "Block", span := ⟨3, 5⟩ },
        { kind := "Line", span := ⟨0, 2⟩ }]
    root := 0 }

def unanswered : Checker where
  options := careless.options
  table := { registered := [("File", ["items"]), ("Line", []), ("Block", [])] }

theorem select_overlapping :
    ∃ first second third, first.range = some ⟨⟨3, 5⟩, "Line", 1⟩ ∧
      second.range = some ⟨⟨3, 5⟩, "Block", 2⟩ ∧
      third.range = some ⟨⟨0, 2⟩, "Line", 3⟩ ∧
      Select.select unanswered.options unanswered.table overlapping =
        .ok ⟨[first, second, third], []⟩ := by
  have walked : Tree.Walker.walk { tree := overlapping.tree, table := Select.fileTable unanswered.table overlapping } =
      { visits := [
          ⟨⟨0, none⟩, []⟩, ⟨⟨1, some ⟨"items", some 0⟩⟩, [⟨0, none⟩]⟩,
            ⟨⟨2, some ⟨"items", some 1⟩⟩, [⟨0, none⟩]⟩,
          ⟨⟨3, some ⟨"items", some 2⟩⟩, [⟨0, none⟩]⟩]
        visited := 4, errors := [], parents := #[none, some 0, some 0, some 0],
          cycle := none } := by
    cbv
  unfold Select.select
  rw [walked]
  exact ⟨_, _, _, by decide, by decide, by decide, rfl⟩

theorem acyclic_overlapping :
    ¬ ∃ id, ReflTransGen
      (Walker.Edge { tree := overlapping.tree, table := fileTable unanswered.table overlapping })
        overlapping.tree.root id ∧
      TransGen (Walker.Edge { tree := overlapping.tree, table := fileTable unanswered.table overlapping }) id id := by
  rintro ⟨id, reached, loop⟩
  obtain ⟨settled, visitedRoot⟩ :=
    (Walker.walk_settled
      { tree := overlapping.tree, table := fileTable unanswered.table overlapping } (by decide)
      (by decide)).2 (by cbv)
  exact settled.acyclic (settled.reach visitedRoot reached) loop

/-- An engine that fails the first time, and finds nothing from then on. -/
def fickle : Transport (StateM Nat) :=
  .inProcess fun _ => do
    let asked ← getModify (· + 1)
    pure (if asked = 0 then .error .notConfigured else .ok {})

theorem check_exchanges_once_overlapping :
    ∃ selection request kept,
      Select.select unanswered.options unanswered.table overlapping = .ok selection ∧
      (∃ candidate ∈ selection.candidates, candidate.range ≠ none) ∧
      Sends overlapping selection request kept ∧
      (0, 2) ∈ request.ranges ∧ (3, 5) ∈ request.ranges ∧
      (∃ range ∈ kept, range.span = ⟨3, 5⟩ ∧ range.originNode = 1) ∧
      (unanswered.check overlapping).requests = [request] ∧
      (unanswered.check overlapping).report.ranges = 0 ∧
      ∃ first second : FileReport, first.ranges = 0 ∧ second.ranges = request.ranges.length ∧
        (checkFile unanswered.options unanswered.table fickle overlapping).run 0 = (first, 1) ∧
        (checkFile unanswered.options unanswered.table fickle overlapping).run 1 = (second, 2) := by
  obtain ⟨selects, exchanges⟩ :=
    check_exchanges_once unanswered.options unanswered.table overlapping
  obtain ⟨selection, selected⟩ := selects acyclic_overlapping
  obtain ⟨first, second, third, firstRange, _, thirdRange, same⟩ := select_overlapping
  obtain rfl := Except.ok.inj (selected.symm.trans same)
  have ranged : ∃ candidate ∈ [first, second, third], candidate.range ≠ none :=
    ⟨first, by simp, by simp [firstRange]⟩
  obtain ⟨request, kept, report, sends, accounts, every, checked⟩ :=
    (exchanges _ selected).2.2 ranged
  have last : (3, 5) ∈ request.ranges := (sends.spans 3 5).mpr ⟨first, by simp, _, firstRange, rfl⟩
  have before : (0, 2) ∈ request.ranges :=
    (sends.spans 0 2).mpr ⟨third, by simp, _, thirdRange, rfl⟩
  have asked : unanswered.check overlapping = ⟨report (.error .notConfigured), [request]⟩ :=
    checked _
  have counted := (every (StateM Nat) fickle).1
  refine ⟨_, request, kept, selected, ranged, sends, before, last, ?_, by rw [asked], ?_,
    report (.error .notConfigured), report (.ok {}), (accounts.failed _).2,
      (accounts.answered _).2, ?_, ?_⟩
  · rw [sends.ranges] at last
    obtain ⟨range, member, ends⟩ := List.mem_map.mp last
    have span : range.span = ⟨3, 5⟩ := Tree.Span.ext_iff.mpr (Prod.mk.inj ends)
    obtain ⟨candidate, _, ⟨own, _, earliest⟩, _⟩ := sends.origins range member
    obtain rfl : first = candidate := by simpa [firstRange, span] using earliest
    obtain rfl := Option.some.inj (firstRange.symm.trans own)
    exact ⟨_, member, rfl, rfl⟩
  · rw [asked]
    exact (accounts.failed _).2
  · rw [counted]
    rfl
  · rw [counted]
    rfl

end Report
end Spellspan
