import Mathlib
import Spellspan.Proofs.CheckedIssues
import Spellspan.Proofs.LineLocations

/-!
Whether a later offset has a later location. Lines are always in order. Within a line the column
counts characters at a boundary, and bytes inside a character, of which there are at least as many:
so an offset inside a character can be given a column beyond that of a boundary behind it, and only
such a pair is ever out of order. The locations of the issues in a report are those of their starts,
and an engine may start an issue inside a character.
-/
set_option autoImplicit false

namespace Spellspan

namespace Text

theorem length_le_byteLength (text : List Char) : text.length ≤ byteLength text := by
  induction text with
  | nil => exact Nat.le_refl _
  | cons c rest ih =>
      have positive := c.utf8Size_pos
      rw [List.length_cons, byteLength]
      omega

theorem byteLength_lines (text : List Char) :
    byteLength (fullLines text) + byteLength (lastLine text) = byteLength text := by
  rw [← byteLength_append, fullLines_append_lastLine]

section
variable {text added : List Char} (unbroken : '\n' ∉ added)
include unbroken

theorem lastLine_append : lastLine (text ++ added) = lastLine text ++ added := by
  have all : ∀ c ∈ added.reverse, decide (c ≠ '\n') = true := by
    intro c member
    simp only [decide_eq_true_eq]
    rintro rfl
    exact unbroken (List.mem_reverse.mp member)
  rw [lastLine, List.rtakeWhile, List.reverse_append, List.takeWhile_append_of_pos all,
    List.reverse_append, List.reverse_reverse, lastLine, List.rtakeWhile]

theorem fullLines_append : fullLines (text ++ added) = fullLines text := by
  have joined : fullLines (text ++ added) ++ (lastLine text ++ added) = fullLines text ++
      (lastLine text ++ added) := by
    rw [← lastLine_append unbroken, fullLines_append_lastLine, lastLine_append unbroken,
      ← List.append_assoc, fullLines_append_lastLine]
  exact List.append_cancel_right joined

end

/-- Behind two beginnings with as many line feeds, the last lines start at the same offset. -/
theorem lines_of_count_eq {text added : List Char}
    (same : text.count '\n' = (text ++ added).count '\n') :
    byteLength (fullLines (text ++ added)) = byteLength (fullLines text) ∧
      (lastLine (text ++ added)).length = (lastLine text).length + added.length := by
  have unbroken : '\n' ∉ added := by
    rw [List.count_append] at same
    exact List.count_eq_zero.mp (by omega)
  rw [fullLines_append unbroken, lastLine_append unbroken, List.length_append]
  exact ⟨rfl, rfl⟩

namespace Behind

variable {text before after front rest : List Char} {first second : Nat}

/-- The earlier of two offsets stands behind the shorter beginning. -/
theorem prefix_of_le (behind : Behind text before after first)
    (later : Behind text front rest second) (ordered : first ≤ second) :
    before <+: front := by
  rcases List.prefix_or_prefix_of_prefix ⟨after, behind.divided.symm⟩ ⟨rest, later.divided.symm⟩
    with shorter | ⟨middle, rfl⟩
  · exact shorter
  · cases middle with
    | nil => simp
    | cons c middle =>
        have same := later.divided.symm.trans behind.divided
        rw [List.append_assoc, List.append_cancel_left_eq] at same
        have inside := later.inside c (middle ++ after) same
        have reached := behind.reached
        rw [byteLength_append, byteLength] at reached
        omega

section
variable (behind : Behind text before after first) (later : Behind text front rest second)
    (ordered : first ≤ second)
include behind later ordered

theorem line_locate_le :
    ((LineIndex.ofText text).locate first).line ≤ ((LineIndex.ofText text).locate second).line := by
  rw [behind.locate_eq, later.locate_eq]
  exact Nat.add_le_add_right ((behind.prefix_of_le later ordered).sublist.count_le _) 1

/-- Locations are in order when the first offset is a boundary, and when the second is none. -/
theorem place_locate_le (orderly : byteLength before = first ∨ byteLength front ≠ second) :
    ((LineIndex.ofText text).locate first).place ≤
      ((LineIndex.ofText text).locate second).place := by
  have lines := behind.line_locate_le later ordered
  obtain ⟨added, rfl⟩ := behind.prefix_of_le later ordered
  rw [behind.locate_eq, later.locate_eq] at lines ⊢
  rw [Location.place_le_iff]
  rcases Nat.lt_or_eq_of_le lines with fewer | level
  · exact .inl fewer
  · obtain ⟨start, length⟩ := lines_of_count_eq (Nat.add_right_cancel level)
    refine .inr ⟨level, Nat.add_le_add_right ?_ 1⟩
    -- on one line, a boundary counts at most as many characters as there are bytes
    have bytes := byteLength_lines before
    have few := length_le_byteLength (lastLine before)
    have reached := behind.reached
    rw [start, length]
    split <;> split <;> omega

/-- Inside a character and at a boundary behind it, the bytes of the line must not outnumber the
characters. -/
theorem place_locate_le_iff (inside : byteLength before ≠ first)
    (boundary : byteLength front = second) :
    ((LineIndex.ofText text).locate first).place ≤ ((LineIndex.ofText text).locate second).place ↔
      ((LineIndex.ofText text).locate first).line < ((LineIndex.ofText text).locate second).line ∨
        first ≤ byteLength (fullLines front) + (lastLine front).length := by
  have lines := behind.line_locate_le later ordered
  obtain ⟨added, rfl⟩ := behind.prefix_of_le later ordered
  rw [behind.locate_eq, later.locate_eq] at lines ⊢
  rw [Location.place_le_iff, if_neg inside, if_pos boundary]
  rcases Nat.lt_or_eq_of_le lines with fewer | level
  · exact iff_of_true (.inl fewer) (.inl fewer)
  · have start := (lines_of_count_eq (Nat.add_right_cancel level)).1
    have bytes := byteLength_lines before
    have reached := behind.reached
    simp only [start, Nat.add_right_cancel level, true_and]
    omega

end
end Behind

/-! ## Any two offsets -/

theorem locate_min (text : List Char) (offset : Nat) :
    (LineIndex.ofText text).locate (min offset (byteLength text)) =
      (LineIndex.ofText text).locate offset := by
  rcases Nat.le_total offset (byteLength text) with inside | past
  · rw [Nat.min_eq_left inside]
  · rw [Nat.min_eq_right past, locate_past past]

/-- An offset within a text that is no character boundary of it. -/
def InsideCharacter (text : List Char) (offset : Nat) : Prop :=
  offset < byteLength text ∧ ¬ IsBoundary text offset

theorem Behind.insideCharacter_iff {text before after : List Char} {offset : Nat}
    (behind : Behind text before after (min offset (byteLength text))) :
    InsideCharacter text offset ↔ byteLength before ≠ min offset (byteLength text) := by
  rw [InsideCharacter, ne_eq, ← behind.isBoundary_iff]
  rcases Nat.lt_or_ge offset (byteLength text) with within | past
  · rw [Nat.min_eq_left (Nat.le_of_lt within)]
    exact and_iff_right within
  · have atEnd : IsBoundary text (byteLength text) := ⟨text, [], (List.append_nil _).symm, rfl⟩
    rw [Nat.min_eq_right past]
    exact iff_of_false (fun inside => Nat.not_lt.mpr past inside.1) (not_not_intro atEnd)

section
variable (text : List Char) {first second : Nat} (ordered : first ≤ second)
include ordered

theorem line_locate_le :
    ((LineIndex.ofText text).locate first).line ≤ ((LineIndex.ofText text).locate second).line := by
  obtain ⟨before, after, behind⟩ := exists_behind (Nat.min_le_right first (byteLength text))
  obtain ⟨front, rest, later⟩ := exists_behind (Nat.min_le_right second (byteLength text))
  rw [← locate_min text first, ← locate_min text second]
  exact behind.line_locate_le later (min_le_min_right _ ordered)

theorem place_locate_le (orderly : ¬ InsideCharacter text first ∨ InsideCharacter text second) :
    ((LineIndex.ofText text).locate first).place ≤
      ((LineIndex.ofText text).locate second).place := by
  obtain ⟨before, after, behind⟩ := exists_behind (Nat.min_le_right first (byteLength text))
  obtain ⟨front, rest, later⟩ := exists_behind (Nat.min_le_right second (byteLength text))
  rw [behind.insideCharacter_iff, later.insideCharacter_iff, not_not] at orderly
  rw [← locate_min text first, ← locate_min text second]
  exact behind.place_locate_le later (min_le_min_right _ ordered) orderly

theorem place_locate_le_iff (inside : InsideCharacter text first) {front rest : List Char}
    (divided : text = front ++ rest) (boundary : byteLength front = min second (byteLength text)) :
    ((LineIndex.ofText text).locate first).place ≤ ((LineIndex.ofText text).locate second).place ↔
      ((LineIndex.ofText text).locate first).line < ((LineIndex.ofText text).locate second).line ∨
        first ≤ byteLength (fullLines front) + (lastLine front).length := by
  obtain ⟨before, after, behind⟩ := exists_behind (Nat.min_le_right first (byteLength text))
  have later : Behind text front rest (min second (byteLength text)) :=
    boundary ▸ divided ▸ behind_boundary front rest
  have exactly := behind.place_locate_le_iff later (min_le_min_right _ ordered)
    (behind.insideCharacter_iff.mp inside) boundary
  rwa [locate_min, locate_min, Nat.min_eq_left (Nat.le_of_lt inside.1)] at exactly

end

end Text

namespace Report

open Text (InsideCharacter LineIndex byteLength)

theorem location_of_reported {checker : Checker} {file : SourceFile} {issue : Issue}
    (reported : issue ∈ (checker.check file).report.issues) :
    issue.location = (LineIndex.ofText file.text).locate issue.start := by
  have outcome := check_cases checker file
  generalize checker.check file = checked at outcome reported
  cases outcome with
  | cyclic cycle selected => cases reported
  | unasked selection selected nothing => cases reported
  | failed selection selected something error exchanged => cases reported
  | answered selection selected something response exchanged =>
      obtain ⟨entry, _, rfl⟩ := List.mem_map.mp reported
      rfl

/-- Of two offsets in order, the lines are in order, and so are the locations unless the first is
inside a character and the second is not. Then they are in order exactly when they are on different
lines or the first is no further from the start of the line, in bytes, than the second is in
characters. The location of a reported issue is that of its start. -/
theorem locations_ordered_unless_inside (text : List Char) {first second : Nat}
    (ordered : first ≤ second) :
    ((LineIndex.ofText text).locate first).line ≤ ((LineIndex.ofText text).locate second).line ∧
    (¬ InsideCharacter text first ∨ InsideCharacter text second →
      ((LineIndex.ofText text).locate first).place ≤
        ((LineIndex.ofText text).locate second).place) ∧
    (InsideCharacter text first → ∀ before after, text = before ++ after →
      byteLength before = min second (byteLength text) →
      (((LineIndex.ofText text).locate first).place ≤
        ((LineIndex.ofText text).locate second).place ↔
        ((LineIndex.ofText text).locate first).line < ((LineIndex.ofText text).locate second).line ∨
          first ≤ byteLength (Text.fullLines before) + (Text.lastLine before).length)) ∧
    ∀ (checker : Checker) (file : SourceFile), file.text = text →
      ∀ issue ∈ (checker.check file).report.issues,
        issue.location = (LineIndex.ofText text).locate issue.start := by
  refine ⟨Text.line_locate_le text ordered, Text.place_locate_le text ordered,
    fun inside before after => Text.place_locate_le_iff text ordered inside, ?_⟩
  rintro checker file rfl issue reported
  exact location_of_reported reported

/-- An engine that answers with an issue that starts inside a character, and with an empty one
behind that character. -/
def splitting : Checker where
  options := careless.options
  table := careless.table
  transport := .inProcess fun _ => .ok { issues := [
    { rangeIndex := 0, word := "€", start := 5, stop := 6 },
    { rangeIndex := 0, word := "", start := 6, stop := 6 }] }

/-- A file that holds one comment, with a character of three bytes at its end. -/
def priced : SourceFile where
  filename := "a.js"
  text := "// €".toList
  tree := commented.tree

theorem select_priced :
    ∃ candidate, candidate.range = some ⟨⟨0, 6⟩, "Line", 0⟩ ∧
      Select.select splitting.options splitting.table priced = .ok ⟨[candidate], []⟩ := by
  have walked : Tree.Walker.walk { tree := priced.tree, table := Select.fileTable splitting.table priced } =
      { visits := [⟨⟨0, none⟩, []⟩], visited := 1, errors := [], parents :=
        #[none], cycle := none } := by
    cbv
  unfold Select.select
  rw [walked]
  exact ⟨_, by decide, rfl⟩

theorem issues_priced :
    (splitting.check priced).report.issues.map (fun issue => (issue.start, issue.location)) =
      [(5, ⟨1, 6⟩), (6, ⟨1, 5⟩)] := by
  obtain ⟨candidate, ranged, selected⟩ := select_priced
  have sent : sentRanges ⟨[candidate], []⟩ = [⟨⟨0, 6⟩, "Line", 0⟩] := by
    simp only [sentRanges, List.filterMap_cons, ranged, List.filterMap_nil]
    cbv
  have outcome := check_cases splitting priced
  generalize splitting.check priced = checked at outcome
  cases outcome with
  | cyclic cycle cyclic => cases selected.symm.trans cyclic
  | unasked other same nothing =>
      obtain rfl := Except.ok.inj (selected.symm.trans same)
      simp [sent] at nothing
  | failed other same something error exchanged => cases exchanged
  | answered other same something response exchanged =>
      obtain rfl := Except.ok.inj (selected.symm.trans same)
      obtain rfl := Except.ok.inj exchanged
      simp only [reportOutcome, outcomeOf, sent]
      decide

theorem insideCharacter_priced : InsideCharacter priced.text 5 := by
  have behind : Text.Behind priced.text "// ".toList ['€'] 5 := by
    refine ⟨rfl, by decide, fun c rest same => ?_, by decide⟩
    obtain ⟨rfl, -⟩ := List.cons.inj same
    decide
  exact ⟨by decide, fun boundary => absurd (behind.isBoundary_iff.mp boundary) (by decide)⟩

theorem locations_ordered_unless_inside_priced :
    InsideCharacter priced.text 5 ∧
      ((LineIndex.ofText priced.text).locate 4).place ≤
        ((LineIndex.ofText priced.text).locate 5).place ∧
      ¬ ((LineIndex.ofText priced.text).locate 5).place ≤
        ((LineIndex.ofText priced.text).locate 6).place ∧
      (splitting.check priced).report.issues.map (·.start) = [5, 6] ∧
      ∀ issue ∈ (splitting.check priced).report.issues,
        issue.location = (LineIndex.ofText priced.text).locate issue.start := by
  obtain ⟨_, inOrder, _, _⟩ := locations_ordered_unless_inside priced.text (show 4 ≤ 5 by decide)
  obtain ⟨_, _, exactly, reported⟩ :=
    locations_ordered_unless_inside priced.text (show 5 ≤ 6 by decide)
  refine ⟨insideCharacter_priced, inOrder (.inr insideCharacter_priced), ?_, ?_,
    reported splitting priced rfl⟩
  · rw [exactly insideCharacter_priced priced.text [] (List.append_nil _).symm (by decide)]
    decide
  · have starts := congrArg (List.map Prod.fst) issues_priced
    rwa [List.map_map] at starts

/-- A later offset can have an earlier location: behind a character of three bytes, and before its
last byte. -/
theorem not_all_locations_ordered :
    ¬ ∀ (text : List Char) (first second : Nat), first ≤ second →
      ((LineIndex.ofText text).locate first).place ≤
        ((LineIndex.ofText text).locate second).place := by
  intro ordered
  have places := Text.Location.place_le_iff.mp (ordered "€".toList 2 3 (by decide))
  revert places
  decide

end Report
end Spellspan
