import Mathlib
import Spellspan.Proofs.ByteOffsets
import Spellspan.Text.Location

/-!
Lines and columns as counts. Behind a beginning of a text the line counts the line feeds in it, and
the column the characters behind the last of them. Every offset within a text stands behind one
beginning of it, at its end or inside the character that comes next, so this tells the line of any
offset and the column of every character boundary. Each character moves the location on, so no two
boundaries have the same one. The line can also be found by halving the list of line starts; done
so, no step of the search leaves the list and no difference is negative.
-/
set_option autoImplicit false

namespace Spellspan.Text

/-! ## Line starts -/

def lastLine (text : List Char) : List Char :=
  text.rtakeWhile (· ≠ '\n')

def fullLines (text : List Char) : List Char :=
  text.rdropWhile (· ≠ '\n')

theorem fullLines_append_lastLine (text : List Char) : fullLines text ++ lastLine text = text :=
  List.rdropWhile_append_rtakeWhile

theorem lineStartsFrom_append (offset : Nat) (before after : List Char) :
    lineStartsFrom offset (before ++ after) = lineStartsFrom offset before ++
      lineStartsFrom (offset + byteLength before) after := by
  induction before generalizing offset with
  | nil => rfl
  | cons c before ih =>
      simp only [List.cons_append, lineStartsFrom, byteLength, ih, ← Nat.add_assoc]
      split
      · rw [List.cons_append]
      · rfl

theorem bounds_of_mem_lineStartsFrom {offset start : Nat} {text : List Char}
    (member : start ∈ lineStartsFrom offset text) :
    (∀ c rest, text = c :: rest → offset + c.utf8Size ≤ start) ∧
      start ≤ offset + byteLength text := by
  induction text generalizing offset with
  | nil => cases member
  | cons c rest ih =>
      have cases : start = offset + c.utf8Size ∨
          start ∈ lineStartsFrom (offset + c.utf8Size) rest := by
        rw [lineStartsFrom] at member
        split at member
        · exact List.mem_cons.mp member
        · exact .inr member
      have bounds : offset + c.utf8Size ≤ start ∧ start ≤ offset + byteLength (c :: rest) := by
        rw [byteLength]
        rcases cases with rfl | later
        · omega
        · obtain ⟨behind, within⟩ := ih later
          refine ⟨?_, by omega⟩
          cases rest with
          | nil => cases later
          | cons next rest =>
              have := behind next rest rfl
              omega
      refine ⟨fun first others same => ?_, bounds.2⟩
      obtain ⟨rfl, -⟩ := List.cons.inj same
      exact bounds.1

theorem lt_of_mem_lineStartsFrom {offset start : Nat} {text : List Char}
    (member : start ∈ lineStartsFrom offset text) :
    offset < start := by
  cases text with
  | nil => cases member
  | cons c rest =>
      have behind := (bounds_of_mem_lineStartsFrom member).1 c rest rfl
      have positive := c.utf8Size_pos
      omega

theorem pairwise_lineStartsFrom (offset : Nat) (text : List Char) :
    (lineStartsFrom offset text).Pairwise (· < ·) := by
  induction text generalizing offset with
  | nil => exact .nil
  | cons c rest ih =>
      rw [lineStartsFrom]
      split
      · exact .cons (fun _ => lt_of_mem_lineStartsFrom) (ih _)
      · exact ih _

theorem length_lineStartsFrom (offset : Nat) (text : List Char) :
    (lineStartsFrom offset text).length = text.count '\n' := by
  induction text generalizing offset with
  | nil => rfl
  | cons c rest ih =>
      rw [lineStartsFrom]
      split
      · next feed => rw [List.length_cons, ih, feed, List.count_cons_self]
      · next other => rw [ih, List.count_cons_of_ne other]

theorem getLastD_lineStarts (text : List Char) :
    (0 :: lineStartsFrom 0 text).getLastD 0 = byteLength (fullLines text) := by
  induction text using List.reverseRecOn with
  | nil => rfl
  | append_singleton text c ih =>
      rw [lineStartsFrom_append, Nat.zero_add, lineStartsFrom, lineStartsFrom]
      by_cases feed : c = '\n'
      · rw [if_pos feed, ← List.cons_append, List.getLastD_concat, fullLines,
          List.rdropWhile_concat_neg _ _ _ (by simp [feed]), byteLength_append]
        rfl
      · rw [if_neg feed, List.append_nil, ih, fullLines, fullLines,
          List.rdropWhile_concat_pos _ _ _ (by simp [feed])]

/-! ## Offsets in a text -/

/-- An offset stands behind a beginning of a text: at its end, or inside the character that comes
next. -/
structure Behind (text before after : List Char) (offset : Nat) : Prop where
  divided : text = before ++ after
  reached : byteLength before ≤ offset
  inside : ∀ c rest, after = c :: rest → offset < byteLength before + c.utf8Size
  inText : offset ≤ byteLength text

theorem behind_boundary (before after : List Char) :
    Behind (before ++ after) before after (byteLength before) where
  divided := rfl
  reached := Nat.le_refl _
  inside c _ _ := Nat.lt_add_of_pos_right c.utf8Size_pos
  inText := by simp

theorem exists_behind {text : List Char} {offset : Nat} (inText : offset ≤ byteLength text) :
    ∃ before after, Behind text before after offset := by
  induction text generalizing offset with
  | nil => exact ⟨[], [], rfl, Nat.zero_le _, nofun, inText⟩
  | cons c rest ih =>
      by_cases early : offset < c.utf8Size
      · refine ⟨[], c :: rest, rfl, Nat.zero_le _, fun first others same => ?_, inText⟩
        obtain ⟨rfl, -⟩ := List.cons.inj same
        simpa [byteLength] using early
      · rw [byteLength] at inText
        obtain ⟨before, after, divided, reached, inside, -⟩ :=
          ih (show offset - c.utf8Size ≤ byteLength rest by omega)
        refine ⟨c :: before, after, congrArg (c :: ·) divided, ?_,
          fun next others same => ?_, inText⟩
        · rw [byteLength]
          omega
        · have := inside next others same
          rw [byteLength]
          omega

namespace Behind

variable {text before after : List Char} {offset : Nat}

theorem isBoundary_iff (behind : Behind text before after offset) : IsBoundary text offset ↔
    byteLength before = offset := by
  refine ⟨fun boundary => ?_, fun same => ⟨before, after, behind.divided, same⟩⟩
  obtain ⟨front, rest, divided, rfl⟩ := boundary
  have reached := behind.reached
  rcases List.prefix_or_prefix_of_prefix ⟨after, behind.divided.symm⟩ ⟨rest, divided.symm⟩
    with ⟨middle, rfl⟩ | ⟨middle, rfl⟩
  · cases middle with
    | nil => rw [List.append_nil]
    | cons c middle =>
        rw [behind.divided, List.append_assoc, List.append_cancel_left_eq] at divided
        have inside := behind.inside c (middle ++ rest) divided
        rw [byteLength_append, byteLength] at inside
        omega
  · rw [byteLength_append] at reached ⊢
    omega

/-- The lines that start up to an offset are those of the text before it. -/
theorem takeWhile_starts (behind : Behind text before after offset) :
    (LineIndex.ofText text).starts.takeWhile (· ≤ offset) = 0 :: lineStartsFrom 0 before := by
  have early : ∀ start ∈ lineStartsFrom 0 before, decide (start ≤ offset) = true :=
      fun start member => by
    have bounds := (bounds_of_mem_lineStartsFrom member).2
    have reached := behind.reached
    simp only [decide_eq_true_eq]
    omega
  have late : (lineStartsFrom (byteLength before) after).takeWhile (· ≤ offset) = [] := by
    cases after with
    | nil => rfl
    | cons c rest =>
        rw [List.takeWhile_eq_nil_iff]
        intro nonempty reaches
        have bounds := (bounds_of_mem_lineStartsFrom (List.getElem_mem nonempty)).1 c rest rfl
        have inside := behind.inside c rest rfl
        simp only [List.get_eq_getElem, decide_eq_true_eq] at reaches
        omega
  rw [LineIndex.ofText, behind.divided, lineStartsFrom_append, Nat.zero_add,
    List.takeWhile_cons_of_pos (by simp), List.takeWhile_append_of_pos early, late, List.append_nil]

/-- The line of an offset counts line feeds. Its column counts characters at a boundary, and bytes
inside a character. -/
theorem locate_eq (behind : Behind text before after offset) :
    (LineIndex.ofText text).locate offset =
      { line := before.count '\n' + 1
        column := (if byteLength before = offset then (lastLine before).length
          else offset - byteLength (fullLines before)) + 1 } := by
  have clamped : min offset (byteLength (LineIndex.ofText text).text) = offset :=
    Nat.min_eq_left behind.inText
  simp only [LineIndex.locate, clamped, behind.takeWhile_starts, getLastD_lineStarts,
    List.length_cons, length_lineStartsFrom]
  congr 2
  split
  · next same =>
      have cut : slice? text (byteLength (fullLines before)) offset = some (lastLine before) :=
        slice?_eq_some_iff.mpr
          ⟨fullLines before, after, by rw [fullLines_append_lastLine, behind.divided], rfl,
          by rw [fullLines_append_lastLine, same]⟩
      rw [LineIndex.ofText, cut]
      rfl
  · next inside =>
      have uncut : slice? text (byteLength (fullLines before)) offset = none := by
        rw [← Option.not_isSome_iff_eq_none, slice?_isSome_iff]
        exact fun bounds => inside (behind.isBoundary_iff.mp bounds.2.2)
      rw [LineIndex.ofText, uncut]
      rfl

end Behind

/-! ## Locations of boundaries -/

def endLocation (text : List Char) : Location where
  line := text.count '\n' + 1
  column := (lastLine text).length + 1

theorem locate_boundary (before after : List Char) :
    (LineIndex.ofText (before ++ after)).locate (byteLength before) = endLocation before := by
  rw [(behind_boundary before after).locate_eq, if_pos rfl, endLocation]

theorem locate_past {text : List Char} {offset : Nat} (past : byteLength text ≤ offset) :
    (LineIndex.ofText text).locate offset = (LineIndex.ofText text).locate (byteLength text) := by
  simp only [LineIndex.locate, LineIndex.ofText, Nat.min_eq_right past, Nat.min_self]

/-- Where a location stands in the order of lines, and of columns within a line. -/
def Location.place (location : Location) : ℕ ×ₗ ℕ :=
  toLex (location.line, location.column)

theorem Location.place_le_iff {first second : Location} :
    first.place ≤ second.place ↔ first.line < second.line ∨ first.line = second.line ∧
      first.column ≤ second.column :=
  Prod.Lex.toLex_le_toLex

theorem Location.place_lt_iff {first second : Location} :
    first.place < second.place ↔ first.line < second.line ∨ first.line = second.line ∧
      first.column < second.column :=
  Prod.Lex.toLex_lt_toLex

theorem place_endLocation_lt_concat (text : List Char) (c : Char) :
    (endLocation text).place < (endLocation (text ++ [c])).place := by
  rw [Location.place_lt_iff]
  by_cases feed : c = '\n'
  · refine .inl ?_
    simp [endLocation, feed]
  · refine .inr ?_
    simp [endLocation, feed, lastLine, List.rtakeWhile_concat_pos, List.count_append]

theorem place_endLocation_lt_append (text : List Char) {added : List Char} (nonempty : added ≠ []) :
    (endLocation text).place < (endLocation (text ++ added)).place := by
  induction added generalizing text with
  | nil => exact absurd rfl nonempty
  | cons c rest ih =>
      have moved := place_endLocation_lt_concat text c
      rw [List.append_cons]
      by_cases last : rest = []
      · rwa [last, List.append_nil]
      · exact moved.trans (ih (text ++ [c]) last)

theorem strictMonoOn_place_locate (text : List Char) :
    StrictMonoOn (fun offset => ((LineIndex.ofText text).locate offset).place)
      {offset | IsBoundary text offset} := by
  rintro _ ⟨front, rest, divided, rfl⟩ _ ⟨before, after, rfl, rfl⟩ ordered
  rcases List.prefix_or_prefix_of_prefix ⟨rest, divided.symm⟩ ⟨after, rfl⟩ with ⟨middle, rfl⟩
    | ⟨middle, rfl⟩
  · have nonempty : middle ≠ [] := by
      rintro rfl
      simp at ordered
    have first : (LineIndex.ofText (front ++ middle ++ after)).locate (byteLength front) =
        endLocation front := by
      rw [List.append_assoc, locate_boundary]
    simp only [first, locate_boundary]
    exact place_endLocation_lt_append front nonempty
  · rw [byteLength_append] at ordered
    omega

/-! ## Searching the line starts -/

/-- Looks for an offset between two positions of an increasing list by halving: its position, or
else the one where it would be inserted. Nothing comes of it if a position outside the list is
read. -/
def search? (starts : List Nat) (offset low high : Nat) : Option (Except Nat Nat) :=
  if low < high then
    if inside : low + (high - low) / 2 < starts.length then
      if starts[low + (high - low) / 2] < offset then search? starts offset
        (low + (high - low) / 2 + 1) high
      else if offset < starts[low + (high - low) / 2] then search? starts offset low
        (low + (high - low) / 2)
      else some (.ok (low + (high - low) / 2))
    else none
  else some (.error low)
termination_by high - low

/-- The line in which an offset stands that was found as the start of a line, or would be the start
of the next. -/
def lineOf? : Except Nat Nat → Option Nat
  | .ok line => some line
  | .error next => next.ppred

/-- The number of characters between two offsets, or that of bytes when one of them is inside a
character. -/
def distance? (text : List Char) (start offset : Nat) : Option Nat :=
  match slice? text start offset with
  | some between => some between.length
  | none => offset.psub start

/-- The location of an offset by a search for its line. Nothing comes of it if a position outside
the list is read or a difference is negative. -/
def LineIndex.locate? (index : LineIndex) (offset : Nat) : Option Location := do
  let offset := min offset (byteLength index.text)
  let line ← (search? index.starts offset 0 index.starts.length).bind lineOf?
  let start ← index.starts[line]?
  let distance ← distance? index.text start offset
  some { line := line + 1, column := distance + 1 }

section
variable {starts : List Nat} {offset : Nat}

theorem le_iff_lt_length_takeWhile (sorted : starts.Pairwise (· < ·)) {position start : Nat}
    (found : starts[position]? = some start) : start ≤ offset ↔
    position < (starts.takeWhile (· ≤ offset)).length := by
  induction starts generalizing position with
  | nil => cases found
  | cons first rest ih =>
      obtain ⟨before, sortedRest⟩ := List.pairwise_cons.mp sorted
      by_cases reached : first ≤ offset
      · rw [List.takeWhile_cons_of_pos (by simpa using reached), List.length_cons]
        cases position with
        | zero =>
            obtain rfl := Option.some.inj found
            simpa using reached
        | succ position => rw [ih sortedRest found, Nat.add_lt_add_iff_right]
      · rw [List.takeWhile_cons_of_neg (by simpa using reached)]
        have late : offset < start := by
          cases position with
          | zero =>
              obtain rfl := Option.some.inj found
              omega
          | succ position =>
              have := before start (List.mem_of_getElem? found)
              omega
        simpa using late

/-- The search keeps the number of lines that start up to the offset between its two positions. -/
theorem search?_line (sorted : starts.Pairwise (· < ·)) {low high : Nat}
    (above : low ≤ (starts.takeWhile (· ≤ offset)).length)
    (below : (starts.takeWhile (· ≤ offset)).length ≤ high) (bounded : high ≤ starts.length) :
    (search? starts offset low high).bind lineOf? =
      (starts.takeWhile (· ≤ offset)).length.ppred := by
  fun_induction search? starts offset low high with
  | case1 low high apart inside less ih =>
      have := (le_iff_lt_length_takeWhile sorted (List.getElem?_eq_getElem inside)).mp
        (Nat.le_of_lt less)
      exact ih (by omega) below bounded
  | case2 low high apart inside _ greater ih =>
      have := (le_iff_lt_length_takeWhile sorted (List.getElem?_eq_getElem inside)).not.mp
        (Nat.not_le_of_lt greater)
      exact ih above (by omega) (by omega)
  | case3 low high apart inside notLess notGreater =>
      obtain rfl : starts[low + (high - low) / 2] = offset := by omega
      have reached := (le_iff_lt_length_takeWhile sorted (List.getElem?_eq_getElem inside)).mp
        (Nat.le_refl _)
      -- the line behind the one that starts at the offset starts later
      have last : (starts.takeWhile (· ≤ starts[low + (high - low) / 2])).length ≤
          low + (high - low) / 2 + 1 := by
        refine Nat.not_lt.mp fun further => ?_
        have next : low + (high - low) / 2 + 1 < starts.length := by omega
        have later := (le_iff_lt_length_takeWhile sorted (List.getElem?_eq_getElem next)).mpr
          further
        have := List.pairwise_iff_getElem.mp sorted _ _ inside next (Nat.lt_succ_self _)
        omega
      exact (Nat.ppred_eq_some.mpr (Nat.le_antisymm reached last)).symm
  | case4 low high apart outside => omega
  | case5 low high closed =>
      obtain rfl : low = (starts.takeWhile (· ≤ offset)).length := by omega
      rfl

end

theorem distance?_eq_some (text : List Char) {start offset : Nat} (ordered : start ≤ offset) :
    distance? text start offset =
      some (((slice? text start offset).map List.length).getD (offset - start)) := by
  unfold distance?
  split
  · next between cut => rw [cut, Option.map_some, Option.getD_some]
  · next uncut => rw [uncut, Option.map_none, Option.getD_none, Nat.psub_eq_sub ordered]

theorem getElem?_of_length_eq {front whole : List Nat} (beginning : front <+: whole) {last : Nat}
    (count : front.length = last + 1) :
    whole[last]? = some (front.getLastD 0) := by
  obtain ⟨rest, rfl⟩ := beginning
  rw [List.getElem?_append_left (by omega), List.getLastD_eq_getLast?, List.getLast?_eq_getElem?,
    count, Nat.add_sub_cancel, List.getElem?_eq_getElem (by omega), Option.getD_some]

theorem pairwise_starts (text : List Char) : (LineIndex.ofText text).starts.Pairwise (· < ·) :=
  .cons (fun _ => lt_of_mem_lineStartsFrom) (pairwise_lineStartsFrom 0 text)

/-- The search finds the line that `locate` counts, and every step of it is defined. -/
theorem locate?_eq_some (text : List Char) (offset : Nat) :
    (LineIndex.ofText text).locate? offset = some ((LineIndex.ofText text).locate offset) := by
  have sorted := pairwise_starts text
  have first : (LineIndex.ofText text).starts[0]? = some 0 := rfl
  generalize LineIndex.ofText text = index at sorted first ⊢
  rw [LineIndex.locate?, LineIndex.locate]
  generalize min offset (byteLength index.text) = offset
  have reached := List.takeWhile_prefix (l := index.starts) (· ≤ offset)
  -- the first line starts at the start of the text, so at least one line starts up to the offset
  have positive := (le_iff_lt_length_takeWhile sorted first).mp (Nat.zero_le offset)
  obtain ⟨line, count⟩ := Nat.exists_eq_add_one_of_ne_zero (Nat.ne_of_gt positive)
  have start := getElem?_of_length_eq reached count
  have ordered := (le_iff_lt_length_takeWhile sorted start).mpr
    (Nat.lt_of_lt_of_eq (Nat.lt_succ_self line) count.symm)
  have found := search?_line sorted (Nat.zero_le _) reached.length_le (Nat.le_refl _)
  rw [count] at found
  simp only [found, Nat.ppred_succ, Option.bind_eq_bind, Option.bind_some, start,
    distance?_eq_some index.text ordered, count]

/-- What the location of an offset says, for every text. Behind a beginning of the text, the line
counts its line feeds and the column the characters behind the last of them; an offset past the end
counts as the end; no step of the search for a line fails; and a later boundary has a later
location. -/
theorem locate_counts_lines_and_columns (text : List Char) :
    (∀ before after, text = before ++ after → (LineIndex.ofText text).locate (byteLength before) =
      { line := before.count '\n' + 1, column := (before.rtakeWhile (· ≠ '\n')).length + 1 }) ∧
    (∀ offset, byteLength text < offset →
      (LineIndex.ofText text).locate offset = (LineIndex.ofText text).locate (byteLength text)) ∧
    (∀ offset, (LineIndex.ofText text).locate? offset =
      some ((LineIndex.ofText text).locate offset)) ∧
    StrictMonoOn (fun offset => ((LineIndex.ofText text).locate offset).place)
      {offset | IsBoundary text offset} ∧
    Set.InjOn (LineIndex.ofText text).locate {offset | IsBoundary text offset} := by
  refine ⟨?_, fun _ past => locate_past (Nat.le_of_lt past), locate?_eq_some text,
    strictMonoOn_place_locate text, ?_⟩
  · rintro before after rfl
    exact locate_boundary before after
  · intro first firstBoundary second secondBoundary same
    exact (strictMonoOn_place_locate text).injOn firstBoundary secondBoundary
      (congrArg Location.place same)

/-- A boundary behind a character of two bytes in the second line, and an offset past the line feed
at the end. -/
theorem locate_counts_lines_and_columns_accented :
    (LineIndex.ofText "ab\ncéd\n".toList).locate 6 = ⟨2, 3⟩ ∧ byteLength "ab\ncéd\n".toList = 8 ∧
      (LineIndex.ofText "ab\ncéd\n".toList).locate 100 =
        (LineIndex.ofText "ab\ncéd\n".toList).locate 8 ∧
      ((LineIndex.ofText "ab\ncéd\n".toList).locate 6).place <
        ((LineIndex.ofText "ab\ncéd\n".toList).locate 8).place := by
  obtain ⟨counts, past, _, increasing, _⟩ := locate_counts_lines_and_columns "ab\ncéd\n".toList
  refine ⟨counts "ab\ncé".toList "d\n".toList (by decide), by decide, past 100 (by decide), ?_⟩
  exact increasing ⟨"ab\ncé".toList, "d\n".toList, by decide, by decide⟩
    ⟨"ab\ncéd\n".toList, [], by decide, by decide⟩ (by decide)

end Spellspan.Text
