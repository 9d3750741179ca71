import Mathlib
import Spellspan.Proofs.ByteOffsets
import Spellspan.Select.Range

/-!
The ranges that are checked. A span covers a part of a text when the bytes before the part and those
up to its end are as many as the span says. What is checked of a node is the part that its span
covers, for strings without the first and the last character. There is a range exactly when
something is left to check, and it covers just that.
-/
set_option autoImplicit false

namespace Spellspan

namespace Tree.Span

open Text (IsBoundary byteLength byteLength_append)

def Covers (span : Span) (text part : List Char) : Prop :=
  ∃ before after, text = before ++ part ++ after ∧ byteLength before = span.start ∧
    byteLength (before ++ part) = span.stop

theorem text?_eq_some_iff {span : Span} {text part : List Char} : span.text? text = some part ↔
    span.Covers text part :=
  Text.slice?_eq_some_iff

namespace Covers

variable {span : Span} {text part opening middle closing : List Char}

theorem stop_eq (covers : span.Covers text part) : span.start + byteLength part = span.stop := by
  obtain ⟨before, after, _, start, stop⟩ := covers
  rw [← stop, byteLength_append, start]

theorem start_lt_stop_iff (covers : span.Covers text part) :
    span.start < span.stop ↔ part ≠ [] := by
  rw [← covers.stop_eq]
  cases part with
  | nil => simp [byteLength]
  | cons c rest =>
      have positive := c.utf8Size_pos
      simp only [byteLength, ne_eq, reduceCtorEq, not_false_eq_true, iff_true]
      omega

theorem boundaries (covers : span.Covers text part) :
    IsBoundary text span.start ∧ IsBoundary text span.stop :=
  Text.isBoundary_of_slice? (text?_eq_some_iff.mpr covers)

theorem stop_le (covers : span.Covers text part) : span.stop ≤ byteLength text :=
  (Text.le_byteLength_of_slice? (text?_eq_some_iff.mpr covers)).2

/-- Leaving something out at both ends of what is covered moves the ends of the span by its
bytes. -/
theorem inner (covers : span.Covers text (opening ++ middle ++ closing)) :
    Covers ⟨span.start + byteLength opening, span.stop - byteLength closing⟩ text middle := by
  have stop := covers.stop_eq
  obtain ⟨before, after, rfl, start, _⟩ := covers
  simp only [byteLength_append] at stop
  refine ⟨before ++ opening, closing ++ after, by simp, ?_, ?_⟩
  · rw [byteLength_append, start]
  · simp only [byteLength_append, start]
    omega

end Covers
end Tree.Span

namespace Select

open Spellspan.Tree (NodeId Span)
open Text (IsBoundary byteLength)

def CandidateKind.delimiters : CandidateKind → Nat
  | .stringLiteral => 1
  | _ => 0

/-- What is checked of the text under a node: strings lose their first and their last character. -/
def CandidateKind.checkedText (kind : CandidateKind) (slice : List Char) : List Char :=
  match kind with
  | .stringLiteral => slice.tail.dropLast
  | _ => slice

/-- A span lies over the checked part of what another span covers. -/
structure ChecksWithin (kind : CandidateKind) (text : List Char) (outer : Span) (slice : List Char)
    (inner : Span) : Prop where
  nonempty : inner.start < inner.stop
  inside : outer.start ≤ inner.start ∧ inner.stop ≤ outer.stop
  inText : inner.stop ≤ byteLength text
  boundaries : IsBoundary text inner.start ∧ IsBoundary text inner.stop
  covers : inner.Covers text (kind.checkedText slice)
  offset : inner.start = outer.start + byteLength (slice.take kind.delimiters)

section
variable {kind : CandidateKind} {text slice middle : List Char} {first last : Char}
    {outer inner : Span}

theorem ChecksWithin.of_covers (covers : inner.Covers text (kind.checkedText slice))
    (remains : kind.checkedText slice ≠ [])
    (inside : outer.start ≤ inner.start ∧ inner.stop ≤ outer.stop)
    (offset : inner.start = outer.start + byteLength (slice.take kind.delimiters)) :
    ChecksWithin kind text outer slice inner where
  nonempty := covers.start_lt_stop_iff.mpr remains
  inside := inside
  inText := covers.stop_le
  boundaries := covers.boundaries
  covers := covers
  offset := offset

/-! ## Strings -/

/-- The ends of a covered text that are left out fit into it: taking their bytes off the ends of the
span stays within the span, and comes to boundaries of the text. -/
theorem delimiters_fit (covers : outer.Covers text ([first] ++ middle ++ [last])) :
    last.utf8Size ≤ outer.stop ∧ outer.start + first.utf8Size ≤ outer.stop - last.utf8Size ∧
      IsBoundary text (outer.start + first.utf8Size) ∧
        IsBoundary text (outer.stop - last.utf8Size) := by
  have stop := covers.stop_eq
  have boundaries := covers.inner.boundaries
  simp only [Text.byteLength_append, byteLength, Nat.add_zero] at stop boundaries
  refine ⟨?_, ?_, boundaries⟩
  · omega
  · omega

theorem withoutDelimiters?_eq_some_iff :
    withoutDelimiters? outer text = some inner ↔
      ∃ first middle last, outer.Covers text ([first] ++ middle ++ [last]) ∧
        inner = ⟨outer.start + first.utf8Size, outer.stop - last.utf8Size⟩ := by
  unfold withoutDelimiters?
  constructor
  · intro stripped
    split at stripped
    · next first rest cut =>
        obtain ⟨last, ending, rfl⟩ := Option.map_eq_some_iff.mp stripped
        obtain ⟨middle, rfl⟩ := List.getLast?_eq_some_iff.mp ending
        exact ⟨first, middle, last, Span.text?_eq_some_iff.mp cut, rfl⟩
    · cases stripped
  · intro ends
    obtain ⟨first, middle, last, covers, rfl⟩ := ends
    have cut : outer.text? text = some (first :: (middle ++ [last])) :=
      Span.text?_eq_some_iff.mpr covers
    rw [cut]
    simp

theorem checkedText_of_ends :
    CandidateKind.checkedText .stringLiteral ([first] ++ middle ++ [last]) = middle := by
  simp [CandidateKind.checkedText]

/-- A string of which something is checked falls into its ends and that part. -/
theorem exists_ends_of_remains (remains : CandidateKind.checkedText .stringLiteral slice ≠ []) :
    ∃ first middle last, slice = [first] ++ middle ++ [last] := by
  unfold CandidateKind.checkedText at remains
  cases slice with
  | nil => simp at remains
  | cons first rest =>
      cases List.eq_nil_or_concat rest with
      | inl empty => simp [empty] at remains
      | inr ending =>
          obtain ⟨middle, last, rfl⟩ := ending
          exact ⟨first, middle, last, by simp⟩

theorem checksWithin_of_ends (covers : outer.Covers text ([first] ++ middle ++ [last]))
    (remains : middle ≠ []) :
    ChecksWithin .stringLiteral text outer ([first] ++ middle ++ [last])
      ⟨outer.start + first.utf8Size, outer.stop - last.utf8Size⟩ := by
  have within := covers.inner
  simp only [byteLength, Nat.add_zero] at within
  apply ChecksWithin.of_covers
  · rwa [checkedText_of_ends]
  · rwa [checkedText_of_ends]
  · exact ⟨Nat.le_add_right _ _, Nat.sub_le _ _⟩
  · rfl

/-! ## Other texts -/

theorem checkedSpan?_of_plain (plain : kind ≠ .stringLiteral) :
    checkedSpan? kind outer text = some outer := by
  cases kind with
  | stringLiteral => exact absurd rfl plain
  | _ => rfl

theorem checkedText_of_plain (plain : kind ≠ .stringLiteral) : kind.checkedText slice = slice := by
  cases kind with
  | stringLiteral => exact absurd rfl plain
  | _ => rfl

theorem checksWithin_of_plain (plain : kind ≠ .stringLiteral) (covers : outer.Covers text slice)
    (remains : slice ≠ []) :
    ChecksWithin kind text outer slice outer := by
  have unquoted : kind.delimiters = 0 := by
    cases kind with
    | stringLiteral => exact absurd rfl plain
    | _ => rfl
  apply ChecksWithin.of_covers
  · rwa [checkedText_of_plain plain]
  · rwa [checkedText_of_plain plain]
  · exact ⟨Nat.le_refl _, Nat.le_refl _⟩
  · rw [unquoted]
    rfl

/-! ## Ranges -/

theorem checkedSpan?_of_covers (covers : outer.Covers text slice)
    (remains : kind.checkedText slice ≠ []) :
    ∃ inner, checkedSpan? kind outer text = some inner ∧
      ChecksWithin kind text outer slice inner := by
  by_cases quoted : kind = .stringLiteral
  · subst quoted
    obtain ⟨first, middle, last, rfl⟩ := exists_ends_of_remains remains
    rw [checkedText_of_ends] at remains
    exact ⟨_, withoutDelimiters?_eq_some_iff.mpr ⟨first, middle, last, covers, rfl⟩,
      checksWithin_of_ends covers remains⟩
  · rw [checkedText_of_plain quoted] at remains
    exact ⟨outer, checkedSpan?_of_plain quoted, checksWithin_of_plain quoted covers remains⟩

theorem exists_slice_of_checkedSpan? (checked : checkedSpan? kind outer text = some inner)
    (nonempty : inner.start < inner.stop) (cut : (inner.text? text).isSome) :
    ∃ slice, outer.Covers text slice ∧ kind.checkedText slice ≠ [] ∧
      ChecksWithin kind text outer slice inner := by
  by_cases quoted : kind = .stringLiteral
  · subst quoted
    obtain ⟨first, middle, last, covers, rfl⟩ := withoutDelimiters?_eq_some_iff.mp checked
    have within := covers.inner
    simp only [byteLength, Nat.add_zero] at within
    have remains := within.start_lt_stop_iff.mp nonempty
    exact ⟨_, covers, by rwa [checkedText_of_ends], checksWithin_of_ends covers remains⟩
  · rw [checkedSpan?_of_plain quoted] at checked
    obtain rfl := Option.some.inj checked
    obtain ⟨slice, cut⟩ := Option.isSome_iff_exists.mp cut
    have covers := Span.text?_eq_some_iff.mp cut
    have remains := covers.start_lt_stop_iff.mp nonempty
    exact ⟨slice, covers, by
      rwa [checkedText_of_plain quoted], checksWithin_of_plain quoted covers remains⟩

end

theorem usable_iff {span : Span} {text : List Char} :
    ¬ (span.isEmpty || (span.text? text).isNone) = true ↔
      span.start < span.stop ∧ (span.text? text).isSome := by
  rw [Bool.or_eq_true, not_or, Option.isNone_iff_eq_none, Option.isSome_iff_ne_none, Span.isEmpty,
    decide_eq_true_eq, Nat.not_le]

/-- A range is extracted when the checked part of the span is not empty and can be cut from the
text. -/
theorem extract?_eq_some_iff {tree : SyntaxTree} {id : NodeId} {text : List Char}
    {range : CheckRange} :
    extract? tree id text = some range ↔
      ∃ node kind, tree.get? id = some node ∧ CandidateKind.ofNode? node = some kind ∧
      checkedSpan? kind node.span text = some range.span ∧ range.span.start < range.span.stop ∧
      (range.span.text? text).isSome ∧ range.originKind = node.kind ∧ range.originNode = id := by
  simp only [extract?, Option.bind_eq_bind, Option.bind_eq_some_iff]
  constructor
  · intro extracted
    obtain ⟨node, found, kind, candidate, span, checked, kept⟩ := extracted
    split at kept
    · cases kept
    · next usable =>
        obtain rfl := Option.some.inj kept
        obtain ⟨nonempty, cut⟩ := usable_iff.mp usable
        exact ⟨node, kind, found, candidate, checked, nonempty, cut, rfl, rfl⟩
  · intro extracted
    obtain ⟨node, kind, found, candidate, checked, nonempty, cut, origin, rfl⟩ := extracted
    refine ⟨node, found, kind, candidate, range.span, checked, ?_⟩
    rw [if_neg (usable_iff.mpr ⟨nonempty, cut⟩), ← origin]

/-- Nothing is taken off a span that it does not have, and every cut is at boundaries of the text.
There is a range exactly for a candidate whose span covers a part of the text with something in it
to check, and the range covers just that. -/
theorem extract?_covers_checkedText (tree : SyntaxTree) (id : NodeId) (text : List Char) :
    (∀ (span : Span) first rest last, span.text? text = some (first :: rest) →
      rest.getLast? = some last →
      last.utf8Size ≤ span.stop ∧ span.start + first.utf8Size ≤ span.stop - last.utf8Size ∧
        IsBoundary text (span.start + first.utf8Size) ∧
          IsBoundary text (span.stop - last.utf8Size)) ∧
    ((extract? tree id text).isSome ↔ ∃ node kind slice, tree.get? id = some node ∧
      CandidateKind.ofNode? node = some kind ∧ node.span.Covers text slice ∧
        kind.checkedText slice ≠ []) ∧
    ∀ range, extract? tree id text = some range → ∃ node kind slice, tree.get? id = some node ∧
      CandidateKind.ofNode? node = some kind ∧ node.span.Covers text slice ∧
      ChecksWithin kind text node.span slice range.span ∧ range.originKind = node.kind ∧
        range.originNode = id := by
  refine ⟨?_, ?_, ?_⟩
  · intro span first rest last cut ending
    obtain ⟨middle, rfl⟩ := List.getLast?_eq_some_iff.mp ending
    exact delimiters_fit (Span.text?_eq_some_iff.mp cut)
  · constructor
    · intro extracted
      obtain ⟨range, extracted⟩ := Option.isSome_iff_exists.mp extracted
      obtain ⟨node, kind, found, candidate, checked, nonempty, cut, _⟩ :=
        extract?_eq_some_iff.mp extracted
      obtain ⟨slice, covers, remains, _⟩ := exists_slice_of_checkedSpan? checked nonempty cut
      exact ⟨node, kind, slice, found, candidate, covers, remains⟩
    · intro candidate
      obtain ⟨node, kind, slice, found, candidate, covers, remains⟩ := candidate
      obtain ⟨inner, checked, checks⟩ := checkedSpan?_of_covers covers remains
      have cut : (inner.text? text).isSome :=
        Option.isSome_iff_exists.mpr ⟨_, Span.text?_eq_some_iff.mpr checks.covers⟩
      refine Option.isSome_iff_exists.mpr ⟨⟨inner, node.kind, id⟩, extract?_eq_some_iff.mpr ?_⟩
      exact ⟨node, kind, found, candidate, checked, checks.nonempty, cut, rfl, rfl⟩
  · intro range extracted
    obtain ⟨node, kind, found, candidate, checked, nonempty, cut, origin, own⟩ :=
      extract?_eq_some_iff.mp extracted
    obtain ⟨slice, covers, _, checks⟩ := exists_slice_of_checkedSpan? checked nonempty cut
    exact ⟨node, kind, slice, found, candidate, covers, checks, origin, own⟩

/-- A string between characters of three and four bytes, one with nothing between its quotes, one of
a single character, and names whose spans end inside a character or are turned round. -/
def quotedNodes : SyntaxTree where
  nodes := #[
    { kind := "Literal", span := ⟨1, 10⟩, value := some (.string "é") },
    { kind := "Literal", span := ⟨10, 12⟩, value := some (.string "") },
    { kind := "Literal", span := ⟨4, 6⟩, value := some (.string "") },
    { kind := "Identifier", span := ⟨0, 5⟩ },
    { kind := "Identifier", span := ⟨4, 1⟩ }]
  root := 0

def quotedText : List Char :=
  ['x', '“', 'é', '😀', '|', '|']

theorem extract?_covers_checkedText_quoted :
    Span.Covers ⟨1, 10⟩ quotedText ['“', 'é', '😀'] ∧ (extract? quotedNodes 0 quotedText).isSome ∧
      extract? quotedNodes 0 quotedText = some ⟨⟨4, 6⟩, "Literal", 0⟩ ∧
      IsBoundary quotedText 4 ∧ IsBoundary quotedText 6 ∧
      [1, 2, 3, 4].map (extract? quotedNodes · quotedText) = [none, none, none, none] := by
  have covers : Span.Covers ⟨1, 10⟩ quotedText ['“', 'é', '😀'] := ⟨['x'], ['|', '|'], rfl, rfl, rfl⟩
  have extracted : extract? quotedNodes 0 quotedText = some ⟨⟨4, 6⟩, "Literal", 0⟩ := by cbv
  obtain ⟨_, found, checked⟩ := extract?_covers_checkedText quotedNodes 0 quotedText
  obtain ⟨_, _, _, _, _, _, checks, _⟩ := checked _ extracted
  have ranged : (extract? quotedNodes 0 quotedText).isSome :=
    found.mpr ⟨_, .stringLiteral, _, rfl, by cbv, covers, by decide⟩
  exact ⟨covers, ranged, extracted, checks.boundaries.1, checks.boundaries.2, by cbv⟩

end Select
end Spellspan
