import Mathlib
import Spellspan.Proofs.CandidateScopes
import Spellspan.Proofs.ReadablePatterns
import Spellspan.Proofs.TextPieces

/-!
What a score says. A pattern applies to a path when its required segments match the innermost steps
one by one, and its score there is what its segments weigh, whatever the path is. The wildcard for
outer steps adds to the score and asks for nothing.
-/
set_option autoImplicit false

namespace Spellspan.Scope

/-! ## Segments and steps -/

theorem startsWith_iff {components : List String} {label : String} :
    StartsWith components label ↔
      ∃ rest, (∀ part ∈ components ++ rest, '.' ∉ part.toList) ∧
        label = Text.joined "." (components ++ rest) := by
  constructor
  · rintro ⟨rest, cut⟩
    refine ⟨rest, ?_, ?_⟩
    · intro part member
      exact Text.notMem_of_mem_piecesOf (cut ▸ member)
    · rw [cut]
      exact (Text.joined_piecesOf '.' label).symm
  · rintro ⟨rest, dotless, rfl⟩
    by_cases empty : components ++ rest = []
    · rw [(List.append_eq_nil_iff.mp empty).1]
      exact List.nil_prefix
    · have cut : Text.piecesOf '.' (Text.joined "." (components ++ rest)) = components ++ rest :=
        Text.piecesOf_joined dotless empty
      rw [StartsWith, cut]
      exact List.prefix_append components rest

namespace Segment

/-- The steps that a segment matches. A label matches when its components are the first of those
between the dots of the step's label and its key, if it has one, is that of the step. -/
inductive Matches : Segment → ScopeEntry → Prop where
  | anyOne {entry : ScopeEntry} : Matches .anyOne entry
  | label {components rest : List String} {key slot : Option String}
      (dotless : ∀ part ∈ components ++ rest, '.' ∉ part.toList)
      (keyed : key = none ∨ key = slot) :
      Matches (.label components key) ⟨Text.joined "." (components ++ rest), slot⟩

def worth : Segment → Nat
  | .anyDepth => 1
  | .anyOne => 2
  | .label components none => 8 * components.length
  | .label components (some _) => 8 * components.length + 4

theorem worth_label (components : List String) (key : Option String) :
    (Segment.label components key).worth = 8 * components.length + if key.isSome then 4 else 0 := by
  cases key <;> rfl

theorem matches_label_iff {components : List String} {key : Option String} {entry : ScopeEntry} :
    Matches (.label components key) entry ↔
      StartsWith components entry.label ∧ (key = none ∨ key = entry.key) := by
  rw [startsWith_iff]
  constructor
  · intro fits
    cases fits with
    | label dotless keyed => exact ⟨⟨_, dotless, rfl⟩, keyed⟩
  · obtain ⟨label, slot⟩ := entry
    rintro ⟨⟨rest, dotless, rfl⟩, keyed⟩
    exact .label dotless keyed

theorem weight?_eq_some_iff {segment : Segment} (step : segment.IsStep) {entry : ScopeEntry}
    {weight : Nat} :
    segment.weight? entry = some weight ↔ segment.Matches entry ∧ weight = segment.worth := by
  cases step with
  | anyOne =>
      have fits : Matches .anyOne entry := .anyOne
      simp [weight?, fits, worth, anyOneWeight, eq_comm]
  | @label first more key =>
      rw [weight?_label, matches_label_iff, Option.ite_none_right_eq_some, Option.some.injEq,
        worth_label, eq_comm (a := weight)]
      rfl

theorem IsStep.two_le_worth {segment : Segment} (step : segment.IsStep) : 2 ≤ segment.worth := by
  cases step with
  | anyOne => exact Nat.le_refl 2
  | @label first more key =>
      rw [worth_label, List.length_cons]
      omega

end Segment

/-! ## Patterns and paths -/

namespace ScopePattern

/-- The required segments match the innermost steps of the path, each the one at its place. -/
def Applies (pattern : ScopePattern) (path : ScopePath) : Prop :=
  ∃ outer inner, path.entries = outer ++ inner ∧ List.Forall₂ Segment.Matches pattern.required inner

def worth (pattern : ScopePattern) : Nat :=
  (pattern.required.map Segment.worth).sum + if pattern.startsAnyDepth then 1 else 0

theorem weights?_eq_some_iff {segments : List Segment}
    (steps : ∀ segment ∈ segments, segment.IsStep) {entries : List ScopeEntry} {total : Nat} :
    weights? segments entries = some total ↔
      List.Forall₂ Segment.Matches segments (entries.take segments.length) ∧
        total = (segments.map Segment.worth).sum := by
  induction segments generalizing entries total with
  | nil => simp [weights?, eq_comm]
  | cons segment segments ih =>
      obtain ⟨step, later⟩ := List.forall_mem_cons.mp steps
      cases entries with
      | nil => simp [weights?]
      | cons entry entries =>
          -- both lists come innermost first, so what is left over of the path lies behind the
          -- last segment
          simp only [weights?, Option.bind_eq_bind, Option.bind_eq_some_iff, Option.some.injEq,
            Segment.weight?_eq_some_iff step, ih later, List.length_cons, List.take_succ_cons,
            List.forall₂_cons, List.map_cons,
              List.sum_cons]
          constructor
          · rintro ⟨weight, ⟨fits, rfl⟩, rest, ⟨aligned, rfl⟩, rfl⟩
            exact ⟨⟨fits, aligned⟩, rfl⟩
          · rintro ⟨⟨fits, aligned⟩, rfl⟩
            exact ⟨_, ⟨fits, rfl⟩, _, ⟨aligned, rfl⟩, rfl⟩

theorem applies_iff_take {pattern : ScopePattern} {path : ScopePath} :
    pattern.Applies path ↔
      List.Forall₂ Segment.Matches pattern.required.reverse
        (path.entries.reverse.take pattern.required.length) := by
  constructor
  · rintro ⟨outer, inner, split, aligned⟩
    rw [split, List.reverse_append, List.take_left'
      (by rw [List.length_reverse, aligned.length_eq])]
    exact List.forall₂_reverse_iff.mpr aligned
  · intro aligned
    refine ⟨(path.entries.reverse.drop pattern.required.length).reverse,
      (path.entries.reverse.take pattern.required.length).reverse, ?_, ?_⟩
    · rw [← List.reverse_append, List.take_append_drop, List.reverse_reverse]
    · rw [← List.forall₂_reverse_iff, List.reverse_reverse]
      exact aligned

variable {pattern : ScopePattern} {path : ScopePath}

theorem weights?_required (readable : pattern.Readable) {total : Nat} :
    weights? pattern.required.reverse path.entries.reverse = some total ↔
      pattern.Applies path ∧ total = (pattern.required.map Segment.worth).sum := by
  have steps : ∀ segment ∈ pattern.required.reverse, segment.IsStep := by
    intro segment member
    exact readable.isStep segment (List.mem_reverse.mp member)
  rw [weights?_eq_some_iff steps, applies_iff_take, List.length_reverse, List.map_reverse,
    List.sum_reverse]

theorem score_of_applies (readable : pattern.Readable) (applies : pattern.Applies path) :
    pattern.score path = pattern.worth := by
  rw [score, (weights?_required readable).mpr ⟨applies, rfl⟩, worth]
  cases pattern.startsAnyDepth <;> rfl

theorem score_of_not_applies (readable : pattern.Readable) (idle : ¬ pattern.Applies path) :
    pattern.score path = 0 := by
  rw [score]
  split
  · next total found => exact absurd ((weights?_required readable).mp found).1 idle
  · rfl

theorem Readable.worth_pos (readable : pattern.Readable) : 0 < pattern.worth := by
  rw [worth]
  cases none : pattern.required with
  | nil => simp [readable.startsAnyDepth_of_required_eq_nil none]
  | cons segment rest =>
      have weighs := (readable.isStep segment (by simp [none])).two_le_worth
      rw [List.map_cons, List.sum_cons]
      omega

theorem score_pos_iff_applies (readable : pattern.Readable) : 0 < pattern.score path ↔
    pattern.Applies path := by
  by_cases applies : pattern.Applies path
  · simp [applies, score_of_applies readable, readable.worth_pos]
  · simp [applies, score_of_not_applies readable]

theorem required_underAnyDepth (plain : pattern.startsAnyDepth = false) :
    pattern.underAnyDepth.required = pattern.required := by
  rw [required_of_startsAnyDepth_eq_false plain]
  rfl

theorem applies_underAnyDepth (plain : pattern.startsAnyDepth = false) :
    pattern.underAnyDepth.Applies path ↔ pattern.Applies path := by
  rw [Applies, Applies, required_underAnyDepth plain]

theorem worth_underAnyDepth (plain : pattern.startsAnyDepth = false) :
    pattern.underAnyDepth.worth = pattern.worth + 1 := by
  rw [worth, worth, required_underAnyDepth plain, plain]
  rfl

/-- A pattern that can be read scores exactly where its required segments match the innermost steps,
and the score is what its segments weigh. The wildcard in front changes nothing of where a pattern
applies and adds one to its score. -/
theorem score_by_alignment (readable : pattern.Readable) (path : ScopePath) :
    (0 < pattern.score path ↔
      ∃ outer inner, path.entries = outer ++ inner ∧
        List.Forall₂ Segment.Matches pattern.required inner) ∧
    (0 < pattern.score path →
      pattern.score path = (pattern.required.map Segment.worth).sum +
        if pattern.startsAnyDepth then 1 else 0) ∧
    (pattern.startsAnyDepth = false →
      pattern.underAnyDepth.Readable ∧
      (0 < pattern.underAnyDepth.score path ↔ 0 < pattern.score path) ∧
      (0 < pattern.score path → pattern.underAnyDepth.score path = pattern.score path + 1)) := by
  refine ⟨score_pos_iff_applies readable, ?_, ?_⟩
  · intro positive
    exact score_of_applies readable ((score_pos_iff_applies readable).mp positive)
  · intro plain
    have under := readable.underAnyDepth plain
    refine ⟨under, ?_, ?_⟩
    · rw [score_pos_iff_applies under, score_pos_iff_applies readable, applies_underAnyDepth plain]
    · intro positive
      have applies := (score_pos_iff_applies readable).mp positive
      rw [score_of_applies readable applies,
        score_of_applies under ((applies_underAnyDepth plain).mpr applies),
        worth_underAnyDepth plain]

/-- Strings of any kind of quotes where a module is imported from. -/
def importSource : ScopePattern :=
  ⟨[.label ["ImportDeclaration"] (some "source"), .label ["Literal", "string"] none]⟩

def importScope : ScopePath :=
  ⟨[⟨"Program", some "body"⟩, ⟨"ImportDeclaration", some "source"⟩,
    ⟨"Literal.string.single", none⟩]⟩

theorem readable_importSource : importSource.Readable :=
  ⟨["ImportDeclaration[source]", " Literal.string"], by cbv⟩

theorem score_by_alignment_importSource :
    importSource.Readable ∧ importSource.score importScope = 28 ∧
      importSource.underAnyDepth.score importScope = 29 := by
  obtain ⟨applies, weighs, behind⟩ := score_by_alignment readable_importSource importScope
  have parent : Segment.Matches (.label ["ImportDeclaration"] (some "source"))
      ⟨"ImportDeclaration", some "source"⟩ :=
    Segment.matches_label_iff.mpr ⟨by decide, .inr rfl⟩
  have literal : Segment.Matches (.label ["Literal", "string"] none)
      ⟨"Literal.string.single", none⟩ :=
    Segment.matches_label_iff.mpr ⟨by decide, .inl rfl⟩
  have positive : 0 < importSource.score importScope :=
    applies.mpr ⟨[⟨"Program", some "body"⟩], _, rfl, .cons parent (.cons literal .nil)⟩
  have score : importSource.score importScope = 28 := weighs positive
  refine ⟨readable_importSource, score, ?_⟩
  rw [(behind rfl).2.2 positive, score]

end ScopePattern
end Spellspan.Scope
