import Mathlib
import Spellspan.Proofs.PatternScores

/-!
Finer patterns score higher. A pattern refines another when, laid against it from the inner end, it
says at least as much at each place. It then applies to fewer paths, and where it applies it
outscores the other unless the two are the same.
-/
set_option autoImplicit false

namespace Spellspan.Scope

/-! ## Segments that say less -/

namespace Segment

/-- Segments that say no more than another one. A label may leave out last components and the
key. -/
inductive Weaker : Segment → Segment → Prop where
  | anyOne {segment : Segment} : Weaker .anyOne segment
  | label {components more : List String} {key other : Option String} (keyed : key = none ∨
      key = other) :
      Weaker (.label components key) (.label (components ++ more) other)

namespace Weaker

variable {coarse fine : Segment}

theorem matches_entry (weaker : coarse.Weaker fine) {entry : ScopeEntry} (fits : fine.Matches entry)
    : coarse.Matches entry := by
  cases weaker with
  | anyOne => exact .anyOne
  | @label components more key other keyed =>
      obtain ⟨begun, otherKeyed⟩ := matches_label_iff.mp fits
      refine matches_label_iff.mpr ⟨(List.prefix_append components more).trans begun, ?_⟩
      rcases keyed with none | rfl
      · exact .inl none
      · exact otherKeyed

/-- Any component more and a key more weigh, and a label outweighs a wildcard. -/
theorem eq_or_worth_lt (weaker : coarse.Weaker fine) (step : fine.IsStep) :
    coarse = fine ∨ coarse.worth < fine.worth := by
  cases weaker with
  | anyOne =>
      cases step with
      | anyOne => exact .inl rfl
      | @label first more key =>
          right
          rw [worth_label, List.length_cons, worth]
          omega
  | @label components more key other keyed =>
      -- a key that the finer label shares or adds never makes it lighter
      have keys : (if key.isSome then 4 else 0) ≤ if other.isSome then 4 else 0 := by
        rcases keyed with rfl | rfl <;> simp
      rw [worth_label, worth_label, List.length_append]
      cases more with
      | cons next more =>
          right
          rw [List.length_cons]
          omega
      | nil =>
          rw [List.append_nil]
          rcases keyed with rfl | rfl
          · cases other with
            | none => exact .inl rfl
            | some slot => exact .inr (by simp)
          · exact .inl rfl

end Weaker

theorem matches_of_forall₂_weaker {coarse fine : List Segment} {entries : List ScopeEntry}
    (weaker : List.Forall₂ Weaker coarse fine) (fits : List.Forall₂ Matches fine entries) :
    List.Forall₂ Matches coarse entries := by
  induction weaker generalizing entries with
  | nil => exact fits
  | cons first _ ih =>
      cases fits with
      | cons fit others => exact .cons (first.matches_entry fit) (ih others)

theorem eq_or_sum_worth_lt {coarse fine : List Segment} (weaker : List.Forall₂ Weaker coarse fine)
    (steps : ∀ segment ∈ fine, segment.IsStep) :
    coarse = fine ∨ (coarse.map worth).sum < (fine.map worth).sum := by
  induction weaker with
  | nil => exact .inl rfl
  | cons first _ ih =>
      obtain ⟨step, later⟩ := List.forall_mem_cons.mp steps
      simp only [List.map_cons, List.sum_cons]
      rcases first.eq_or_worth_lt step with rfl | lighter
      · rcases ih later with rfl | below
        · exact .inl rfl
        · right
          omega
      · right
        rcases ih later with rfl | below <;> omega

end Segment

/-! ## Patterns that say less -/

namespace ScopePattern

/-- A pattern says at least as much as another: at each place from the inner end, and, when neither
is longer, about outer steps. -/
structure Refines (fine coarse : ScopePattern) : Prop where
  aligned : ∃ outer inner, fine.required = outer ++ inner ∧
    List.Forall₂ Segment.Weaker coarse.required inner
  leading : fine.required.length = coarse.required.length → coarse.startsAnyDepth = true →
    fine.startsAnyDepth = true

theorem eq_of_required_eq {left right : ScopePattern} (required : left.required = right.required)
    (starts : left.startsAnyDepth = right.startsAnyDepth) : left = right := by
  have segments : left.segments = right.segments := by
    rw [segments_eq, segments_eq right, required, starts]
  exact congrArg ScopePattern.mk segments

namespace Refines

variable {fine coarse : ScopePattern}

theorem applies (refines : fine.Refines coarse) {path : ScopePath} (applies : fine.Applies path) :
    coarse.Applies path := by
  obtain ⟨outer, inner, required, weaker⟩ := refines.aligned
  obtain ⟨above, steps, entries, fits⟩ := applies
  rw [required] at fits
  have innermost := List.forall₂_drop outer.length fits
  rw [List.drop_left] at innermost
  refine ⟨above ++ steps.take outer.length, steps.drop outer.length, ?_,
    Segment.matches_of_forall₂_weaker weaker innermost⟩
  rw [entries, List.append_assoc, List.take_append_drop]

theorem eq_or_worth_lt (refines : fine.Refines coarse) (readable : fine.Readable) :
    coarse = fine ∨ coarse.worth < fine.worth := by
  obtain ⟨outer, inner, required, weaker⟩ := refines.aligned
  have steps := readable.isStep
  rw [required, List.forall_mem_append] at steps
  have inside := Segment.eq_or_sum_worth_lt weaker steps.2
  cases outer with
  | nil =>
      rw [List.nil_append] at required
      subst required
      have leading := refines.leading weaker.length_eq.symm
      rcases inside with same | lighter
      · by_cases starts : coarse.startsAnyDepth = fine.startsAnyDepth
        · exact .inl (eq_of_required_eq same starts)
        · right
          rw [worth, worth, same]
          grind
      · right
        rw [worth, worth]
        grind
  | cons segment outer =>
      -- one required step more outweighs the wildcard for outer steps
      have extra := (steps.1 segment List.mem_cons_self).two_le_worth
      have within : (coarse.required.map Segment.worth).sum ≤ (inner.map Segment.worth).sum := by
        rcases inside with same | lighter
        · rw [same]
        · exact Nat.le_of_lt lighter
      have front : coarse.worth ≤ (coarse.required.map Segment.worth).sum + 1 := by
        rw [worth]
        split <;> omega
      right
      rw [worth.eq_def fine, required]
      simp only [List.cons_append, List.map_cons, List.map_append, List.sum_cons, List.sum_append]
      omega

end Refines

/-- Where a pattern applies, every pattern that it refines applies as well and scores less, unless
it is the same pattern. -/
theorem score_strictly_grows {fine coarse : ScopePattern} (fineReadable : fine.Readable)
    (coarseReadable : coarse.Readable) (refines : fine.Refines coarse) (path : ScopePath)
    (positive : 0 < fine.score path) :
    0 < coarse.score path ∧ coarse.score path ≤ fine.score path ∧
      (coarse.score path = fine.score path → coarse = fine) := by
  have fineApplies := (score_pos_iff_applies fineReadable).mp positive
  have applies := refines.applies fineApplies
  refine ⟨(score_pos_iff_applies coarseReadable).mpr applies, ?_⟩
  rw [score_of_applies coarseReadable applies, score_of_applies fineReadable fineApplies]
  rcases refines.eq_or_worth_lt fineReadable with same | lighter
  · exact ⟨by rw [same], fun _ => same⟩
  · exact ⟨Nat.le_of_lt lighter, fun level => absurd level (Nat.ne_of_lt lighter)⟩

def anyLiteral : ScopePattern :=
  ⟨[.anyDepth, .label ["Literal"] none]⟩

theorem refines_anyLiteral : importSource.Refines anyLiteral where
  aligned := ⟨[.label ["ImportDeclaration"] (some "source")],
    [.label ["Literal", "string"] none], rfl, .cons (.label (.inl rfl)) .nil⟩
  leading := by decide

theorem score_strictly_grows_anyLiteral :
    importSource.Refines anyLiteral ∧ 0 < anyLiteral.score importScope ∧
      anyLiteral.score importScope < importSource.score importScope := by
  have readable : anyLiteral.Readable := ⟨["**", "Literal"], by cbv⟩
  have positive : 0 < importSource.score importScope := by decide
  obtain ⟨applies, atMost, level⟩ :=
    score_strictly_grows readable_importSource readable refines_anyLiteral importScope positive
  exact ⟨refines_anyLiteral, applies, Nat.lt_of_le_of_ne atMost fun same =>
    absurd (level same) (by decide)⟩

end ScopePattern
end Spellspan.Scope
