import Mathlib
import Spellspan.Proofs.SegmentGrammar

/-!
Patterns that can be read. The wildcard for outer steps stands in front of them or nowhere, and
every other segment stands for one step. Only that wildcard minds where it stands, so a readable
pattern without it can be put behind it.
-/
set_option autoImplicit false

namespace Spellspan.Scope

/-- Segments that stand for one step: a wildcard, or a label with at least one component. -/
inductive Segment.IsStep : Segment → Prop where
  | anyOne : IsStep .anyOne
  | label {first : String} {more : List String} {key : Option String} :
      IsStep (.label (first :: more) key)

/-- Patterns that come of reading: of a list of segments, or of a text, which is read as the list of
its words. -/
def ScopePattern.Readable (pattern : ScopePattern) : Prop :=
  ∃ texts, ofSegments texts = .ok pattern

/-! ## Single segments -/

theorem Dotted.isStep {components : List String} (dotted : Dotted components)
    (key : Option String) :
    (Segment.label components key).IsStep := by
  cases dotted with
  | intro _ _ => exact .label

namespace Segment

theorem IsStep.ne_anyDepth {segment : Segment} (step : segment.IsStep) : segment ≠ .anyDepth := by
  cases step <;> simp

/-- The wildcard for outer steps is read in front only. What else is read stands for a step and is
read at any position. -/
theorem parse_cases {position : Nat} {text : String} {segment : Segment}
    (read : parse position text = .ok segment) :
    position = 0 ∧ segment = .anyDepth ∨ segment.IsStep ∧
      ∀ other, parse other text = .ok segment := by
  cases parse_eq_ok_iff.mp read with
  | anyDepth => exact .inl ⟨rfl, rfl⟩
  | anyOne => exact .inr ⟨.anyOne, fun _ => rfl⟩
  | label labels =>
      right
      constructor
      · cases labels with
        | plain dotted => exact dotted.isStep none
        | keyed dotted _ => exact dotted.isStep _
      · intro other
        exact parse_eq_ok_iff.mpr (.label labels)

end Segment

/-! ## Lists of segments -/

namespace ScopePattern

theorem parseSegments_cons_eq_ok_iff {position : Nat} {text : String} {texts : List String}
    {segments : List Segment} :
    parseSegments position (text :: texts) = .ok segments ↔
      ∃ segment rest, Segment.parse position (Text.trimmed text) = .ok segment ∧
        parseSegments (position + 1) texts = .ok rest ∧ segments = segment :: rest := by
  rw [parseSegments]
  cases Segment.parse position (Text.trimmed text) with
  | error error => simp
  | ok segment =>
      cases parseSegments (position + 1) texts with
      | error error => simp [Except.map]
      | ok rest => simp [Except.map, eq_comm]

theorem isStep_of_mem_parseSegments {position : Nat} {texts : List String} {segments : List Segment}
    (read : parseSegments (position + 1) texts = .ok segments) :
    ∀ segment ∈ segments, segment.IsStep := by
  induction texts generalizing position segments with
  | nil =>
      obtain rfl := Except.ok.inj read
      simp
  | cons text texts ih =>
      obtain ⟨segment, rest, parsed, others, rfl⟩ := parseSegments_cons_eq_ok_iff.mp read
      refine List.forall_mem_cons.mpr ⟨?_, ih others⟩
      rcases Segment.parse_cases parsed with ⟨front, _⟩ | ⟨step, _⟩
      · cases front
      · exact step

theorem parseSegments_of_isStep {position : Nat} {texts : List String} {segments : List Segment}
    (read : parseSegments position texts = .ok segments)
    (steps : ∀ segment ∈ segments, segment.IsStep) (other : Nat) :
    parseSegments other texts = .ok segments := by
  induction texts generalizing position segments other with
  | nil => exact read
  | cons text texts ih =>
      obtain ⟨segment, rest, parsed, others, rfl⟩ := parseSegments_cons_eq_ok_iff.mp read
      obtain ⟨step, later⟩ := List.forall_mem_cons.mp steps
      rcases Segment.parse_cases parsed with ⟨_, rfl⟩ | ⟨_, anywhere⟩
      · cases step
      · exact parseSegments_cons_eq_ok_iff.mpr ⟨segment, rest, anywhere other,
          ih others later (other + 1), rfl⟩

theorem ofSegments_eq_ok_iff {texts : List String} {pattern : ScopePattern} :
    ofSegments texts = .ok pattern ↔
      parseSegments 0 texts = .ok pattern.segments ∧ pattern.segments ≠ [] := by
  obtain ⟨segments⟩ := pattern
  rw [ofSegments]
  split
  · next empty => simp [empty, eq_comm]
  · next others nonempty read =>
      simp only [read, Except.ok.injEq, mk.injEq, iff_self_and]
      rintro rfl rfl
      exact nonempty rfl
  · next failed => simp [failed]

/-! ## The front of a pattern -/

/-- A pattern is the steps that it requires, behind the wildcard for outer steps if it starts with
that. -/
theorem segments_eq (pattern : ScopePattern) :
    pattern.segments = (if pattern.startsAnyDepth then [.anyDepth] else []) ++
      pattern.required := by
  obtain ⟨segments⟩ := pattern
  match segments with
  | [] => rfl
  | .anyDepth :: _ => rfl
  | .anyOne :: _ => rfl
  | .label _ _ :: _ => rfl

theorem required_of_startsAnyDepth_eq_false {pattern : ScopePattern}
    (plain : pattern.startsAnyDepth = false) :
    pattern.required = pattern.segments := by
  rw [segments_eq, plain]
  rfl

namespace Readable

variable {pattern : ScopePattern}

theorem isStep (readable : pattern.Readable) : ∀ segment ∈ pattern.required, segment.IsStep := by
  obtain ⟨texts, read⟩ := readable
  obtain ⟨parsed, nonempty⟩ := ofSegments_eq_ok_iff.mp read
  cases texts with
  | nil => exact absurd (Except.ok.inj parsed).symm nonempty
  | cons text texts =>
      obtain ⟨first, rest, front, others, segments⟩ := parseSegments_cons_eq_ok_iff.mp parsed
      have later := isStep_of_mem_parseSegments others
      rcases Segment.parse_cases front with ⟨_, rfl⟩ | ⟨step, _⟩
      · rw [required, segments]
        exact later
      · have plain : pattern.startsAnyDepth = false := by
          simpa [startsAnyDepth, segments] using step.ne_anyDepth
        rw [required_of_startsAnyDepth_eq_false plain, segments]
        exact List.forall_mem_cons.mpr ⟨step, later⟩

theorem startsAnyDepth_of_required_eq_nil (readable : pattern.Readable)
    (none : pattern.required = []) :
    pattern.startsAnyDepth = true := by
  obtain ⟨texts, read⟩ := readable
  have nonempty := (ofSegments_eq_ok_iff.mp read).2
  by_contra plain
  rw [Bool.not_eq_true] at plain
  exact nonempty ((required_of_startsAnyDepth_eq_false plain).symm.trans none)

end Readable

def underAnyDepth (pattern : ScopePattern) : ScopePattern :=
  ⟨.anyDepth :: pattern.segments⟩

theorem Readable.underAnyDepth {pattern : ScopePattern} (readable : pattern.Readable)
    (plain : pattern.startsAnyDepth = false) :
    pattern.underAnyDepth.Readable := by
  have steps := readable.isStep
  rw [required_of_startsAnyDepth_eq_false plain] at steps
  obtain ⟨texts, read⟩ := readable
  have others := parseSegments_of_isStep (ofSegments_eq_ok_iff.mp read).1 steps 1
  refine ⟨"**" :: texts, ofSegments_eq_ok_iff.mpr ⟨?_, List.cons_ne_nil _ _⟩⟩
  exact parseSegments_cons_eq_ok_iff.mpr ⟨.anyDepth, pattern.segments, by decide, others, rfl⟩

end ScopePattern
end Spellspan.Scope
