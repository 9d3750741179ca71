import Mathlib
import Spellspan.Proofs.NormalizedSuggestions

/-!
What is inserted when a suggestion is taken: the adjusted word of the suggestion when it has one,
else its word. A word is never empty, but an adjusted word is taken as it comes. So a suggestion can
delete text, and it does exactly when its value is a record with an empty adjusted word. Spelling
keeps the number of characters, so it neither empties a text nor fills one, and what it leaves for
an identifier can stand in one.
-/
set_option autoImplicit false

namespace Spellspan.Report

open Engine (EngineIssue)
open Select (CheckRange)

/-! ## Spelled words -/

theorem exists_of_forall₂_right {α β : Type} {related : α → β → Prop} {partners : List α}
    {items : List β} (each : List.Forall₂ related partners items) {item : β}
    (member : item ∈ items) :
    ∃ partner ∈ partners, related partner item := by
  induction each with
  | nil => cases member
  | cons holds _ ih =>
      rcases List.mem_cons.mp member with rfl | later
      · exact ⟨_, List.mem_cons_self, holds⟩
      · obtain ⟨partner, listed, holds⟩ := ih later
        exact ⟨partner, List.mem_cons_of_mem _ listed, holds⟩

theorem Transcribed.isIdentifierLetter {c written : Char} (transcribed : Transcribed c written) :
    IsIdentifierLetter written := by
  cases transcribed with
  | letter allowed => exact allowed
  | other _ => exact .inr (.inl rfl)

namespace SpelledFor

variable {kind word spelled : String}

theorem eq_empty_iff (spelledFor : SpelledFor kind word spelled) : spelled = "" ↔ word = "" := by
  rw [← String.toList_eq_nil_iff, ← String.toList_eq_nil_iff, ← List.length_eq_zero_iff,
    ← List.length_eq_zero_iff, spelledFor.length_eq]

theorem isIdentifierLetter (spelledFor : SpelledFor kind word spelled)
    (named : NamesIdentifier kind) :
    ∀ c ∈ spelled.toList, IsIdentifierLetter c := by
  cases spelledFor with
  | identifier _ each =>
      intro c member
      obtain ⟨_, _, transcribed⟩ := exists_of_forall₂_right each member
      exact transcribed.isIdentifierLetter
  | other unnamed => exact absurd named unnamed

end SpelledFor

/-! ## Texts to insert -/

/-- What is inserted for a value at a kind of node: no text only if the value says so, and for an
identifier nothing that cannot stand in one. -/
structure Inserts (kind : String) (value : Json) (text : String) : Prop where
  nothing : text = "" ↔ value.field? "wordAdjustedToMatchCase" = some (.string "")
  letters : NamesIdentifier kind → ∀ c ∈ text.toList, IsIdentifierLetter c

theorem adjusted_eq_some_iff {value : Json} {adjusted : String} :
    (value.field? "wordAdjustedToMatchCase").bind Json.asString? = some adjusted ↔
      value.field? "wordAdjustedToMatchCase" = some (.string adjusted) := by
  cases value.field? "wordAdjustedToMatchCase" with
  | none => simp
  | some found => cases found <;> simp [Json.asString?]

/-- A usable value inserts its adjusted word, and its own word only when it has no other. -/
theorem inserts_of_suggests {kind : String} {value : Json} {suggestion : Suggestion}
    (usable : isUsable value = true) (suggests : Suggests kind value suggestion)
    : Inserts kind value suggestion.replacement := by
  obtain ⟨word, preferred, adjusted⟩ := suggestion
  have related := suggests.adjusted
  cases adjusted with
  | none =>
      obtain ⟨own, found, filled⟩ := isUsable_iff.mp usable
      obtain ⟨same, foundSame, spelled⟩ := suggests.word
      obtain rfl : own = same := Option.some.inj (found.symm.trans foundSame)
      have unadjusted : (value.field? "wordAdjustedToMatchCase").bind Json.asString? = none := by
        cases read : (value.field? "wordAdjustedToMatchCase").bind Json.asString? with
        | none => rfl
        | some _ => rw [read] at related; cases related
      refine ⟨⟨fun empty => absurd (spelled.eq_empty_iff.mp empty) filled, fun empty => ?_⟩,
        spelled.isIdentifierLetter⟩
      rw [adjusted_eq_some_iff.mpr empty] at unadjusted
      cases unadjusted
  | some adjusted =>
      obtain ⟨raw, read, spelled⟩ :
        ∃ raw, (value.field? "wordAdjustedToMatchCase").bind Json.asString? = some raw ∧
          SpelledFor kind raw adjusted := by
        cases read : (value.field? "wordAdjustedToMatchCase").bind Json.asString? with
        | none => rw [read] at related; cases related
        | some raw =>
            rw [read] at related
            cases related with
            | some spelled => exact ⟨raw, rfl, spelled⟩
      refine ⟨spelled.eq_empty_iff.trans ⟨?_, fun empty => ?_⟩, spelled.isIdentifierLetter⟩
      · rintro rfl
        exact adjusted_eq_some_iff.mp read
      · exact Option.some.inj (read.symm.trans (adjusted_eq_some_iff.mpr empty))

variable (options : CheckOptions) (range : CheckRange) (issue : EngineIssue)

def keptValues : List Json :=
  (issue.suggestions.filter isUsable).take options.numSuggestions

theorem suggests_kept :
    List.Forall₂ (fun value suggestion => isUsable value = true ∧
      Suggests range.originKind value suggestion)
      (keptValues options issue) (normalize options range issue).1.suggestions := by
  have usable : ∀ value ∈ keptValues options issue, isUsable value = true := fun value member =>
    (List.mem_filter.mp (List.mem_of_mem_take member)).2
  exact (List.forall₂_and_left _ _).mpr ⟨usable, suggested_usable options range issue⟩

theorem exists_preferred_of_fix {fix : String}
    (proposed : (normalize options range issue).1.fix = some fix) :
    ∃ suggestion, (normalize options range issue).1.suggestions.find? Suggestion.isPreferred =
      some suggestion ∧
      suggestion.replacement = fix := by
  change proposedFix options (normalize options range issue).1.suggestions = some fix at proposed
  unfold proposedFix at proposed
  split at proposed
  · exact Option.map_eq_some_iff.mp proposed
  · cases proposed

/-- A suggestion that is kept inserts no text exactly when its value has an empty adjusted word; for
an identifier it inserts only what can stand in one. A fix is what the first preferred suggestion
inserts, so the same holds of it. -/
theorem replacement_empty_iff_adjusted_empty :
    List.Forall₂ (fun value (suggestion : Suggestion) =>
      Inserts range.originKind value suggestion.replacement)
      (keptValues options issue) (normalize options range issue).1.suggestions ∧
    ∀ fix, (normalize options range issue).1.fix = some fix →
      ∃ suggestion, (normalize options range issue).1.suggestions.find? Suggestion.isPreferred =
        some suggestion ∧
        suggestion.replacement = fix ∧
        ∃ value ∈ keptValues options issue, Suggests range.originKind value suggestion ∧
          value.field? "isPreferred" = some (.bool true) ∧ Inserts range.originKind value fix := by
  have kept := suggests_kept options range issue
  refine ⟨kept.imp fun _ _ each => inserts_of_suggests each.1 each.2, fun fix proposed => ?_⟩
  obtain ⟨suggestion, first, rfl⟩ := exists_preferred_of_fix options range issue proposed
  obtain ⟨value, listed, usable, suggests⟩ :=
    exists_of_forall₂_right kept (List.mem_of_find?_eq_some first)
  refine ⟨suggestion, first, rfl, value, listed, suggests, ?_, inserts_of_suggests usable suggests⟩
  exact suggests.preferred.mp (List.find?_some first)

/-- A preferred record with an empty adjusted word before a word that is no identifier. -/
def erasingIssue : EngineIssue where
  rangeIndex := 0
  word := "teh"
  start := 0
  stop := 3
  suggestions := [
    .object [("isPreferred", .bool true), ("word", .string "the"),
      ("wordAdjustedToMatchCase", .string "")],
    .string "t-he"]

def namedRange : CheckRange :=
  ⟨⟨0, 3⟩, "Identifier", 1⟩

def fixing : CheckOptions where
  autoFix := true

theorem replacement_empty_iff_adjusted_empty_erasing :
    NamesIdentifier namedRange.originKind ∧
      (normalize fixing namedRange erasingIssue).1.suggestions =
        [⟨"the", true, some ""⟩, ⟨"t_he", false, none⟩] ∧
      (normalize fixing namedRange erasingIssue).1.fix = some "" ∧
      (∀ c ∈ "t_he".toList, IsIdentifierLetter c) ∧
      ∃ value ∈ keptValues fixing erasingIssue, value.field? "isPreferred" = some (.bool true) ∧
        value.field? "wordAdjustedToMatchCase" = some (.string "") := by
  have named : NamesIdentifier namedRange.originKind := .inl rfl
  have kept : (normalize fixing namedRange erasingIssue).1.suggestions =
      [⟨"the", true, some ""⟩, ⟨"t_he", false, none⟩] := by
    decide +kernel
  have fixed : (normalize fixing namedRange erasingIssue).1.fix = some "" := by decide +kernel
  obtain ⟨each, ofFix⟩ := replacement_empty_iff_adjusted_empty fixing namedRange erasingIssue
  obtain ⟨_, _, _, value, listed, _, preferred, inserts⟩ := ofFix "" fixed
  obtain ⟨_, _, second⟩ :=
    exists_of_forall₂_right each (show (⟨"t_he", false, none⟩ : Suggestion) ∈ _ by simp [kept])
  exact ⟨named, kept, fixed, second.letters named, value, listed, preferred, inserts.nothing.mp rfl⟩

/-- Not every suggestion that is kept has a text to insert. -/
theorem not_all_replacements_filled :
    ¬ ∀ (options : CheckOptions) (range : CheckRange) (issue : EngineIssue),
      (∀ suggestion ∈ (normalize options range issue).1.suggestions, suggestion.replacement ≠ "" ∧
        (NamesIdentifier range.originKind →
          ∀ c ∈ suggestion.replacement.toList, IsIdentifierLetter c)) ∧
      ∀ fix, (normalize options range issue).1.fix = some fix → fix ≠ "" := by
  intro filled
  have first : ⟨"the", true, some ""⟩ ∈
      (normalize fixing namedRange erasingIssue).1.suggestions := by decide +kernel
  exact ((filled fixing namedRange erasingIssue).1 _ first).1 rfl

end Spellspan.Report
