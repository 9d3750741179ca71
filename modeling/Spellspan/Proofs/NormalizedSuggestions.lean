import Mathlib
import Spellspan.Proofs.RecordForms
import Spellspan.Report.Issue

/-!
What becomes of the suggestions of an engine. A value is usable when it has a word in it that is not
empty; every other value leaves one diagnostic. The suggestions that are kept are the first usable
values, in order, each spelled for the kind of node that the issue comes from. Suggestions that were
normalized once are in normal form: written as JSON and given back for the same issue, they are kept
as they are.
-/
set_option autoImplicit false

namespace Spellspan

section
variable {α β : Type} {related : α → β → Prop} {pick : α → Option β}

/-- What is picked from a list stands in order for the items that it is picked from. -/
theorem forall₂_filter_filterMap {kept : α → Bool}
    (picked : ∀ item, kept item = true → ∃ value, pick item = some value ∧ related item value)
    (passed : ∀ item, kept item = false → pick item = none) (items : List α) :
    List.Forall₂ related (items.filter kept) (items.filterMap pick) := by
  induction items with
  | nil => exact .nil
  | cons item rest ih =>
      cases keeps : kept item with
      | true =>
          obtain ⟨value, found, holds⟩ := picked item keeps
          rw [List.filter_cons_of_pos keeps, List.filterMap_cons_some found]
          exact .cons holds ih
      | false =>
          rw [List.filter_cons_of_neg (by simp [keeps]),
            List.filterMap_cons_none (passed item keeps)]
          exact ih

theorem filterMap_eq_of_forall₂ {γ : Type} {choose : γ → Option β} {others : List γ}
    {items : List α}
    (each : List.Forall₂ (fun other item => choose other = pick item) others items) :
    others.filterMap choose = items.filterMap pick := by
  induction each with
  | nil => rfl
  | cons same _ ih => rw [List.filterMap_cons, List.filterMap_cons, same, ih]

end

/-- A record with its fields in another order has the same fields. -/
theorem Json.field?_of_reordered {fields : List (String × Json)} {form : Json}
    (once : (fields.map Prod.fst).Nodup) (reordered : Json.Abbreviates [] (.object fields) form)
    (name : String) :
    form.field? name = (Json.object fields).field? name := by
  cases reordered with
  | record abridges =>
      have same := abridges.lookup_append once (List.nil_sublist _) name
      rwa [List.append_nil] at same

namespace Report

open Engine (EngineIssue)
open Select (CheckRange)

/-! ## Values and their words -/

/-- The word of a value: a string, or the string that a record holds as its `word`. -/
def wordIn? : Json → Option String
  | .string word => some word
  | value => (value.field? "word").bind Json.asString?

theorem wordIn?_of_field? {value : Json} {word : String}
    (found : value.field? "word" = some (.string word)) :
    wordIn? value = some word := by
  cases value with
  | object fields =>
      rw [wordIn?, found]
      · rfl
      · exact nofun
  | _ => cases found

def isUsable (value : Json) : Bool :=
  (wordIn? value).any (· ≠ "")

def readAs (value : Json) (word : String) : Suggestion where
  word := word
  isPreferred := ((value.field? "isPreferred").bind Json.asBool?).getD false
  wordAdjustedToMatchCase := (value.field? "wordAdjustedToMatchCase").bind Json.asString?

theorem shapeOf?_eq (value : Json) :
    Suggestion.shapeOf? value = (wordIn? value).map (readAs value) := by
  cases value with
  | object fields =>
      rw [Suggestion.shapeOf?, wordIn?, Json.field?]
      · cases Json.lookup "word" fields with
        | none => rfl
        | some word => cases word <;> rfl
      · simp
  | _ => rfl

theorem ofJson_eq_ok_iff {value : Json} {suggestion : Suggestion} :
    Suggestion.ofJson value = .ok suggestion ↔
      ∃ word, wordIn? value = some word ∧ word ≠ "" ∧ suggestion = readAs value word := by
  rw [Suggestion.ofJson, shapeOf?_eq]
  cases wordIn? value with
  | none => simp
  | some word =>
      by_cases empty : word = ""
      · simp [empty, readAs]
      · simpa [empty, readAs] using eq_comm

theorem isUsable_iff {value : Json} : isUsable value = true ↔
    ∃ word, wordIn? value = some word ∧ word ≠ "" := by
  simp [isUsable, Option.any_eq_true]

theorem ofJson_of_isUsable {value : Json} (usable : isUsable value = true) :
    ∃ word, wordIn? value = some word ∧ word ≠ "" ∧
      Suggestion.ofJson value = .ok (readAs value word) := by
  obtain ⟨word, found, filled⟩ := isUsable_iff.mp usable
  exact ⟨word, found, filled, ofJson_eq_ok_iff.mpr ⟨word, found, filled, rfl⟩⟩

theorem ofJson_of_not_isUsable {value : Json} (unusable : isUsable value = false) :
    ∃ error, Suggestion.ofJson value = .error error := by
  cases read : Suggestion.ofJson value with
  | error error => exact ⟨error, rfl⟩
  | ok suggestion =>
      obtain ⟨word, found, filled, _⟩ := ofJson_eq_ok_iff.mp read
      rw [isUsable_iff.mpr ⟨word, found, filled⟩] at unusable
      cases unusable

/-! ## Spelling -/

/-- A character that may stand in an identifier: a letter, an underscore or an ASCII digit. -/
def IsIdentifierLetter (c : Char) : Prop :=
  Text.isAlphabetic c = true ∨ c = '_' ∨ '0' ≤ c ∧ c ≤ '9'

def NamesIdentifier (kind : String) : Prop :=
  kind = "Identifier" ∨ kind = "PrivateIdentifier"

/-- A character as it is written in an identifier. -/
inductive Transcribed : Char → Char → Prop where
  | letter {c : Char} (allowed : IsIdentifierLetter c) : Transcribed c c
  | other {c : Char} (barred : ¬ IsIdentifierLetter c) : Transcribed c '_'

/-- A word as it is spelled for a kind of node: character for character for identifiers, and as it
is for all else. -/
inductive SpelledFor (kind : String) : String → String → Prop where
  | identifier {word spelled : String} (named : NamesIdentifier kind)
      (each : List.Forall₂ Transcribed word.toList spelled.toList) : SpelledFor kind word spelled
  | other {word : String} (unnamed : ¬ NamesIdentifier kind) : SpelledFor kind word word

theorem isIdentifierChar_iff (c : Char) : isIdentifierChar c = true ↔ IsIdentifierLetter c := by
  simp [isIdentifierChar, IsIdentifierLetter, or_assoc]

theorem isIdentifierKind_iff (kind : String) : isIdentifierKind kind = true ↔
    NamesIdentifier kind := by
  simp [isIdentifierKind, NamesIdentifier]

theorem transcribed_toIdentifier (word : String) :
    List.Forall₂ Transcribed word.toList (toIdentifier word).toList := by
  rw [toIdentifier, String.toList_ofList, List.forall₂_map_right_iff, List.forall₂_same]
  intro c _
  by_cases allowed : isIdentifierChar c = true
  · rw [if_pos allowed]
    exact .letter ((isIdentifierChar_iff c).mp allowed)
  · rw [if_neg allowed]
    exact .other fun letter => allowed ((isIdentifierChar_iff c).mpr letter)

def spell (kind word : String) : String :=
  if isIdentifierKind kind then toIdentifier word else word

theorem spelledFor_spell (kind word : String) : SpelledFor kind word (spell kind word) := by
  by_cases named : isIdentifierKind kind = true
  · rw [spell, if_pos named]
    exact .identifier ((isIdentifierKind_iff kind).mp named) (transcribed_toIdentifier word)
  · rw [spell, if_neg named]
    exact .other fun identifier => named ((isIdentifierKind_iff kind).mpr identifier)

theorem toIdentifier_toIdentifier (word : String) :
    toIdentifier (toIdentifier word) = toIdentifier word := by
  have underscore : isIdentifierChar '_' = true := by simp [isIdentifierChar]
  rw [toIdentifier, toIdentifier, String.toList_ofList, List.map_map]
  refine congrArg String.ofList (List.map_congr_left fun c _ => ?_)
  by_cases allowed : isIdentifierChar c = true
  · simp [allowed]
  · simp [allowed, underscore]

theorem spell_spell (kind word : String) : spell kind (spell kind word) = spell kind word := by
  unfold spell
  split
  · exact toIdentifier_toIdentifier word
  · rfl

theorem SpelledFor.length_eq {kind word spelled : String}
    (spelledFor : SpelledFor kind word spelled) :
    word.toList.length = spelled.toList.length := by
  cases spelledFor with
  | identifier _ each => exact each.length_eq
  | other _ => rfl

theorem spell_ne_empty {kind word : String} (filled : word ≠ "") : spell kind word ≠ "" := by
  intro empty
  have same := (spelledFor_spell kind word).length_eq
  rw [empty] at same
  exact filled (String.toList_eq_nil_iff.mp (List.eq_nil_of_length_eq_zero same))

def Suggestion.spelledFor (kind : String) (suggestion : Suggestion) : Suggestion where
  word := spell kind suggestion.word
  isPreferred := suggestion.isPreferred
  wordAdjustedToMatchCase := suggestion.wordAdjustedToMatchCase.map (spell kind)

theorem suggestionFor_eq (range : CheckRange) (value : Json) :
    suggestionFor range value =
      (Suggestion.ofJson value).map (Suggestion.spelledFor range.originKind) := by
  unfold suggestionFor
  congr 1
  funext suggestion
  by_cases named : isIdentifierKind range.originKind = true
  · have each : spell range.originKind = toIdentifier := funext fun _ => if_pos named
    rw [if_pos named, Suggestion.spelledFor, each]
    rfl
  · have each : spell range.originKind = id := funext fun _ => if_neg named
    rw [if_neg named, Suggestion.spelledFor, each, Option.map_id]
    rfl

/-- What a value says as a suggestion for a kind of node. -/
structure Suggests (kind : String) (value : Json) (suggestion : Suggestion) : Prop where
  word : ∃ word, wordIn? value = some word ∧ SpelledFor kind word suggestion.word
  preferred : suggestion.isPreferred = true ↔ value.field? "isPreferred" = some (.bool true)
  adjusted : Option.Rel (SpelledFor kind)
    ((value.field? "wordAdjustedToMatchCase").bind Json.asString?)
    suggestion.wordAdjustedToMatchCase

theorem suggests_spelledFor {kind word : String} {value : Json}
    (found : wordIn? value = some word) :
    Suggests kind value ((readAs value word).spelledFor kind) := by
  refine ⟨⟨word, found, spelledFor_spell kind word⟩, ?_, ?_⟩
  · show ((value.field? "isPreferred").bind Json.asBool?).getD false = true ↔ _
    cases value.field? "isPreferred" with
    | none => simp
    | some flag => cases flag <;> simp [Json.asBool?]
  · simp only [Suggestion.spelledFor, readAs]
    cases (value.field? "wordAdjustedToMatchCase").bind Json.asString? with
    | none => exact .none
    | some adjusted => exact .some (spelledFor_spell kind adjusted)

/-! ## Normal forms -/

/-- A suggestion that has a word, and whose spelling for a kind of node is its own. -/
structure IsNormal (kind : String) (suggestion : Suggestion) : Prop where
  filled : suggestion.word ≠ ""
  spelled : suggestion.spelledFor kind = suggestion

theorem isNormal_of_suggestionFor {range : CheckRange} {value : Json} {suggestion : Suggestion}
    (suggested : suggestionFor range value = .ok suggestion) :
    IsNormal range.originKind suggestion := by
  rw [suggestionFor_eq] at suggested
  cases read : Suggestion.ofJson value with
  | error error =>
      rw [read] at suggested
      cases suggested
  | ok raw =>
      rw [read] at suggested
      cases suggested
      obtain ⟨word, _, filled, rfl⟩ := ofJson_eq_ok_iff.mp read
      refine ⟨spell_ne_empty filled, ?_⟩
      have twice : spell range.originKind ∘ spell range.originKind = spell range.originKind :=
        funext (spell_spell _)
      simp only [Suggestion.spelledFor, spell_spell, Option.map_map, twice]

/-- The JSON form of a suggestion reads back, in whatever order its fields stand. -/
theorem ofJson_of_form {suggestion : Suggestion} {form : Json} (filled : suggestion.word ≠ "")
    (written : Json.Abbreviates [] suggestion.toJson form) :
    Suggestion.ofJson form = .ok suggestion := by
  obtain ⟨word, preferred, adjusted⟩ := suggestion
  have field : ∀ name, form.field? name =
      (Suggestion.toJson ⟨word, preferred, adjusted⟩).field? name := by
    refine Json.field?_of_reordered ?_ written
    cases adjusted <;> simp
  refine ofJson_eq_ok_iff.mpr ⟨word, wordIn?_of_field? (field "word"), filled, ?_⟩
  rw [readAs, field "isPreferred", field "wordAdjustedToMatchCase"]
  -- an adjusted word that is not written is not found, and read as none
  cases adjusted <;> rfl

theorem suggestionFor_of_form {range : CheckRange} {suggestion : Suggestion} {form : Json}
    (normal : IsNormal range.originKind suggestion)
    (written : Json.Abbreviates [] suggestion.toJson form) :
    suggestionFor range form = .ok suggestion := by
  rw [suggestionFor_eq, ofJson_of_form normal.filled written]
  exact congrArg Except.ok normal.spelled

theorem suggestionProblem?_of_form {range : CheckRange} {suggestion : Suggestion} {form : Json}
    (word : String) (filled : suggestion.word ≠ "")
    (written : Json.Abbreviates [] suggestion.toJson form) :
    suggestionProblem? word range form = none := by
  rw [suggestionProblem?, ofJson_of_form filled written]

/-! ## Normalization -/

structure Reproves (range : CheckRange) (diagnostic : Diagnostic) : Prop where
  kind : diagnostic.kind = .normalization
  node : diagnostic.node = some range.originNode
  span : diagnostic.span = some range.span

variable (options : CheckOptions) (range : CheckRange) (issue : EngineIssue)

theorem reproved_unusable :
    List.Forall₂ (fun _ diagnostic => Reproves range diagnostic)
      (issue.suggestions.filter fun value => !isUsable value)
      (normalize options range issue).2 := by
  refine forall₂_filter_filterMap (fun value unusable => ?_)
    (fun value usable => ?_) issue.suggestions
  · obtain ⟨error, failed⟩ := ofJson_of_not_isUsable (by simpa using unusable)
    rw [suggestionProblem?, failed]
    exact ⟨_, rfl, rfl, rfl, rfl⟩
  · obtain ⟨word, _, _, read⟩ := ofJson_of_isUsable (by simpa using usable)
    rw [suggestionProblem?, read]

/-- The suggestions that are kept are the first usable values, each spelled for where the issue
comes from. -/
theorem suggested_usable :
    List.Forall₂ (Suggests range.originKind)
      ((issue.suggestions.filter isUsable).take options.numSuggestions)
      (normalize options range issue).1.suggestions := by
  refine List.forall₂_take _ (forall₂_filter_filterMap (fun value usable => ?_)
    (fun value unusable => ?_) issue.suggestions)
  · obtain ⟨word, found, _, read⟩ := ofJson_of_isUsable usable
    rw [suggestionFor_eq, read]
    exact ⟨_, rfl, suggests_spelledFor found⟩
  · obtain ⟨error, failed⟩ := ofJson_of_not_isUsable unusable
    rw [suggestionFor_eq, failed]
    rfl

theorem isNormal_of_normalized {suggestion : Suggestion}
    (kept : suggestion ∈ (normalize options range issue).1.suggestions) :
    IsNormal range.originKind suggestion := by
  obtain ⟨value, _, suggested⟩ := List.mem_filterMap.mp (List.mem_of_mem_take kept)
  cases found : suggestionFor range value with
  | error error =>
      rw [found] at suggested
      cases suggested
  | ok normal =>
      rw [found] at suggested
      cases suggested
      exact isNormal_of_suggestionFor found

/-- Suggestions that were normalized for a range are normalized to themselves. -/
theorem normalize_forms {forms : List Json}
    (written : List.Forall₂ (fun suggestion form => Json.Abbreviates [] suggestion.toJson form)
      (normalize options range issue).1.suggestions forms) :
    normalize options range { issue with suggestions := forms } =
      ((normalize options range issue).1, []) := by
  have settled := (List.forall₂_and_left _ _).mpr ⟨fun _ kept =>
    isNormal_of_normalized options range issue kept, written⟩
  have read : forms.filterMap (fun form => (suggestionFor range form).toOption) =
      (normalize options range issue).1.suggestions := by
    rw [← filterMap_eq_of_forall₂ (settled.imp fun suggestion form each => ?_), List.filterMap_some]
    rw [suggestionFor_of_form each.1 each.2]
    rfl
  have silent : forms.filterMap (suggestionProblem? issue.word range) = [] := by
    rw [← filterMap_eq_of_forall₂ (settled.imp fun suggestion form each => ?_), List.filterMap_none]
    exact (suggestionProblem?_of_form issue.word each.1.filled each.2).symm
  -- There are no more of them than are asked for, so none is cut off the second time.
  have few : (normalize options range issue).1.suggestions.length ≤ options.numSuggestions :=
    List.length_take_le _ _
  have kept := List.take_of_length_le few
  conv_lhs => rw [normalize]
  rw [read, silent, kept]
  rfl

/-- Every unusable value is reported once, the first usable ones are kept in order as they are
spelled for the range, and what is kept is given back unchanged and without complaint, in whatever
order the fields of its JSON forms stand. -/
theorem normalize_retracts :
    List.Forall₂ (fun _ diagnostic => Reproves range diagnostic)
      (issue.suggestions.filter fun value => !isUsable value)
      (normalize options range issue).2 ∧
    List.Forall₂ (Suggests range.originKind)
      ((issue.suggestions.filter isUsable).take options.numSuggestions)
      (normalize options range issue).1.suggestions ∧
    ∀ forms, List.Forall₂ (fun suggestion form => Json.Abbreviates [] suggestion.toJson form)
        (normalize options range issue).1.suggestions forms →
      normalize options range { issue with suggestions := forms } =
        ((normalize options range issue).1, []) :=
  ⟨reproved_unusable options range issue, suggested_usable options range issue, fun _ =>
    normalize_forms options range issue⟩

/-- An issue with a word that is no identifier, a number, a preferred record, a record without a
word, an empty word, and one word more than is asked for. -/
def mixedIssue : EngineIssue where
  rangeIndex := 0
  word := "fooBar"
  start := 1
  stop := 7
  suggestions := [
    .string "fo-o",
    .nat 42,
    .object [("isPreferred", .bool true), ("wordAdjustedToMatchCase", .string "F Ö"),
      ("word", .string "f ö")],
    .object [("text", .string "no")],
    .string "",
    .string "qux"]

def privateRange : CheckRange :=
  ⟨⟨0, 10⟩, "PrivateIdentifier", 3⟩

def twoWithFix : CheckOptions where
  numSuggestions := 2
  autoFix := true

theorem normalize_retracts_mixed :
    (normalize twoWithFix privateRange mixedIssue).1.suggestions =
      [⟨"fo_o", false, none⟩, ⟨"f_ö", true, some "F_Ö"⟩] ∧
      (normalize twoWithFix privateRange mixedIssue).1.fix = some "F_Ö" ∧
      (normalize twoWithFix privateRange mixedIssue).2.length = 3 ∧
      normalize twoWithFix privateRange { mixedIssue with suggestions := [
          .object [("isPreferred", .bool false), ("word", .string "fo_o")],
          .object [("word", .string "f_ö"), ("isPreferred", .bool true),
            ("wordAdjustedToMatchCase", .string "F_Ö")]] } =
        ((normalize twoWithFix privateRange mixedIssue).1, []) := by
  have kept : (normalize twoWithFix privateRange mixedIssue).1.suggestions =
      [⟨"fo_o", false, none⟩, ⟨"f_ö", true, some "F_Ö"⟩] := by decide +kernel
  obtain ⟨reproved, _, again⟩ := normalize_retracts twoWithFix privateRange mixedIssue
  refine ⟨kept, by decide +kernel, reproved.length_eq.symm.trans (by cbv), again _ ?_⟩
  rw [kept]
  exact .cons (.record (.of_perm (.swap _ _ _))) (.cons (.record (.refl _ _)) .nil)

end Report
end Spellspan
