import Mathlib
import Spellspan.Proofs.RecordForms

/-!
Options are read back from their record form, also when fields that are as by default are left out
of it. A reader of options has a default for each of its fields, and these are the fields of the
default options.
-/
set_option autoImplicit false

namespace Spellspan

/-! ## Scope rules -/

theorem PatternSpec.ofJson?_toJson (pattern : PatternSpec) :
    ofJson? pattern.toJson = some pattern := by
  cases pattern with
  | text pattern => rfl
  | list segments =>
      -- A list of segments is no string, so the reader comes to the second form.
      change (Json.strings segments).asStrings?.map PatternSpec.list = some (.list segments)
      rw [Json.asStrings?_strings, Option.map_some]

theorem ScopeRuleSpec.ofJson?_toJson (rule : ScopeRuleSpec) : ofJson? rule.toJson = some rule := by
  cases rule with
  | pair pattern check => rfl
  | record pattern check =>
      simp [toJson, ofJson?, Json.lookup, Json.asBool?, PatternSpec.ofJson?_toJson]

namespace CheckOptions

/-! ## Options -/

@[simp] theorem rulesOfJson?_array (rules : List ScopeRuleSpec) :
    rulesOfJson? (.array (rules.map ScopeRuleSpec.toJson)) = some rules :=
  mapM_map_of_read ScopeRuleSpec.ofJson?_toJson rules

theorem ofFields?_toFields (options : CheckOptions) :
    ofFields? options.toFields = some options := by
  simp [ofFields?, fieldOr?, toFields, Json.lookup, Json.asBool?, Json.asNat?, Json.nat]

/-- The defaults of the reader are those of the options themselves, field by field. -/
theorem ofFields?_append_defaults (fields : List (String × Json)) :
    ofFields? (fields ++ ({} : CheckOptions).toFields) = ofFields? fields := by
  simp (disch := decide) only [ofFields?, fieldOr?_append]

theorem readsByName : Json.ReadsByName fieldNames ({} : CheckOptions).toFields ofFields? where
  once := by decide
  known := .refl fieldNames
  byName left right same := by simp only [ofFields?, fieldOr?, same]
  fills := ofFields?_append_defaults

/-- Options are read back from their record form, in whatever order its fields stand and whichever
of those are left out that the default options have as well. -/
theorem ofJson?_of_abridged_form (options : CheckOptions) :
    ofJson? options.toJson = some options ∧
    ∀ fields, Json.Abridges ({} : CheckOptions).toFields options.toFields fields →
      ofJson? (.object fields) = some options := by
  have abridged : ∀ fields, Json.Abridges ({} : CheckOptions).toFields options.toFields fields →
      ofFields? fields = some options := by
    intro fields abridges
    rw [readsByName.read_of_abridges rfl abridges]
    exact ofFields?_toFields options
  exact ⟨abridged _ (.refl _ _), abridged⟩

def unusual : CheckOptions where
  checkComments := false
  numSuggestions := 0
  checkScope := [.pair "Comment.docBlock" false, .record (.list ["Property[key]", "Identifier"])
    true, .record (.text "*") false]
  flagWords := ["teh"]

def unusualFields : List (String × Json) :=
  unusual.toFields.filter fun entry =>
    ["checkComments", "numSuggestions", "checkScope", "flagWords"].contains entry.1

theorem ofJson?_of_abridged_form_unusual :
    unusualFields.length = 4 ∧
      Json.Abridges ({} : CheckOptions).toFields unusual.toFields unusualFields ∧
    ofJson? (.object unusualFields) = some unusual := by
  have abridges : Json.Abridges ({} : CheckOptions).toFields unusual.toFields unusualFields := by
    apply Json.Abridges.filter
    simp [toFields, unusual]
  exact ⟨rfl, abridges, (ofJson?_of_abridged_form unusual).2 unusualFields abridges⟩

end CheckOptions
end Spellspan
