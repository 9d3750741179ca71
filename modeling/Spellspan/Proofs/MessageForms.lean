import Mathlib
import Spellspan.Engine.Message
import Spellspan.Proofs.RecordForms

/-!
Requests and responses are read back from their record forms. A request leaves out empty lists of
words, and a response is also read where it leaves out what is as by default: no issues, no errors,
an issue without suggestions or of the usual severity.
-/
set_option autoImplicit false

namespace Spellspan.Engine

open CheckOptions (fieldOr? fieldOr?_append)
open Json (Abbreviates Abridges ReadsByName lookup_append_of_isNone)

/-! ## Requests -/

namespace EngineOptions

def allFields (options : EngineOptions) : List (String × Json) := [
  ("numSuggestions", .nat options.numSuggestions),
  ("generateSuggestions", .bool options.generateSuggestions),
  ("autoFix", .bool options.autoFix),
  ("words", .strings options.words),
  ("ignoreWords", .strings options.ignoreWords),
  ("flagWords", .strings options.flagWords)]

def unwritten : List (String × Json) :=
  [("words", .strings []), ("ignoreWords", .strings []), ("flagWords", .strings [])]

theorem abridges_wordsField (name : String) (listed : (name, Json.strings []) ∈ unwritten)
    (words : List String) :
    Abridges unwritten [(name, .strings words)] (wordsField name words) := by
  cases words with
  | nil => exact .nil (List.cons_subset.mpr ⟨listed, List.nil_subset _⟩)
  | cons word rest => exact .refl _ _

/-- Options are written with all their fields but the lists without words. -/
theorem toJson_abbreviates (options : EngineOptions) :
    Abbreviates unwritten (.object options.allFields) options.toJson := by
  have scalars := Abridges.refl unwritten [
    ("numSuggestions", .nat options.numSuggestions),
      ("generateSuggestions", .bool options.generateSuggestions),
    ("autoFix", .bool options.autoFix)]
  have words := abridges_wordsField "words" (by simp [unwritten]) options.words
  have ignoreWords := abridges_wordsField "ignoreWords" (by simp [unwritten]) options.ignoreWords
  have flagWords := abridges_wordsField "flagWords" (by simp [unwritten]) options.flagWords
  exact .record (((scalars.append words).append ignoreWords).append flagWords)

theorem readsByName :
    ReadsByName ["numSuggestions", "generateSuggestions", "autoFix", "words", "ignoreWords",
      "flagWords"] unwritten
      fun fields => ofJson? (.object fields) where
  once := by decide
  known := by decide
  byName left right same := by
    simp only [ofJson?, Json.recordFields?, Option.bind_eq_bind, Option.bind_some, fieldOr?, same]
  fills fields := by
    simp (disch := decide) only [ofJson?, Json.recordFields?, Option.bind_eq_bind, Option.bind_some,
      lookup_append_of_isNone, fieldOr?_append]

theorem ofJson?_allFields (options : EngineOptions) :
    ofJson? (.object options.allFields) = some options := by
  simp only [ofJson?, Json.recordFields?, Option.bind_eq_bind, Option.bind_some]
  simp [allFields, Json.lookup, fieldOr?, Json.nat, Json.asNat?, Json.asBool?]

theorem ofJson?_toJson (options : EngineOptions) : ofJson? options.toJson = some options := by
  obtain ⟨abridges⟩ := options.toJson_abbreviates
  rw [← ofJson?_allFields options]
  exact readsByName.read_of_abridges rfl abridges

end EngineOptions

theorem EngineRequest.ofJson?_toJson (request : EngineRequest) :
    ofJson? request.toJson = some request := by
  have pair : ∀ range : Nat × Nat, rangeOfJson? (.array [.nat range.1, .nat range.2]) =
    some range := fun _ => rfl
  have ranges := mapM_map_of_read pair request.ranges
  simp only [ofJson?, toJson, Json.recordFields?, Option.bind_eq_bind, Option.bind_some]
  simp [Json.lookup, Json.asString?, Json.asArray?, ranges, EngineOptions.ofJson?_toJson]

/-! ## Responses -/

theorem Severity.ofJson?_toJson (severity : Severity) :
    ofJson? severity.toJson = some severity := by
  cases severity <;> rfl

theorem EngineError.ofJson?_toJson (error : EngineError) : ofJson? error.toJson = some error :=
  rfl

namespace EngineIssue

def usual : List (String × Json) :=
  [("severity", Severity.unknown.toJson), ("suggestions", .array [])]

theorem readsByName : ReadsByName fieldNames usual fun fields => ofJson? (.object fields) where
  once := by decide
  known := by decide
  byName left right same := by
    simp only [ofJson?, Json.recordFields?, Option.bind_eq_bind, Option.bind_some, fieldOr?, same]
  fills fields := by
    have severity : (Json.lookup "severity" usual).bind Severity.ofJson? = some .unknown := rfl
    have suggestions : (Json.lookup "suggestions" usual).bind Json.asArray? = some [] := rfl
    simp (disch := decide) only [ofJson?, Json.recordFields?, Option.bind_eq_bind, Option.bind_some,
      lookup_append_of_isNone, fieldOr?_append severity, fieldOr?_append suggestions]

theorem ofJson?_toJson (issue : EngineIssue) : ofJson? issue.toJson = some issue := by
  simp only [ofJson?, toJson, Json.recordFields?, Option.bind_eq_bind, Option.bind_some]
  simp [Json.lookup, fieldOr?, Json.nat, Json.asNat?, Json.asString?, Json.asArray?,
    Severity.ofJson?_toJson]

theorem ofJson?_of_abbreviates {issue : EngineIssue} {value : Json}
    (abbreviates : Abbreviates usual issue.toJson value) :
    ofJson? value = some issue := by
  rw [← ofJson?_toJson issue]
  unfold toJson at abbreviates ⊢
  obtain ⟨abridges⟩ := abbreviates
  exact readsByName.read_of_abridges rfl abridges

end EngineIssue

namespace EngineResponse

def usual : List (String × Json) :=
  [("issues", .array []), ("errors", .array [])]

theorem readsByName : ReadsByName ["issues", "errors"] usual fun fields =>
    ofJson? (.object fields) where
  once := by decide
  known := .refl _
  byName left right same := by
    simp only [ofJson?, Json.recordFields?, Option.bind_eq_bind, Option.bind_some, fieldOr?, same]
  fills fields := by
    have issues : (Json.lookup "issues" usual).bind issuesOfJson? = some [] := rfl
    have errors : (Json.lookup "errors" usual).bind errorsOfJson? = some [] := rfl
    simp only [ofJson?, Json.recordFields?, Option.bind_eq_bind, Option.bind_some,
      fieldOr?_append issues, fieldOr?_append errors]

/-- A response with all its fields is read back, whatever its issues leave out. -/
theorem ofJson?_allFields {response : EngineResponse} {issues : List Json}
    (told : List.Forall₂ (Abbreviates EngineIssue.usual)
      (response.issues.map EngineIssue.toJson) issues) :
    ofJson? (.object [("issues", .array issues),
      ("errors", .array (response.errors.map EngineError.toJson))]) =
      some response := by
  have readIssues : issues.mapM EngineIssue.ofJson? = some response.issues := by
    refine mapM_of_forall₂ (List.Forall₂.flip ?_)
    exact (List.forall₂_map_left_iff.mp told).imp fun _ _ => EngineIssue.ofJson?_of_abbreviates
  have readErrors := mapM_map_of_read EngineError.ofJson?_toJson response.errors
  simp only [ofJson?, Json.recordFields?, Option.bind_eq_bind, Option.bind_some]
  simp [Json.lookup, fieldOr?, issuesOfJson?, errorsOfJson?, Json.asArray?, readIssues, readErrors]

theorem ofJson?_of_abbreviates {response : EngineResponse} {issues : List Json} {value : Json}
    (told : List.Forall₂ (Abbreviates EngineIssue.usual)
      (response.issues.map EngineIssue.toJson) issues)
    (abbreviates : Abbreviates usual
      (.object [("issues", .array issues),
        ("errors", .array (response.errors.map EngineError.toJson))]) value) :
    ofJson? value = some response := by
  rw [← ofJson?_allFields told]
  obtain ⟨abridges⟩ := abbreviates
  exact readsByName.read_of_abridges rfl abridges

end EngineResponse

/-- What is exchanged with an engine is read back from its record form. A response is read back as
well where its issues and the response itself leave out fields that are as by default, each its own,
and in whatever order the others stand. -/
theorem messages_read_back :
    (∀ request : EngineRequest, EngineRequest.ofJson? request.toJson = some request) ∧
    (∀ response : EngineResponse, EngineResponse.ofJson? response.toJson = some response) ∧
    ∀ (response : EngineResponse) (issues : List Json) (value : Json),
      List.Forall₂ (Abbreviates EngineIssue.usual) (response.issues.map EngineIssue.toJson) issues →
      Abbreviates EngineResponse.usual
        (.object [("issues", .array issues),
          ("errors", .array (response.errors.map EngineError.toJson))]) value →
      EngineResponse.ofJson? value = some response := by
  refine ⟨EngineRequest.ofJson?_toJson, fun response => ?_, fun _ _ _ =>
    EngineResponse.ofJson?_of_abbreviates⟩
  have whole : List.Forall₂ (Abbreviates EngineIssue.usual) (response.issues.map EngineIssue.toJson)
      (response.issues.map EngineIssue.toJson) := by
    refine List.forall₂_same.mpr fun value listed => ?_
    obtain ⟨issue, _, rfl⟩ := List.mem_map.mp listed
    exact .record (.refl _ _)
  exact EngineResponse.ofJson?_allFields whole

/-- A response whose first issue is as by default in all that can be left out. -/
def terse : EngineResponse where
  issues := [
    { rangeIndex := 0, word := "teh", start := 3, stop := 6 },
    { rangeIndex := 2, word := "abd", start := 9, stop := 12, severity := .hint
      suggestions := [.string "and", .object [("word", .null)]] }]

def terseIssue : Json :=
  .object [("rangeIndex", .nat 0), ("word", .string "teh"), ("start", .nat 3), ("end", .nat 6)]

def reorderedIssue : Json :=
  .object [
    ("suggestions", .array [.string "and", .object [("word", .null)]]), ("rangeIndex", .nat 2),
      ("word", .string "abd"),
    ("start", .nat 9), ("end", .nat 12), ("severity", .string "hint")]

theorem abbreviates_terse :
    List.Forall₂ (Abbreviates EngineIssue.usual) (terse.issues.map EngineIssue.toJson)
      [terseIssue, reorderedIssue] := by
  have first := (Abridges.refl EngineIssue.usual [
    ("rangeIndex", .nat 0), ("word", .string "teh"), ("start", .nat 3), ("end", .nat 6)]).append
      (.nil (List.Subset.refl _))
  have second : Abridges EngineIssue.usual _ _ := .of_perm (List.perm_append_singleton
    ("suggestions", Json.array [.string "and", .object [("word", .null)]]) [
      ("rangeIndex", .nat 2), ("word", .string "abd"), ("start", .nat 9), ("end", .nat 12),
        ("severity", .string "hint")]).symm
  exact .cons (.record first) (.cons (.record second) .nil)

theorem messages_read_back_terse :
    List.Forall₂ (Abbreviates EngineIssue.usual) (terse.issues.map EngineIssue.toJson)
      [terseIssue, reorderedIssue] ∧
    Abbreviates EngineResponse.usual
      (.object [("issues", .array [terseIssue, reorderedIssue]), ("errors", .array [])])
      (.object [("issues", .array [terseIssue, reorderedIssue])]) ∧
    EngineResponse.ofJson? (.object [("issues", .array [terseIssue, reorderedIssue])]) =
      some terse := by
  have short : Abbreviates EngineResponse.usual
      (.object [("issues", .array [terseIssue, reorderedIssue]), ("errors", .array [])])
      (.object [("issues", .array [terseIssue, reorderedIssue])]) := by
    exact .record ((Abridges.refl _ [_]).append (.nil (by simp [EngineResponse.usual])))
  exact ⟨abbreviates_terse, short, messages_read_back.2.2 terse _ _ abbreviates_terse short⟩

end Spellspan.Engine
