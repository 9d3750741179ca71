import Spellspan.Json.Printer
import Spellspan.Text.Alphabetic

/-!
Suggestions for a word. A suggestion for an identifier must itself be usable as one, so every
character that is neither a letter nor an underscore nor an ASCII digit becomes an underscore.
-/
set_option autoImplicit false

namespace Spellspan.Report

/-- A word to put in the place of another. -/
structure Suggestion where
  word : String
  isPreferred : Bool := false
  wordAdjustedToMatchCase : Option String := none
  deriving DecidableEq, Repr

/-- Why a suggestion cannot be used. -/
inductive SuggestionError where
  | unsupportedShape (found : String)
  | emptyWord
  deriving DecidableEq, Repr

def SuggestionError.message : SuggestionError → String
  | .unsupportedShape found =>
      s!"suggestion must be a string or an object with a string `word`, got {found}"
  | .emptyWord => "suggestion word is empty"

def isIdentifierChar (c : Char) : Bool :=
  Text.isAlphabetic c || c == '_' || ('0' ≤ c && c ≤ '9')

/-- Replaces the characters that may not stand in an identifier, one for one. -/
def toIdentifier (word : String) : String :=
  String.ofList (word.toList.map fun c => if isIdentifierChar c then c else '_')

def isIdentifierKind (kind : String) : Bool :=
  kind == "Identifier" || kind == "PrivateIdentifier"

namespace Suggestion

def replacement (suggestion : Suggestion) : String :=
  suggestion.wordAdjustedToMatchCase.getD suggestion.word

/-- Reads a suggestion of any shape that engines use: a word, or a record with a word. -/
def shapeOf? : Json → Option Suggestion
  | .string word => some { word }
  | .object fields =>
    match Json.lookup "word" fields with
    | some (.string word) =>
      some {
        word
        isPreferred := ((Json.lookup "isPreferred" fields).bind Json.asBool?).getD false
        wordAdjustedToMatchCase :=
          (Json.lookup "wordAdjustedToMatchCase" fields).bind Json.asString? }
    | _ => none
  | _ => none

/-- Reads a suggestion; its word must not be empty. -/
def ofJson (value : Json) : Except SuggestionError Suggestion :=
  match shapeOf? value with
  | some suggestion => if suggestion.word.isEmpty then .error .emptyWord else .ok suggestion
  | none => .error (.unsupportedShape value.compact)

def asIdentifier (suggestion : Suggestion) : Suggestion :=
  { suggestion with
    word := toIdentifier suggestion.word
    wordAdjustedToMatchCase := suggestion.wordAdjustedToMatchCase.map toIdentifier }

def toJson (suggestion : Suggestion) : Json :=
  .object (
    [("word", .string suggestion.word), ("isPreferred", .bool suggestion.isPreferred)] ++
    (suggestion.wordAdjustedToMatchCase.map fun word =>
      ("wordAdjustedToMatchCase", Json.string word)).toList)

end Suggestion
end Spellspan.Report
