import Spellspan.Json.Value
import Spellspan.Text.WhiteSpace

/-!
What to check, and how issues are presented, with the record form of these options. A field that is
left out has its default; a field that is there must have the right type.
-/
set_option autoImplicit false

namespace Spellspan

/-- A scope pattern written as one text or as a list of segments. -/
inductive PatternSpec where
  | text (pattern : String)
  | list (segments : List String)
  deriving DecidableEq, Repr

/-- A scope rule as it is written: a pair, or a record whose rule includes unless it says otherwise.
-/
inductive ScopeRuleSpec where
  | pair (pattern : String) (check : Bool)
  | record (pattern : PatternSpec) (check : Bool)
  deriving DecidableEq, Repr

/-- Which texts are checked and what is asked of the engine. -/
structure CheckOptions where
  checkComments : Bool := true
  checkStrings : Bool := true
  checkStringTemplates : Bool := true
  checkIdentifiers : Bool := true
  checkElementText : Bool := true
  /-- Leaves out the sources of modules and the names that are brought in from them. -/
  ignoreImports : Bool := true
  ignoreImportProperties : Bool := true
  autoFix : Bool := false
  numSuggestions : Nat := 8
  generateSuggestions : Bool := true
  debugMode : Bool := false
  checkScope : List ScopeRuleSpec := []
  words : List String := []
  ignoreWords : List String := []
  flagWords : List String := []
  deriving DecidableEq, Repr

namespace PatternSpec

def parts : PatternSpec → List String
  | .text pattern => Text.wordsOf pattern
  | .list segments => segments

def toJson : PatternSpec → Json
  | .text pattern => .string pattern
  | .list segments => .strings segments

def ofJson? : Json → Option PatternSpec
  | .string pattern => some (.text pattern)
  | value => value.asStrings?.map .list

end PatternSpec

namespace ScopeRuleSpec

def parts : ScopeRuleSpec → List String
  | .pair pattern _ => (PatternSpec.text pattern).parts
  | .record pattern _ => pattern.parts

def isCheck : ScopeRuleSpec → Bool
  | .pair _ check => check
  | .record _ check => check

def toJson : ScopeRuleSpec → Json
  | .pair pattern check => .array [.string pattern, .bool check]
  | .record pattern check => .object [("pattern", pattern.toJson), ("check", .bool check)]

def ofJson? : Json → Option ScopeRuleSpec
  | .array [.string pattern, .bool check] => some (.pair pattern check)
  | .object fields => do
    let pattern ← (Json.lookup "pattern" fields).bind PatternSpec.ofJson?
    let check ← ((Json.lookup "check" fields).map Json.asBool?).getD (some true)
    some (.record pattern check)
  | _ => none

end ScopeRuleSpec

namespace CheckOptions

def allOff : CheckOptions :=
  { checkComments := false, checkStrings := false, checkStringTemplates :=
    false, checkIdentifiers := false, checkElementText := false, ignoreImports := false,
    ignoreImportProperties := false }

def fieldNames : List String :=
  ["checkComments", "checkStrings", "checkStringTemplates", "checkIdentifiers", "checkJSXText",
    "ignoreImports", "ignoreImportProperties", "autoFix", "numSuggestions", "generateSuggestions",
    "debugMode",
      "checkScope", "words",
    "ignoreWords", "flagWords"]

def toFields (options : CheckOptions) : List (String × Json) := [
  ("checkComments", .bool options.checkComments),
  ("checkStrings", .bool options.checkStrings),
  ("checkStringTemplates", .bool options.checkStringTemplates),
  ("checkIdentifiers", .bool options.checkIdentifiers),
  ("checkJSXText", .bool options.checkElementText),
  ("ignoreImports", .bool options.ignoreImports),
  ("ignoreImportProperties", .bool options.ignoreImportProperties),
  ("autoFix", .bool options.autoFix),
  ("numSuggestions", .nat options.numSuggestions),
  ("generateSuggestions", .bool options.generateSuggestions),
  ("debugMode", .bool options.debugMode),
  ("checkScope", .array (options.checkScope.map ScopeRuleSpec.toJson)),
  ("words", .strings options.words),
  ("ignoreWords", .strings options.ignoreWords),
  ("flagWords", .strings options.flagWords)]

def toJson (options : CheckOptions) : Json :=
  .object options.toFields

def fieldOr? {α : Type} (fields : List (String × Json)) (name : String) (default : α)
    (read : Json → Option α) : Option α :=
  match Json.lookup name fields with
  | some value => read value
  | none => some default

def rulesOfJson? (value : Json) : Option (List ScopeRuleSpec) :=
  value.asArray?.bind fun items => items.mapM ScopeRuleSpec.ofJson?

/-- The options in the fields of a record, each with what it is when it is left out; other fields do
not matter. -/
def ofFields? (fields : List (String × Json)) : Option CheckOptions := do
  let checkComments ← fieldOr? fields "checkComments" true Json.asBool?
  let checkStrings ← fieldOr? fields "checkStrings" true Json.asBool?
  let checkStringTemplates ← fieldOr? fields "checkStringTemplates" true Json.asBool?
  let checkIdentifiers ← fieldOr? fields "checkIdentifiers" true Json.asBool?
  let checkElementText ← fieldOr? fields "checkJSXText" true Json.asBool?
  let ignoreImports ← fieldOr? fields "ignoreImports" true Json.asBool?
  let ignoreImportProperties ← fieldOr? fields "ignoreImportProperties" true Json.asBool?
  let autoFix ← fieldOr? fields "autoFix" false Json.asBool?
  let numSuggestions ← fieldOr? fields "numSuggestions" 8 Json.asNat?
  let generateSuggestions ← fieldOr? fields "generateSuggestions" true Json.asBool?
  let debugMode ← fieldOr? fields "debugMode" false Json.asBool?
  let checkScope ← fieldOr? fields "checkScope" [] rulesOfJson?
  let words ← fieldOr? fields "words" [] Json.asStrings?
  let ignoreWords ← fieldOr? fields "ignoreWords" [] Json.asStrings?
  let flagWords ← fieldOr? fields "flagWords" [] Json.asStrings?
  some {
    checkComments, checkStrings, checkStringTemplates, checkIdentifiers, checkElementText,
      ignoreImports,
    ignoreImportProperties, autoFix, numSuggestions, generateSuggestions, debugMode, checkScope,
      words, ignoreWords,
    flagWords }

def ofJson? (value : Json) : Option CheckOptions :=
  (value.recordFields? fieldNames).bind ofFields?

end CheckOptions
end Spellspan
