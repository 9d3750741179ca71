import Spellspan.Json.Choice
import Spellspan.Json.Document
import Spellspan.Options

/-!
What is exchanged with an engine. One request carries all ranges of a file; the response holds
issues that point back into the request by the position of a range, and errors of the engine itself.
-/
set_option autoImplicit false

namespace Spellspan.Engine

open CheckOptions (fieldOr?)

/-- The options that an engine is told. -/
structure EngineOptions where
  numSuggestions : Nat
  generateSuggestions : Bool
  autoFix : Bool
  words : List String := []
  ignoreWords : List String := []
  flagWords : List String := []
  deriving DecidableEq, Repr

/-- The request for one file. Ranges are pairs of byte offsets into the text. -/
structure EngineRequest where
  filename : String
  text : String
  ranges : List (Nat × Nat)
  options : EngineOptions
  deriving DecidableEq, Repr

/-- How bad an issue is. -/
inductive Severity where
  | unknown
  | forbidden
  | hint
  deriving DecidableEq, Repr

/-- An issue as the engine reports it. What its suggestions look like is left open. -/
structure EngineIssue where
  rangeIndex : Nat
  word : String
  start : Nat
  stop : Nat
  severity : Severity := .unknown
  suggestions : List Json := []

/-- An error that the engine reports about itself. -/
structure EngineError where
  message : String
  deriving DecidableEq, Repr

/-- The answer to a request. -/
structure EngineResponse where
  issues : List EngineIssue := []
  errors : List EngineError := []

namespace EngineOptions

def ofOptions (options : CheckOptions) : EngineOptions where
  numSuggestions := options.numSuggestions
  generateSuggestions := options.generateSuggestions
  autoFix := options.autoFix
  words := options.words
  ignoreWords := options.ignoreWords
  flagWords := options.flagWords

def wordsField (name : String) (words : List String) : List (String × Json) :=
  if words.isEmpty then [] else [(name, .strings words)]

def toJson (options : EngineOptions) : Json :=
  .object (
    [("numSuggestions", .nat options.numSuggestions),
      ("generateSuggestions", .bool options.generateSuggestions),
      ("autoFix", .bool options.autoFix)] ++
    wordsField "words" options.words ++
    wordsField "ignoreWords" options.ignoreWords ++
    wordsField "flagWords" options.flagWords)

def ofJson? (value : Json) : Option EngineOptions := do
  let fields ← value.recordFields?
    ["numSuggestions", "generateSuggestions", "autoFix", "words", "ignoreWords", "flagWords"]
  let numSuggestions ← (Json.lookup "numSuggestions" fields).bind Json.asNat?
  let generateSuggestions ← (Json.lookup "generateSuggestions" fields).bind Json.asBool?
  let autoFix ← (Json.lookup "autoFix" fields).bind Json.asBool?
  let words ← fieldOr? fields "words" [] Json.asStrings?
  let ignoreWords ← fieldOr? fields "ignoreWords" [] Json.asStrings?
  let flagWords ← fieldOr? fields "flagWords" [] Json.asStrings?
  some { numSuggestions, generateSuggestions, autoFix, words, ignoreWords, flagWords }

end EngineOptions

namespace EngineRequest

/-- The fields stand in the order in which they are written. -/
def toJson (request : EngineRequest) : Json :=
  .object [
    ("filename", .string request.filename),
    ("text", .string request.text),
    ("ranges", .array (request.ranges.map fun range => .array [.nat range.1, .nat range.2])),
    ("options", request.options.toJson)]

def rangeOfJson? : Json → Option (Nat × Nat)
  | .array [start, stop] => do
    let start ← start.asNat?
    let stop ← stop.asNat?
    some (start, stop)
  | _ => none

def ofJson? (value : Json) : Option EngineRequest := do
  let fields ← value.recordFields? ["filename", "text", "ranges", "options"]
  let filename ← (Json.lookup "filename" fields).bind Json.asString?
  let text ← (Json.lookup "text" fields).bind Json.asString?
  let ranges ← ((Json.lookup "ranges" fields).bind Json.asArray?).bind fun items =>
    items.mapM rangeOfJson?
  let options ← (Json.lookup "options" fields).bind EngineOptions.ofJson?
  some { filename, text, ranges, options }

end EngineRequest

namespace Severity

def name : Severity → String
  | .unknown => "unknown"
  | .forbidden => "forbidden"
  | .hint => "hint"

def toJson (severity : Severity) : Json :=
  .string severity.name

def ofJson? (value : Json) : Option Severity :=
  match value.choice? with
  | some "unknown" => some .unknown
  | some "forbidden" => some .forbidden
  | some "hint" => some .hint
  | _ => none

end Severity

namespace EngineIssue

def fieldNames : List String :=
  ["rangeIndex", "word", "start", "end", "severity", "suggestions"]

/-- The shape of a field: the severity is a choice. -/
def fieldShape (name : String) : Json.Shape :=
  if name = "severity" then .choice else .any

def toJson (issue : EngineIssue) : Json :=
  .object [
    ("rangeIndex", .nat issue.rangeIndex),
    ("word", .string issue.word),
    ("start", .nat issue.start),
    ("end", .nat issue.stop),
    ("severity", issue.severity.toJson),
    ("suggestions", .array issue.suggestions)]

def ofJson? (value : Json) : Option EngineIssue := do
  let fields ← value.recordFields? fieldNames
  let rangeIndex ← (Json.lookup "rangeIndex" fields).bind Json.asNat?
  let word ← (Json.lookup "word" fields).bind Json.asString?
  let start ← (Json.lookup "start" fields).bind Json.asNat?
  let stop ← (Json.lookup "end" fields).bind Json.asNat?
  let severity ← fieldOr? fields "severity" .unknown Severity.ofJson?
  let suggestions ← fieldOr? fields "suggestions" [] Json.asArray?
  some { rangeIndex, word, start, stop, severity, suggestions }

end EngineIssue

namespace EngineError

def toJson (error : EngineError) : Json :=
  .object [("message", .string error.message)]

def ofJson? (value : Json) : Option EngineError := do
  let fields ← value.recordFields? ["message"]
  let message ← (Json.lookup "message" fields).bind Json.asString?
  some ⟨message⟩

end EngineError

namespace EngineResponse

def toJson (response : EngineResponse) : Json :=
  .object [
    ("issues", .array (response.issues.map EngineIssue.toJson)),
    ("errors", .array (response.errors.map EngineError.toJson))]

def issuesOfJson? (value : Json) : Option (List EngineIssue) :=
  value.asArray?.bind fun items => items.mapM EngineIssue.ofJson?

def errorsOfJson? (value : Json) : Option (List EngineError) :=
  value.asArray?.bind fun items => items.mapM EngineError.ofJson?

def ofJson? (value : Json) : Option EngineResponse := do
  let fields ← value.recordFields? ["issues", "errors"]
  let issues ← fieldOr? fields "issues" [] issuesOfJson?
  let errors ← fieldOr? fields "errors" [] errorsOfJson?
  some { issues, errors }

/-- The parts of a response that are read; anything else is only checked for its form. -/
def shape : Json.Shape :=
  .record [
    ("issues", .list (.record
      (EngineIssue.fieldNames.map fun name => (name, EngineIssue.fieldShape name)))),
    ("errors", .list (.record [("message", .any)]))]

def ofText? (text : String) : Option EngineResponse :=
  (Json.parseAs? shape text).bind ofJson?

def ofBytes? (bytes : ByteArray) : Option EngineResponse :=
  (Json.parseBytesAs? shape bytes).bind ofJson?

end EngineResponse
end Spellspan.Engine
