import Spellspan.Engine.Settings
import Spellspan.Surroundings.Glob.Parser
import Spellspan.Surroundings.Yaml.Scalar

/-!
The settings of a project: the options of checking, the paths to leave out, and the engine. They are
read from a YAML mapping in which the options stand next to the other fields. The theory starts from
the options that are read here, whatever text they come from.
-/
set_option autoImplicit false

namespace Spellspan

open Engine (EngineSettings)

/-- The settings of a project. -/
structure Settings where
  options : CheckOptions := {}
  ignorePaths : List String := []
  engine : Option EngineSettings := none
  deriving DecidableEq, Repr

namespace Settings

def textOf? (value : Yaml) : Option String :=
  match value.bare with
  | .scalar _ text => some text
  | _ => none

/-- The entries of a mapping with the texts of their keys; every key must be a scalar. -/
def fieldsOf? (entries : List (Yaml × Yaml)) : Option (List (String × Yaml)) :=
  entries.mapM fun (key, value) => (textOf? key).map fun name => (name, value)

def valuesOf (name : String) (fields : List (String × Yaml)) : List Yaml :=
  (fields.filter fun field => field.1 == name).map Prod.snd

def fieldOr? {α : Type} (fields : List (String × Yaml)) (name : String) (default : α)
    (read : Yaml → Option α) : Option α :=
  match valuesOf name fields with
  | [] => some default
  | [value] => read value
  | _ => none

/-- A list of texts; nothing is an empty list. -/
def textsOf? (value : Yaml) : Option (List String) :=
  match value.bare with
  | .sequence items => items.mapM textOf?
  | .scalar .plain "" => some []
  | _ => none

/-- Whether a value stands for nothing. One that is typed as nothing must. -/
def isNothing? (value : Yaml) : Option Bool :=
  match value.bare, value.tag? with
  | .scalar .plain text, none => some (text == "" || Yaml.nullWords.contains text)
  | .scalar .plain text, some tag =>
    if tag != Yaml.coreTag "null" then some false
    else if Yaml.nullWords.contains text then some true else none
  | .endless, _ => none
  | _, _ => some false

def optionalText? (value : Yaml) : Option (Option String) := do
  if ← isNothing? value then some none else (textOf? value).map some

/-- A natural number of at most 64 bits, written without quotes, or as a block of lines that is
typed as an integer. -/
def naturalOf? (value : Yaml) : Option Nat :=
  match value.bare with
  | .scalar style text =>
    if style = .plain || (style = .literal && value.tag? == some (Yaml.coreTag "int")) then
      (Yaml.naturalOf? text.toList).filter (· < UInt64.size)
    else none
  | _ => none

def engineOfFields? (fields : List (String × Yaml)) : Option EngineSettings := do
  let defaults : EngineSettings := {}
  let command ← fieldOr? fields "command" defaults.command textsOf?
  let url ← fieldOr? fields "url" defaults.url optionalText?
  let timeoutMs ← fieldOr? fields "timeoutMs" defaults.timeoutMs naturalOf?
  some { command, url, timeoutMs }

/-- The settings of an engine, or nothing. Nothing with a type is an empty mapping. -/
def engineOf? (value : Yaml) : Option (Option EngineSettings) := do
  if ← isNothing? value then some none
  else
    match value.bare with
    | .mapping entries => ((fieldsOf? entries).bind engineOfFields?).map some
    | .scalar .plain "" => (engineOfFields? []).map some
    | _ => none

def ruleNames : List String :=
  ["pattern", "check"]

/-- An option in its record form, as a list that is empty when the option is left out. -/
def optionField? (fields : List (String × Yaml)) (name : String) : Option (List (String × Json)) :=
  match valuesOf name fields with
  | [] => some []
  | [value] => (value.toJson? ruleNames).map fun value => [(name, value)]
  | _ => none

def optionsOf? (fields : List (String × Yaml)) : Option CheckOptions := do
  let options ← CheckOptions.fieldNames.mapM (optionField? fields)
  CheckOptions.ofFields? options.flatten

/-- How deep the value of an option, or of a field of another name, may be nested. -/
def maxNesting : Nat := 127

def isBounded (value : Yaml) : Bool :=
  value.followed ≤ value.extent * 100

/-- Reads settings. Fields of other names do not matter, as long as they can be typed and are not
nested too deep. -/
def ofYaml? (value : Yaml) : Option Settings :=
  if !isBounded value then none
  else
    match value.bare with
    | .scalar .plain "" => some {}
    | .mapping entries => do
      let fields ← fieldsOf? entries
      let ignorePaths ← fieldOr? fields "ignorePaths" [] textsOf?
      let engine ← fieldOr? fields "engine" none engineOf?
      let others := fields.filter fun field => field.1 != "ignorePaths" && field.1 != "engine"
      if others.all fun field => field.2.isTypable && field.2.depth ≤ maxNesting then
        (optionsOf? others).map fun options => { options, ignorePaths, engine }
      else none
    | _ => none

def ofText? (text : String) : Option Settings :=
  (Yaml.parse? text).bind ofYaml?

/-- The record form: the options, then the other fields. -/
def toJson (settings : Settings) : Json :=
  .object (settings.options.toFields ++ [
    ("ignorePaths", .strings settings.ignorePaths),
    ("engine", (settings.engine.map EngineSettings.toJson).getD .null)])

/-- Reads globs in order; the first that is none is reported. -/
def globsOf : List String → Except String (List (List Glob.Token))
  | [] => .ok []
  | text :: rest =>
    match Glob.parse text with
    | .error error => .error
        s!"invalid ignorePaths pattern {Text.quoted text}: {error.message text}"
    | .ok glob => (globsOf rest).map (glob :: ·)

def ignoreGlobs (settings : Settings) : Except String (List (List Glob.Token)) :=
  globsOf settings.ignorePaths

def isIgnored (globs : List (List Glob.Token)) (path : String) : Bool :=
  globs.any fun glob => Glob.isMatch glob path

def maxSuggestions : Nat := 100

def engineProblem? (engine : EngineSettings) : Option String :=
  if !engine.command.isEmpty &&
    engine.url.isSome then some "engine must set either `command` or `url`, not both"
  else if engine.timeoutMs = 0 then some "engine timeoutMs must be greater than zero"
  else none

/-- What is wrong with settings that could be read. Scope patterns do not count. -/
def problem? (settings : Settings) : Option String :=
  if maxSuggestions < settings.options.numSuggestions then
    some s!"numSuggestions must be at most {maxSuggestions}, got {settings.options.numSuggestions}"
  else
    match settings.ignoreGlobs with
    | .error message => some message
    | .ok _ => settings.engine.bind engineProblem?

end Settings
end Spellspan
