import Spellspan.Options

/-!
How an engine is reached, as it is configured: by a command, at an address, or not at all.
-/
set_option autoImplicit false

namespace Spellspan.Engine

/-- The configured way to an engine. -/
structure EngineSettings where
  command : List String := []
  url : Option String := none
  timeoutMs : Nat := 30000
  deriving DecidableEq, Repr

namespace EngineSettings

def toJson (settings : EngineSettings) : Json :=
  .object [
    ("command", .strings settings.command),
    ("url", (settings.url.map Json.string).getD .null),
    ("timeoutMs", .nat settings.timeoutMs)]

def optionalText? : Json → Option (Option String)
  | .null => some none
  | value => value.asString?.map some

def ofJson? (value : Json) : Option EngineSettings := do
  let fields ← value.recordFields? ["command", "url", "timeoutMs"]
  let defaults : EngineSettings := {}
  let command ← CheckOptions.fieldOr? fields "command" defaults.command Json.asStrings?
  let url ← CheckOptions.fieldOr? fields "url" defaults.url optionalText?
  let timeoutMs ← CheckOptions.fieldOr? fields "timeoutMs" defaults.timeoutMs Json.asNat?
  some { command, url, timeoutMs }

def isUsable (settings : EngineSettings) : Bool :=
  !settings.command.isEmpty || settings.url.isSome

/-- The address, the command in one line, or that there is none. An address comes before a command.
-/
def describe (settings : EngineSettings) : String :=
  match settings.url with
  | some url => url
  | none => if settings.command.isEmpty then "none" else Text.joined " " settings.command

end EngineSettings
end Spellspan.Engine
