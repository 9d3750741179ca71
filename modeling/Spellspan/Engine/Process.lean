import Spellspan.Engine.Settings
import Spellspan.Engine.Transport
import Spellspan.Json.Printer
import Spellspan.Surroundings.Process.Find

/-!
Engines that are programs: the request is their input, and the response what they write. A program
that does not end in time is given up.
-/
set_option autoImplicit false

namespace Spellspan.Engine

open Files (FileSystem)

/-- A command with at least the name of a program. -/
structure EngineCommand where
  program : String
  arguments : List String
  deriving DecidableEq, Repr

namespace EngineCommand

def emptyMessage : String := "engine command is empty"

def ofWords? : List String → Option EngineCommand
  | [] => none
  | program :: arguments => some { program, arguments }

def describe (command : EngineCommand) : String :=
  Text.joined " " (command.program :: command.arguments)

def responseOf (timeoutMs : Nat) (outcome : Process.Outcome) :
    Except TransportError EngineResponse :=
  if timeoutMs ≤ outcome.elapsed then .error (.timeout (.ofMilliseconds timeoutMs))
  else if outcome.status ≠ .success then
    .error (.exit outcome.status.render (Text.trimmed (Text.lossy outcome.stderr)))
  else
    match EngineResponse.ofBytes? outcome.stdout with
    | some response => .ok response
    | none => .error .decode

def nulMessage : String := "nul byte found in provided data"

/-- Whether a word holds the character that ends words, and so cannot be passed on. -/
def hasNul (command : EngineCommand) : Bool :=
  (command.program :: command.arguments).any fun word => word.toList.contains '\x00'

def exchange (command : EngineCommand) (system : FileSystem) (timeoutMs : Nat)
    (request : EngineRequest) :
    Except TransportError EngineResponse :=
  if command.hasNul then .error (.spawn command.program nulMessage)
  else match Process.find system command.program with
  | .error problem => .error (.spawn command.program problem.message)
  | .ok program => responseOf timeoutMs
      (Process.runIn system program command.arguments request.toJson.compact.toUTF8)

def transport (command : EngineCommand) (system : FileSystem) (timeoutMs : Nat) : Transport Id where
  describe := command.describe
  exchange := command.exchange system timeoutMs

end EngineCommand

/-- An engine at an address, which cannot be reached from here. -/
def Transport.unreachable {m : Type → Type} [Pure m] (url : String) : Transport m where
  describe := url
  exchange _ := pure (.error .network)

/-- The way to the engine that is configured. An address comes before a command. -/
def EngineSettings.transport (settings : EngineSettings) (system : FileSystem) : Transport Id :=
  match settings.url, EngineCommand.ofWords? settings.command with
  | some url, _ => .unreachable url
  | none, some command => command.transport system settings.timeoutMs
  | none, none => .unconfigured

end Spellspan.Engine
