import Spellspan.Engine.Message
import Spellspan.Text.Duration
import Spellspan.Text.Quoted

/-!
Ways to reach an engine. An exchange answers one request or fails for one of a few causes. It is an
action of some monad, so an engine may keep a state and need not answer a request that is sent again
as it did before.
-/
set_option autoImplicit false

namespace Spellspan.Engine

/-- Why an exchange failed. -/
inductive TransportError where
  | io (reason : String)
  | spawn (program reason : String)
  | exit (outcome stderr : String)
  | timeout (limit : Text.Duration)
  | decode
  | network
  | status (code : Nat) (body : String)
  | notConfigured
  deriving DecidableEq, Repr

/-- Stands for the particulars that a reader of a format or a network reports, which are no part of
our wording. -/
def particulars : String :=
  "<detail>"

def TransportError.message : TransportError → String
  | .io reason => s!"i/o error talking to engine: {reason}"
  | .spawn program reason => s!"failed to start engine {Text.quoted program}: {reason}"
  | .exit outcome stderr => s!"engine exited with {outcome}: {stderr}"
  | .timeout limit => s!"engine did not answer within {limit.render}"
  | .decode => s!"malformed engine response: {particulars}"
  | .network => s!"network error: {particulars}"
  | .status code body => s!"engine returned HTTP {code}: {body}"
  | .notConfigured => "no engine configured"

/-- A way to reach an engine, with a short description. -/
structure Transport (m : Type → Type) where
  describe : String
  exchange : EngineRequest → m (Except TransportError EngineResponse)

namespace Transport

variable {m : Type → Type}

def unconfigured [Pure m] : Transport m where
  describe := "none"
  exchange _ := pure (.error .notConfigured)

def inProcess (exchange : EngineRequest → m (Except TransportError EngineResponse)) : Transport m :=
  { describe := "in-process", exchange }

/-- The same engine, with a list of the requests that it is sent. -/
def logged [Monad m] (transport : Transport m) : Transport (StateT (List EngineRequest) m) where
  describe := transport.describe
  exchange request := do
    modify (· ++ [request])
    transport.exchange request

end Transport
end Spellspan.Engine
