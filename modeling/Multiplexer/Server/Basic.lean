import Multiplexer.Codec.Framing
import Multiplexer.Server.Backoff

/-!
The settings of a server, and the failures with which it ends.
-/

namespace Multiplexer

/-- The settings of a server. -/
structure ServerSettings where
  workers : Nat
  frameLimit : Nat
  backoff : Backoff

def ServerSettings.standard : ServerSettings := ⟨1, longestBody, .standard⟩

/-- Sets the number of workers, of which there is always one. -/
def ServerSettings.withWorkers (s : ServerSettings) (n : Nat) : ServerSettings :=
  { s with workers := max n 1 }

/-- The failure with which a server ends. -/
inductive ServerError where
  | bind (message : String)
  | accept (message : String)
deriving DecidableEq

def ServerError.message : ServerError → String
  | .bind message => s!"bind error: {message}"
  | .accept message => s!"accept error: {message}"

end Multiplexer
