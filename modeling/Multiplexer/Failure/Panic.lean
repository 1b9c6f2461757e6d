/-!
Panics of application code: what is left of one once it has been caught.
-/

namespace Multiplexer

/-- What a panic carries: a text, or a value that cannot be shown. -/
inductive Panic where
  | text (message : String)
  | value
deriving DecidableEq

def Panic.message : Panic → String
  | .text message => message
  | .value => "Any \x7b .. \x7d"

end Multiplexer
