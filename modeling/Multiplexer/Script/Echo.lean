import Multiplexer.Script.Basic

/-!
The scripts of an application that answers every request with what the request has brought.
-/

namespace Multiplexer

/-- One script for each kind of request, whatever its key. -/
def Scripts.echo : Scripts :=
  { fireAndForget := [(anyKey, [])]
    requestResponse := [(anyKey, [])]
    metadataPush := [(anyKey, [])]
    requestStream := [(anyKey, ⟨[], [.echo]⟩)]
    requestChannel := [(anyKey, ⟨[], [.relayAll]⟩)]
    dispose := none }

end Multiplexer
