import Multiplexer.Failure.Basic
import Multiplexer.Frame.Basic

/-!
Readers of payloads: how a frame that has arrived becomes the payload that an application sees.
-/

namespace Multiplexer

/-- A rule that takes the payload out of a frame or refuses it. -/
abbrev PayloadReader := Frame → Except PayloadError Payload

/-- Takes the data and metadata of every frame whose kind carries a payload. Both built-in readers, the one
that copies the bytes and the one that shares the buffer of the frame, give this payload. -/
def PayloadReader.standard : PayloadReader := fun f =>
  if f.kind.carriesPayload then .ok ⟨f.data, f.metadata⟩ else .error (.noPayload f.kind)

/-- Takes the data of any frame and leaves the metadata. -/
def PayloadReader.dataOnly : PayloadReader := fun f => .ok (.ofData f.data)

/-- Refuses a frame whose data begins with `mark`, or whose metadata does where there is no
data, and is the standard reader otherwise. -/
def PayloadReader.refusing (mark : Bytes) (message : String) : PayloadReader := fun f =>
  let shown := if f.data.isEmpty then f.metadata.getD [] else f.data
  if mark.isPrefixOf shown then .error (.invalid message) else PayloadReader.standard f

end Multiplexer
