import Multiplexer.Frame.Kind

/-!
What can go wrong between frames and bytes, and how it is worded.
-/

namespace Multiplexer

/-- A failure to write a frame as bytes or to read one from them. -/
inductive CodecError where
  /-- The byte stream itself failed, or its framing is broken. -/
  | stream (message : String)
  /-- A body ended before a field of fixed size; the kind is known once the header is read. -/
  | truncated (kind : Option FrameKind) (available needed : Nat)
  /-- The length of the metadata does not fit. -/
  | metadataTooLong (length limit : Nat)
  /-- The body of a frame is longer than the connection allows. -/
  | oversizedFrame (size limit : Nat)
deriving DecidableEq

/-- An optional kind, spelled out. -/
def optionalKindText : Option FrameKind → String
  | none => "None"
  | some kind => s!"Some({kind.name})"

def CodecError.message : CodecError → String
  | .stream message => s!"I/O error: {message}"
  | .truncated kind available needed =>
    s!"truncated {optionalKindText kind} frame: have {available} bytes, need {needed}"
  | .metadataTooLong length limit => s!"metadata length {length} exceeds limit {limit}"
  | .oversizedFrame size limit => s!"frame exceeds max length: {size} > {limit}"

/-- A length prefix announces a body above the limit. -/
def CodecError.lengthAboveLimit : CodecError := .stream "frame size too big"

/-- The byte stream ends inside a frame. -/
def CodecError.bytesRemaining : CodecError := .stream "bytes remaining on stream"

end Multiplexer
