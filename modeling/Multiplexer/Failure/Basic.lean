import Multiplexer.Codec.Error
import Multiplexer.Frame.ErrorCode
import Multiplexer.StreamId

/-!
The failures that a connection meets, by origin, with the wording of each and the code that the
peer is told.
-/

namespace Multiplexer

/-- The failure of a request handler, or of the peer's half of a channel. -/
inductive HandlerError where
  | application (message : String)
  | rejected (message : String)
  | canceled (message : String)
  | invalid (message : String)
  /-- The handler does not implement the interaction named. -/
  | unsupported (interaction : String)
  | panicked (message : String)
  /-- The peer ended its half of a channel with an error. -/
  | remote (code : ErrorCode) (message : String)
deriving DecidableEq

def HandlerError.message : HandlerError → String
  | .application message | .rejected message | .canceled message | .invalid message => message
  | .unsupported interaction => s!"{interaction} not implemented"
  | .panicked message => s!"handler panicked: {message}"
  | .remote _ message => message

def HandlerError.code : HandlerError → ErrorCode
  | .rejected _ => .rejected
  | .canceled _ => .canceled
  | .invalid _ => .invalid
  | .remote code _ => code
  | .application _ | .unsupported _ | .panicked _ => .applicationError

/-- A frame that must not arrive on an established connection. -/
inductive ProtocolError where
  | unexpectedSetup (stream : StreamId)
  | unexpectedFrame (stream : StreamId) (kind : FrameKind)
  /-- A request reuses the identifier of a stream that is still active. -/
  | duplicateStream (stream : StreamId)
deriving DecidableEq

def ProtocolError.stream : ProtocolError → StreamId
  | .unexpectedSetup stream | .unexpectedFrame stream _ | .duplicateStream stream => stream

def ProtocolError.message : ProtocolError → String
  | .unexpectedSetup stream => s!"setup frame received post setup on {stream.text}"
  | .unexpectedFrame stream kind => s!"unexpected frame type {kind.name} on {stream.text}"
  | .duplicateStream stream => s!"{stream.text} is already active"

/-- A frame does not yield a payload. -/
inductive PayloadError where
  | noPayload (kind : FrameKind)
  | invalid (message : String)
deriving DecidableEq

def PayloadError.message : PayloadError → String
  | .noPayload kind => s!"{kind.name} frames do not carry a payload"
  | .invalid message => s!"invalid payload: {message}"

/-- The failure of a connection. -/
inductive TransportError where
  | closed
  | codec (error : CodecError)
  | io (message : String)
deriving DecidableEq

def TransportError.message : TransportError → String
  | .closed => "connection closed"
  | .codec error => error.message
  | .io message => s!"I/O error: {message}"

/-- A failure that a responder observes. -/
inductive Failure where
  | handler (stream : StreamId) (error : HandlerError)
  | protocol (error : ProtocolError)
  | decode (stream : StreamId) (error : PayloadError)
  | transport (error : TransportError)
  /-- Cancelling a stream panicked. -/
  | cancellation (stream : StreamId) (message : String)
deriving DecidableEq

/-- The stream that a failure concerns, if it concerns one. -/
def Failure.stream : Failure → Option StreamId
  | .handler stream _ | .decode stream _ | .cancellation stream _ => some stream
  | .protocol error => some error.stream
  | .transport _ => none

/-- The code that names a failure to the peer. -/
def Failure.code : Failure → ErrorCode
  | .handler _ error => error.code
  | .protocol _ | .decode .. => .invalid
  | .transport _ => .connectionError
  | .cancellation .. => .applicationError

def Failure.message : Failure → String
  | .handler stream error => s!"{stream.text}: {error.message}"
  | .protocol error => s!"protocol violation: {error.message}"
  | .decode stream error => s!"{stream.text}: failed to decode payload: {error.message}"
  | .transport error => s!"transport error: {error.message}"
  | .cancellation stream message => s!"{stream.text}: cancellation panicked: {message}"

/-- An optional stream, spelled out. -/
def optionalStreamText : Option StreamId → String
  | none => "None"
  | some stream => s!"Some({stream.text})"

/-- The line that warns of a failure when nobody else listens for it. -/
def Failure.warning (failure : Failure) : String :=
  s!"WARN responder error: stream_id={optionalStreamText failure.stream}, error={failure.message}"

end Multiplexer
