import Multiplexer.Frame.ErrorCode
import Multiplexer.Frame.Kind
import Multiplexer.Payload
import Multiplexer.StreamId

/-!
Frames: the messages that a connection carries in both directions, and the ways to build them.
-/

namespace Multiplexer

/-- One message of a connection. Fields that its kind does not use are zero or empty. -/
structure Frame where
  stream : StreamId
  kind : FrameKind
  flags : Flags
  demand : UInt32
  code : UInt32
  position : UInt64
  metadata : Option Bytes
  data : Bytes
deriving DecidableEq

/-- The frame of a kind that carries nothing. -/
def Frame.new (stream : StreamId) (kind : FrameKind) : Frame :=
  ⟨stream, kind, kind.ownFlags, 0, 0, 0, none, []⟩

instance : Inhabited Frame := ⟨Frame.new default default⟩

def Frame.withFlags (f : Frame) (flags : Flags) : Frame := { f with flags }

def Frame.withData (f : Frame) (data : Bytes) : Frame := { f with data }

def Frame.withDemand (f : Frame) (demand : UInt32) : Frame := { f with demand }

def Frame.withCode (f : Frame) (code : UInt32) : Frame := { f with code }

def Frame.withPosition (f : Frame) (position : UInt64) : Frame := { f with position }

/-- Sets the metadata, and with it the flag that announces it. -/
def Frame.withMetadata (f : Frame) (metadata : Option Bytes) : Frame :=
  let flags := if metadata.isSome then f.flags.insert .metadata else f.flags.erase .metadata
  { f with metadata, flags }

/-- The frame of a kind that carries a payload. -/
def Frame.ofPayload (stream : StreamId) (kind : FrameKind) (p : Payload) : Frame :=
  let f := (Frame.new stream kind).withData p.data
  if p.metadata.isSome then f.withMetadata p.metadata else f

def Frame.requestResponse (stream : StreamId) (p : Payload) : Frame :=
  .ofPayload stream .requestResponse p

def Frame.fireAndForget (stream : StreamId) (p : Payload) : Frame :=
  .ofPayload stream .fireAndForget p

def Frame.requestStream (stream : StreamId) (demand : UInt32) (p : Payload) : Frame :=
  (Frame.ofPayload stream .requestStream p).withDemand demand

def Frame.requestChannel (stream : StreamId) (demand : UInt32) (p : Payload) : Frame :=
  (Frame.ofPayload stream .requestChannel p).withDemand demand

def Frame.next (stream : StreamId) (p : Payload) : Frame :=
  .ofPayload stream .next p

theorem Frame.kind_next (stream : StreamId) (p : Payload) : (Frame.next stream p).kind = .next := by
  unfold Frame.next Frame.ofPayload
  split <;> rfl

def Frame.nextComplete (stream : StreamId) (p : Payload) : Frame :=
  .ofPayload stream .nextComplete p

theorem Frame.kind_nextComplete (stream : StreamId) (p : Payload) :
    (Frame.nextComplete stream p).kind = .nextComplete := by
  unfold Frame.nextComplete Frame.ofPayload
  split <;> rfl

def Frame.complete (stream : StreamId) : Frame := .new stream .complete

def Frame.cancel (stream : StreamId) : Frame := .new stream .cancel

def Frame.requestN (stream : StreamId) (demand : UInt32) : Frame :=
  (Frame.new stream .requestN).withDemand demand

/-- An error that ends a stream, its message in UTF-8. -/
def Frame.error (stream : StreamId) (code : ErrorCode) (message : String) : Frame :=
  ((Frame.new stream .error).withCode code.toUInt32).withData (.ofText message)

def Frame.metadataPush (metadata : Bytes) : Frame :=
  (Frame.new .connection .metadataPush).withMetadata (some metadata)

def Frame.keepalive (position : UInt64) (data : Bytes) (respond : Bool) : Frame :=
  let f := ((Frame.new .connection .keepalive).withPosition position).withData data
  if respond then f.withFlags .respond else f

/-- The sender's half of the stream ends with this frame. -/
def Frame.isComplete (f : Frame) : Bool := f.flags.contains .complete

def Frame.announcesMetadata (f : Frame) : Bool := f.flags.contains .metadata

/-- The frame is a keepalive that asks for an answer. -/
def Frame.wantsResponse (f : Frame) : Bool :=
  f.kind == .keepalive && f.flags.contains .respond

def Frame.errorCode (f : Frame) : ErrorCode := .ofUInt32 f.code

/-- The data of an error frame read as text. -/
def Frame.message (f : Frame) : String := f.data.toText

end Multiplexer
