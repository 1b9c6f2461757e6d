import Multiplexer.Codec.Framing
import Multiplexer.Connection.ByteStream
import Multiplexer.Failure.Basic
import Multiplexer.Outbound

/-!
Reading frames from a byte stream. Bytes are read only when no frame is complete, and the first
error is the last item.
-/

namespace Multiplexer

/-- An item of the sequence of frames that a connection receives. -/
abbrev Arrival := Except TransportError Frame

/-- The reading half of a connection: its framing and the bytes not yet decoded. -/
structure FrameReader where
  framing : Framing
  buffer : Bytes
deriving DecidableEq

def FrameReader.new (limit : Nat) : FrameReader := ⟨.new limit, []⟩

/-- What one attempt to read a frame means, `otherwise` if there is no frame. -/
def FrameReader.conclude (reading : Reading) (otherwise : Receipt Arrival) :
    FrameReader × Receipt Arrival :=
  let reader := FrameReader.mk reading.framing reading.buffer
  match reading.result with
  | .ok (some f) => (reader, .item (.ok f))
  | .error e => (reader, .item (.error (.codec e)))
  | .ok none => (reader, otherwise)

/-- Reads what the source holds beyond the buffer. -/
def FrameReader.pollSource (r : FrameReader) (s : ByteSource) :
    FrameReader × ByteSource × Receipt Arrival :=
  let s' := { s with unread := [] }
  let buffer := r.buffer ++ s.unread
  let reading := match s.failure, s.ended with
    | none, true => r.framing.readLast buffer
    | _, _ => r.framing.read buffer
  let otherwise : Receipt Arrival := match s.failure, s.ended with
    | some message, _ => .item (.error (.codec (.stream message)))
    | none, true => .finished
    | none, false => .pending
  let (reader, receipt) := FrameReader.conclude reading otherwise
  (reader, s', receipt)

/-- The next frame, error or end of a byte stream. -/
def FrameReader.poll (r : FrameReader) (s : ByteSource) :
    FrameReader × ByteSource × Receipt Arrival :=
  let reading := r.framing.read r.buffer
  match reading.result with
  | .ok none => FrameReader.pollSource ⟨reading.framing, reading.buffer⟩ s
  | _ =>
    let (reader, receipt) := FrameReader.conclude reading .pending
    (reader, s, receipt)

end Multiplexer
