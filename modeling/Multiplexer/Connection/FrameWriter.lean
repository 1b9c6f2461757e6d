import Multiplexer.Codec.Framing
import Multiplexer.Connection.ByteStream
import Multiplexer.Failure.Basic

/-!
Writing frames to a byte stream in batches: every frame that is queued goes into one buffer, which
is written out when it is full and at the end of the batch. A frame that finds the buffer full
waits in hand, and only until the buffer is no longer full. A frame that cannot be encoded loses
what the buffer holds.
-/

namespace Multiplexer

/-- The size from which on the buffer is written out before another frame goes into it. -/
def fullBuffer : Nat := 8192

/-- The writing half of a connection: its framing, the bytes not yet written, and the frame in hand
that waits for room. -/
structure FrameWriter where
  framing : Framing
  buffer : Bytes
  held : Option Frame
deriving DecidableEq

def FrameWriter.new (limit : Nat) : FrameWriter := ⟨.new limit, [], none⟩

/-- A batch has been begun and not finished. -/
def FrameWriter.isBusy (w : FrameWriter) : Bool := w.held.isSome || !w.buffer.isEmpty

/-- A batch that has been written as far as possible: the writer, the peer, the frames that have
not been taken in hand, and `none` if the batch is blocked. -/
structure Batch where
  writer : FrameWriter
  sink : ByteSink
  rest : List Frame
  result : Option (Except TransportError Unit)

/-- Writes out the buffer. -/
def FrameWriter.flush (w : FrameWriter) (s : ByteSink) (rest : List Frame) : Batch :=
  let (s, buffer, progress) := s.write w.buffer
  ⟨{ w with buffer }, s, rest, match progress with
    | .done => some (.ok ())
    | .blocked => none
    | .failed message => some (.error (.codec (.stream message)))⟩

/-- Puts frames into the buffer one by one, and writes it out at the end. -/
def FrameWriter.writeAll (w : FrameWriter) (s : ByteSink) : List Frame → Batch
  | [] => w.flush s []
  | f :: fs =>
    let room := if fullBuffer ≤ w.buffer.length then w.flush s fs else ⟨w, s, fs, some (.ok ())⟩
    match room.result with
    | some (.ok ()) =>
      match room.writer.framing.append room.writer.buffer f with
      | (buffer, .ok ()) => writeAll { room.writer with buffer } room.sink fs
      | (_, .error e) => { room with result := some (.error (.codec e)) }
    | some (.error _) => room
    | none => { room with writer := { room.writer with held := some f } }

/-- Goes on with a batch that was blocked. With a frame in hand the batch takes in all frames that
are queued by now; otherwise what is left of it is to be written out. -/
def FrameWriter.resume (w : FrameWriter) (s : ByteSink) (queued : List Frame) : Batch :=
  match w.held with
  | some f => { w with held := none }.writeAll s (f :: queued)
  | none => w.flush s queued

end Multiplexer
