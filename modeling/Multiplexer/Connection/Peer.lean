import Multiplexer.Connection.FrameReader

/-!
The other side of a framed connection, as far as it turns frames into bytes and bytes into frames.
-/

namespace Multiplexer

/-- The bytes of a list of frames, or the error of the first that cannot be encoded. -/
def Framing.writeList (framing : Framing) (fs : List Frame) : Except CodecError Bytes :=
  (fs.mapM framing.write).map List.flatten

/-- Reads frames until none is complete or one cannot be read, at most `fuel` of them. -/
def FrameReader.drain : Nat → FrameReader → FrameReader × List Frame
  | 0, r => (r, [])
  | fuel + 1, r =>
    let reading := r.framing.read r.buffer
    match reading.result with
    | .ok (some f) =>
      let (r, fs) := FrameReader.drain fuel ⟨reading.framing, reading.buffer⟩
      (r, f :: fs)
    | _ => (⟨reading.framing, reading.buffer⟩, [])

/-- Reads every complete frame. Each takes at least the bytes of its prefix or has had it read. -/
def FrameReader.readAll (r : FrameReader) (bs : Bytes) : FrameReader × List Frame :=
  FrameReader.drain (r.buffer.length + bs.length + 1) { r with buffer := r.buffer ++ bs }

end Multiplexer
