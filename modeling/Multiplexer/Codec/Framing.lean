import Multiplexer.Codec.Body

/-!
Frames on a byte stream: each body stands behind its length in three bytes. A length is taken off
the stream as soon as it is complete and within the limit, and a body as soon as it is complete,
whether or not it can be decoded.
-/

namespace Multiplexer

/-- The longest body that a length prefix can announce. -/
def longestBody : Nat := 0xFFFFFF

/-- The smallest limit on bodies that a connection accepts. -/
def smallestLimit : Nat := 64

/-- The bytes of a length prefix. -/
def prefixWidth : Nat := 3

/-- A reader and writer of frames on one byte stream: its limit on bodies, and the length of the
body whose prefix has been read. -/
structure Framing where
  limit : Nat
  announced : Option Nat
deriving DecidableEq

/-- Framing with a limit, which is moved into the range that the prefix allows. -/
def Framing.new (limit : Nat) : Framing :=
  ⟨min (max limit smallestLimit) longestBody, none⟩

def Framing.standard : Framing := .new longestBody

/-- One attempt to read a frame: the state and the bytes after it, and what was read. -/
structure Reading where
  framing : Framing
  buffer : Bytes
  result : Except CodecError (Option Frame)

/-- Reads the body that has been announced. -/
def Framing.readBody (framing : Framing) (length : Nat) (buffer : Bytes) : Reading :=
  if buffer.length < length then ⟨{ framing with announced := some length }, buffer, .ok none⟩
  else
    ⟨{ framing with announced := none }, buffer.drop length,
      (Frame.decode (buffer.take length)).map some⟩

/-- Reads one frame from the front of a buffer, if it is there. -/
def Framing.read (framing : Framing) (buffer : Bytes) : Reading :=
  match framing.announced with
  | some length => framing.readBody length buffer
  | none =>
    if buffer.length < prefixWidth then ⟨framing, buffer, .ok none⟩
    else
      let length := Bytes.toNat (buffer.take prefixWidth)
      if framing.limit < length then ⟨framing, buffer, .error .lengthAboveLimit⟩
      else framing.readBody length (buffer.drop prefixWidth)

/-- Reads one frame when the stream has ended: bytes that are left over are an error. -/
def Framing.readLast (framing : Framing) (buffer : Bytes) : Reading :=
  let reading := framing.read buffer
  match reading.result with
  | .ok none =>
    if reading.buffer.isEmpty then reading
    else { reading with result := .error .bytesRemaining }
  | _ => reading

/-- A frame behind its length, within the limit of the framing. -/
def Framing.write (framing : Framing) (f : Frame) : Except CodecError Bytes := do
  let body ← f.encode
  if framing.limit < body.length then .error (.oversizedFrame body.length framing.limit)
  else .ok (Bytes.ofNat prefixWidth body.length ++ body)

/-- Appends a frame to a buffer, or leaves the buffer as it is. -/
def Framing.append (framing : Framing) (buffer : Bytes) (f : Frame) :
    Bytes × Except CodecError Unit :=
  match framing.write f with
  | .ok bytes => (buffer ++ bytes, .ok ())
  | .error e => (buffer, .error e)

end Multiplexer
