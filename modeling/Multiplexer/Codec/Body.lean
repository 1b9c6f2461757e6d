import Multiplexer.Codec.Error
import Multiplexer.Frame.Basic

/-!
The body of a frame as bytes. It opens with the stream identifier in four bytes and a word of
two bytes, the code of the kind in its upper six bits and the flags in its lower ten; the layout
of the kind says what follows.
-/

namespace Multiplexer

/-- The length of the longest metadata that its length field can announce. -/
def metadataLimit : Nat := 0xFFFFFF

/-- Splits off a field of `needed` bytes. -/
def Bytes.field (bs : Bytes) (kind : Option FrameKind) (needed : Nat) :
    Except CodecError (Bytes × Bytes) :=
  if bs.length < needed then .error (.truncated kind bs.length needed)
  else .ok (bs.splitAt needed)

/-- Reads the payload that the rest of a body holds into a frame. -/
def Frame.readPayload (f : Frame) (rest : Bytes) : Except CodecError Frame :=
  if f.announcesMetadata then do
    let (length, rest) ← rest.field (some f.kind) 3
    if rest.length < length.toNat then
      .error (.metadataTooLong length.toNat rest.length)
    else
      let (metadata, data) := rest.splitAt length.toNat
      .ok ((f.withMetadata (some metadata)).withData data)
  else .ok (f.withData rest)

/-- Reads what follows the header into a frame that has its kind and flags. -/
def Frame.readFields (f : Frame) (rest : Bytes) : Except CodecError Frame :=
  match f.kind.layout with
  | .demandAndPayload => do
    let (demand, rest) ← rest.field (some f.kind) 4
    (f.withDemand (.ofNat demand.toNat)).readPayload rest
  | .payload => f.readPayload rest
  | .demand => do
    let (demand, _) ← rest.field (some f.kind) 4
    .ok (f.withDemand (.ofNat demand.toNat))
  | .error => do
    let (code, rest) ← rest.field (some f.kind) 4
    .ok ((f.withCode (.ofNat code.toNat)).withData rest)
  | .position => do
    let (position, rest) ← rest.field (some f.kind) 8
    .ok ((f.withPosition (.ofNat position.toNat)).withData rest)
  | .metadata => .ok (f.withMetadata (some rest))
  | .empty => .ok f
  | .data => .ok (f.withData rest)

/-- The frame whose header is in the first six bytes, without its fields. -/
def Frame.ofHeader (header : Bytes) : Frame :=
  let word := Bytes.toNat (header.drop 4)
  let flags := Flags.ofNat word
  let kind := FrameKind.ofCode (.ofNat (word / 1024)) flags
  (Frame.new (.ofNat (Bytes.toNat (header.take 4))) kind).withFlags flags

/-- The frame that a body holds. -/
def Frame.decode (body : Bytes) : Except CodecError Frame := do
  let (header, rest) ← body.field none 6
  (Frame.ofHeader header).readFields rest

/-- The word of the header that holds the kind and the flags. -/
def Frame.headerWord (f : Frame) : Nat :=
  f.kind.code.toNat % 64 * 1024 + f.flags.toNat

def Frame.header (f : Frame) : Bytes :=
  Bytes.ofNat 4 f.stream.value ++ Bytes.ofNat 2 f.headerWord

/-- The payload of a frame as bytes. -/
def Frame.writePayload (f : Frame) : Except CodecError Bytes :=
  match f.metadata with
  | none => .ok f.data
  | some metadata =>
    if metadataLimit < metadata.length then
      .error (.metadataTooLong metadata.length metadataLimit)
    else .ok (Bytes.ofNat 3 metadata.length ++ (metadata ++ f.data))

/-- What follows the header of a frame. -/
def Frame.writeFields (f : Frame) : Except CodecError Bytes :=
  match f.kind.layout with
  | .demandAndPayload => do
    let payload ← f.writePayload
    .ok (Bytes.ofNat 4 f.demand.toNat ++ payload)
  | .payload => f.writePayload
  | .demand => .ok (Bytes.ofNat 4 f.demand.toNat)
  | .error => .ok (Bytes.ofNat 4 f.code.toNat ++ f.data)
  | .position => .ok (Bytes.ofNat 8 f.position.toNat ++ f.data)
  | .metadata => .ok (f.metadata.getD [])
  | .empty => .ok []
  | .data => .ok f.data

/-- The body of a frame. -/
def Frame.encode (f : Frame) : Except CodecError Bytes := do
  let fields ← f.writeFields
  .ok (f.header ++ fields)

end Multiplexer
