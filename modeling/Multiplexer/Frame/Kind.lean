import Multiplexer.Frame.Flags

/-!
Kinds of frames, their codes on the wire, and what a frame of each kind carries there. One code
stands for four kinds, which the next and complete flags tell apart.
-/

namespace Multiplexer

/-- The kind of a frame. -/
inductive FrameKind where
  | reserved
  | setup
  | lease
  | keepalive
  | requestResponse
  | fireAndForget
  | requestStream
  | requestChannel
  | requestN
  | cancel
  | payload
  | next
  | complete
  | nextComplete
  | error
  | metadataPush
  | resume
  | resumeOk
  | ext
  | unknown (code : UInt8)
deriving DecidableEq

/-- What follows the header in the body of a frame. -/
inductive BodyLayout where
  /-- The initial demand, then a payload. -/
  | demandAndPayload
  /-- A payload: length and bytes of the metadata if the metadata flag is set, then the data. -/
  | payload
  /-- A demand and nothing else. -/
  | demand
  /-- An error code, then the message. -/
  | error
  /-- A position in the connection's history, then data. -/
  | position
  /-- Metadata to the end of the body. -/
  | metadata
  /-- Nothing. -/
  | empty
  /-- Data to the end of the body. -/
  | data
deriving DecidableEq

def FrameKind.layout : FrameKind → BodyLayout
  | .requestStream | .requestChannel => .demandAndPayload
  | .requestResponse | .fireAndForget | .payload | .next | .complete | .nextComplete => .payload
  | .requestN => .demand
  | .error => .error
  | .keepalive => .position
  | .metadataPush => .metadata
  | .cancel => .empty
  | .reserved | .setup | .lease | .resume | .resumeOk | .ext | .unknown _ => .data

/-- The code shared by payload frames and their next and complete variants. -/
def FrameKind.payloadCode : UInt8 := 0x0A

def FrameKind.code : FrameKind → UInt8
  | .reserved => 0x00
  | .setup => 0x01
  | .lease => 0x02
  | .keepalive => 0x03
  | .requestResponse => 0x04
  | .fireAndForget => 0x05
  | .requestStream => 0x06
  | .requestChannel => 0x07
  | .requestN => 0x08
  | .cancel => 0x09
  | .payload | .next | .complete | .nextComplete => FrameKind.payloadCode
  | .error => 0x0B
  | .metadataPush => 0x0C
  | .resume => 0x0D
  | .resumeOk => 0x0E
  | .ext => 0x3F
  | .unknown code => code

/-- The variant of a payload frame that its flags select. -/
def FrameKind.payloadVariant (flags : Flags) : FrameKind :=
  match flags.contains .next, flags.contains .complete with
  | true, true => .nextComplete
  | true, false => .next
  | false, true => .complete
  | false, false => .payload

/-- The kind that a code and flags give. -/
def FrameKind.ofCode (code : UInt8) (flags : Flags) : FrameKind :=
  match code.toNat with
  | 0x00 => .reserved
  | 0x01 => .setup
  | 0x02 => .lease
  | 0x03 => .keepalive
  | 0x04 => .requestResponse
  | 0x05 => .fireAndForget
  | 0x06 => .requestStream
  | 0x07 => .requestChannel
  | 0x08 => .requestN
  | 0x09 => .cancel
  | 0x0A => .payloadVariant flags
  | 0x0B => .error
  | 0x0C => .metadataPush
  | 0x0D => .resume
  | 0x0E => .resumeOk
  | 0x3F => .ext
  | _ => .unknown code

/-- The flags that a new frame of this kind has. -/
def FrameKind.ownFlags : FrameKind → Flags
  | .next => .next
  | .complete => .complete
  | .nextComplete => Flags.insert .next .complete
  | _ => .none

/-- Frames of this kind bring a payload to the application. -/
def FrameKind.carriesPayload : FrameKind → Bool
  | .requestResponse | .fireAndForget | .requestStream | .requestChannel | .payload | .next
  | .nextComplete | .metadataPush => true
  | _ => false

/-- Frames of this kind grant an initial demand. -/
def FrameKind.grantsDemand (kind : FrameKind) : Bool :=
  kind.layout == .demandAndPayload

def FrameKind.name : FrameKind → String
  | .reserved => "Reserved"
  | .setup => "Setup"
  | .lease => "Lease"
  | .keepalive => "Keepalive"
  | .requestResponse => "RequestResponse"
  | .fireAndForget => "FireAndForget"
  | .requestStream => "RequestStream"
  | .requestChannel => "RequestChannel"
  | .requestN => "RequestN"
  | .cancel => "Cancel"
  | .payload => "Payload"
  | .next => "Next"
  | .complete => "Complete"
  | .nextComplete => "NextComplete"
  | .error => "Error"
  | .metadataPush => "MetadataPush"
  | .resume => "Resume"
  | .resumeOk => "ResumeOk"
  | .ext => "Ext"
  | .unknown code => s!"Unknown({code.toNat})"

/-- The kinds that have a name of their own. -/
def FrameKind.named : List FrameKind :=
  [.reserved, .setup, .lease, .keepalive, .requestResponse, .fireAndForget, .requestStream,
    .requestChannel, .requestN, .cancel, .payload, .next, .complete, .nextComplete, .error,
    .metadataPush, .resume, .resumeOk, .ext]

/-- The kind that a name stands for, if it has a name of its own. -/
def FrameKind.ofName? (name : String) : Option FrameKind :=
  FrameKind.named.find? (fun kind => kind.name = name)

instance : Inhabited FrameKind := ⟨.reserved⟩

end Multiplexer
