import Multiplexer.Text

/-!
Payloads: the data and optional metadata that an application exchanges with its peer. Absent
metadata and empty metadata differ.
-/

namespace Multiplexer

/-- Data with optional metadata. -/
structure Payload where
  data : Bytes
  metadata : Option Bytes
deriving DecidableEq

def Payload.ofData (data : Bytes) : Payload := ⟨data, none⟩

def Payload.ofText (text : String) : Payload := .ofData (.ofText text)

def Payload.empty : Payload := .ofData []

/-- The data read as text. -/
def Payload.text (p : Payload) : String := p.data.toText

instance : Inhabited Payload := ⟨Payload.empty⟩

end Multiplexer
