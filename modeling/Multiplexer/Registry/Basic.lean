import Multiplexer.Failure.Basic

/-!
The registry of a connection: which streams are active, in two maps by identifier. One holds the
operations that answer requests, the other the receiving ends of channels. Every entry bears the
token of its registration, so that an operation that ends late never removes the entry of a newer
one under the same identifier.
-/

namespace Multiplexer

/-- A stream that is active. -/
structure Entry (α : Type) where
  stream : StreamId
  token : Nat
  handle : α
deriving DecidableEq

/-- One map of a registry, oldest entry first. -/
abbrev Entries (α : Type) := List (Entry α)

variable {α β : Type}

def Entries.find? (es : Entries α) (stream : StreamId) : Option (Entry α) :=
  List.find? (fun e => e.stream = stream) es

def Entries.contains (es : Entries α) (stream : StreamId) : Bool :=
  List.any es (fun e => e.stream = stream)

/-- The entries without that of a stream. -/
def Entries.erase (es : Entries α) (stream : StreamId) : Entries α :=
  List.filter (fun e => e.stream ≠ stream) es

/-- The entry of a stream is the one that issued the token. -/
def Entries.holds (es : Entries α) (stream : StreamId) (token : Nat) : Bool :=
  match es.find? stream with
  | some e => e.token = token
  | none => false

/-- The active streams of a connection, with handles of type `α` on operations and of type `β` on
channels; the number of tokens issued, and the gauge of active streams. -/
structure Registry (α β : Type) where
  outbound : Entries α
  inbound : Entries β
  /-- Has no bound. A counter of 64 bits issues the same tokens until it has issued `2 ^ 64` of them and
  begins anew. -/
  issued : Nat
  active : Int
deriving DecidableEq

def Registry.empty : Registry α β := ⟨[], [], 0, 0⟩

/-- Registers an operation unless its stream has one. A refusal uses up a token as well. -/
def Registry.registerOutbound (r : Registry α β) (stream : StreamId) (handle : α) :
    Registry α β × Except ProtocolError Nat :=
  let token := r.issued
  let r := { r with issued := token + 1 }
  if r.outbound.contains stream then (r, .error (.duplicateStream stream))
  else
    ({ r with outbound := r.outbound ++ [⟨stream, token, handle⟩], active := r.active + 1 },
      .ok token)

/-- Registers the receiving end of a channel unless its stream has one. -/
def Registry.registerInbound (r : Registry α β) (stream : StreamId) (handle : β) :
    Registry α β × Except ProtocolError Nat :=
  let token := r.issued
  let r := { r with issued := token + 1 }
  if r.inbound.contains stream then (r, .error (.duplicateStream stream))
  else
    ({ r with inbound := r.inbound ++ [⟨stream, token, handle⟩], active := r.active + 1 },
      .ok token)

def Registry.outbound? (r : Registry α β) (stream : StreamId) : Option α :=
  (r.outbound.find? stream).map Entry.handle

def Registry.inbound? (r : Registry α β) (stream : StreamId) : Option β :=
  (r.inbound.find? stream).map Entry.handle

/-- Takes out the operation of a stream. -/
def Registry.removeOutbound (r : Registry α β) (stream : StreamId) : Registry α β × Option α :=
  match r.outbound? stream with
  | some handle =>
    ({ r with outbound := r.outbound.erase stream, active := r.active - 1 }, some handle)
  | none => (r, none)

/-- Takes out the channel of a stream. -/
def Registry.removeInbound (r : Registry α β) (stream : StreamId) : Registry α β × Option β :=
  match r.inbound? stream with
  | some handle =>
    ({ r with inbound := r.inbound.erase stream, active := r.active - 1 }, some handle)
  | none => (r, none)

/-- Takes out the operation of a stream if it is still the one that holds the token. -/
def Registry.releaseOutbound (r : Registry α β) (stream : StreamId) (token : Nat) :
    Registry α β × Bool :=
  if r.outbound.holds stream token then
    ({ r with outbound := r.outbound.erase stream, active := r.active - 1 }, true)
  else (r, false)

/-- Takes out the channel of a stream if it is still the one that holds the token. -/
def Registry.releaseInbound (r : Registry α β) (stream : StreamId) (token : Nat) :
    Registry α β × Bool :=
  if r.inbound.holds stream token then
    ({ r with inbound := r.inbound.erase stream, active := r.active - 1 }, true)
  else (r, false)

/-- The number of entries in both maps. -/
def Registry.size (r : Registry α β) : Nat := r.outbound.length + r.inbound.length

/-- The registry as its counts. -/
def Registry.text (r : Registry α β) : String :=
  s!"StreamRegistry \x7b outbound: {r.outbound.length}, inbound: {r.inbound.length}, .. \x7d"

end Multiplexer
