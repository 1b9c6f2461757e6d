import Multiplexer.Channel
import Multiplexer.Failure.Panic

/-!
Applications: the code that answers requests, as a responder sees it. Whatever an application
owns is one value, its world. Its code runs when the responder calls it, and on its way to an
answer it may use the channels that it holds.
-/

namespace Multiplexer

/-- A run of application code: what it does with channels, by number, up to its answer. -/
inductive Dialogue (ρ : Type) where
  | answer (x : ρ)
  /-- Reads a channel once. The reply is `none` where nobody holds the channel any more. -/
  | read (channel : Nat) (next : Option (Receipt Item) → Dialogue ρ)
  /-- Asks the peer of a channel for more payloads. -/
  | request (channel : Nat) (n : UInt32) (next : Dialogue ρ)
  | drop (channel : Nat) (next : Dialogue ρ)
  /-- Takes a channel out of its response stream, whose end then no longer drops it. -/
  | keep (channel : Nat) (next : Dialogue ρ)
  /-- Looks at the stream of a channel and whether it has terminated. -/
  | inspect (channel : Nat) (next : Option (StreamId × Bool) → Dialogue ρ)

/-- The answer of code that is called until it has a result. -/
inductive Poll (α : Type) where
  | ready (x : α)
  | pending
  | panicked (p : Panic)

/-- Requests that are answered by at most one result. -/
inductive SingleRequest where
  | fireAndForget
  | requestResponse
  | metadataPush
deriving DecidableEq

/-- The code of an application with the world `ω`. Requests bear the number of their task. -/
structure Application (ω : Type) where
  /-- Takes on a request that is answered by at most one result. -/
  start : SingleRequest → Nat → Payload → ω → ω
  /-- Works on a request that has been taken on. Only a response is of use to the peer. -/
  poll : Nat → ω → Dialogue (Poll Item × ω)
  /-- The call that opens a response stream, and the panic that ends it early. -/
  openStream : Nat → Payload → ω → Dialogue (Option Panic × ω)
  /-- The call that opens the response stream of a channel, by the channel's number. -/
  openChannel : Nat → StreamId → Nat → ω → Dialogue (Option Panic × ω)
  /-- Asks a response stream for its next item, or for its end. -/
  pull : Nat → ω → Dialogue (Poll (Option Item) × ω)
  /-- Drops what is left of a request or of a response stream. -/
  drop : Nat → ω → Dialogue ω
  /-- Lets go of everything when the connection has closed. -/
  dispose : ω → Dialogue (Option Panic × ω)

end Multiplexer
