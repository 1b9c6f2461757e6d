import Multiplexer.Demand
import Multiplexer.Failure.Basic
import Multiplexer.Frame.Basic
import Multiplexer.Outbound

/-!
The inbound half of a channel. The peer's payloads and the end of its half are queued as signals;
the application reads them. The channel speaks to the peer on its own: it asks for payloads on the
first read, answers the peer's error, and cancels when it is dropped before its end.
-/

namespace Multiplexer

/-- What the dispatcher tells a channel. -/
inductive Signal where
  | next (p : Payload)
  | complete
  | error (e : HandlerError)
  | cancel
deriving DecidableEq

/-- Who holds the reading end of a channel. -/
inductive Holder where
  /-- The response stream of its own operation, which drops it at its end. -/
  | stream
  /-- The application, apart from any stream. -/
  | application
  | nobody
deriving DecidableEq

/-- The inbound half of a channel: the signals that wait, and what has happened to it. -/
structure Channel where
  stream : StreamId
  token : Nat
  initialDemand : UInt32
  queue : List Signal
  cancelled : Bool
  requested : Bool
  terminated : Bool
  holder : Holder
deriving DecidableEq

/-- An item of a channel: a payload or the peer's error. -/
abbrev Item := Except HandlerError Payload

instance : DecidableEq Item
  | .ok p, .ok q => decidable_of_iff (p = q) (by simp)
  | .error d, .error e => decidable_of_iff (d = e) (by simp)
  | .ok _, .error _ | .error _, .ok _ => .isFalse (by simp)

/-- A change to a channel with the frames that it sends. -/
structure ChannelStep where
  channel : Channel
  frames : List Frame

/-- A channel that has just been opened, before its first signal. -/
def Channel.new (stream : StreamId) (token : Nat) (initialDemand : UInt32) : Channel :=
  ⟨stream, token, initialDemand, [], false, false, false, .stream⟩

/-- Queues a signal, which is lost once the channel has terminated. -/
def Channel.push (c : Channel) (s : Signal) : Channel :=
  if c.terminated then c else { c with queue := c.queue ++ [s] }

/-- Ends the channel without a word to the peer. -/
def Channel.cancel (c : Channel) : Channel :=
  { c with cancelled := true }.push .cancel

/-- Asks the peer for `n` more payloads. -/
def Channel.request (c : Channel) (n : UInt32) : ChannelStep :=
  if n = 0 ∨ c.terminated then ⟨c, []⟩
  else
    ⟨{ c with requested := true },
      [.requestN c.stream (if largestDemand ≤ n.toNat then .ofNat largestDemand else n)]⟩

/-- Asks for the initial demand unless payloads have been asked for. -/
def Channel.requestFirst (c : Channel) : ChannelStep :=
  if c.requested ∨ c.initialDemand = 0 then ⟨c, []⟩ else c.request c.initialDemand

def Channel.terminate (c : Channel) : Channel := { c with terminated := true }

/-- Takes the first signal, if there is one. -/
def Channel.takeSignal (c : Channel) : ChannelStep × Receipt Item :=
  match c.queue with
  | [] => (⟨c, []⟩, .pending)
  | .next p :: rest => (⟨{ c with queue := rest }, []⟩, .item (.ok p))
  | .error e :: rest =>
    (⟨{ c with queue := rest }.terminate, [.error c.stream .applicationError e.message]⟩,
      .item (.error e))
  | .complete :: rest | .cancel :: rest => (⟨{ c with queue := rest }.terminate, []⟩, .finished)

/-- What the channel yields still depends on its signals. -/
def Channel.isOpen (c : Channel) : Bool := !c.terminated && !c.cancelled

/-- Reads the channel once. -/
def Channel.poll (c : Channel) : ChannelStep × Receipt Item :=
  if c.terminated then (⟨c, []⟩, .finished)
  else if c.cancelled then (⟨c.terminate, []⟩, .finished)
  else
    let first := c.requestFirst
    let (step, receipt) := first.channel.takeSignal
    (⟨step.channel, first.frames ++ step.frames⟩, receipt)

/-- Drops the reading end with what is queued, which cancels a channel that has not ended. -/
def Channel.drop (c : Channel) : ChannelStep :=
  ⟨{ c.terminate with queue := [], holder := .nobody },
    if c.terminated ∨ c.cancelled then [] else [.cancel c.stream]⟩

/-- Reading the channel would tell something new. -/
def Channel.isReadable (c : Channel) : Bool :=
  !c.isOpen || !c.queue.isEmpty

def Channel.text (c : Channel) : String :=
  s!"InboundChannel \x7b stream_id: {c.stream.text}, terminated: {c.terminated}, .. \x7d"

end Multiplexer
