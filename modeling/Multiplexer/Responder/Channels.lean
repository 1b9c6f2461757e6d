import Multiplexer.Responder.Basic

/-!
Channels in use: how the application and the dispatcher act on the channels of a responder. When
a channel terminates, its own entry leaves the registry.
-/

namespace Multiplexer

variable {ρ : Type}

/-- Carries out a change to channel `n`: its frames are sent, and a channel that has just
terminated gives up its entry. -/
def Responder.applyStep (r : Responder) (n : Nat) (before : Channel) (step : ChannelStep) :
    Responder :=
  let r := step.frames.foldl (fun r f => r.send (.channel n) f)
    { r with channels := r.channels.set n step.channel }
  if step.channel.terminated && !before.terminated then
    { r with registry := (r.registry.releaseInbound before.stream before.token).1 }
  else r

/-- Channel `n`, if somebody holds it. -/
def Responder.held? (r : Responder) (n : Nat) : Option Channel :=
  r.channels[n]?.filter (fun c => c.holder ≠ .nobody)

/-- Takes what a channel yields, and its signal with it if there is one. -/
def Responder.pollChannel (r : Responder) (n : Nat) (c : Channel) : Responder × Receipt Item :=
  let (step, receipt) := c.poll
  let r := if c.isOpen && !c.queue.isEmpty then r.spend else r
  let r := r.applyStep n c step
  (match receipt with
    | .item x => r.record (.yielded n x)
    | .pending | .finished => r, receipt)

/-- Reads a channel once. No signal is taken when the allowance of the turn is spent, but a first
read asks for the initial demand all the same. -/
def Responder.readChannel (r : Responder) (n : Nat) : Responder × Option (Receipt Item) :=
  match r.held? n with
  | some c =>
    if c.isOpen && r.allowance.isSpent then
      (r.putOff.applyStep n c c.requestFirst, some .pending)
    else
      let (r, receipt) := r.pollChannel n c
      (r, some receipt)
  | none => (r, none)

/-- Asks the peer of a channel for more payloads. -/
def Responder.requestOnChannel (r : Responder) (n : Nat) (demand : UInt32) : Responder :=
  match r.held? n with
  | some c => r.applyStep n c (c.request demand)
  | none => r

def Responder.dropChannel (r : Responder) (n : Nat) : Responder :=
  match r.held? n with
  | some c => r.applyStep n c c.drop
  | none => r

/-- Drops a channel that its response stream still holds. -/
def Responder.dropOwnChannel (r : Responder) (n : Option Nat) : Responder :=
  match n with
  | some n =>
    if (r.channels[n]?.map Channel.holder) = some .stream then r.dropChannel n else r
  | none => r

/-- Takes a channel out of its response stream. -/
def Responder.keepChannel (r : Responder) (n : Nat) : Responder :=
  match r.held? n with
  | some c => { r with channels := r.channels.set n { c with holder := .application } }
  | none => r

/-- The stream of a channel, and whether it has terminated. -/
def Responder.inspectChannel (r : Responder) (n : Nat) : Option (StreamId × Bool) :=
  (r.held? n).map (fun c => (c.stream, c.terminated))

/-- Queues a signal for a channel. -/
def Responder.signal (r : Responder) (n : Nat) (s : Signal) : Responder :=
  match r.channels[n]? with
  | some c => { r with channels := r.channels.set n (c.push s) }
  | none => r

/-- Ends channel `n` of a list without a word to the peer. -/
def cancelChannelAt (n : Nat) (channels : List Channel) : List Channel :=
  match channels[n]? with
  | some c => channels.set n c.cancel
  | none => channels

def Responder.cancelChannel (r : Responder) (n : Nat) : Responder :=
  { r with channels := cancelChannelAt n r.channels }

/-- Runs application code up to its answer. -/
def Dialogue.run : Dialogue ρ → Responder → Responder × ρ
  | .answer x, r => (r, x)
  | .read n next, r =>
    let (r, reply) := r.readChannel n
    (next reply).run r
  | .request n demand next, r => next.run (r.requestOnChannel n demand)
  | .drop n next, r => next.run (r.dropChannel n)
  | .keep n next, r => next.run (r.keepChannel n)
  | .inspect n next, r => (next (r.inspectChannel n)).run r

end Multiplexer
