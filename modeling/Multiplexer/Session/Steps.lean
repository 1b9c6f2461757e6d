import Multiplexer.Connection.Peer
import Multiplexer.Session.Basic

/-!
What can be done to a session from outside: the peer and the network act on its connection, and
its owner acts on the responder and on what the application has put aside.
-/

namespace Multiplexer

/-- The tasks that run after one step before a session is left as it is. -/
def settleLimit : Nat := 100000000

/-- Lets the tasks of a session run until none can go on, from the beginning of a round. -/
def Session.quiesce (s : Session) : Session := { s.queueReady with runs := 0 }.settle settleLimit

/-- Changes the connection if it is in memory. -/
def Session.onInMemory (s : Session) (change : InMemoryConnection → InMemoryConnection) : Session :=
  match s.link with
  | .inMemory c => { s with link := .inMemory (change c) }
  | .framed _ => s

/-- Changes the connection if it is over a byte stream. -/
def Session.onFramed (s : Session) (change : FramedConnection → FramedConnection) : Session :=
  match s.link with
  | .framed c => { s with link := .framed (change c) }
  | .inMemory _ => s

/-- Bytes arrive. -/
def FramedConnection.feed (bs : Bytes) (c : FramedConnection) : FramedConnection :=
  { c.stir with source := c.source.feed bs }

/-- Nothing more will arrive. -/
def FramedConnection.endInput (c : FramedConnection) : FramedConnection :=
  { c.stir with source := { c.source with ended := true } }

/-- Reads fail once the bytes that have arrived are used up. -/
def FramedConnection.failReads (message : String) (c : FramedConnection) : FramedConnection :=
  { c.stir with source := { c.source with failure := some message } }

/-- Every write fails. -/
def FramedConnection.failWrites (message : String) (c : FramedConnection) : FramedConnection :=
  { c.stir with sink := { c.sink with failure := some message } }

/-- The peer takes so many more bytes. -/
def FramedConnection.setCapacity (n : Option Nat) (c : FramedConnection) : FramedConnection :=
  { c.stir with sink := { c.sink with capacity := n } }

/-- Frames arrive from the peer together, or none of them if the peer cannot encode one. -/
def Session.arrive (s : Session) (fs : List Frame) : Except CodecError Session :=
  match s.link with
  | .inMemory c => .ok { s with link := .inMemory { c with arrivals := c.arrivals ++ fs.map .ok } }
  | .framed c =>
    (Framing.standard.writeList fs).map fun bs => { s with link := .framed (c.feed bs) }

/-- The connection closes. -/
def Session.disconnect (s : Session) : Session := { s with link := s.link.dispose }

def Session.openGate (s : Session) (gate : String) : Session :=
  s.act (.world (ScriptWorld.openGate gate))

/-- Registers a control of the application's own. -/
def Session.register (s : Session) (stream : StreamId) (control : Control) :
    Session × Except ProtocolError Nat :=
  (s.act (.register stream control), (s.responder.register stream control).2)

/-- The channel that is registered under a stream. -/
def Session.channelOf (s : Session) (stream : StreamId) : Option Nat :=
  s.responder.registry.inbound? stream

/-- Delivers a payload to a channel, and says whether the channel still takes any. -/
def Session.deliver (s : Session) (channel : Nat) (p : Payload) : Session × Bool :=
  (s.act (.signal channel (.next p)),
    (s.responder.channels[channel]?.map fun c => !c.terminated).getD false)

def Session.isChannelCancelled (s : Session) (channel : Nat) : Bool :=
  (s.responder.channels[channel]?.map Channel.cancelled).getD false

/-- Reads the channel that the application has put aside. -/
def Session.readStash (s : Session) : Session × Option (Receipt Item) :=
  match s.world.stash with
  | some c => (s.act (.read c), (s.responder.beginTurn.readChannel c).2)
  | none => (s, none)

def Session.requestOnStash (s : Session) (n : UInt32) : Session :=
  match s.world.stash with
  | some c => s.act (.request c n)
  | none => s

def Session.dropStash (s : Session) : Session :=
  match s.world.stash with
  | some c => (s.act (.drop c)).act (.world fun w => { w with stash := none })
  | none => s

/-- The channel that the application has put aside. -/
def Session.stash? (s : Session) : Option Channel :=
  s.world.stash.bind s.responder.held?

/-- What a session has let be seen since it was last looked at. -/
structure Sighting where
  delivered : List Frame
  written : Bytes
  failures : List Failure
  events : Record
  alarms : List Event

/-- Takes what there is to be seen. -/
def Session.observe (s : Session) : Session × Sighting :=
  let (link, delivered, written) := match s.link with
    | .inMemory c => (Link.inMemory { c with delivered := [] }, c.delivered, [])
    | .framed c => (Link.framed { c with sink := { c.sink with taken := [] } }, [], c.sink.taken)
  ({ s with link, failures := [], alarms := [], world := { s.world with record := [] } },
    ⟨delivered, written, s.failures, s.world.record, s.alarms⟩)

end Multiplexer
