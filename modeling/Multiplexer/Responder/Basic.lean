import Multiplexer.Allowance
import Multiplexer.Application
import Multiplexer.Control
import Multiplexer.Metrics
import Multiplexer.PayloadReader
import Multiplexer.Registry.Drain

/-!
The state of a responder, which serves the requests of one connection: the streams that are
active, the tasks at work on them, the channels, and the history of what has been sent to the
peer, reported to the listener for failures, and exchanged with the application.
-/

namespace Multiplexer

/-- The part of a responder that hands a frame to the transport. -/
inductive Speaker where
  | dispatcher
  /-- The task with this number. -/
  | task (n : Nat)
  /-- The inbound half of the channel with this number. -/
  | channel (n : Nat)
deriving DecidableEq

/-- Something that happens while a connection is served. -/
inductive Event where
  /-- A frame is handed to the transport. -/
  | sent (speaker : Speaker) (f : Frame)
  /-- A failure is reported to the listener. -/
  | reported (e : Failure)
  /-- A request handler has panicked. -/
  | handlerPanicked (message : String)
  /-- The application is disposed of. -/
  | disposed
  /-- The application has panicked while it was being disposed of. -/
  | disposePanicked (message : String)
  /-- The response stream of a task has produced an item. A panic of the stream, or of the call that
  was to open it, counts as an item that is an error. -/
  | pulled (n : Nat) (x : Item)
  /-- The response stream of a task has come to its end. -/
  | ended (n : Nat)
  /-- A channel has yielded an item to the application. -/
  | yielded (n : Nat) (x : Item)
deriving DecidableEq

/-- The line that an event leaves in the log. Failures leave one where nobody listens. -/
def Event.logLine? (listened : Bool) : Event → Option String
  | .reported e => if listened then none else some e.warning
  | .handlerPanicked message => some s!"ERROR request handler panicked: panic={message}"
  | .disposePanicked message => some s!"ERROR request handler dispose panicked: panic={message}"
  | .sent .. | .disposed | .pulled .. | .ended _ | .yielded .. => none

/-- Where the driver of a response stream stands between two turns. -/
inductive StreamPhase where
  /-- The call that was to open the stream has panicked. -/
  | broken (e : HandlerError)
  /-- The next item has not been obtained yet. -/
  | pulling
  /-- An item has been obtained, but no credit asked for yet. -/
  | offering (p : Payload)
  /-- An item waits for credit. -/
  | holding (p : Payload) (waiter : Nat)
deriving DecidableEq

/-- The work of a task. Registered operations hold the token of their registration. -/
inductive Work where
  /-- A request with at most one result, whose payload is there until the task first runs. -/
  | single (kind : SingleRequest) (token : Option Nat) (request : Option Payload)
  /-- A response stream, with the number of its channel if it has one. -/
  | stream (token : Nat) (channel : Option Nat) (phase : StreamPhase)
deriving DecidableEq

/-- A task that has not finished. Its control has the same number. -/
structure Task where
  number : Nat
  stream : StreamId
  work : Work
deriving DecidableEq

/-- The choices that a responder is started with. -/
structure Settings where
  reader : PayloadReader
  /-- The demand that a channel grants on its first read. -/
  initialDemand : UInt32

/-- The settings with a demand on the wire at most `largestDemand`. -/
def Settings.new (reader : PayloadReader) (initialDemand : UInt32) : Settings :=
  ⟨reader, .ofNat (min initialDemand.toNat largestDemand)⟩

def Settings.standard : Settings := .new .standard (.ofNat largestDemand)

/-- The state of a responder. -/
structure Responder where
  /-- Active streams: numbers of controls and of channels. -/
  registry : Registry Nat Nat
  controls : Controls
  channels : List Channel
  tasks : List Task
  /-- All work is to stop. -/
  shutdown : Bool
  /-- The application has been disposed of. -/
  disposed : Bool
  /-- The receive loop is running. -/
  receiving : Bool
  /-- What may still be taken from channels in the present turn. -/
  allowance : Allowance
  metrics : Metrics
  /-- What has happened so far, in order. -/
  history : List Event
deriving DecidableEq

/-- A responder whose connection has just been opened. -/
def Responder.start : Responder :=
  { registry := .empty, controls := [], channels := [], tasks := [], shutdown := false,
    disposed := false, receiving := true, allowance := .full,
    metrics := Metrics.zero.connectionOpened, history := [] }

def Responder.record (r : Responder) (e : Event) : Responder :=
  { r with history := r.history ++ [e] }

/-- Hands a frame to the transport. -/
def Responder.send (r : Responder) (speaker : Speaker) (f : Frame) : Responder :=
  r.record (.sent speaker f)

/-- Begins a turn, with a new allowance. -/
def Responder.beginTurn (r : Responder) : Responder := { r with allowance := .full }

/-- Takes something out of a queue. -/
def Responder.spend (r : Responder) : Responder := { r with allowance := r.allowance.spend }

/-- Puts off what the present turn has no allowance for. -/
def Responder.putOff (r : Responder) : Responder := { r with allowance := r.allowance.exceed }

/-- Tells the listener of a failure. -/
def Responder.report (r : Responder) (e : Failure) : Responder :=
  { r with metrics := r.metrics.failed }.record (.reported e)

/-- Refuses what the peer has done, and reports it. -/
def Responder.violation (r : Responder) (e : ProtocolError) : Responder :=
  (r.send .dispatcher (.error e.stream .invalid e.message)).report (.protocol e)

/-- Tells the peer that the operation of a task has failed, and reports it. -/
def Responder.failTask (r : Responder) (t : Task) (e : HandlerError) : Responder :=
  (r.send (.task t.number) (.error t.stream e.code e.message)).report (.handler t.stream e)

/-- The task with this number is to stop. -/
def Responder.isCancelled (r : Responder) (n : Nat) : Bool :=
  r.shutdown || (r.controls[n]?.map Control.isCancelled).getD false

def Responder.task? (r : Responder) (n : Nat) : Option Task :=
  r.tasks.find? (fun t => t.number = n)

def Responder.removeTask (r : Responder) (n : Nat) : Responder :=
  { r with tasks := r.tasks.filter (fun t => t.number ≠ n) }

/-- Records how far a task has come. -/
def Responder.setWork (r : Responder) (n : Nat) (work : Work) : Responder :=
  { r with tasks := r.tasks.map (fun t => if t.number = n then { t with work } else t) }

/-- Starts a task whose control is the newest. -/
def Responder.spawn (r : Responder) (stream : StreamId) (control : Control) (work : Work) :
    Responder :=
  { r with
    controls := r.controls ++ [control]
    tasks := r.tasks ++ [⟨r.controls.length, stream, work⟩] }

end Multiplexer
