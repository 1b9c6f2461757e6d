import Multiplexer.Responder.Dispatch
import Multiplexer.Responder.Teardown
import Multiplexer.Responder.Turn

/-!
Runs of a responder: everything that can happen to it, one action at a time, in any order.
-/

namespace Multiplexer

variable {ω : Type}

/-- Something that happens to a responder with an application of world `ω`. -/
inductive Action (ω : Type) where
  /-- The transport offers the next item of the inbound sequence. -/
  | receive (x : Receipt (Except TransportError Frame))
  /-- A task runs for at most `budget` items. -/
  | turn (n budget : Nat)
  /-- The transport has stopped taking frames. -/
  | transportStopped (result : Except TransportError Unit)
  /-- The connection has closed, or the owner of the responder ends its service. -/
  | cleanup
  /-- The application reads a channel that it holds. -/
  | read (channel : Nat)
  | request (channel : Nat) (n : UInt32)
  | drop (channel : Nat)
  /-- A signal reaches a channel apart from any frame. -/
  | signal (channel : Nat) (s : Signal)
  | cancelChannel (channel : Nat)
  /-- The application registers a control of its own. -/
  | register (stream : StreamId) (control : Control)
  /-- Something changes in the world of the application. -/
  | world (change : ω → ω)

/-- Takes the next item of the inbound sequence. A panic ends the receive loop. -/
def Responder.receive (r : Responder) (w : ω) (settings : Settings) (app : Application ω)
    (x : Receipt (Except TransportError Frame)) : Responder × ω :=
  if !r.receiving then (r, w)
  else if r.shutdown then ({ r with receiving := false }, w)
  else match x with
    | .pending => (r, w)
    | .finished => ({ r with receiving := false }, w)
    | .item (.error e) => ({ r.report (.transport e) with receiving := false }, w)
    | .item (.ok f) =>
      let d := r.dispatch w settings app f
      match d.panic with
      | none => (d.responder, d.world)
      | some _ => ({ d.responder with receiving := false }, d.world)

/-- Registers a control of the application's own. -/
def Responder.register (r : Responder) (stream : StreamId) (control : Control) :
    Responder × Except ProtocolError Nat :=
  let (registry, result) := r.registry.registerOutbound stream r.controls.length
  ({ r with registry, controls := r.controls ++ [control] }, result)

/-- Does what an action says, as a turn of its own. -/
def Responder.step (settings : Settings) (app : Application ω) (a : Action ω)
    (s : Responder × ω) : Responder × ω :=
  let (r, w) := (s.1.beginTurn, s.2)
  match a with
  | .receive x => r.receive w settings app x
  | .turn n budget => r.turn w app n budget
  | .transportStopped result => (r.transportStopped result, w)
  | .cleanup => r.cleanup w app
  | .read n => ((r.readChannel n).1, w)
  | .request n demand => (r.requestOnChannel n demand, w)
  | .drop n => (r.dropChannel n, w)
  | .signal n signal => (r.signal n signal, w)
  | .cancelChannel n => (r.cancelChannel n, w)
  | .register stream control => ((r.register stream control).1, w)
  | .world change => (r, change w)

/-- The state after a list of actions. -/
def Responder.run (settings : Settings) (app : Application ω) (as : List (Action ω))
    (s : Responder × ω) : Responder × ω :=
  as.foldl (fun s a => Responder.step settings app a s) s

theorem Responder.run_append (settings : Settings) (app : Application ω) (as bs : List (Action ω))
    (s : Responder × ω) :
    Responder.run settings app (as ++ bs) s =
      Responder.run settings app bs (Responder.run settings app as s) := by
  simp [Responder.run, List.foldl_append]

end Multiplexer
