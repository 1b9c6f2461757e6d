import Multiplexer.Responder.Channels

/-!
The end of a connection. When the transport stops, every active stream is cancelled; when the
connection closes, the application is disposed of as well and all work is told to stop. Both can
happen any number of times and in any order.
-/

namespace Multiplexer

variable {ω : Type}

/-- Cancels every active stream and reports the cancellations that panic. -/
def Responder.cancelStreams (r : Responder) : Responder :=
  let drained := r.registry.drain
    (fun n (controls, channels) =>
      let (controls, panic) := Controls.cancel controls n
      ((controls, channels), panic))
    (fun n (controls, channels) => ((controls, cancelChannelAt n channels), none))
    (r.controls, r.channels)
  drained.failures.foldl Responder.report
    { r with
      registry := drained.registry
      controls := drained.world.1
      channels := drained.world.2 }

/-- Disposes of the application, unless that has been done. -/
def Responder.dispose (r : Responder) (w : ω) (app : Application ω) : Responder × ω :=
  if r.disposed then (r, w)
  else
    let (r, panic, w) := (app.dispose w).run ({ r with disposed := true }.record .disposed)
    let r := match panic with
      | some p => r.record (.disposePanicked p.message)
      | none => r
    ({ r with metrics := r.metrics.connectionClosed }, w)

/-- Ends all service of the connection. -/
def Responder.cleanup (r : Responder) (w : ω) (app : Application ω) : Responder × ω :=
  let (r, w) := r.cancelStreams.dispose w app
  ({ r with shutdown := true }, w)

/-- The transport has stopped taking frames. -/
def Responder.transportStopped (r : Responder) (result : Except TransportError Unit) :
    Responder :=
  let r := match result with
    | .ok () => r
    | .error e => r.report (.transport e)
  r.cancelStreams

end Multiplexer
