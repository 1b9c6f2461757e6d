import Multiplexer.Failure.Panic
import Multiplexer.Registry.Basic

/-!
Draining a registry: every entry of both maps is taken out and cancelled once, operations before
channels. A cancellation that panics becomes a failure and stops no other.
-/

namespace Multiplexer

variable {α β ω : Type}

/-- The outcome of draining a registry: how many entries it held, what is left of it, what the
cancellations have done, and their failures. -/
structure Drained (α β ω : Type) where
  count : Nat
  registry : Registry α β
  world : ω
  failures : List Failure

/-- Cancels every entry in turn and collects the failures. -/
def Entries.cancelAll (cancel : α → ω → ω × Option Panic) : Entries α → ω → ω × List Failure
  | [], w => (w, [])
  | e :: es, w =>
    let (w, panic) := cancel e.handle w
    let (w, failures) := Entries.cancelAll cancel es w
    match panic with
    | some p => (w, .cancellation e.stream p.message :: failures)
    | none => (w, failures)

/-- Empties a registry and cancels what it held. -/
def Registry.drain (r : Registry α β) (cancelOperation : α → ω → ω × Option Panic)
    (cancelChannel : β → ω → ω × Option Panic) (w : ω) : Drained α β ω :=
  let (w, failures) := r.outbound.cancelAll cancelOperation w
  let (w, more) := r.inbound.cancelAll cancelChannel w
  ⟨r.size, { r with outbound := [], inbound := [], active := r.active - r.size }, w,
    failures ++ more⟩

end Multiplexer
