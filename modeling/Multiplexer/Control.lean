import Multiplexer.Demand
import Multiplexer.Failure.Panic

/-!
Controls: the handles by which the other side of a connection reaches an operation, to cancel it
or to grant it credit.
-/

namespace Multiplexer

/-- A control that the application brings along. Each of its two methods may panic. It counts the
cancellations that have not, and the credit requested of it modulo `UInt64.size`. -/
structure CustomControl where
  cancels : Nat
  requested : Nat
  countsRequests : Bool
  cancelPanic : Option Panic
  requestPanic : Option Panic
deriving DecidableEq

/-- The control of an operation. -/
inductive Control where
  /-- An operation without flow control. -/
  | task (cancelled : Bool)
  /-- A response stream with the credit it has been granted. -/
  | stream (cancelled : Bool) (demand : Demand)
  | custom (control : CustomControl)
deriving DecidableEq

/-- Asks the operation to stop. -/
def Control.cancel : Control → Control × Option Panic
  | .task _ => (.task true, none)
  | .stream _ demand => (.stream true demand, none)
  | .custom c =>
    match c.cancelPanic with
    | none => (.custom { c with cancels := c.cancels + 1 }, none)
    | some panic => (.custom c, some panic)

/-- Grants the operation `n` units of credit. -/
def Control.request (n : Nat) : Control → Control × Option Panic
  | .task cancelled => (.task cancelled, none)
  | .stream cancelled demand => (.stream cancelled (demand.grant n), none)
  | .custom c =>
    if c.countsRequests then
      (.custom { c with requested := (c.requested + n) % UInt64.size }, c.requestPanic)
    else (.custom c, none)

def Control.isCancelled : Control → Bool
  | .task cancelled | .stream cancelled _ => cancelled
  | .custom c => c.cancels != 0

def Control.demand? : Control → Option Demand
  | .stream _ demand => some demand
  | _ => none

/-- The controls of a connection by number. A number is never used again. -/
abbrev Controls := List Control

/-- Applies an action to the control with a number, if there is one. -/
def Controls.act (cs : Controls) (n : Nat) (action : Control → Control × Option Panic) :
    Controls × Option Panic :=
  match cs[n]? with
  | some c =>
    let (c, panic) := action c
    (cs.set n c, panic)
  | none => (cs, none)

def Controls.cancel (cs : Controls) (n : Nat) : Controls × Option Panic :=
  cs.act n Control.cancel

def Controls.request (cs : Controls) (n credit : Nat) : Controls × Option Panic :=
  cs.act n (Control.request credit)

/-- Replaces the credit of a response stream. -/
def Controls.setDemand (cs : Controls) (n : Nat) (demand : Demand) : Controls :=
  match cs[n]? with
  | some (.stream cancelled _) => cs.set n (.stream cancelled demand)
  | _ => cs

end Multiplexer
