import Multiplexer.Responder.Channels

/-!
Turns: what a task does when it runs, up to the point where it has to wait or has used up its
allowance. A task that has been cancelled ends at its next turn, except that a single result which
is ready at that very turn still counts.
-/

namespace Multiplexer

variable {ω : Type}

/-- How the driver of a response stream has ended. -/
inductive StreamOutcome where
  | completed
  | failed (e : HandlerError)
  | cancelled
deriving DecidableEq

/-- Takes out the entry of an operation if it is still its own. -/
def Responder.release (r : Responder) (stream : StreamId) (token : Nat) : Responder × Bool :=
  let (registry, released) := r.registry.releaseOutbound stream token
  ({ r with registry }, released)

/-- Passes on the result of a request, `none` if it was cancelled. Whoever takes out the entry of
a request-response operation owns its last frame. -/
def Responder.settleSingle (r : Responder) (t : Task) (kind : SingleRequest)
    (token : Option Nat) (result : Option Item) : Responder :=
  let (r, released) := match token with
    | some token => r.release t.stream token
    | none => (r, false)
  match kind, result with
  | .requestResponse, some (.ok p) =>
    if released then r.send (.task t.number) (.nextComplete t.stream p) else r
  | .requestResponse, some (.error e) => if released then r.failTask t e else r
  | .fireAndForget, some (.error e) | .metadataPush, some (.error e) =>
    r.report (.handler t.stream e)
  | .fireAndForget, some (.ok _) | .metadataPush, some (.ok _) | _, none => r

/-- Ends the task of a request, dropping first what the application has left of it. -/
def Responder.finishSingle (r : Responder) (w : ω) (app : Application ω) (t : Task)
    (kind : SingleRequest) (token : Option Nat) (result : Option Item) : Responder × ω :=
  let (r, w) := (app.drop t.number w).run r
  ((r.settleSingle t kind token result).removeTask t.number, w)

/-- A turn of the task of a request that the application has taken on. -/
def Responder.pollSingle (r : Responder) (w : ω) (app : Application ω) (t : Task)
    (kind : SingleRequest) (token : Option Nat) : Responder × ω :=
  let (r, poll, w) := (app.poll t.number w).run r
  match poll with
  | .ready x => r.finishSingle w app t kind token (some x)
  | .panicked p =>
    (r.record (.handlerPanicked p.message)).finishSingle w app t kind token
      (some (.error (.panicked p.message)))
  | .pending =>
    if r.isCancelled t.number then r.finishSingle w app t kind token none
    else (r.setWork t.number (.single kind token none), w)

/-- A turn of the task of a request. One that is cancelled before its first turn is never seen by
the application. -/
def Responder.turnSingle (r : Responder) (w : ω) (app : Application ω) (t : Task)
    (kind : SingleRequest) (token : Option Nat) (request : Option Payload) : Responder × ω :=
  match request with
  | none => r.pollSingle w app t kind token
  | some p =>
    if r.isCancelled t.number then
      ((r.settleSingle t kind token none).removeTask t.number, w)
    else r.pollSingle (app.start kind t.number p w) app t kind token

/-- The last words of a response stream, if the entry was still its own. The peer's own error has
been answered by the channel already. -/
def Responder.settleStream (r : Responder) (t : Task) (token : Nat)
    (outcome : StreamOutcome) : Responder :=
  let (r, released) := r.release t.stream token
  if released then
    match outcome with
    | .completed => r.send (.task t.number) (.complete t.stream)
    | .failed (.remote code message) => r.report (.handler t.stream (.remote code message))
    | .failed e => r.failTask t e
    | .cancelled => r
  else r

/-- Ends the task of a response stream. What the application holds is dropped first, so that a
channel's cancellation goes out before the last frame. -/
def Responder.finishStream (r : Responder) (w : ω) (app : Application ω) (t : Task) (token : Nat)
    (channel : Option Nat) (outcome : StreamOutcome) : Responder × ω :=
  let (r, w) := (app.drop t.number w).run r
  let r := r.dropOwnChannel channel
  ((r.settleStream t token outcome).removeTask t.number, w)

/-- Ends the task of a response stream whose last item is an error. -/
def Responder.failStream (r : Responder) (w : ω) (app : Application ω) (t : Task) (token : Nat)
    (channel : Option Nat) (e : HandlerError) : Responder × ω :=
  (r.record (.pulled t.number (.error e))).finishStream w app t token channel (.failed e)

def Responder.demand? (r : Responder) (n : Nat) : Option Demand :=
  r.controls[n]?.bind Control.demand?

/-- Asks for a unit of credit, on behalf of a waiter if there is one already. -/
def Responder.acquire (r : Responder) (n : Nat) (waiter : Option Nat) :
    Responder × Nat × Acquisition :=
  match r.demand? n with
  | none => (r, 0, .gone)
  | some d =>
    let w := waiter.getD d.started
    let (d, acquisition) := match waiter with
      | some w => d.poll w
      | none => d.acquire
    ({ r with controls := r.controls.setDemand n d }, w, acquisition)

/-- Gives up waiting for credit. -/
def Responder.abandon (r : Responder) (n waiter : Nat) : Responder :=
  match r.demand? n with
  | none => r
  | some d => { r with controls := r.controls.setDemand n (d.drop waiter) }

/-- Sends an item once there is credit for it, and says whether the driver goes on. -/
def Responder.offer (r : Responder) (t : Task) (token : Nat) (channel : Option Nat) (p : Payload)
    (waiter : Option Nat) : Responder × Bool :=
  let (r, w, acquisition) := r.acquire t.number waiter
  match acquisition with
  | .ready => (r.send (.task t.number) (.next t.stream p), true)
  | .pending | .gone => (r.setWork t.number (.stream token channel (.holding p w)), false)

/-- Asks for credit for an item for which nobody waits yet. When the allowance of the turn is spent,
the item waits for the next turn. -/
def Responder.offerFirst (r : Responder) (t : Task) (token : Nat) (channel : Option Nat)
    (p : Payload) : Responder × Bool :=
  if r.allowance.isSpent then
    (r.putOff.setWork t.number (.stream token channel (.offering p)), false)
  else r.offer t token channel p none

/-- A turn of the driver of a response stream, which handles at most `budget` items. Whether the
stream has been cancelled is asked before each item and before each question for credit. -/
def Responder.turnStream (app : Application ω) (t : Task) (token : Nat) (channel : Option Nat) :
    Nat → StreamPhase → Responder → ω → Responder × ω
  | 0, phase, r, w => (r.setWork t.number (.stream token channel phase), w)
  | budget + 1, phase, r, w =>
    if r.isCancelled t.number then
      let r := match phase with
        | .holding _ waiter => r.abandon t.number waiter
        | .broken _ | .pulling | .offering _ => r
      r.finishStream w app t token channel .cancelled
    else match phase with
      | .broken e => r.failStream w app t token channel e
      | .offering p =>
        match r.offerFirst t token channel p with
        | (r, true) => turnStream app t token channel budget .pulling r w
        | (r, false) => (r, w)
      | .holding p waiter =>
        match r.offer t token channel p (some waiter) with
        | (r, true) => turnStream app t token channel budget .pulling r w
        | (r, false) => (r, w)
      | .pulling =>
        let (r, poll, w) := (app.pull t.number w).run r
        match poll with
        | .pending => (r.setWork t.number (.stream token channel .pulling), w)
        | .panicked p =>
          (r.record (.handlerPanicked p.message)).failStream w app t token channel
            (.panicked p.message)
        | .ready none =>
          (r.record (.ended t.number)).finishStream w app t token channel .completed
        | .ready (some (.error e)) => r.failStream w app t token channel e
        | .ready (some (.ok p)) =>
          let r := r.record (.pulled t.number (.ok p))
          if r.isCancelled t.number && !r.allowance.isSpent then
            r.finishStream w app t token channel .cancelled
          else match r.offerFirst t token channel p with
            | (r, true) => turnStream app t token channel budget .pulling r w
            | (r, false) => (r, w)

/-- A turn of task `n`, if it has not finished. -/
def Responder.turn (r : Responder) (w : ω) (app : Application ω) (n budget : Nat) :
    Responder × ω :=
  match r.task? n with
  | none => (r, w)
  | some t =>
    match t.work with
    | .single kind token request => r.turnSingle w app t kind token request
    | .stream token channel phase => turnStream app t token channel budget phase r w

end Multiplexer
