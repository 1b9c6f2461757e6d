import Multiplexer.Connection.Framed
import Multiplexer.Connection.InMemory
import Multiplexer.Responder.Run
import Multiplexer.Script.World

/-!
Sessions: a responder with a scripted application, its connection, and the order in which its
tasks run. A task joins the end of one queue when it is new, and later whenever it can go on; the
task at the front runs until it has to wait or has used up its allowance. In the latter case it is
put off until no other task can go on or a round of runs has ended.
-/

namespace Multiplexer

/-- The connection of a session. -/
inductive Link where
  | inMemory (c : InMemoryConnection)
  | framed (c : FramedConnection)

def Link.isClosed : Link → Bool
  | .inMemory c => c.closed
  | .framed c => c.closed

def Link.dispose : Link → Link
  | .inMemory c => .inMemory { c with closed := true }
  | .framed c => .framed c.dispose

/-- The next item of the inbound sequence. -/
def Link.next : Link → Link × Receipt Arrival
  | .inMemory c =>
    let (c, receipt) := c.next
    (.inMemory c, receipt)
  | .framed c =>
    let (c, _, receipt) := c.next .reading
    (.framed c, receipt)

/-- The items that are received in one turn. A byte stream does not count against the allowance, and
an item of it takes at least one of the bytes at hand, or is the last. -/
def Link.itemsPerTurn : Link → Nat
  | .inMemory _ => turnAllowance
  | .framed c => c.reader.buffer.length + c.source.unread.length + 2

/-- The queue has as much as is sent in one turn. -/
def Link.isBusy (link : Link) (q : Outbound) : Bool :=
  match link with
  | .inMemory c => c.isBusy q
  | .framed _ => false

/-- Sends what is queued as far as one turn allows, and says how sending has ended if it has. -/
def Link.pollSend (link : Link) (q : Outbound) :
    Link × Outbound × Option (Except TransportError Unit) :=
  match link with
  | .inMemory c =>
    let (c, q, ended) := c.pollSend q
    (.inMemory c, q, ended)
  | .framed c =>
    let (c, q, ended) := c.pollSend q
    (.framed c, q, ended)

/-- The inbound sequence has an item or an end to offer. -/
def Link.canReceive (link : Link) : Bool :=
  match link.next.2 with
  | .pending => false
  | _ => true

/-- Sending is to go on. -/
def Link.canSend (link : Link) (q : Outbound) : Bool :=
  match link with
  | .inMemory c => c.closed || c.failing || !q.queue.isEmpty
  | .framed c => c.canSend q

/-- A task of a session. -/
inductive Job where
  /-- Hands the outbound queue to the connection. -/
  | send
  /-- Receives and dispatches. -/
  | receive
  /-- Waits for the connection to close. -/
  | close
  /-- Works on an operation. -/
  | operation (n : Nat)
deriving DecidableEq

/-- A responder at work with a scripted application. -/
structure Session where
  settings : Settings
  responder : Responder
  world : ScriptWorld
  link : Link
  outbound : Outbound
  /-- The task that sends has not finished. -/
  sending : Bool
  /-- The task that waits for the connection to close has not finished. -/
  closing : Bool
  /-- The tasks that can go on, in the order in which they will. -/
  ready : List Job
  /-- The tasks that have been put off, the last one first. -/
  deferred : List Job
  /-- The runs of tasks in the present round. -/
  runs : Nat
  failures : List Failure
  alarms : List Event

/-- A session whose first three tasks have not run yet. -/
def Session.start (settings : Settings) (scripts : Scripts) (link : Link) : Session :=
  { settings, responder := .start, world := .new scripts, link, outbound := .new, sending := true,
    closing := true, ready := [.send, .receive, .close], deferred := [], runs := 0,
    failures := [], alarms := [] }

/-- Reading a channel would tell something new. -/
def Responder.isReadable (r : Responder) (n : Nat) : Bool :=
  match r.held? n with
  | some c => c.isReadable
  | none => true

/-- Something has happened that lets task `n` of a responder go on. -/
def Responder.isReady (r : Responder) (w : ScriptWorld) (t : Task) : Bool :=
  match t.work with
  | .single _ _ (some _) | .stream _ _ (.broken _) => true
  | .single _ _ none | .stream _ _ .pulling =>
    r.isCancelled t.number || w.isAwake r.isReadable t.number
  | .stream _ _ (.offering _) => false
  | .stream _ _ (.holding _ waiter) =>
    r.isCancelled t.number || match r.demand? t.number with
      | some d => waiter ∈ d.woken
      | none => false

/-- The operations that can go on: first those at gates that have opened, in the order in which
they came there, and then the others, oldest first. -/
def Session.readyOperations (s : Session) : List Nat :=
  let ready := (s.responder.tasks.filter (s.responder.isReady s.world)).map Task.number
  let released := s.world.released.filter (· ∈ ready)
  released ++ ready.filter (· ∉ released)

/-- The tasks that can go on. What happens on an open connection is received before more is sent;
a connection that has closed ends sending before anything else. -/
def Session.readyJobs (s : Session) : List Job :=
  let send := if s.sending && s.link.canSend s.outbound then [Job.send] else []
  let receive := if s.responder.receiving && (s.responder.shutdown || s.link.canReceive)
    then [Job.receive] else []
  (if s.link.isClosed then send ++ receive else receive ++ send) ++
  (if s.closing && s.link.isClosed then [.close] else []) ++
  s.readyOperations.map .operation

/-- Puts tasks at the end of the queue, unless they are in it. -/
def Session.queue (s : Session) (jobs : List Job) : Session :=
  { s with ready := s.ready ++ jobs.filter (fun j => j ∉ s.ready) }

/-- A task has been put off, and nothing else is to bring it back. The cancellation of an operation
is, as far as the operation would notice it. -/
def Session.isHeldBack (s : Session) (j : Job) : Bool :=
  j ∈ s.deferred && match j with
    | .operation n => !s.responder.isCancelled n
    | .send | .receive | .close => true

/-- Puts the tasks that have become able to go on at the end of the queue. -/
def Session.queueReady (s : Session) : Session :=
  s.queue (s.readyJobs.filter (fun j => !s.isHeldBack j))

/-- Puts a task off if there is a reason to. -/
def Session.deferIf (s : Session) (reason : Bool) (j : Job) : Session :=
  if reason then { s with deferred := j :: s.deferred } else s

def Session.isUnfinished (s : Session) : Job → Bool
  | .send => s.sending
  | .receive => s.responder.receiving
  | .close => s.closing
  | .operation n => (s.responder.task? n).isSome

/-- Begins a new round: the tasks that have been put off come back, the last one first. -/
def Session.recall (s : Session) : Session :=
  { s with deferred := [], runs := 0 }.queue (s.deferred.filter s.isUnfinished)

/-- Passes on one event of the responder. -/
def Session.passOn (s : Session) (e : Event) : Session :=
  match e with
  | .sent _ f => { s with outbound := (s.outbound.push f).1 }
  | .reported failure => { s with failures := s.failures ++ [failure], alarms := s.alarms ++ [e] }
  | .handlerPanicked _ | .disposePanicked _ => { s with alarms := s.alarms ++ [e] }
  | .disposed | .pulled .. | .ended _ | .yielded .. => s

/-- The operations that are not older than operation `n`. -/
def Responder.startedSince (r : Responder) (n : Nat) : List Nat :=
  (r.tasks.map Task.number).filter (n ≤ ·)

/-- The state after something has happened to the responder: its events are passed on, and tasks
that can go on are queued, and so is every new one, whatever it is to wait for. -/
def Session.after (s : Session) (r : Responder × ScriptWorld) : Session :=
  let started := r.1.startedSince s.responder.controls.length
  let s := { s with responder := { r.1 with history := [] }, world := r.2 }
  (r.1.history.foldl Session.passOn s).queueReady.queue (started.map .operation)

/-- What an action does to the responder of a session. -/
def Session.react (s : Session) (a : Action ScriptWorld) : Responder × ScriptWorld :=
  Responder.step s.settings scriptedApplication a (s.responder, s.world)

/-- Lets one thing happen to the responder. -/
def Session.act (s : Session) (a : Action ScriptWorld) : Session := s.after (s.react a)

/-- Sends as far as one turn allows. -/
def Session.send (s : Session) : Session :=
  let (link, outbound, ended) := s.link.pollSend s.outbound
  match ended with
  | some result => { s with link, outbound, sending := false }.act (.transportStopped result)
  | none => ({ s with link, outbound }.deferIf (s.link.isBusy s.outbound) .send).queueReady

/-- Receives up to `n` items. The receive loop is put off after the last of them. -/
def Session.receive : Nat → Session → Session
  | 0, s => s.deferIf s.responder.receiving .receive
  | n + 1, s =>
    if !s.responder.receiving then s
    else if s.responder.shutdown then s.act (.receive .finished)
    else match s.link.next with
      | (link, .pending) => { s with link }
      | (link, receipt) => ({ s with link }.act (.receive receipt)).receive n

/-- The items that a response stream may yield in one turn. -/
def turnBudget : Nat := 1000000

/-- Works on operation `n`. -/
def Session.work (s : Session) (n : Nat) : Session :=
  let r := s.react (.turn n turnBudget)
  (s.deferIf r.1.allowance.exceeded (.operation n)).after r

/-- Runs one task. What the receive loop itself brings about does not make it run again. -/
def Session.runJob (s : Session) : Job → Session
  | .send => s.send
  | .receive =>
    let s := s.receive s.link.itemsPerTurn
    { s with ready := s.ready.erase .receive }
  | .close => if s.link.isClosed then { s with closing := false }.act .cleanup else s
  | .operation n => s.work n

/-- The runs of tasks in one round. -/
def roundLength : Nat := 61

/-- Runs the task at the front of the queue. A round ends after its last run, or when no task is
left that can go on. -/
def Session.runFirst (s : Session) : Session :=
  match s.ready with
  | [] => s.recall
  | j :: rest =>
    let s := { s with ready := rest, runs := s.runs + 1 }.runJob j
    if s.runs = roundLength then s.recall else s

/-- No task can go on, and none has been put off. -/
def Session.isIdle (s : Session) : Bool := s.ready.isEmpty && s.deferred.isEmpty

/-- Runs tasks until the session is idle, or `fuel` times. -/
def Session.settle : Nat → Session → Session
  | 0, s => s
  | fuel + 1, s => if s.isIdle then s else s.runFirst.settle fuel

/-- Every task has finished, and no new one is expected. -/
def Session.isJoined (s : Session) : Bool :=
  s.responder.shutdown && !s.sending && !s.closing && !s.responder.receiving &&
    s.responder.tasks.isEmpty

/-- The counts of a session. -/
def Session.metrics (s : Session) : Metrics :=
  { s.responder.metrics with
    streams := s.responder.registry.active
    framesOut := s.outbound.accepted }

end Multiplexer
