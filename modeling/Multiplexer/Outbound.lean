import Multiplexer.Frame.Basic

/-!
The queue of frames that wait for the transport. Any number of senders put frames in; one
receiver takes them out in the same order. A receiver that has closed still takes what is queued.
-/

namespace Multiplexer

/-- Where the receiving end of a queue stands. -/
inductive ReceiverState where
  | receiving
  /-- Takes no new frames, but still those that are queued. -/
  | closed
  | dropped
deriving DecidableEq

/-- A queue of frames, its senders by number with whether each is still there, its receiver, and
how many frames it has accepted. -/
structure Outbound where
  queue : List Frame
  senders : List Bool
  receiver : ReceiverState
  accepted : Nat
deriving DecidableEq

/-- An empty queue with one sender. -/
def Outbound.new : Outbound := ⟨[], [true], .receiving, 0⟩

/-- What a receiver that waits for a frame learns. -/
inductive Receipt (α : Type) where
  | item (x : α)
  | pending
  | finished
deriving DecidableEq

def Outbound.isClosed (q : Outbound) : Bool := q.receiver != .receiving

def Outbound.hasSender (q : Outbound) (k : Nat) : Bool := q.senders[k]?.getD false

/-- Puts a frame at the end of the queue unless the receiver has closed or is gone. -/
def Outbound.push (q : Outbound) (f : Frame) : Outbound × Bool :=
  if q.isClosed then (q, false)
  else ({ q with queue := q.queue ++ [f], accepted := q.accepted + 1 }, true)

/-- Sends on behalf of sender `k`, if it is there. -/
def Outbound.send (q : Outbound) (k : Nat) (f : Frame) : Outbound × Option Bool :=
  if q.hasSender k then
    let (q, sent) := q.push f
    (q, some sent)
  else (q, none)

/-- Copies sender `k`. The copy of a sender that is gone is gone as well. -/
def Outbound.cloneSender (q : Outbound) (k : Nat) : Outbound × Nat :=
  ({ q with senders := q.senders ++ [q.hasSender k] }, q.senders.length)

def Outbound.dropSender (q : Outbound) (k : Nat) : Outbound :=
  { q with senders := q.senders.set k false }

/-- Takes the frame at the front, if there is one. -/
def Outbound.pop? (q : Outbound) : Option (Frame × Outbound) :=
  match q.queue with
  | [] => none
  | f :: fs => some (f, { q with queue := fs })

/-- Nothing more can come: the receiver has closed or every sender is gone. -/
def Outbound.isExhausted (q : Outbound) : Bool := q.isClosed || !q.senders.any id

/-- Waits for the frame at the front. -/
def Outbound.receive (q : Outbound) : Outbound × Receipt Frame :=
  match q.pop? with
  | some (f, q) => (q, .item f)
  | none => (q, if q.isExhausted then .finished else .pending)

def Outbound.close (q : Outbound) : Outbound :=
  { q with receiver := if q.receiver = .receiving then .closed else q.receiver }

/-- Drops the receiver and with it what is queued. -/
def Outbound.dropReceiver (q : Outbound) : Outbound :=
  { q with queue := [], receiver := .dropped }

end Multiplexer
