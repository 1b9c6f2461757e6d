import Multiplexer.Allowance
import Multiplexer.Connection.FrameReader

/-!
Connections that move frames as they are, without bytes between. What arrives and how either
direction ends is set from outside.
-/

namespace Multiplexer

/-- A connection in memory. -/
structure InMemoryConnection where
  arrivals : List Arrival
  /-- Nothing will arrive after what is queued. -/
  ended : Bool
  /-- The outbound direction is to fail. -/
  failing : Bool
  delivered : List Frame
  closed : Bool

def InMemoryConnection.new : InMemoryConnection := ⟨[], false, false, [], false⟩

/-- The next item of the inbound sequence. -/
def InMemoryConnection.next (c : InMemoryConnection) : InMemoryConnection × Receipt Arrival :=
  match c.arrivals with
  | x :: rest => ({ c with arrivals := rest }, .item x)
  | [] => (c, if c.ended then .finished else .pending)

/-- How a direction that has been made to fail does so. -/
def outboundFailure : TransportError := .io "outbound failed"

/-- A queue has as many frames as are delivered in one turn. -/
def InMemoryConnection.isBusy (c : InMemoryConnection) (q : Outbound) : Bool :=
  !c.closed && !c.failing && turnAllowance ≤ q.queue.length

/-- Delivers the frames of a queue that one turn allows, and says how sending has ended if it
has. -/
def InMemoryConnection.pollSend (c : InMemoryConnection) (q : Outbound) :
    InMemoryConnection × Outbound × Option (Except TransportError Unit) :=
  if c.closed then (c, q.dropReceiver, some (.ok ()))
  else if c.failing then (c, q.dropReceiver, some (.error outboundFailure))
  else
    let sent := { c with delivered := c.delivered ++ q.queue.take turnAllowance }
    if q.isExhausted && !c.isBusy q then (sent, q.dropReceiver, some (.ok ()))
    else (sent, { q with queue := q.queue.drop turnAllowance }, none)

end Multiplexer
