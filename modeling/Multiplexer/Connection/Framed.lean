import Multiplexer.Connection.FrameReader
import Multiplexer.Connection.FrameWriter

/-!
Connections that carry frames over a byte stream. Each half can be taken once. The end of the
input, an error in either direction, and the end of the outbound queue all close the connection.
-/

namespace Multiplexer

/-- A connection over a byte stream. -/
structure FramedConnection where
  reader : FrameReader
  writer : FrameWriter
  source : ByteSource
  sink : ByteSink
  /-- The inbound sequence has been handed out. -/
  readerTaken : Bool
  /-- The outbound queue has been handed in. -/
  writerTaken : Bool
  /-- A batch waits for something to happen on the byte stream. -/
  stalled : Bool
  closed : Bool
deriving DecidableEq

def FramedConnection.new (limit : Nat) : FramedConnection :=
  ⟨.new limit, .new limit, .empty, .empty, false, false, false, false⟩

def FramedConnection.dispose (c : FramedConnection) : FramedConnection :=
  { c with closed := true }

/-- One of the inbound sequences that a connection hands out. -/
inductive InboundSequence where
  /-- The sequence of the frames that arrive. -/
  | reading
  /-- A second sequence, which has nothing but an error. -/
  | refused
  | ended
deriving DecidableEq

/-- Hands out the inbound sequence, once. -/
def FramedConnection.receive (c : FramedConnection) : FramedConnection × InboundSequence :=
  if c.readerTaken then (c, .refused) else ({ c with readerTaken := true }, .reading)

/-- The next item of an inbound sequence. Its last item closes the connection. -/
def FramedConnection.next (c : FramedConnection) :
    InboundSequence → FramedConnection × InboundSequence × Receipt Arrival
  | .ended => (c, .ended, .finished)
  | .refused => (c, .ended, .item (.error .closed))
  | .reading =>
    if c.closed then (c, .ended, .finished)
    else
      let (reader, source, receipt) := c.reader.poll c.source
      let c := { c with reader, source }
      match receipt with
      | .pending => (c, .reading, .pending)
      | .item (.ok f) => (c, .reading, .item (.ok f))
      | .item (.error e) => (c.dispose, .ended, .item (.error e))
      | .finished => (c.dispose, .ended, .finished)

/-- A connection and the queue it sends from after some work, and how sending has ended, if it
has. -/
abbrev SendProgress := FramedConnection × Outbound × Option (Except TransportError Unit)

/-- Hands in the outbound queue, once. A second queue is dropped at once. -/
def FramedConnection.send (c : FramedConnection) (q : Outbound) : SendProgress :=
  if c.writerTaken then (c, q.dropReceiver, some (.error .closed))
  else ({ c with writerTaken := true }, q, none)

/-- The end of a use of the writing half: the connection closes and the queue is dropped. -/
def FramedConnection.stopSending (c : FramedConnection) (q : Outbound)
    (result : Except TransportError Unit) : SendProgress :=
  (c.dispose, q.dropReceiver, some result)

/-- Something has happened on the byte stream. -/
def FramedConnection.stir (c : FramedConnection) : FramedConnection := { c with stalled := false }

/-- Goes on when a batch has finished, and stops when it has failed, or is blocked on a connection
that has closed. -/
def FramedConnection.afterBatch (c : FramedConnection) (q : Outbound) (batch : Batch)
    (next : FramedConnection → Outbound → SendProgress) : SendProgress :=
  let c := { c with writer := batch.writer, sink := batch.sink, stalled := batch.result.isNone }
  let q := { q with queue := batch.rest }
  match batch.result with
  | some (.error e) => c.stopSending q (.error e)
  | some (.ok ()) => next c q
  | none => if c.closed then c.stopSending q (.ok ()) else (c, q, none)

/-- Waits for frames in an empty queue, unless there cannot be any. -/
def FramedConnection.awaitFrames (c : FramedConnection) (q : Outbound) : SendProgress :=
  if q.isExhausted then c.stopSending q (.ok ()) else (c, q, none)

/-- Writes what is queued as one batch. A connection that has closed begins no batch. -/
def FramedConnection.sendQueued (c : FramedConnection) (q : Outbound) : SendProgress :=
  if c.closed then c.stopSending q (.ok ())
  else if q.queue.isEmpty then c.awaitFrames q
  else c.afterBatch q (c.writer.writeAll c.sink q.queue) FramedConnection.awaitFrames

/-- Writes as much as possible. A batch that was blocked goes on before anything else, and a last
time when the connection has closed. -/
def FramedConnection.pollSend (c : FramedConnection) (q : Outbound) : SendProgress :=
  if c.writer.isBusy then
    c.afterBatch q (c.writer.resume c.sink q.queue) FramedConnection.sendQueued
  else c.sendQueued q

/-- Sending is to go on: with a batch as soon as something has happened on the byte stream, and
without one as soon as there is something to send or to learn from the queue. -/
def FramedConnection.canSend (c : FramedConnection) (q : Outbound) : Bool :=
  c.closed || if c.writer.isBusy then !c.stalled else !q.queue.isEmpty || q.isExhausted

end Multiplexer
