import Multiplexer.Proofs.Batches
import Multiplexer.Proofs.ChunkedDecoding
import Multiplexer.Proofs.OutboundOrder
import Multiplexer.Session.Steps

/-!
Runs of the writing half of a connection over a byte stream. However the queued frames fall into batches,
the peer has been sent what frame by frame writing would have sent, except when a frame cannot be encoded:
then it misses the frames that were still in the write buffer.
-/

namespace Multiplexer

/-- Something that happens to a connection that sends from a queue. -/
inductive Transmission.Operation where
  | send (sender : Nat) (f : Frame)
  | clone (sender : Nat)
  | dropSender (sender : Nat)
  /-- Sending is polled. -/
  | poll
  | setCapacity (n : Option Nat)
  | feed (bytes : Bytes)
  | endInput
  /-- An inbound sequence is polled. -/
  | next (sequence : InboundSequence)
  | dispose
deriving DecidableEq

/-- A connection, the queue it sends from, how sending has ended if it has, and the frames that the queue
has accepted. -/
structure Transmission where
  connection : FramedConnection
  queue : Outbound
  result : Option (Except TransportError Unit)
  accepted : List Frame

def Transmission.start (limit : Nat) : Transmission :=
  let (connection, queue, result) := (FramedConnection.new limit).send .new
  ⟨connection, queue, result, []⟩

def Transmission.perform (x : Transmission) : Transmission.Operation → Transmission
  | .send k f =>
    let (queue, sent) := x.queue.send k f
    { x with queue, accepted := if sent = some true then x.accepted ++ [f] else x.accepted }
  | .clone k => { x with queue := (x.queue.cloneSender k).1 }
  | .dropSender k => { x with queue := x.queue.dropSender k }
  | .poll =>
    match x.result with
    | some _ => x
    | none =>
      let (connection, queue, result) := x.connection.pollSend x.queue
      { x with connection, queue, result }
  | .setCapacity n => { x with connection := x.connection.setCapacity n }
  | .feed bytes => { x with connection := x.connection.feed bytes }
  | .endInput => { x with connection := x.connection.endInput }
  | .next sequence => { x with connection := (x.connection.next sequence).1 }
  | .dispose => { x with connection := x.connection.dispose }

def Transmission.after (x : Transmission) (ops : List Transmission.Operation) : Transmission :=
  ops.foldl Transmission.perform x

/-- Nothing is queued and nothing is half written. -/
def Transmission.isIdle (x : Transmission) : Bool :=
  x.queue.queue.isEmpty && !x.connection.writer.isBusy

/-- At no time in a run has the connection been closed before sending has ended. -/
def Transmission.Undisposed (x : Transmission) (ops : List Transmission.Operation) : Prop :=
  ∀ earlier, earlier <+: ops → (x.after earlier).result = none →
    (x.after earlier).connection.closed = false

/-- What has been written and what is still to be written are the accepted frames. -/
def Transmission.Carries (limit : Nat) (x : Transmission) : Prop :=
  FramedConnection.Carries limit x.accepted (x.connection, x.queue, x.result)

variable {limit : Nat} {x : Transmission} {op : Transmission.Operation}
  {ops : List Transmission.Operation} {c c' : FramedConnection} {q q' : Outbound} {f : Frame}
  {accepted : List Frame} {result : Option (Except TransportError Unit)}

/-- What is done to a connection leaves its writing half alone, and does not open it again. -/
structure FramedConnection.WritesAlike (c c' : FramedConnection) : Prop where
  writer : c'.writer = c.writer
  taken : c'.sink.taken = c.sink.taken
  failure : c'.sink.failure = c.sink.failure
  closed : c.closed = true → c'.closed = true

theorem FramedConnection.next_writesAlike (c : FramedConnection) (sequence : InboundSequence) :
    c.WritesAlike (c.next sequence).1 := by
  cases sequence with
  | ended | refused => exact ⟨rfl, rfl, rfl, id⟩
  | reading =>
    dsimp only [FramedConnection.next]
    split
    next => exact ⟨rfl, rfl, rfl, id⟩
    next =>
      split
      next => exact ⟨rfl, rfl, rfl, id⟩
      next => exact ⟨rfl, rfl, rfl, id⟩
      next => exact ⟨rfl, rfl, rfl, fun _ => rfl⟩
      next => exact ⟨rfl, rfl, rfl, fun _ => rfl⟩

theorem FramedConnection.Carries.writesAlike (h : Carries limit accepted (c, q, result))
    (alike : c.WritesAlike c') : Carries limit accepted (c', q, result) := by
  obtain ⟨writer, taken, failure, closes⟩ := alike
  have pending : c'.sink.withPending c'.writer = c.sink.withPending c.writer := by
    rw [ByteSink.withPending, ByteSink.withPending, taken, writer]
  cases h with
  | going done framing sound listens split sent =>
    exact .going done (writer ▸ framing) (failure.trans sound) listens (writer ▸ split) (pending ▸ sent)
  | finished closed deaf sent => exact .finished (closes closed) deaf (taken ▸ sent)
  | failed closed deaf sent => exact .failed (closes closed) deaf (pending ▸ sent)

theorem FramedConnection.Carries.senders (h : Carries limit accepted (c, q, result))
    (senders : List Bool) : Carries limit accepted (c, { q with senders }, result) := by
  cases h with
  | going done framing sound listens split sent => exact .going done framing sound listens split sent
  | finished closed deaf sent => exact .finished closed deaf sent
  | failed closed deaf sent => exact .failed closed deaf sent

/-- A frame is accepted behind the others while sending goes on, and not at all afterwards. -/
theorem Transmission.Carries.send (h : x.Carries limit) (k : Nat) (f : Frame) :
    (x.perform (.send k f)).Carries limit := by
  obtain ⟨c, q, result, accepted⟩ := x
  cases there : q.hasSender k with
  | false =>
    have same : Transmission.perform ⟨c, q, result, accepted⟩ (.send k f) =
        ⟨c, q, result, accepted⟩ := by
      simp [Transmission.perform, Outbound.send, there]
    rw [same]
    exact h
  | true =>
    cases closed : q.isClosed with
    | true =>
      have same : Transmission.perform ⟨c, q, result, accepted⟩ (.send k f) =
          ⟨c, q, result, accepted⟩ := by
        simp [Transmission.perform, Outbound.send, there, Outbound.push_closed closed]
      rw [same]
      exact h
    | false =>
      have pushed : Transmission.perform ⟨c, q, result, accepted⟩ (.send k f) =
          ⟨c, { q with queue := q.queue ++ [f], accepted := q.accepted + 1 }, result,
            accepted ++ [f]⟩ := by
        simp [Transmission.perform, Outbound.send, there, Outbound.push_open closed]
      rw [pushed]
      unfold Transmission.Carries at h ⊢
      cases h with
      | going done framing sound listens split sent =>
        dsimp only at split
        exact .going done framing sound listens (by simp only [split, List.append_assoc]) sent
      | finished up deaf => exact absurd (deaf.symm.trans closed) (by decide)
      | failed up deaf => exact absurd (deaf.symm.trans closed) (by decide)

theorem Transmission.Carries.perform (h : x.Carries limit)
    (up : x.result = none → x.connection.closed = false) (op : Transmission.Operation) :
    (x.perform op).Carries limit := by
  cases op with
  | send k f => exact h.send k f
  | clone k => exact FramedConnection.Carries.senders h _
  | dropSender k => exact FramedConnection.Carries.senders h _
  | setCapacity n => exact FramedConnection.Carries.writesAlike h ⟨rfl, rfl, rfl, id⟩
  | feed bytes => exact FramedConnection.Carries.writesAlike h ⟨rfl, rfl, rfl, id⟩
  | endInput => exact FramedConnection.Carries.writesAlike h ⟨rfl, rfl, rfl, id⟩
  | next sequence => exact FramedConnection.Carries.writesAlike h (x.connection.next_writesAlike sequence)
  | dispose => exact FramedConnection.Carries.writesAlike h ⟨rfl, rfl, rfl, fun _ => rfl⟩
  | poll =>
    cases going : x.result with
    | some r =>
      have same : x.perform .poll = x := by simp only [Transmission.perform, going]
      rw [same]
      exact h
    | none =>
      unfold Transmission.Carries at h
      rw [going] at h
      have polled := FramedConnection.polled_pollSend h (up going)
      simp only [Transmission.perform, going]
      exact polled.carries

theorem Transmission.Undisposed.first (h : x.Undisposed (op :: ops)) :
    x.result = none → x.connection.closed = false :=
  h [] List.nil_prefix

theorem Transmission.Undisposed.of_cons (h : x.Undisposed (op :: ops)) :
    (x.perform op).Undisposed ops :=
  fun earlier within => h (op :: earlier) (List.cons_prefix_cons.mpr ⟨rfl, within⟩)

theorem Transmission.Carries.run (h : x.Carries limit) (undisposed : x.Undisposed ops) :
    (x.after ops).Carries limit := by
  induction ops generalizing x with
  | nil => exact h
  | cons op ops ih => exact ih (h.perform undisposed.first op) undisposed.of_cons

theorem Transmission.start_carries (limit : Nat) : (Transmission.start limit).Carries limit :=
  .going [] rfl rfl rfl rfl rfl

/-- A poll on an open connection whose peer takes everything leaves nothing to be written, or ends
sending. -/
theorem Transmission.Carries.poll_settles (h : x.Carries limit)
    (up : x.result = none → x.connection.closed = false) (reads : x.connection.sink.capacity = none) :
    (x.perform .poll).result ≠ none ∨ (x.perform .poll).isIdle = true := by
  cases going : x.result with
  | some r => exact .inl (by simp [Transmission.perform, going])
  | none =>
    unfold Transmission.Carries at h
    rw [going] at h
    have polled := FramedConnection.polled_pollSend h (up going)
    simp only [Transmission.perform, going, Transmission.isIdle]
    generalize x.connection.pollSend x.queue = p at polled
    cases polled with
    | idle ready queue => exact .inr (by simp [queue, FrameWriter.isBusy, ready.held, ready.empty])
    | blocked _ framing sound listens split sent full stops => exact absurd reads stops
    | finished => exact .inl (Option.some_ne_none _)
    | failed => exact .inl (Option.some_ne_none _)

/-! ### Frame by frame -/

/-- Sending waits for frames, and the peer has taken these bytes and will take more. -/
structure Transmission.Waits (limit : Nat) (taken : Bytes) (x : Transmission) : Prop where
  result : x.result = none
  writer : x.connection.writer = .new limit
  sink : x.connection.sink = ⟨taken, none, none⟩
  up : x.connection.closed = false
  queue : x.queue.queue = []
  listens : x.queue.receiver = .receiving
  sender : x.queue.hasSender 0 = true

variable {taken bytes : Bytes} {e : CodecError} {fs : List Frame}

/-- A frame that is sent and polled for on its own is the only one of its batch. -/
theorem Transmission.Waits.alone (h : x.Waits limit taken) (f : Frame) :
    (x.perform (.send 0 f)).perform .poll =
      let (c, q, result) := x.connection.afterBatch
        { x.queue with queue := [f], accepted := x.queue.accepted + 1 }
        ((FrameWriter.new limit).writeAll ⟨taken, none, none⟩ [f]) FramedConnection.awaitFrames
      ⟨c, q, result, x.accepted ++ [f]⟩ := by
  obtain ⟨c, q, result, accepted⟩ := x
  obtain ⟨rfl, writer, sink, up, queue, listens, sender⟩ := h
  dsimp only at writer sink up queue listens sender
  have going : q.isClosed = false := q.isClosed_eq_false_iff.mpr listens
  have sent : q.send 0 f = ({ q with queue := [f], accepted := q.accepted + 1 }, some true) := by
    simp [Outbound.send, sender, Outbound.push_open going, queue]
  simp only [Transmission.perform, sent, if_true, FramedConnection.pollSend, writer, sink,
    FramedConnection.sendQueued, up]
  rfl

/-- A buffer that is empty is not full. -/
theorem FrameWriter.room_new (limit : Nat) : ¬ fullBuffer ≤ (FrameWriter.new limit).buffer.length :=
  Nat.not_le.mpr (by simp [FrameWriter.new, fullBuffer])

theorem FrameWriter.writeAll_one (written : (Framing.new limit).write f = .ok bytes) (taken : Bytes) :
    (FrameWriter.new limit).writeAll ⟨taken, none, none⟩ [f] =
      ⟨.new limit, ⟨taken ++ bytes, none, none⟩, [], some (.ok ())⟩ := by
  have call : (Framing.new limit).append [] f = (bytes, .ok ()) := by
    rw [Framing.append, written]
    rfl
  simp only [FrameWriter.writeAll, if_neg (FrameWriter.room_new limit)]
  rw [FrameWriter.new, call]
  cases bytes <;> simp [FrameWriter.flush, ByteSink.write]

theorem FrameWriter.writeAll_one_failed (failed : (Framing.new limit).write f = .error e)
    (s : ByteSink) : (FrameWriter.new limit).writeAll s [f] =
      ⟨.new limit, s, [], some (.error (.codec e))⟩ := by
  have call : (Framing.new limit).append [] f = ([], .error e) := by
    rw [Framing.append, failed]
  simp only [FrameWriter.writeAll, if_neg (FrameWriter.room_new limit)]
  rw [FrameWriter.new, call]

theorem Transmission.Waits.one (h : x.Waits limit taken)
    (written : (Framing.new limit).write f = .ok bytes) :
    ((x.perform (.send 0 f)).perform .poll).Waits limit (taken ++ bytes) := by
  have open_ : x.queue.isClosed = false := x.queue.isClosed_eq_false_iff.mpr h.listens
  have senders : x.queue.senders.any id = true := by
    cases any : x.queue.senders.any id with
    | true => rfl
    | false =>
      have gone := (x.queue.any_sender_eq_false_iff.mp any) 0
      exact gone.symm.trans h.sender
  have going : Outbound.isExhausted
      { x.queue with queue := [], accepted := x.queue.accepted + 1 } = false := by
    have same : Outbound.isExhausted { x.queue with queue := [], accepted := x.queue.accepted + 1 } =
      (x.queue.isClosed || !x.queue.senders.any id) := rfl
    rw [same, open_, senders]
    rfl
  rw [h.alone f, FrameWriter.writeAll_one written]
  simp only [FramedConnection.afterBatch, FramedConnection.awaitFrames, going]
  exact ⟨rfl, rfl, rfl, h.up, rfl, h.listens, h.sender⟩

theorem Transmission.Waits.one_failed (h : x.Waits limit taken)
    (failed : (Framing.new limit).write f = .error e) :
    ((x.perform (.send 0 f)).perform .poll).connection.sink.taken = taken ∧
      ((x.perform (.send 0 f)).perform .poll).result = some (.error (.codec e)) := by
  rw [h.alone f, FrameWriter.writeAll_one_failed failed]
  exact ⟨rfl, rfl⟩

/-- The operations that send frames on their own, each written out before the next is sent. -/
def oneByOne (fs : List Frame) : List Transmission.Operation := fs.flatMap fun f => [.send 0 f, .poll]

theorem Transmission.after_oneByOne (x : Transmission) (f : Frame) (fs : List Frame) :
    x.after (oneByOne (f :: fs)) =
      ((x.perform (.send 0 f)).perform .poll).after (oneByOne fs) :=
  rfl

/-- Nothing is written once sending has ended. -/
theorem Transmission.after_end {r : Except TransportError Unit} (h : x.result = some r)
    (fs : List Frame) : (x.after (oneByOne fs)).connection = x.connection ∧
      (x.after (oneByOne fs)).result = some r := by
  induction fs generalizing x with
  | nil => exact ⟨rfl, h⟩
  | cons f fs ih =>
    have same : (x.perform (.send 0 f)).perform .poll = x.perform (.send 0 f) := by
      simp only [Transmission.perform, h]
    rw [Transmission.after_oneByOne, same]
    exact ih h

theorem Transmission.Waits.one_by_one (h : x.Waits limit taken) (fs : List Frame) :
    (x.after (oneByOne fs)).connection.sink.taken = taken ++ ((Framing.new limit).transmit fs).1 ∧
      (x.after (oneByOne fs)).result =
        ((Framing.new limit).transmit fs).2.map fun e => .error (.codec e) := by
  induction fs generalizing x taken with
  | nil => exact ⟨(congrArg ByteSink.taken h.sink).trans (List.append_nil taken).symm, h.result⟩
  | cons f fs ih =>
    rw [Transmission.after_oneByOne]
    cases written : (Framing.new limit).write f with
    | ok bytes =>
      have rest := ih (h.one written)
      rw [List.append_assoc] at rest
      simpa only [Framing.transmit, written] using rest
    | error e =>
      obtain ⟨kept, failed⟩ := h.one_failed written
      obtain ⟨same, stays⟩ := Transmission.after_end failed fs
      simp only [Framing.transmit, written, List.append_nil]
      exact ⟨(congrArg (fun c => c.sink.taken) same).trans kept, stays⟩

/-! ### Batches and frames -/

/-- Sending has ended or waits for frames. -/
def Transmission.Settled (x : Transmission) : Prop := x.result ≠ none ∨ x.isIdle = true

/-- What the peer has been sent once sending is settled. What is missing, if a frame cannot be encoded, is
what the write buffer holds. -/
theorem Transmission.Carries.settled (h : x.Carries limit) (settled : x.Settled) :
    ((Framing.new limit).transmit x.accepted = (x.connection.sink.taken, none) ∧
      ∀ e, x.result ≠ some (.error e)) ∨
    ∃ e, (Framing.new limit).transmit x.accepted =
        (x.connection.sink.taken ++ x.connection.writer.buffer, some e) ∧
      x.result = some (.error (.codec e)) ∧ x.connection.closed = true := by
  obtain ⟨c, q, result, accepted⟩ := x
  unfold Transmission.Carries at h
  cases h with
  | going done framing sound listens split sent =>
    have idle : Transmission.isIdle ⟨c, q, none, accepted⟩ = true := settled.resolve_left (absurd rfl)
    simp only [Transmission.isIdle, FrameWriter.isBusy, Bool.and_eq_true, Bool.not_eq_true',
      Bool.or_eq_false_iff, List.isEmpty_iff, Option.isSome_eq_false_iff, Option.isNone_iff_eq_none,
      Bool.not_eq_false'] at idle
    obtain ⟨queue, held, empty⟩ := idle
    dsimp only at split sent
    rw [held, queue, Option.toList_none, List.append_nil, List.append_nil] at split
    rw [ByteSink.withPending, empty, List.append_nil, ← split] at sent
    exact .inl ⟨sent, by simp⟩
  | finished closed deaf sent => exact .inl ⟨sent, by simp⟩
  | failed closed deaf sent => exact .inr ⟨_, sent, rfl, closed⟩

/-- However the frames that a queue accepts fall into batches, on a connection that is not closed from
elsewhere: by the time sending ends or waits for frames, the peer has been sent their encodings, in order and
up to the first frame that cannot be encoded, except for what the write buffer still holds if there is such a
frame. Sending then ends with the error of that frame, and the connection closes; otherwise sending does not
fail. A poll settles sending if the peer takes everything. Frames that are each written out on their own
are never lost. -/
theorem FramedConnection.batches_as_frames (limit : Nat) :
    (∀ ops, (Transmission.start limit).Undisposed ops →
      let x := (Transmission.start limit).after ops
      let sent := (Framing.new limit).transmit x.accepted
      (x.Settled → sent.2 = none ∨ x.connection.writer.buffer = [] →
        x.connection.sink.taken = sent.1) ∧
      (x.Settled → ∀ e, sent.2 = some e → x.result = some (.error (.codec e)) ∧
        x.connection.closed = true ∧
        x.connection.sink.taken ++ x.connection.writer.buffer = sent.1) ∧
      (sent.2 = none → ∀ e, x.result ≠ some (.error e)) ∧
      (x.connection.sink.capacity = none → (x.perform .poll).Settled)) ∧
    ∀ frames, let x := (Transmission.start limit).after (oneByOne frames)
      x.connection.sink.taken = ((Framing.new limit).transmit frames).1 ∧
      x.result = ((Framing.new limit).transmit frames).2.map fun e => .error (.codec e) := by
  constructor
  · intro ops undisposed x sent
    have carries : x.Carries limit := (Transmission.start_carries limit).run undisposed
    refine ⟨fun settled unlost => ?_, fun settled e fails => ?_, fun succeeds e failed => ?_,
      carries.poll_settles (undisposed ops List.prefix_rfl)⟩
    · obtain ⟨all, -⟩ | ⟨e, all, -⟩ := carries.settled settled
      · exact (congrArg Prod.fst all).symm
      · have empty := unlost.resolve_left (by simp [sent, all])
        simp [sent, all, empty]
    · obtain ⟨all, -⟩ | ⟨e', all, failed, closed⟩ := carries.settled settled
      · simp [sent, all] at fails
      · obtain rfl : e' = e := by simpa [sent, all] using fails
        exact ⟨failed, closed, (congrArg Prod.fst all).symm⟩
    · obtain ⟨-, unfailed⟩ | ⟨e', all, -⟩ := carries.settled (.inl (by simp [failed]))
      · exact unfailed e failed
      · simp [sent, all] at succeeds
  · intro frames x
    have start : (Transmission.start limit).Waits limit [] := ⟨rfl, rfl, rfl, rfl, rfl, rfl, rfl⟩
    exact start.one_by_one frames

/-- The operations that send frames and write them out as one batch. -/
def asBatch (fs : List Frame) : List Transmission.Operation := fs.map (.send 0) ++ [.poll]

/-- Two grants in one batch. -/
theorem FramedConnection.grants_as_batch :
    let grant := Frame.requestN (.ofNat 1) 8
    let x := (Transmission.start 64).after (asBatch [grant, grant])
    (Transmission.start 64).Undisposed (asBatch [grant, grant]) ∧ x.isIdle = true ∧
      ((Framing.new 64).transmit x.accepted).2 = none ∧
      x.connection.sink.taken = ((Framing.new 64).transmit [grant, grant]).1 := by
  intro grant x
  have undisposed : (Transmission.start 64).Undisposed (asBatch [grant, grant]) := by
    intro earlier within
    rw [List.prefix_iff_eq_take.mp within]
    have few : earlier.length ≤ 3 := within.length_le
    generalize earlier.length = n at few
    revert n
    decide +kernel
  have idle : x.isIdle = true := by decide +kernel
  have accepted : x.accepted = [grant, grant] := by decide +kernel
  have succeeds : ((Framing.new 64).transmit x.accepted).2 = none := by decide +kernel
  have sent := ((FramedConnection.batches_as_frames 64).1 _ undisposed).1 (.inr idle) (.inl succeeds)
  rw [accepted] at sent
  exact ⟨undisposed, idle, succeeds, sent⟩

/-- A grant, and an item that is too long for the limit. -/
def grantAndItem : List Frame :=
  [.requestN (.ofNat 1) 8, .next (.ofNat 1) (.ofData (List.replicate 64 0))]

/-- A grant that has been queued ahead of an item that cannot be encoded is not sent if both are in one
batch. -/
theorem FramedConnection.grant_lost :
    let x := (Transmission.start 64).after (asBatch grantAndItem)
    (Transmission.start 64).Undisposed (asBatch grantAndItem) ∧ x.accepted = grantAndItem ∧
      x.connection.sink.capacity = none ∧
      x.result = some (.error (.codec (.oversizedFrame 70 64))) ∧
      (Framing.new 64).transmit x.accepted = (grantBody.record, some (.oversizedFrame 70 64)) ∧
      x.connection.sink.taken = [] := by
  intro x
  refine ⟨?_, by decide +kernel, by decide +kernel, by cbv, by decide +kernel, by decide +kernel⟩
  intro earlier within
  rw [List.prefix_iff_eq_take.mp within]
  have few : earlier.length ≤ 3 := within.length_le
  generalize earlier.length = n at few
  revert n
  decide +kernel

end Multiplexer
