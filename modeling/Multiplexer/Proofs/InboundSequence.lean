import Multiplexer.Proofs.RecordSequence
import Multiplexer.Session.Steps

/-!
The sequence of frames that a connection over a byte stream hands out. It is told by the bytes alone:
the frames of the records in front, then one error if the next record is malformed or the bytes end
inside of it, and then the end. How the bytes arrive, when the sequence is polled and what the writing
half does meanwhile make no difference.
-/

namespace Multiplexer

variable {framing : Framing} {buffer : Bytes} {reading : Reading} {limit : Nat}
  {items : List (Except CodecError Frame)}

/-- What a poll comes to if these items are still to come of the bytes that have arrived and of some that
will. -/
inductive FrameReader.Answers (future : Bytes) (items : List (Except CodecError Frame)) :
    FrameReader × ByteSource × Receipt Arrival → Prop
  | frame {r : FrameReader} {s : ByteSource} {f : Frame} {others : List (Except CodecError Frame)}
      (first : items = .ok f :: others)
      (behind : r.framing.Yields (r.buffer ++ (s.unread ++ future)) others) :
      Answers future items (r, s, .item (.ok f))
  | error {r : FrameReader} {s : ByteSource} {e : CodecError} (last : items = [.error e]) :
      Answers future items (r, s, .item (.error (.codec e)))
  | finished {r : FrameReader} {s : ByteSource} (none : items = []) :
      Answers future items (r, s, .finished)
  | pending {r : FrameReader} {s : ByteSource} (going : s.ended = false)
      (behind : r.framing.Yields (r.buffer ++ (s.unread ++ future)) items) :
      Answers future items (r, s, .pending)

variable {r : FrameReader} {s : ByteSource} {future : Bytes}

/-- What an attempt comes to, if it comes to something, whatever it is to mean otherwise. -/
theorem FrameReader.answers_conclude {more : Bytes} {otherwise : Receipt Arrival}
    (h : framing.Yields (buffer ++ more) items) (reads : framing.Reads buffer reading)
    (comes : reading.result ≠ .ok none) (future_eq : more = s.unread ++ future) :
    FrameReader.Answers future items ((FrameReader.conclude reading otherwise).1, s,
      (FrameReader.conclude reading otherwise).2) := by
  subst future_eq
  cases result : reading.result with
  | error e =>
    simp only [FrameReader.conclude, result]
    exact .error (h.of_error reads result)
  | ok read =>
    cases read with
    | none => exact absurd result comes
    | some f =>
      obtain ⟨others, first, behind⟩ := h.of_frame reads result
      simp only [FrameReader.conclude, result]
      exact .frame first behind

theorem FrameReader.answers_pollSource (h : r.framing.Yields (r.buffer ++ (s.unread ++ future)) items)
    (sound : s.failure = none) (whole : s.ended = true → future = []) :
    FrameReader.Answers future items (r.pollSource s) := by
  rw [← List.append_assoc] at h
  cases ended : s.ended with
  | false =>
    have reads := r.framing.reads_read (r.buffer ++ s.unread)
    simp only [FrameReader.pollSource, sound, ended]
    by_cases idle : (r.framing.read (r.buffer ++ s.unread)).result = .ok none
    · simp only [FrameReader.conclude, idle]
      exact .pending rfl (h.of_idle reads idle)
    · exact FrameReader.answers_conclude h reads idle rfl
  | true =>
    rw [whole ended, List.append_nil] at h
    simp only [FrameReader.pollSource, sound, ended, whole ended]
    cases h with
    | frame read behind =>
      simp only [FrameReader.conclude, read]
      exact .frame rfl (by simpa using behind)
    | error read =>
      simp only [FrameReader.conclude, read]
      exact .error rfl
    | finished read =>
      simp only [FrameReader.conclude, read]
      exact .finished rfl

theorem FrameReader.answers_poll (h : r.framing.Yields (r.buffer ++ (s.unread ++ future)) items)
    (sound : s.failure = none) (whole : s.ended = true → future = []) :
    FrameReader.Answers future items (r.poll s) := by
  have reads := r.framing.reads_read r.buffer
  by_cases idle : (r.framing.read r.buffer).result = .ok none
  · simp only [FrameReader.poll, idle]
    exact FrameReader.answers_pollSource (h.of_idle reads idle) sound whole
  · have kept : r.poll s = ((FrameReader.conclude (r.framing.read r.buffer) .pending).1, s,
        (FrameReader.conclude (r.framing.read r.buffer) .pending).2) := by
      dsimp only [FrameReader.poll]
      split
      next none => exact absurd none idle
      next => rfl
    rw [kept]
    exact FrameReader.answers_conclude h reads idle rfl

theorem FrameReader.poll_source (r : FrameReader) (s : ByteSource) :
    (r.poll s).2.1.ended = s.ended ∧ (r.poll s).2.1.failure = s.failure := by
  dsimp only [FrameReader.poll]
  split <;> exact ⟨rfl, rfl⟩

/-! ### Runs of a connection -/

/-- Something that happens to a connection whose inbound sequence has been handed out. -/
inductive FramedConnection.Operation where
  | feed (bytes : Bytes)
  | endInput
  /-- The inbound sequence is polled. -/
  | poll
  | send (q : Outbound)
  /-- Sending goes on, from a queue in whatever state. -/
  | pollSend (q : Outbound)
  | setCapacity (n : Option Nat)
  | failWrites (message : String)
  | dispose
deriving DecidableEq

/-- The bytes that an operation lets arrive. -/
def FramedConnection.Operation.fed : FramedConnection.Operation → Bytes
  | .feed bytes => bytes
  | .endInput | .poll | .send _ | .pollSend _ | .setCapacity _ | .failWrites _ | .dispose => []

/-- The bytes that arrive in a run. -/
def fedBytes (ops : List FramedConnection.Operation) : Bytes := ops.flatMap FramedConnection.Operation.fed

/-- Nothing arrives once the input has ended. -/
def FeedsWhole (ops : List FramedConnection.Operation) : Prop :=
  ops.Pairwise fun earlier later => earlier = .endInput → later.fed = []

/-- A connection, its inbound sequence, and what the polls of the sequence have answered. -/
structure Reception where
  connection : FramedConnection
  sequence : InboundSequence
  receipts : List (Receipt Arrival)

def Reception.start (limit : Nat) : Reception :=
  let (connection, sequence) := (FramedConnection.new limit).receive
  ⟨connection, sequence, []⟩

def Reception.perform (x : Reception) : FramedConnection.Operation → Reception
  | .feed bytes => { x with connection := x.connection.feed bytes }
  | .endInput => { x with connection := x.connection.endInput }
  | .poll =>
    let (connection, sequence, receipt) := x.connection.next x.sequence
    ⟨connection, sequence, x.receipts ++ [receipt]⟩
  | .send q => { x with connection := (x.connection.send q).1 }
  | .pollSend q => { x with connection := (x.connection.pollSend q).1 }
  | .setCapacity n => { x with connection := x.connection.setCapacity n }
  | .failWrites message => { x with connection := x.connection.failWrites message }
  | .dispose => { x with connection := x.connection.dispose }

def Reception.after (x : Reception) (ops : List FramedConnection.Operation) : Reception :=
  ops.foldl Reception.perform x

def Receipt.item? {α : Type} : Receipt α → Option α
  | .item a => some a
  | .pending | .finished => none

/-- The items that the sequence has had. -/
def Reception.arrivals (x : Reception) : List Arrival := x.receipts.filterMap Receipt.item?

/-- At no time in a run has the connection been closed before its inbound sequence has ended. -/
def Reception.Undisposed (x : Reception) (ops : List FramedConnection.Operation) : Prop :=
  ∀ earlier, earlier <+: ops → (x.after earlier).sequence = .reading →
    (x.after earlier).connection.closed = false

/-- An item of a reader as an item of the inbound sequence. -/
def Arrival.ofItem : Except CodecError Frame → Arrival
  | .ok f => .ok f
  | .error e => .error (.codec e)

variable {x : Reception} {op : FramedConnection.Operation} {ops rest : List FramedConnection.Operation}

/-- What is done to a connection leaves its reading half alone, and does not open it again. -/
structure FramedConnection.ReadsAlike (c c' : FramedConnection) : Prop where
  reader : c'.reader = c.reader
  source : c'.source = c.source
  closed : c.closed = true → c'.closed = true

theorem FramedConnection.ReadsAlike.trans {a b c : FramedConnection} (h : a.ReadsAlike b)
    (h' : b.ReadsAlike c) : a.ReadsAlike c :=
  ⟨h'.reader.trans h.reader, h'.source.trans h.source, fun closed => h'.closed (h.closed closed)⟩

theorem FramedConnection.stopSending_readsAlike (c : FramedConnection) (q : Outbound)
    (result : Except TransportError Unit) : c.ReadsAlike (c.stopSending q result).1 :=
  ⟨rfl, rfl, fun _ => rfl⟩

theorem FramedConnection.afterBatch_readsAlike (c : FramedConnection) (q : Outbound) (batch : Batch)
    {next : FramedConnection → Outbound → SendProgress}
    (h : ∀ (c : FramedConnection) q, c.ReadsAlike (next c q).1) :
    c.ReadsAlike (c.afterBatch q batch next).1 := by
  have written : c.ReadsAlike { c with
      writer := batch.writer, sink := batch.sink, stalled := batch.result.isNone } := ⟨rfl, rfl, id⟩
  dsimp only [FramedConnection.afterBatch]
  split
  next => exact written.trans (FramedConnection.stopSending_readsAlike _ _ _)
  next => exact written.trans (h _ _)
  next =>
    split
    next => exact written.trans (FramedConnection.stopSending_readsAlike _ _ _)
    next => exact written

theorem FramedConnection.awaitFrames_readsAlike (c : FramedConnection) (q : Outbound) :
    c.ReadsAlike (c.awaitFrames q).1 := by
  unfold FramedConnection.awaitFrames
  split
  next => exact c.stopSending_readsAlike _ _
  next => exact ⟨rfl, rfl, id⟩

theorem FramedConnection.sendQueued_readsAlike (c : FramedConnection) (q : Outbound) :
    c.ReadsAlike (c.sendQueued q).1 := by
  unfold FramedConnection.sendQueued
  split
  next => exact c.stopSending_readsAlike _ _
  split
  next => exact c.awaitFrames_readsAlike q
  next => exact c.afterBatch_readsAlike q _ FramedConnection.awaitFrames_readsAlike

theorem FramedConnection.pollSend_readsAlike (c : FramedConnection) (q : Outbound) :
    c.ReadsAlike (c.pollSend q).1 := by
  unfold FramedConnection.pollSend
  split
  next => exact c.afterBatch_readsAlike q _ FramedConnection.sendQueued_readsAlike
  next => exact c.sendQueued_readsAlike q

theorem FramedConnection.send_readsAlike (c : FramedConnection) (q : Outbound) :
    c.ReadsAlike (c.send q).1 := by
  unfold FramedConnection.send
  split <;> exact ⟨rfl, rfl, id⟩

/-- What has been answered so far, and what is still to come of the bytes that have arrived and of some
that will: together the items that are expected. -/
inductive Reception.Follows (expected : List (Except CodecError Frame)) (future : Bytes)
    (x : Reception) : Prop
  | reading (got : List Frame) {items : List (Except CodecError Frame)}
      (going : x.sequence = .reading) (arrivals : x.arrivals = got.map .ok)
      (unfinished : .finished ∉ x.receipts) (expects : expected = got.map .ok ++ items)
      (sound : x.connection.source.failure = none)
      (whole : x.connection.source.ended = true → future = [])
      (behind : x.connection.reader.framing.Yields
        (x.connection.reader.buffer ++ (x.connection.source.unread ++ future)) items)
  | ended (stopped : x.sequence = .ended) (arrivals : x.arrivals = expected.map Arrival.ofItem)
      (closed : x.connection.closed = true)

variable {expected : List (Except CodecError Frame)}

theorem Reception.Follows.readsAlike {c : FramedConnection} (h : x.Follows expected future)
    (alike : x.connection.ReadsAlike c) :
    Reception.Follows expected future { x with connection := c } := by
  cases h with
  | reading got going arrivals unfinished expects sound whole behind =>
    refine .reading got going arrivals unfinished expects ?_ ?_ ?_
    · rw [alike.source]; exact sound
    · rw [alike.source]; exact whole
    · rw [alike.source, alike.reader]; exact behind
  | ended stopped arrivals closed => exact .ended stopped arrivals (alike.closed closed)

theorem Reception.arrivals_answer (x : Reception) (c : FramedConnection) (sequence : InboundSequence)
    (receipt : Receipt Arrival) :
    Reception.arrivals ⟨c, sequence, x.receipts ++ [receipt]⟩ = x.arrivals ++ receipt.item?.toList := by
  rw [Reception.arrivals, List.filterMap_append]
  cases receipt <;> rfl

/-- A sequence that has not ended polls its reader on a connection that has not been closed. -/
theorem Reception.perform_poll (going : x.sequence = .reading)
    (up : x.connection.closed = false) :
    x.perform .poll =
      let (reader, source, receipt) := x.connection.reader.poll x.connection.source
      let c := { x.connection with reader, source }
      ⟨match receipt with
        | .pending | .item (.ok _) => c
        | .item (.error _) | .finished => c.dispose,
      match receipt with
        | .pending | .item (.ok _) => .reading
        | .item (.error _) | .finished => .ended,
      x.receipts ++ [receipt]⟩ := by
  simp only [Reception.perform, going, FramedConnection.next, up, Bool.false_eq_true, if_false]
  split <;> simp_all

/-- A poll answers with the next item, or waits for more bytes, or the sequence ends. -/
theorem Reception.Follows.poll (h : x.Follows expected future)
    (up : x.sequence = .reading → x.connection.closed = false) :
    (x.perform .poll).Follows expected future := by
  cases h with
  | ended stopped arrivals closed =>
    have same : x.perform .poll = ⟨x.connection, .ended, x.receipts ++ [.finished]⟩ := by
      simp only [Reception.perform, stopped, FramedConnection.next]
    rw [same]
    exact .ended rfl (by rw [x.arrivals_answer, arrivals]; exact List.append_nil _) closed
  | @reading got items going arrivals unfinished expects sound whole behind =>
    have answers := FrameReader.answers_poll behind sound whole
    have kept := x.connection.reader.poll_source x.connection.source
    rw [Reception.perform_poll going (up going)]
    generalize x.connection.reader.poll x.connection.source = answer at answers kept
    cases answers with
    | @frame r s f others first behind =>
      refine .reading (got ++ [f]) rfl ?_ ?_ ?_ (kept.2.trans sound)
        (fun ended => whole (kept.1 ▸ ended)) behind
      · rw [x.arrivals_answer, arrivals, List.map_append]
        rfl
      · simpa using unfinished
      · rw [expects, first, List.map_append, List.append_assoc]
        rfl
    | error last =>
      refine .ended rfl ?_ rfl
      rw [x.arrivals_answer, arrivals, expects, last, List.map_append, List.map_map]
      rfl
    | finished none =>
      refine .ended rfl ?_ rfl
      rw [x.arrivals_answer, arrivals, expects, none, List.map_append, List.map_map]
      rfl
    | pending going behind =>
      refine .reading got rfl ?_ ?_ expects (kept.2.trans sound)
        (fun ended => whole (kept.1 ▸ ended)) behind
      · rw [x.arrivals_answer, arrivals]
        exact List.append_nil _
      · simpa using unfinished

theorem Reception.Follows.perform (h : x.Follows expected (op.fed ++ future))
    (last : op = .endInput → future = [])
    (up : x.sequence = .reading → x.connection.closed = false) :
    (x.perform op).Follows expected future := by
  cases op with
  | poll => exact h.poll up
  | send q => exact h.readsAlike (x.connection.send_readsAlike q)
  | pollSend q => exact h.readsAlike (x.connection.pollSend_readsAlike q)
  | setCapacity n => exact h.readsAlike ⟨rfl, rfl, id⟩
  | failWrites message => exact h.readsAlike ⟨rfl, rfl, id⟩
  | dispose => exact h.readsAlike ⟨rfl, rfl, fun _ => rfl⟩
  | feed bytes =>
    cases h with
    | ended stopped arrivals closed => exact .ended stopped arrivals closed
    | reading got going arrivals unfinished expects sound whole behind =>
      refine .reading got going arrivals unfinished expects sound ?_ ?_
      · exact fun ended => (List.append_eq_nil_iff.mp (whole ended)).2
      · show Framing.Yields _ (_ ++ ((_ ++ bytes) ++ future)) _
        rw [List.append_assoc]
        exact behind
  | endInput =>
    cases h with
    | ended stopped arrivals closed => exact .ended stopped arrivals closed
    | reading got going arrivals unfinished expects sound whole behind =>
      exact .reading got going arrivals unfinished expects sound (fun _ => last rfl) behind

theorem Reception.Undisposed.first (h : x.Undisposed (op :: ops)) :
    x.sequence = .reading → x.connection.closed = false :=
  h [] (List.nil_prefix)

theorem Reception.Undisposed.of_cons (h : x.Undisposed (op :: ops)) : (x.perform op).Undisposed ops :=
  fun earlier within => h (op :: earlier) (List.cons_prefix_cons.mpr ⟨rfl, within⟩)

theorem FeedsWhole.behind_end (h : FeedsWhole (.endInput :: ops)) : fedBytes ops = [] :=
  List.flatMap_eq_nil_iff.mpr fun op later => (List.pairwise_cons.mp h).1 op later rfl

/-- The first operation of a run keeps to what is expected. -/
theorem Reception.Follows.first (h : x.Follows expected (fedBytes (op :: ops ++ rest)))
    (whole : FeedsWhole (op :: ops ++ rest)) (undisposed : x.Undisposed (op :: ops)) :
    (x.perform op).Follows expected (fedBytes (ops ++ rest)) := by
  refine h.perform ?_ undisposed.first
  rintro rfl
  exact whole.behind_end

/-- A run keeps to what is expected, whatever is still to arrive. -/
theorem Reception.Follows.run (h : x.Follows expected (fedBytes (ops ++ rest)))
    (whole : FeedsWhole (ops ++ rest)) (undisposed : x.Undisposed ops) :
    (x.after ops).Follows expected (fedBytes rest) := by
  induction ops generalizing x with
  | nil => exact h
  | cons op ops ih =>
    exact ih (h.first whole undisposed) (List.Pairwise.of_cons whole) undisposed.of_cons

/-! ### The end of the input -/

theorem Reception.perform_ended (h : x.connection.source.ended = true)
    (op : FramedConnection.Operation) : (x.perform op).connection.source.ended = true := by
  cases op with
  | feed | setCapacity | failWrites | dispose => exact h
  | endInput => rfl
  | send q => exact (x.connection.send_readsAlike q).source ▸ h
  | pollSend q => exact (x.connection.pollSend_readsAlike q).source ▸ h
  | poll =>
    cases going : x.sequence with
    | refused | ended =>
      simp only [Reception.perform, going, FramedConnection.next]
      exact h
    | reading =>
      cases up : x.connection.closed with
      | true =>
        simp only [Reception.perform, going, FramedConnection.next, up, if_true]
        exact h
      | false =>
        have kept := (x.connection.reader.poll_source x.connection.source).1.trans h
        rw [Reception.perform_poll going up]
        dsimp only
        split <;> exact kept

/-- Once the input has ended no poll waits. -/
theorem Reception.Follows.answered (h : x.Follows expected future)
    (ended : x.connection.source.ended = true)
    (up : x.sequence = .reading → x.connection.closed = false) :
    ∃ receipt, (x.perform .poll).receipts = x.receipts ++ [receipt] ∧ receipt ≠ .pending := by
  cases h with
  | ended stopped =>
    exact ⟨.finished, by simp only [Reception.perform, stopped, FramedConnection.next], nofun⟩
  | reading _ going arrivals unfinished expects sound whole behind =>
    have answers := FrameReader.answers_poll behind sound whole
    have kept := (x.connection.reader.poll_source x.connection.source).1.trans ended
    rw [Reception.perform_poll going (up going)]
    generalize x.connection.reader.poll x.connection.source = answer at answers kept
    refine ⟨answer.2.2, rfl, ?_⟩
    cases answers with
    | frame | error | finished => nofun
    | pending going => exact absurd (going.symm.trans kept) (by decide)

theorem Reception.Follows.run_answered (h : x.Follows expected (fedBytes (ops ++ rest)))
    (ended : x.connection.source.ended = true) (whole : FeedsWhole (ops ++ rest))
    (undisposed : x.Undisposed ops) :
    ∃ answers, (x.after ops).receipts = x.receipts ++ answers ∧ answers.length = ops.count .poll ∧
      .pending ∉ answers := by
  induction ops generalizing x with
  | nil => exact ⟨[], (List.append_nil _).symm, rfl, List.not_mem_nil⟩
  | cons op ops ih =>
    obtain ⟨answers, receipts, length, quick⟩ :=
      ih (h.first whole undisposed) (Reception.perform_ended ended op) (List.Pairwise.of_cons whole)
        undisposed.of_cons
    by_cases polls : op = .poll
    · subst polls
      obtain ⟨receipt, first, now⟩ := h.answered ended undisposed.first
      refine ⟨receipt :: answers, ?_, ?_, ?_⟩
      · show ((x.perform .poll).after ops).receipts = _
        rw [receipts, first, List.append_assoc, List.singleton_append]
      · rw [List.length_cons, length, List.count_cons_self]
      · simp [quick, now.symm]
    · refine ⟨answers, ?_, ?_, quick⟩
      · show ((x.perform op).after ops).receipts = _
        rw [receipts]
        cases op <;> first | rfl | exact absurd rfl polls
      · rw [length, List.count_cons_of_ne polls]

/-- Answers that neither wait nor end are items. -/
theorem Receipt.length_items {α : Type} {answers : List (Receipt α)} (quick : .pending ∉ answers)
    (unfinished : .finished ∉ answers) : (answers.filterMap Receipt.item?).length = answers.length := by
  induction answers with
  | nil => rfl
  | cons receipt answers ih =>
    have others := ih (List.not_mem_of_not_mem_cons quick) (List.not_mem_of_not_mem_cons unfinished)
    cases receipt with
    | item a => simp [Receipt.item?, others]
    | pending => exact absurd List.mem_cons_self quick
    | finished => exact absurd List.mem_cons_self unfinished

theorem Reception.Follows.hears (h : x.Follows expected future) :
    x.arrivals <+: expected.map Arrival.ofItem ∧
    (.finished ∈ x.receipts → x.arrivals = expected.map Arrival.ofItem) ∧
    (.finished ∈ x.receipts ∨ (∃ e, .error e ∈ x.arrivals) → x.connection.closed = true) := by
  cases h with
  | ended stopped arrivals closed =>
    exact ⟨arrivals ▸ List.prefix_rfl, fun _ => arrivals, fun _ => closed⟩
  | @reading got items going arrivals unfinished expects =>
    refine ⟨?_, fun finished => absurd finished unfinished, ?_⟩
    · rw [arrivals, expects, List.map_append, List.map_map]
      exact List.prefix_append _ _
    · rintro (finished | ⟨e, failed⟩)
      · exact absurd finished unfinished
      · simp [arrivals] at failed

theorem Reception.after_append (x : Reception) (before after : List FramedConnection.Operation) :
    x.after (before ++ after) = (x.after before).after after :=
  List.foldl_append

/-- From the end of the input on every poll is answered, with the end once the items are used up. -/
theorem Reception.Follows.to_end (h : x.Follows expected (fedBytes (.endInput :: ops)))
    (whole : FeedsWhole (.endInput :: ops)) (undisposed : x.Undisposed (.endInput :: ops)) :
    ∃ answers, (x.after (.endInput :: ops)).receipts = x.receipts ++ answers ∧
      answers.length = ops.count .poll ∧ .pending ∉ answers ∧
      (expected.length < answers.length → .finished ∈ answers) := by
  rw [← List.append_nil (.endInput :: ops)] at h whole
  have step : (x.perform .endInput).Follows expected (fedBytes (ops ++ [])) :=
    h.perform (fun _ => whole.behind_end) undisposed.first
  obtain ⟨answers, receipts, length, quick⟩ :=
    step.run_answered rfl (List.Pairwise.of_cons whole) undisposed.of_cons
  refine ⟨answers, receipts, length, quick, fun more => Classical.byContradiction fun unfinished => ?_⟩
  have heard := (step.run (List.Pairwise.of_cons whole) undisposed.of_cons).hears.1.length_le
  have items := Receipt.length_items quick unfinished
  have count : ((x.perform .endInput).after ops).arrivals.length =
      (x.receipts.filterMap Receipt.item?).length + answers.length := by
    rw [Reception.arrivals, receipts, List.filterMap_append, List.length_append, items]
    rfl
  rw [count, List.length_map] at heard
  omega

theorem Reception.start_follows {bytes tail : Bytes} {frames : List Frame} {error : Option CodecError}
    (splits : Framing.Splits limit bytes frames tail) (ends : Framing.Ends limit tail error) :
    (Reception.start limit).Follows (frames.map .ok ++ (error.map Except.error).toList) bytes :=
  .reading [] rfl rfl List.not_mem_nil rfl rfl nofun (splits.yields ends)

/-- The inbound sequence of a connection over a byte stream that is not closed from elsewhere, whatever
the limit and the bytes, however the bytes are cut, and whenever the sequence is polled. The bytes are the
records of some frames and a tail that has no such record in front. The sequence has the frames in
order, and then an error if the tail is malformed in front or ends inside of a record, and nothing
after it; once the input has ended no poll waits, and the end comes after the items. The connection has
closed when an error or the end is answered. Where nothing is malformed there is no error just when the
bytes end behind a record or behind the prefix of a body that is not empty. -/
theorem FramedConnection.inbound_sequence (limit : Nat) (bytes : Bytes) :
    ∃ frames tail error, Framing.Splits limit bytes frames tail ∧ Framing.Ends limit tail error ∧
      (∀ body f rest, body.length ≤ (Framing.new limit).limit → Frame.decode body = .ok f →
        tail ≠ body.record ++ rest) ∧
      ((∀ e, ¬ Framing.Malformed limit tail e) → (error = none ↔ tail = [] ∨
        ∃ n, 0 < n ∧ n ≤ (Framing.new limit).limit ∧ tail = Bytes.ofNat prefixWidth n)) ∧
      ∀ ops, fedBytes ops = bytes → FeedsWhole ops → (Reception.start limit).Undisposed ops →
        let expected := frames.map .ok ++ (error.map fun e => .error (.codec e)).toList
        (∀ earlier, earlier <+: ops →
          let x := (Reception.start limit).after earlier
          x.arrivals <+: expected ∧ (.finished ∈ x.receipts → x.arrivals = expected) ∧
          (.finished ∈ x.receipts ∨ (∃ e, .error e ∈ x.arrivals) → x.connection.closed = true)) ∧
        ∀ before after, ops = before ++ .endInput :: after →
          ∃ answers, ((Reception.start limit).after ops).receipts =
              ((Reception.start limit).after before).receipts ++ answers ∧
            answers.length = after.count .poll ∧ .pending ∉ answers ∧
            (expected.length < answers.length → .finished ∈ answers) := by
  obtain ⟨frames, tail, error, splits, ends⟩ := Framing.splits limit bytes
  refine ⟨frames, tail, error, splits, ends, fun body f rest within decoded =>
    ends.ne_record within decoded rest, ends.eq_none_iff, ?_⟩
  intro ops fed whole undisposed expected
  have start := Reception.start_follows splits ends
  have same : (frames.map Except.ok ++ (error.map Except.error).toList).map Arrival.ofItem =
      expected := by
    cases error <;> simp [expected, Arrival.ofItem]
  rw [← fed] at start
  have follows {earlier rest : List FramedConnection.Operation} (split : earlier ++ rest = ops) :=
    Reception.Follows.run (split ▸ start) (split ▸ whole)
      fun sooner within => undisposed sooner (within.trans ⟨rest, split⟩)
  constructor
  · rintro earlier ⟨rest, split⟩
    exact same ▸ (follows split).hears
  · rintro before after rfl
    have left : FeedsWhole (.endInput :: after) := (List.pairwise_append.mp whole).2.1
    have up : ((Reception.start limit).after before).Undisposed (.endInput :: after) := by
      intro earlier within
      rw [← Reception.after_append]
      exact undisposed _ ((List.prefix_append_right_inj before).mpr within)
    rw [Reception.after_append, ← same, List.length_map]
    exact (follows rfl).to_end left up

/-- A grant that comes in two pieces, and two bytes of another prefix. -/
def grantThenCut : List FramedConnection.Operation :=
  [.feed [0, 0], .poll, .feed ([10] ++ grantBody ++ [0, 0]), .poll, .poll, .endInput, .poll, .poll]

theorem FramedConnection.inbound_sequence_of_cut :
    fedBytes grantThenCut = grantBody.record ++ [0, 0] ∧ FeedsWhole grantThenCut ∧
      (Reception.start 64).Undisposed grantThenCut ∧
      ((Reception.start 64).after grantThenCut).connection.closed = true ∧
      ∃ frames tail error, Framing.Splits 64 (grantBody.record ++ [0, 0]) frames tail ∧
        Framing.Ends 64 tail error ∧
        frames.map Except.ok ++ (error.map fun e => .error (.codec e)).toList =
          [.ok (.requestN (.ofNat 1) 8), .error (TransportError.codec .bytesRemaining)] := by
  have whole : FeedsWhole grantThenCut := by
    unfold FeedsWhole
    decide
  have undisposed : (Reception.start 64).Undisposed grantThenCut := by
    intro earlier within
    rw [List.prefix_iff_eq_take.mp within]
    have few : earlier.length ≤ 8 := within.length_le
    generalize earlier.length = n at few
    revert n
    decide +kernel
  obtain ⟨frames, tail, error, splits, ends, -, -, run⟩ :=
    FramedConnection.inbound_sequence 64 (grantBody.record ++ [0, 0])
  obtain ⟨-, all, closed⟩ := (run grantThenCut rfl whole undisposed).1 grantThenCut List.prefix_rfl
  have receipts : ((Reception.start 64).after grantThenCut).receipts =
      [.pending, .item (.ok (.requestN (.ofNat 1) 8)), .pending,
        .item (.error (.codec .bytesRemaining)), .finished] := by cbv
  have finished : .finished ∈ ((Reception.start 64).after grantThenCut).receipts := by simp [receipts]
  have arrivals : ((Reception.start 64).after grantThenCut).arrivals =
      [.ok (.requestN (.ofNat 1) 8), .error (.codec .bytesRemaining)] := by
    rw [Reception.arrivals, receipts]
    rfl
  exact ⟨rfl, whole, undisposed, closed (.inl finished), frames, tail, error, splits, ends,
    (all finished).symm.trans arrivals⟩

end Multiplexer
