import Multiplexer.Connection.Framed

/-!
Batches of frames on their way to the peer. What the peer has taken, and with it what waits in the write
buffer, are the encodings of the frames one after another, up to the first that cannot be encoded.
-/

namespace Multiplexer

/-- The encodings of frames one after another, up to the first that cannot be encoded, and why that one
cannot. -/
def Framing.transmit (framing : Framing) : List Frame → Bytes × Option CodecError
  | [] => ([], none)
  | f :: fs =>
    match framing.write f with
    | .error e => ([], some e)
    | .ok bytes =>
      let (more, failure) := framing.transmit fs
      (bytes ++ more, failure)

variable {framing : Framing} {f : Frame} {fs gs : List Frame} {bytes : Bytes} {w : FrameWriter}
  {s : ByteSink}

/-- Frames that can be encoded are in front of whatever comes behind them. -/
theorem Framing.transmit_append (h : framing.transmit fs = (bytes, none)) (gs : List Frame) :
    framing.transmit (fs ++ gs) = (bytes ++ (framing.transmit gs).1, (framing.transmit gs).2) := by
  induction fs generalizing bytes with
  | nil =>
    cases h
    rfl
  | cons f fs ih =>
    simp only [Framing.transmit, List.cons_append] at h ⊢
    cases written : framing.write f with
    | error e =>
      rw [written] at h
      cases h
    | ok first =>
      rw [written] at h
      obtain ⟨rfl, unfailed⟩ := Prod.mk.inj h
      simp only [ih (Prod.ext rfl unfailed), List.append_assoc]

/-- Everything that has been handed to the peer or waits for it. -/
def ByteSink.withPending (s : ByteSink) (w : FrameWriter) : Bytes := s.taken ++ w.buffer

/-- Writing goes as far as the peer takes the bytes, and loses none. -/
inductive ByteSink.Writes (s : ByteSink) (bs : Bytes) : ByteSink × Bytes × WriteProgress → Prop
  | done {s' : ByteSink} (sound : s'.failure = none) (taken : s'.taken = s.taken ++ bs)
      (reads : s.capacity = none → s'.capacity = none) : Writes s bs (s', [], .done)
  | blocked {s' : ByteSink} {rest : Bytes} (sound : s'.failure = none) (left : rest ≠ [])
      (taken : s'.taken ++ rest = s.taken ++ bs) (full : s'.capacity = some 0)
      (stops : s.capacity ≠ none) : Writes s bs (s', rest, .blocked)

theorem ByteSink.writes_write (sound : s.failure = none) (bs : Bytes) : s.Writes bs (s.write bs) := by
  obtain ⟨taken, capacity, failure⟩ := s
  cases sound
  cases bs with
  | nil => exact .done rfl (List.append_nil _).symm id
  | cons b bs =>
    cases capacity with
    | none => exact .done rfl rfl id
    | some n =>
      by_cases short : n < (b :: bs).length
      · simp only [ByteSink.write, if_pos short, Nat.sub_eq_zero_of_le (Nat.le_of_lt short)]
        refine .blocked rfl ?_ ?_ rfl nofun
        · exact List.ne_nil_of_length_pos (by rw [List.length_drop]; omega)
        · rw [List.append_assoc, List.take_append_drop]
      · have all : (b :: bs).length ≤ n := Nat.not_lt.mp short
        simp only [ByteSink.write, if_neg short, List.drop_of_length_le all, List.take_of_length_le all]
        exact .done rfl rfl nofun

/-- What becomes of frames that are written behind what waits already: all have been taken, or the peer
takes no more for now and one of them may be held, or one cannot be encoded. -/
inductive FrameWriter.Writes (w : FrameWriter) (s : ByteSink) (fs : List Frame) : Batch → Prop
  | done {b : Batch} {bytes : Bytes} (result : b.result = some (.ok ()))
      (framing : b.writer.framing = w.framing) (free : b.writer.held = none) (rest : b.rest = [])
      (empty : b.writer.buffer = []) (sound : b.sink.failure = none)
      (sent : w.framing.transmit fs = (bytes, none))
      (taken : b.sink.withPending b.writer = s.withPending w ++ bytes)
      (reads : s.capacity = none → b.sink.capacity = none) : Writes w s fs b
  | blocked {b : Batch} (done : List Frame) {bytes : Bytes} (result : b.result = none)
      (framing : b.writer.framing = w.framing) (split : fs = done ++ (b.writer.held.toList ++ b.rest))
      (left : b.writer.buffer ≠ []) (sound : b.sink.failure = none)
      (sent : w.framing.transmit done = (bytes, none))
      (taken : b.sink.withPending b.writer = s.withPending w ++ bytes)
      (full : b.sink.capacity = some 0) (stops : s.capacity ≠ none) : Writes w s fs b
  | failed {b : Batch} {bytes : Bytes} {e : CodecError} (result : b.result = some (.error (.codec e)))
      (sent : w.framing.transmit fs = (bytes, some e))
      (taken : b.sink.withPending b.writer = s.withPending w ++ bytes) : Writes w s fs b

/-- A flush writes no frame, and keeps those that are queued. -/
inductive FrameWriter.Flushes (w : FrameWriter) (s : ByteSink) (fs : List Frame) : Batch → Prop
  | done {s' : ByteSink} (sound : s'.failure = none) (taken : s'.taken = s.withPending w)
      (reads : s.capacity = none → s'.capacity = none) :
      Flushes w s fs ⟨{ w with buffer := [] }, s', fs, some (.ok ())⟩
  | blocked {s' : ByteSink} {left : Bytes} (sound : s'.failure = none) (waits : left ≠ [])
      (taken : s'.taken ++ left = s.withPending w) (full : s'.capacity = some 0)
      (stops : s.capacity ≠ none) : Flushes w s fs ⟨{ w with buffer := left }, s', fs, none⟩

theorem FrameWriter.flushes_flush (w : FrameWriter) (sound : s.failure = none) (fs : List Frame) :
    w.Flushes s fs (w.flush s fs) := by
  have writes := ByteSink.writes_write sound w.buffer
  unfold FrameWriter.flush
  generalize s.write w.buffer = written at writes
  cases writes with
  | done sound taken reads => exact .done sound taken reads
  | blocked sound left taken full stops => exact .blocked sound left taken full stops

/-- A frame that can be encoded is in front of those that are written behind it. -/
theorem FrameWriter.Writes.cons {w' : FrameWriter} {s' : ByteSink} {b : Batch}
    (same : w'.framing = w.framing) (kept : s'.withPending w' = s.withPending w)
    (unlimited : s.capacity = none → s'.capacity = none) (written : w.framing.write f = .ok bytes)
    (h : { w' with buffer := w'.buffer ++ bytes }.Writes s' fs b) : w.Writes s (f :: fs) b := by
  have front : s'.withPending { w' with buffer := w'.buffer ++ bytes } = s.withPending w ++ bytes := by
    rw [← kept, ByteSink.withPending, ByteSink.withPending, List.append_assoc]
  have first {gs : List Frame} {more : Bytes} {failure : Option CodecError}
      (h : w'.framing.transmit gs = (more, failure)) :
      w.framing.transmit (f :: gs) = (bytes ++ more, failure) := by
    rw [Framing.transmit, written, ← same, h]
  cases h with
  | done result framing free rest empty sound sent taken reads =>
    refine .done result (framing.trans same) free rest empty sound (first sent) ?_ (reads ∘ unlimited)
    rw [taken, front, List.append_assoc]
  | blocked done result framing split left sound sent taken full stops =>
    refine .blocked (f :: done) result (framing.trans same) (congrArg _ split) left sound
      (first sent) ?_ full (stops ∘ unlimited)
    rw [taken, front, List.append_assoc]
  | failed result sent taken =>
    refine .failed result (first sent) ?_
    rw [taken, front, List.append_assoc]

/-- The buffer has been made ready for a frame, which goes in if it can be encoded. -/
theorem FrameWriter.Writes.of_room {w' : FrameWriter} {s' : ByteSink}
    (same : w'.framing = w.framing) (kept : s'.withPending w' = s.withPending w)
    (unlimited : s.capacity = none → s'.capacity = none)
    (others : ∀ buffer, { w' with buffer }.Writes s' fs ({ w' with buffer }.writeAll s' fs)) :
    w.Writes s (f :: fs) (match w'.framing.append w'.buffer f with
      | (buffer, .ok ()) => { w' with buffer }.writeAll s' fs
      | (_, .error e) => ⟨w', s', fs, some (.error (.codec e))⟩) := by
  cases written : w'.framing.write f with
  | ok bytes =>
    have call : w'.framing.append w'.buffer f = (w'.buffer ++ bytes, .ok ()) := by
      rw [Framing.append, written]
    rw [call]
    exact .cons same kept unlimited (same ▸ written) (others _)
  | error e =>
    have call : w'.framing.append w'.buffer f = (w'.buffer, .error e) := by
      rw [Framing.append, written]
    rw [call]
    have sent : w.framing.transmit (f :: fs) = ([], some e) := by
      rw [Framing.transmit, ← same, written]
    refine .failed rfl sent ?_
    rw [List.append_nil]
    exact kept

/-- Frames are encoded into the buffer one after another. -/
theorem FrameWriter.writes_writeAll (free : w.held = none) (sound : s.failure = none)
    (fs : List Frame) : w.Writes s fs (w.writeAll s fs) := by
  induction fs generalizing w s with
  | nil =>
    have flushes := w.flushes_flush sound []
    unfold FrameWriter.writeAll
    generalize w.flush s [] = b at flushes
    cases flushes with
    | done sound taken reads =>
      exact .done rfl rfl free rfl rfl sound rfl (by simp [ByteSink.withPending, taken]) reads
    | blocked sound waits taken full stops =>
      exact .blocked [] rfl rfl (by simp [free]) waits sound rfl
        (by simpa [ByteSink.withPending] using taken) full stops
  | cons f fs ih =>
    unfold FrameWriter.writeAll
    by_cases full : fullBuffer ≤ w.buffer.length
    · have flushes := w.flushes_flush sound fs
      simp only [if_pos full]
      generalize w.flush s fs = room at flushes
      cases flushes with
      | @done s' sound taken reads =>
        have kept : s'.withPending { w with buffer := [] } = s.withPending w := by
          rw [ByteSink.withPending, taken]
          exact List.append_nil _
        exact .of_room rfl kept reads fun buffer => ih free sound
      | blocked sound waits taken full stops =>
        exact .blocked [] rfl rfl rfl waits sound rfl
          (by simpa [ByteSink.withPending] using taken) full stops
    · simp only [if_neg full]
      exact .of_room rfl rfl id fun buffer => ih free sound

/-! ### A poll of the writing half -/

/-- No batch is under way, and what has been written is out. What is left of the accepted frames is
queued. -/
structure FramedConnection.Ready (limit : Nat) (accepted : List Frame) (before : ByteSink)
    (c : FramedConnection) (q : Outbound) : Prop where
  framing : c.writer.framing = .new limit
  held : c.writer.held = none
  empty : c.writer.buffer = []
  sound : c.sink.failure = none
  up : c.closed = false
  listens : q.receiver = .receiving
  sent : ∃ done, accepted = done ++ q.queue ∧
    (Framing.new limit).transmit done = (c.sink.taken, none)
  reads : before.capacity = none → c.sink.capacity = none

/-- How a poll of the writing half leaves the accepted frames, which it found with this peer. -/
inductive FramedConnection.Polled (limit : Nat) (accepted : List Frame) (before : ByteSink) :
    SendProgress → Prop
  | idle {c : FramedConnection} {q : Outbound} (ready : c.Ready limit accepted before q)
      (queue : q.queue = []) : Polled limit accepted before (c, q, none)
  | blocked {c : FramedConnection} {q : Outbound} (done : List Frame)
      (framing : c.writer.framing = .new limit) (sound : c.sink.failure = none)
      (listens : q.receiver = .receiving)
      (split : accepted = done ++ (c.writer.held.toList ++ q.queue))
      (sent : (Framing.new limit).transmit done = (c.sink.withPending c.writer, none))
      (full : c.sink.capacity = some 0) (stops : before.capacity ≠ none) :
      Polled limit accepted before (c, q, none)
  | finished {c : FramedConnection} {q : Outbound} (closed : c.closed = true)
      (deaf : q.isClosed = true)
      (sent : (Framing.new limit).transmit accepted = (c.sink.taken, none)) :
      Polled limit accepted before (c, q, some (.ok ()))
  | failed {c : FramedConnection} {q : Outbound} {e : CodecError} (closed : c.closed = true)
      (deaf : q.isClosed = true)
      (sent : (Framing.new limit).transmit accepted = (c.sink.withPending c.writer, some e)) :
      Polled limit accepted before (c, q, some (.error (.codec e)))

variable {limit : Nat} {accepted done : List Frame} {before : ByteSink} {c : FramedConnection}
  {q : Outbound} {b : Batch} {next : FramedConnection → Outbound → SendProgress}

theorem FramedConnection.Ready.sent_all (h : c.Ready limit accepted before q) (queue : q.queue = []) :
    (Framing.new limit).transmit accepted = (c.sink.taken, none) := by
  obtain ⟨done, split, sent⟩ := h.sent
  rw [split, queue, List.append_nil, sent]

theorem FramedConnection.Ready.awaitFrames (h : c.Ready limit accepted before q)
    (queue : q.queue = []) : Polled limit accepted before (c.awaitFrames q) := by
  unfold FramedConnection.awaitFrames
  split
  next => exact .finished rfl rfl (h.sent_all queue)
  next => exact .idle h queue

/-- A batch that writes what is queued behind frames that are on their way. -/
theorem FramedConnection.polled_afterBatch (writes : w.Writes c.sink fs b)
    (framing : w.framing = .new limit) (up : c.closed = false) (listens : q.receiver = .receiving)
    (split : accepted = done ++ fs)
    (sent : (Framing.new limit).transmit done = (c.sink.withPending w, none))
    (reads : before.capacity = none → c.sink.capacity = none)
    (on : ∀ c q, FramedConnection.Ready limit accepted before c q → q.queue = [] →
      Polled limit accepted before (next c q)) :
    Polled limit accepted before (c.afterBatch q b next) := by
  have sent_on {gs : List Frame} {bytes : Bytes} {failure : Option CodecError}
      (h : w.framing.transmit gs = (bytes, failure)) :
      (Framing.new limit).transmit (done ++ gs) = (c.sink.withPending w ++ bytes, failure) := by
    rw [Framing.transmit_append sent, ← framing, h]
  cases writes with
  | done result same free rest empty sound sent taken goes =>
    simp only [FramedConnection.afterBatch, result]
    have ends : accepted = accepted ++ b.rest := by rw [rest, List.append_nil]
    refine on _ _ ⟨same.trans framing, free, empty, sound, up, listens, ⟨accepted, ends, ?_⟩,
      goes ∘ reads⟩ rest
    · rw [ByteSink.withPending, empty, List.append_nil] at taken
      rw [split, sent_on sent, ← taken]
  | blocked _ result same parts left sound sent taken full stops =>
    simp only [FramedConnection.afterBatch, result, up]
    exact .blocked _ (same.trans framing) sound listens (by rw [split, parts, List.append_assoc])
      (by rw [sent_on sent, ← taken]) full (stops ∘ reads)
  | failed result sent taken =>
    simp only [FramedConnection.afterBatch, result]
    exact .failed rfl rfl (by rw [split, sent_on sent, ← taken]; rfl)

theorem FramedConnection.Ready.sendQueued (h : c.Ready limit accepted before q) :
    Polled limit accepted before (c.sendQueued q) := by
  unfold FramedConnection.sendQueued
  rw [if_neg (by simp [h.up])]
  split
  next none => exact h.awaitFrames (List.isEmpty_iff.mp none)
  next =>
    obtain ⟨done, split, sent⟩ := h.sent
    have start : c.sink.withPending c.writer = c.sink.taken := by
      rw [ByteSink.withPending, h.empty, List.append_nil]
    exact polled_afterBatch (FrameWriter.writes_writeAll h.held h.sound _) h.framing h.up h.listens
      split (start ▸ sent) h.reads fun c q => FramedConnection.Ready.awaitFrames

/-- What has been written and what is still to be written are the accepted frames, in order, and sending
ends when all have been written or one cannot be encoded. -/
inductive FramedConnection.Carries (limit : Nat) (accepted : List Frame) : SendProgress → Prop
  | going {c : FramedConnection} {q : Outbound} (done : List Frame)
      (framing : c.writer.framing = .new limit) (sound : c.sink.failure = none)
      (listens : q.receiver = .receiving)
      (split : accepted = done ++ (c.writer.held.toList ++ q.queue))
      (sent : (Framing.new limit).transmit done = (c.sink.withPending c.writer, none)) :
      Carries limit accepted (c, q, none)
  | finished {c : FramedConnection} {q : Outbound} (closed : c.closed = true)
      (deaf : q.isClosed = true)
      (sent : (Framing.new limit).transmit accepted = (c.sink.taken, none)) :
      Carries limit accepted (c, q, some (.ok ()))
  | failed {c : FramedConnection} {q : Outbound} {e : CodecError} (closed : c.closed = true)
      (deaf : q.isClosed = true)
      (sent : (Framing.new limit).transmit accepted = (c.sink.withPending c.writer, some e)) :
      Carries limit accepted (c, q, some (.error (.codec e)))

theorem FramedConnection.Polled.carries {p : SendProgress} (h : Polled limit accepted before p) :
    Carries limit accepted p := by
  cases h with
  | idle ready queue =>
    refine .going accepted ready.framing ready.sound ready.listens ?_ ?_
    · rw [ready.held, queue]
      exact (List.append_nil _).symm
    · rw [ByteSink.withPending, ready.empty, List.append_nil]
      exact ready.sent_all queue
  | blocked done framing sound listens split sent => exact .going done framing sound listens split sent
  | finished closed deaf sent => exact .finished closed deaf sent
  | failed closed deaf sent => exact .failed closed deaf sent

/-- A poll on an open connection first takes up a batch that was blocked, then the rest of the queue. -/
theorem FramedConnection.polled_pollSend (h : Carries limit accepted (c, q, none))
    (up : c.closed = false) : Polled limit accepted c.sink (c.pollSend q) := by
  cases h with
  | going done framing sound listens split sent =>
    unfold FramedConnection.pollSend
    cases held : c.writer.held with
    | some f =>
      rw [if_pos (by simp [FrameWriter.isBusy, held]), FrameWriter.resume, held]
      rw [held] at split
      exact polled_afterBatch (FrameWriter.writes_writeAll rfl sound _) framing up listens split sent id
        fun c q ready _ => ready.sendQueued
    | none =>
      rw [held] at split
      by_cases empty : c.writer.buffer = []
      · rw [if_neg (by simp [FrameWriter.isBusy, held, empty])]
        rw [ByteSink.withPending, empty, List.append_nil] at sent
        exact Ready.sendQueued ⟨framing, held, empty, sound, up, listens, ⟨done, split, sent⟩, id⟩
      · rw [if_pos (by simp [FrameWriter.isBusy, empty]), FrameWriter.resume, held]
        have flushes := c.writer.flushes_flush sound q.queue
        generalize c.writer.flush c.sink q.queue = b at flushes
        cases flushes with
        | done sound taken reads =>
          exact Ready.sendQueued
            ⟨framing, held, rfl, sound, up, listens, ⟨done, split, taken ▸ sent⟩, reads⟩
        | blocked sound waits taken full stops =>
          simp only [FramedConnection.afterBatch, up]
          refine .blocked done framing sound listens ?_ ?_ full stops
          · rw [held]
            exact split
          · rw [ByteSink.withPending, taken]
            exact sent

end Multiplexer
