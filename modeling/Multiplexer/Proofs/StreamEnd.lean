import Multiplexer.Proofs.ResponseStream
import Multiplexer.Proofs.Withdrawal

/-!
The end of a request-stream operation: a stream whose entry is gone has been withdrawn by the peer or
with the connection, or it has come to its own end and is answered, unless its error is the peer's own.
-/

namespace Multiplexer

variable {ω : Type} {r r' : Responder} {n : Nat} {stream : StreamId}

/-- Operation `n` is withdrawn in the course of a run, while it is registered. -/
def Responder.Withdrawn (settings : Settings) (app : Application ω) (n : Nat) (stream : StreamId) :
    List (Action ω) → Responder × ω → Prop
  | [], _ => False
  | a :: as, s =>
    a.withdraws stream s.1 ∧ s.1.registry.outbound? stream = some n ∨
      Responder.Withdrawn settings app n stream as (Responder.step settings app a s)

/-- Operation `n` is a response stream that has not been cancelled, or has come to its own end. -/
def Responder.Steady (n : Nat) (stream : StreamId) (r : Responder) : Prop :=
  ∃ ps, Responder.Streaming n stream r ps ∧ r.isCancelled n = false ∨
    Responder.Streamed n stream false r ps

/-- A response stream that has not been cancelled is registered, and under its own stream only. -/
theorem Responder.Streaming.registered {ps : List Payload} (h : r.Linked)
    (streaming : Responder.Streaming n stream r ps) (running : r.isCancelled n = false) :
    r.registry.outbound? stream = some n ∧
      ∀ other, r.registry.outbound? other = some n → other = stream := by
  obtain ⟨t, there, rfl, rfl, token, channel, phase, work, _⟩ := streaming
  have htoken : t.work.token? = some token := by rw [work]; rfl
  have entry := (h.live t there token htoken).mp running
  refine ⟨(Registry.outbound?_eq_some_iff h.streams).mpr ⟨token, entry⟩, fun other found => ?_⟩
  obtain ⟨token', entry'⟩ := (Registry.outbound?_eq_some_iff h.streams).mp found
  have eq := Entries.eq_of_handle h.handles entry' entry rfl
  exact congrArg Entry.stream eq

theorem Responder.Steady.move {l : Label} (steady : Responder.Steady n stream r) (h : r.Linked)
    (known : n < r.controls.length) (move : Responder.Move l r r')
    (spared : r.registry.outbound? stream = some n → ¬ l.withdraws stream) :
    Responder.Steady n stream r' := by
  obtain ⟨ps, ⟨streaming, running⟩ | streamed⟩ := steady
  · obtain ⟨registered, only⟩ := streaming.registered h running
    obtain ⟨open_, uncancelled⟩ := not_or.mp (spared registered)
    obtain ⟨ps', state, _⟩ := streaming.move h move
    have same : r'.isCancelled n = r.isCancelled n := by
      refine move.isCancelled_eq known open_ fun other label found => ?_
      exact uncancelled (by rw [label, only other found])
    refine ⟨ps', state.imp (fun streaming => ⟨streaming, same.trans running⟩) fun streamed => ?_⟩
    rwa [running] at streamed
  · exact ⟨ps, .inr (streamed.move known move)⟩

theorem Responder.Steady.moves (steady : Responder.Steady n stream r) (h : r.Linked)
    (known : n < r.controls.length) (moves : r.Moves (fun l => ¬ l.withdraws stream) r') :
    Responder.Steady n stream r' := by
  refine moves.keep h known steady ?_
  exact fun allow move h known steady => steady.move h known move fun _ => allow

theorem Responder.Steady.step {s : Responder × ω} (settings : Settings) (app : Application ω)
    (a : Action ω) (h : s.1.Linked) (known : n < s.1.controls.length)
    (steady : Responder.Steady n stream s.1)
    (spared : a.withdraws stream s.1 → s.1.registry.outbound? stream ≠ some n) :
    Responder.Steady n stream (Responder.step settings app a s).1 := by
  by_cases withdraws : a.withdraws stream s.1
  · -- an operation that has ended needs not be spared
    obtain ⟨ps, ⟨streaming, running⟩ | streamed⟩ := steady
    · exact absurd (streaming.registered h running).1 (spared withdraws)
    · exact ⟨ps, .inr (streamed.moves h known (h.step_moves settings app a))⟩
  · exact steady.moves h known (h.sparing_moves settings app a withdraws)

/-- A response stream that is not withdrawn stays until its own end. -/
theorem Responder.Steady.run {s : Responder × ω} (settings : Settings) (app : Application ω)
    (as : List (Action ω)) (h : s.1.Linked) (known : n < s.1.controls.length)
    (steady : Responder.Steady n stream s.1)
    (kept : ¬ Responder.Withdrawn settings app n stream as s) :
    Responder.Steady n stream (Responder.run settings app as s).1 := by
  induction as generalizing s with
  | nil => exact steady
  | cons a as ih =>
    obtain ⟨first, rest⟩ := not_or.mp kept
    have spared : a.withdraws stream s.1 → s.1.registry.outbound? stream ≠ some n :=
      fun withdraws found => first ⟨withdraws, found⟩
    have moves := h.step_moves settings app a
    exact ih (moves.linked h) (Nat.lt_of_lt_of_le known moves.length_le)
      (steady.step settings app a h known spared) rest

/-- What a response stream that is no longer registered has come to. -/
theorem Responder.Steady.ended (steady : Responder.Steady n stream r) (h : r.Linked)
    (gone : r.registry.outbound? stream ≠ some n) :
    .ended n ∈ r.history ∨ ∃ e, .pulled n (.error e) ∈ r.history := by
  obtain ⟨ps, ⟨streaming, running⟩ | streamed⟩ := steady
  · exact absurd (streaming.registered h running).1 gone
  · obtain ⟨last, ends, account⟩ := streamed.ended
    have said {e : Event} (there : e ∈ last) : e ∈ r.history := by
      have here : e ∈ r.account n := account ▸ List.mem_append_right _ there
      exact (List.mem_filter.mp here).1
    cases ends with
    | completed => exact .inl (said (by simp))
    | failed _ e own => exact .inr ⟨e, said (by simp)⟩
    | remote _ e others => exact .inr ⟨e, said (by simp)⟩

/-- The end of an accepted request-stream operation. A stream that has ended is answered by COMPLETE
only, one that has failed by an ERROR only, unless the error is the peer's own: that is not answered.
An operation whose entry is gone has come to one of these ends, if it has not been withdrawn. -/
theorem Responder.request_stream_end (settings : Settings) (app : Application ω) (w : ω)
    (before after : List (Action ω)) (f : Frame) (kind : f.kind = .requestStream)
    (accepted : Responder.Accepts settings app
      (Responder.run settings app before (Responder.start, w)) f) :
    let s := Responder.run settings app before (Responder.start, w)
    let n := s.1.controls.length
    let s' := Responder.step settings app (.receive (.item (.ok f))) s
    let r := (Responder.run settings app after s').1
    (.ended n ∈ r.history →
      ∃ ps : List Payload, framesOf (.task n) r.history =
        ps.map (Frame.next f.stream) ++ [.complete f.stream]) ∧
    (∀ e : HandlerError, .pulled n (.error e) ∈ r.history →
      ∃ ps : List Payload, framesOf (.task n) r.history = ps.map (Frame.next f.stream) ++
        if e.isRemote then [] else [.error f.stream e.code e.message]) ∧
    (r.registry.outbound? f.stream ≠ some n →
      Responder.Withdrawn settings app n f.stream after s' ∨ .ended n ∈ r.history ∨
        ∃ e, .pulled n (.error e) ∈ r.history) := by
  intro s n s' r
  have linked := Responder.linked_start.run settings app before (s := (Responder.start, w))
  have serves : Responder.Serves n f.stream
      (creditOfDemand f.demand + Responder.granted settings app n after s') r :=
    Responder.serves_run linked (.inl kind) accepted after
  have frames {ps : List Payload} {tail : List Event}
      (account : r.account n = delivered n f.stream ps ++ tail) :
      framesOf (.task n) r.history = ps.map (Frame.next f.stream) ++ framesOf (.task n) tail := by
    rw [← framesOf_accountOf, show accountOf n r.history = _ from account, framesOf_append,
      framesOf_delivered]
  refine ⟨fun ended => ?_, fun e pulled => ?_, fun gone => ?_⟩
  · obtain ⟨ps, account⟩ := serves.completed ended
    exact ⟨ps, (frames account).trans (by simp [Event.frameBy?])⟩
  · obtain ⟨ps, account⟩ := serves.failed pulled
    refine ⟨ps, (frames account).trans ?_⟩
    cases e.isRemote <;> simp [Event.frameBy?]
  · by_cases withdrawn : Responder.Withdrawn settings app n f.stream after s'
    · exact .inl withdrawn
    · obtain ⟨token, channel, phase, held, _, begun⟩ :=
        Responder.accepted_stream linked (.inl kind) accepted
      have known := begun.linked.task_lt begun.there
      have steady : Responder.Steady n f.stream s'.1 :=
        ⟨[], .inl ⟨begun.streaming held, begun.isCancelled rfl⟩⟩
      have kept := steady.run settings app after begun.linked known withdrawn
      exact .inr (kept.ended (begun.linked.run settings app after) gone)

/-- A stream of one item that comes to its end. -/
theorem Responder.supplier_stream_end :
    let s := Responder.run .standard supplier [] (Responder.start, [.ok .empty])
    let n := s.1.controls.length
    let f := Frame.requestStream (.ofNat 1) 2 .empty
    let s' := Responder.step .standard supplier (.receive (.item (.ok f))) s
    let r := (Responder.run .standard supplier [.turn 0 5] s').1
    Responder.Accepts .standard supplier s f ∧ .ended n ∈ r.history ∧
      ∃ ps : List Payload, framesOf (.task n) r.history =
        ps.map (Frame.next f.stream) ++ [.complete f.stream] := by
  have accepted : Responder.Accepts .standard supplier
      (Responder.run .standard supplier [] (Responder.start, [.ok .empty]))
      (.requestStream (.ofNat 1) 2 .empty) := by decide
  have end_ := Responder.request_stream_end .standard supplier [.ok .empty] [] [.turn 0 5] _ rfl
    accepted
  dsimp only at end_ ⊢
  refine ⟨accepted, ?ended, end_.1 ?ended⟩
  decide

/-- A stream that fails with the peer's own error after one item is left without an answer: no ERROR is
sent, although the operation has not been withdrawn and its entry is gone. -/
theorem Responder.peer_error_unanswered :
    let e := HandlerError.remote .rejected "peer said"
    let s : Responder × List Item := (Responder.start, [.ok .empty, .error e])
    let f := Frame.requestStream (.ofNat 1) 5 .empty
    let s' := Responder.step .standard supplier (.receive (.item (.ok f))) s
    let r := (Responder.run .standard supplier [.turn 0 5] s').1
    Responder.Accepts .standard supplier s f ∧
      ¬ Responder.Withdrawn .standard supplier 0 f.stream [.turn 0 5] s' ∧
      .pulled 0 (.error e) ∈ r.history ∧ r.registry.outbound? f.stream = none ∧
      framesOf (.task 0) r.history = [.next f.stream .empty] := by
  intro e s f s' r
  refine ⟨by decide, ?_, by decide, by decide, by decide⟩
  simp [Responder.Withdrawn, Action.withdraws]

end Multiplexer
