import Multiplexer.Proofs.ChannelErrors
import Multiplexer.Proofs.ResponseStream

/-!
Errors of a channel operation: its two halves fail towards the peer each on its own, once at most. Both
fail only where the application replaces an error of the channel by one of its own.
-/

namespace Multiplexer

variable {ω : Type} {r : Responder} {n : Nat} {stream : StreamId}

theorem errorFrames_accountOf (n : Nat) (h : List Event) :
    errorFrames (.task n) (accountOf n h) = errorFrames (.task n) h := by
  rw [errorFrames, framesOf_accountOf, errorFrames]

theorem errors_delivered (n : Nat) (stream : StreamId) (ps : List Payload) :
    errorFrames (.task n) (delivered n stream ps) = [] ∧
      errorsOf (itemsOf n (delivered n stream ps)) = [] := by
  rw [errorFrames, framesOf_delivered, itemsOf_delivered]
  constructor
  · rw [List.filter_eq_nil_iff]
    intro f hf
    obtain ⟨p, _, rfl⟩ := List.mem_map.mp hf
    simp [Frame.kind_next]
  · refine List.filterMap_eq_nil_iff.mpr fun x hx => ?_
    obtain ⟨p, _, rfl⟩ := List.mem_map.mp hx
    rfl

/-- The response half fails towards the peer once at most, with its own error. -/
theorem Responder.Serves.errors {granted : Nat} (serves : Responder.Serves n stream granted r) :
    errorFrames (.task n) r.history =
        ((errorsOf (itemsOf n r.history)).filter fun e => !e.isRemote).map
          (fun e => .error stream e.code e.message) ∧
      (errorsOf (itemsOf n r.history)).length ≤ 1 := by
  obtain ⟨ps, state, _⟩ := serves
  obtain ⟨silent, fine⟩ := errors_delivered n stream ps
  -- what follows the items that are sent says whether the stream has failed
  have told {tail : List Event} (account : r.account n = delivered n stream ps ++ tail) :
      errorFrames (.task n) r.history = errorFrames (.task n) tail ∧
        errorsOf (itemsOf n r.history) = errorsOf (itemsOf n tail) := by
    have account : accountOf n r.history = delivered n stream ps ++ tail := account
    rw [← errorFrames_accountOf, ← itemsOf_accountOf, account, errorFrames_append, itemsOf_append,
      errorsOf_append, silent, fine]
    exact ⟨rfl, rfl⟩
  have pending (phase : StreamPhase) : errorFrames (.task n) (phase.pending n) = [] ∧
      errorsOf (itemsOf n (phase.pending n)) = [] := by
    unfold StreamPhase.pending
    cases phase.inHand with
    | none => exact ⟨rfl, rfl⟩
    | some p => simp [errorFrames, Event.frameBy?, Event.itemOf?]
  rcases state with ⟨t, _, _, _, _, _, phase, _, account⟩ | ⟨_, last, ends, account⟩
  · obtain ⟨frames, errors⟩ := told account
    obtain ⟨none, nothing⟩ := pending phase
    rw [frames, errors, none, nothing]
    exact ⟨rfl, Nat.zero_le _⟩
  · obtain ⟨frames, errors⟩ := told account
    rw [frames, errors]
    cases ends with
    | cut phase =>
      obtain ⟨none, nothing⟩ := pending phase
      rw [none, nothing]
      exact ⟨rfl, Nat.zero_le _⟩
    | completed => simp [errorFrames, Event.frameBy?, Event.itemOf?, Frame.complete, Frame.new]
    | failed _ e own =>
      simp [errorFrames, Event.frameBy?, Event.itemOf?, own, Frame.error, Frame.new, Frame.withCode,
        Frame.withData]
    | remote _ e others => simp [errorFrames, Event.frameBy?, Event.itemOf?, others]

/-- The channel that a request opens is that of its stream. -/
theorem Responder.openInbound_channel {settings : Settings} {f : Frame} {p : Payload} {r' : Responder}
    (opened : r.openInbound settings f p = .ok r') :
    ∃ c, r'.channels[r.channels.length]? = some c ∧ c.stream = f.stream := by
  have queued (token : Nat) (demand : UInt32) (s : Signal) :
      ((Channel.new f.stream token demand).push s).stream = f.stream :=
    (Channel.push_kept _ s).1
  unfold Responder.openInbound at opened
  split at opened
  · cases opened
  · split at opened
    · cases opened
      refine ⟨_, List.getElem?_concat_length, ?_⟩
      exact (Channel.push_kept _ .complete).1.trans (queued _ _ _)
    · cases opened
      exact ⟨_, List.getElem?_concat_length, queued _ _ _⟩

/-- No channel has answered an error that it has not yielded, whatever has happened. -/
theorem Responder.answered_run (settings : Settings) (app : Application ω) (w : ω)
    (as : List (Action ω)) (m : Nat) :
    (Responder.run settings app as (Responder.start, w)).1.Answered m := by
  have moves := Responder.linked_start.run_moves settings app as (s := (Responder.start, w))
  exact (moves.hears m).answered ⟨rfl, rfl⟩

/-- The channel of an accepted request stays that of its stream, whatever happens. -/
theorem Responder.Accepts.channel_run {settings : Settings} {app : Application ω}
    {s : Responder × ω} {f : Frame} (h : s.1.Linked) (kind : f.kind = .requestChannel)
    (accepted : Responder.Accepts settings app s f) (after : List (Action ω)) :
    ∃ c, (Responder.run settings app after
        (Responder.step settings app (.receive (.item (.ok f))) s)).1.channels[s.1.channels.length]? =
      some c ∧ c.stream = f.stream := by
  obtain ⟨p, opened, _, open_, eq⟩ := accepted.opens h kind
  have aside := s.1.ready_aside.tail (.openInbound open_)
  have running := (Responder.AsideMoves.keepsTasks aside).shutdown.trans (accepted.listens h).2
  obtain ⟨c, here, on⟩ := Responder.openInbound_channel open_
  have driven : opened.Moves (fun _ => True)
      (Responder.step settings app (.receive (.item (.ok f))) s).1 := by
    rw [eq]
    exact Responder.driveStream_moves s.2 f.stream f.demand _ _ trivial trivial running
  have linked := (h.step_moves settings app (.receive (.item (.ok f)))).linked h
  have later := linked.run_moves settings app after
  obtain ⟨c', there, same⟩ := ((driven.trans later).hears s.1.channels.length).stays c here
  exact ⟨c', there, same.trans on⟩

/-- The errors of an accepted channel operation. The inbound half answers each error that the channel
yields, and the response half sends an ERROR if the response stream fails with an error that is not the
peer's own; each does so once at most. So one ERROR is sent at most, unless the channel has yielded an
error and the response stream has failed with another that is not the peer's. -/
theorem Responder.channel_errors (settings : Settings) (app : Application ω) (w : ω)
    (before after : List (Action ω)) (f : Frame) (kind : f.kind = .requestChannel)
    (accepted : Responder.Accepts settings app
      (Responder.run settings app before (Responder.start, w)) f) :
    let s := Responder.run settings app before (Responder.start, w)
    let n := s.1.controls.length
    let m := s.1.channels.length
    let s' := Responder.step settings app (.receive (.item (.ok f))) s
    let r := (Responder.run settings app after s').1
    let yielded := errorsOf (yieldedBy m r.history)
    let failed := errorsOf (itemsOf n r.history)
    errorFrames (.channel m) r.history = yielded.map (inboundAnswer f.stream) ∧
      yielded.length ≤ 1 ∧
    errorFrames (.task n) r.history = (failed.filter fun e => !e.isRemote).map
        (fun e => .error f.stream e.code e.message) ∧
      failed.length ≤ 1 ∧
    ((errorFrames (.channel m) r.history).length + (errorFrames (.task n) r.history).length ≤ 1 ∨
      ∃ d e, yielded = [d] ∧ failed = [e] ∧ e.isRemote = false) := by
  intro s n m s' r yielded failed
  have linked := Responder.linked_start.run settings app before (s := (Responder.start, w))
  have serves := Responder.serves_run linked (.inr kind) accepted after
  obtain ⟨fails, failed_once⟩ : errorFrames (.task n) r.history =
      (failed.filter fun e => !e.isRemote).map (fun e => .error f.stream e.code e.message) ∧
      failed.length ≤ 1 := serves.errors
  obtain ⟨c, here, on⟩ := accepted.channel_run linked kind after
  have answered : r.Answered m := by
    have whole := Responder.answered_run settings app w
      (before ++ .receive (.item (.ok f)) :: after) m
    rw [Responder.run_append] at whole
    exact whole
  rw [Responder.Answered, here] at answered
  obtain ⟨answers, terminated⟩ := answered
  have answers : errorFrames (.channel m) r.history = yielded.map (inboundAnswer f.stream) :=
    on ▸ answers
  have yielded_once : yielded.length ≤ 1 := by
    have bound : yielded.length ≤ c.terminated.toNat := terminated
    have limit := Bool.toNat_le c.terminated
    omega
  refine ⟨answers, yielded_once, fails, failed_once, ?_⟩
  -- with one error from each half at most, two frames take an error from both
  rw [answers, fails, List.length_map, List.length_map]
  rcases hy : yielded with _ | ⟨d, ds⟩
  · left
    have fewer := List.length_filter_le (fun e : HandlerError => !e.isRemote) failed
    simp only [List.length_nil]
    omega
  · obtain rfl : ds = [] := by simpa [hy] using yielded_once
    rcases hf : failed with _ | ⟨e, es⟩
    · exact .inl (Nat.le_refl _)
    · obtain rfl : es = [] := by simpa [hf] using failed_once
      cases own : e.isRemote with
      | true => exact .inl (by simp [own])
      | false => exact .inr ⟨d, e, rfl, rfl, own⟩

/-- An application that sends back what its channel yields. An error of the channel is passed on, or
replaced if there is another. -/
def relay (other : Option HandlerError) : Application Unit where
  start _ _ _ w := w
  poll _ w := .answer (.pending, w)
  openStream _ _ w := .answer (none, w)
  openChannel _ _ _ w := .answer (none, w)
  pull _ w := .read 0 fun
    | some (.item (.ok p)) => .answer (.ready (some (.ok p)), w)
    | some (.item (.error e)) => .answer (.ready (some (.error (other.getD e))), w)
    | some .pending => .answer (.pending, w)
    | some .finished | none => .answer (.ready none, w)
  drop _ w := .answer w
  dispose w := .answer (none, w)

/-- The peer's error, passed on by the application, is answered by the channel alone. -/
theorem Responder.relay_channel_errors :
    let s := Responder.run .standard (relay none) [] (Responder.start, ())
    let f := Frame.requestChannel (.ofNat 7) 5 .empty
    let s' := Responder.step .standard (relay none) (.receive (.item (.ok f))) s
    let upset := Frame.error (.ofNat 7) .invalid "upset"
    let r := (Responder.run .standard (relay none)
      [.turn 0 5, .receive (.item (.ok upset)), .turn 0 5] s').1
    Responder.Accepts .standard (relay none) s f ∧
      errorFrames (.channel 0) r.history =
        (errorsOf (yieldedBy 0 r.history)).map (inboundAnswer f.stream) ∧
      (errorsOf (yieldedBy 0 r.history)).length = 1 ∧ errorFrames (.task 0) r.history = [] := by
  have accepted : Responder.Accepts .standard (relay none)
      (Responder.run .standard (relay none) [] (Responder.start, ()))
      (.requestChannel (.ofNat 7) 5 .empty) := by decide
  have errors := Responder.channel_errors .standard (relay none) () []
    [.turn 0 5, .receive (.item (.ok (.error (.ofNat 7) .invalid "upset"))), .turn 0 5] _ rfl
    accepted
  dsimp only at errors ⊢
  refine ⟨accepted, errors.1, ?_, ?_⟩
  · decide
  · decide

/-- Where the application replaces the peer's error by its own both halves fail towards the peer. -/
theorem Responder.replaced_error_sent_twice :
    let app := relay (some (.rejected "mine"))
    let f := Frame.requestChannel (.ofNat 7) 5 .empty
    let s' := Responder.step .standard app (.receive (.item (.ok f))) (Responder.start, ())
    let upset := Frame.error (.ofNat 7) .invalid "upset"
    let r := (Responder.run .standard app
      [.turn 0 5, .receive (.item (.ok upset)), .turn 0 5] s').1
    Responder.Accepts .standard app (Responder.start, ()) f ∧
      (errorFrames (.channel 0) r.history).length + (errorFrames (.task 0) r.history).length = 2 := by
  decide

end Multiplexer
