import Multiplexer.Proofs.Cancellation
import Multiplexer.Proofs.DuplicateRequests
import Multiplexer.Proofs.Employment
import Multiplexer.Proofs.Silence

/-!
Frames that come late: what an operation and the inbound half of its channel can still send once another
operation has been accepted under the same stream.
-/

namespace Multiplexer

variable {ω : Type} {r r' r'' : Responder} {n : Nat}

/-- Between two states the channels that are there at first speak as far as they may then. -/
structure Responder.Voices (r r' : Responder) : Prop where
  hosts : r.Hosts r'
  told : ∃ events, r'.history = r.history ++ events ∧ ∀ (m : Nat) (c : Channel) (f : Frame),
    r.channels[m]? = some c → Event.sent (.channel m) f ∈ events → c.MaySend True f

theorem Responder.Voices.trans (h : r.Voices r') (h' : r'.Voices r'') : r.Voices r'' := by
  obtain ⟨es, history, may⟩ := h.told
  obtain ⟨es', history', may'⟩ := h'.told
  refine ⟨h.hosts.trans h'.hosts, es ++ es', by rw [history', history, List.append_assoc], ?_⟩
  intro m c f hc sent
  rcases List.mem_append.mp sent with early | late
  · exact may m c f hc early
  · obtain ⟨c', hc', course⟩ := h.hosts.old m c hc
    exact course.maySend (may' m c' f hc' late)

theorem Responder.Dwindles.voices {asking : Prop} (h : Responder.Dwindles asking r r') :
    r.Voices r' := by
  obtain ⟨events, history, sent⟩ := h.told
  refine ⟨h.hosts, events, history, fun m c f hc told => ?_⟩
  obtain ⟨m', d, speaks, hd, may⟩ := sent (.channel m) f told
  cases speaks
  cases hd.symm.trans hc
  exact may.imp_right fun asked => ⟨trivial, asked.2⟩

theorem Responder.Moves.voices {allowed : Label → Prop} (moves : r.Moves allowed r') :
    r.Voices r' := by
  refine Responder.Moves.tells (R := Responder.Voices) Responder.Voices.trans ?_ ?_ moves
  · exact fun move => move.touch.dwindles.voices
  · intro r r' events hosts history elsewhere
    exact ⟨hosts, events, history, fun m _ f _ told => by cases elsewhere _ told⟩

/-- An operation whose stream is free has been cancelled, if its task has not finished. -/
theorem Responder.Employs.stopped {stream : StreamId} {token : Nat} {channel : Option Nat}
    (employs : Responder.Employs n stream (some token) channel r) (h : r.Linked)
    (free : r.registry.outbound? stream = none) : Responder.Stopped n r := by
  intro t there number
  obtain ⟨on, own, _⟩ := employs t there number
  refine ⟨?_, token, own⟩
  by_contra running
  have entry := (h.live t there token own).mp (by rw [number]; simpa using running)
  exact Registry.outbound?_eq_none_iff.mp free _ entry on

theorem Responder.outbound?_eq_none {stream : StreamId}
    (free : ¬ r.registry.outbound.contains stream = true) : r.registry.outbound? stream = none := by
  apply Registry.outbound?_eq_none_iff.mpr
  simpa [Entries.contains] using free

/-- Once another operation has been accepted under the stream of an operation, the older one does not say
a word, whatever happens and in whatever order. The inbound half of its channel speaks only if it has not
terminated by then and has not been cancelled, or else to ask for more payloads when the application
tells it to. So a channel that has terminated keeps silent too. -/
theorem Responder.no_late_frames (settings : Settings) (app : Application ω) (w : ω)
    (before between after : List (Action ω)) (f g : Frame) (same : g.stream = f.stream)
    (older : Responder.Accepts settings app
      (Responder.run settings app before (Responder.start, w)) f)
    (newer : Responder.Accepts settings app
      (Responder.run settings app (before ++ .receive (.item (.ok f)) :: between)
        (Responder.start, w)) g) :
    let s := Responder.run settings app before (Responder.start, w)
    let n := s.1.controls.length
    let m := s.1.channels.length
    let s' := Responder.run settings app (before ++ .receive (.item (.ok f)) :: between)
      (Responder.start, w)
    let r := (Responder.run settings app (.receive (.item (.ok g)) :: after) s').1
    framesOf (.task n) r.history = framesOf (.task n) s'.1.history ∧
      (f.kind = .requestChannel → ∃ c, s'.1.channels[m]? = some c ∧ c.stream = f.stream ∧
        (∃ events, r.history = s'.1.history ++ events ∧
          ∀ x, Event.sent (.channel m) x ∈ events →
            c.terminated = false ∧ (c.cancelled = false ∨ x.kind = .requestN)) ∧
        (c.terminated = true →
          framesOf (.channel m) r.history = framesOf (.channel m) s'.1.history)) := by
  intro s n m s' r
  have linked : s.1.Linked := Responder.linked_start.run settings app before
    (s := (Responder.start, w))
  have path : s' = Responder.run settings app between
      (Responder.step settings app (.receive (.item (.ok f))) s) := Responder.run_append ..
  have linked' : s'.1.Linked := Responder.linked_start.run settings app _
    (s := (Responder.start, w))
  refine ⟨?_, fun kind => ?_⟩
  · -- the entry of the older operation names the task that works for it from its beginning on
    have moves := linked.step_moves settings app (.receive (.item (.ok f)))
    have begun := moves.linked linked
    obtain ⟨token, entry⟩ := (Registry.outbound?_eq_some_iff begun.streams).mp older
    have known : n < _ := (begun.registered _ entry).1
    obtain ⟨channel, employs⟩ := begun.employs entry
    have later := begun.run_moves settings app between
    rw [← path] at later
    have free : s'.1.registry.outbound? f.stream = none :=
      Responder.outbound?_eq_none fun taken => newer.free linked' (.inl (same ▸ taken))
    have stopped : Responder.Stopped n s'.1 := (later.employs begun known employs).stopped linked' free
    have known' : n < s'.1.controls.length := Nat.lt_of_lt_of_le known later.length_le
    exact (stopped.run settings app (.receive (.item (.ok g)) :: after) linked' known').2
  · obtain ⟨c, hc, on⟩ := older.channel_run linked kind between
    rw [← path] at hc
    have moves := linked'.run_moves settings app (.receive (.item (.ok g)) :: after)
    obtain ⟨events, history, may⟩ := moves.voices.told
    have sent (x : Frame) (told : Event.sent (.channel m) x ∈ events) :
        c.terminated = false ∧ (c.cancelled = false ∨ x.kind = .requestN) := by
      have may := may m c x hc told
      refine ⟨may.live, ?_⟩
      exact may.imp (fun going => (Channel.isOpen_eq_true_iff.mp going).2) fun asked => asked.2.2
    refine ⟨c, hc, on, ⟨events, history, sent⟩, fun ended => ?_⟩
    have silent : framesOf (.channel m) events = [] := framesOf_eq_nil fun x told => by
      rw [(sent x told).1] at ended
      cases ended
    show framesOf (.channel m) (Responder.run settings app _ s').1.history = _
    rw [history, framesOf_append, silent, List.append_nil]

/-- A channel is read to its end, and its stream is used again. -/
theorem Responder.relay_no_late_frames :
    let f := Frame.requestChannel (.ofNat 7) 5 .empty
    let s' := Responder.run .standard (relay none)
      ([] ++ .receive (.item (.ok f)) ::
        [.turn 0 5, .receive (.item (.ok (.complete (.ofNat 7)))), .turn 0 5]) (Responder.start, ())
    let r := (Responder.run .standard (relay none)
      (.receive (.item (.ok f)) :: [.turn 0 5, .drop 0]) s').1
    (framesOf (.task 0) s'.1.history).length = 2 ∧
      framesOf (.task 0) r.history = framesOf (.task 0) s'.1.history ∧
      framesOf (.channel 0) r.history = framesOf (.channel 0) s'.1.history := by
  have older : Responder.Accepts .standard (relay none)
      (Responder.run .standard (relay none) [] (Responder.start, ()))
      (.requestChannel (.ofNat 7) 5 .empty) := by decide
  have newer : Responder.Accepts .standard (relay none)
      (Responder.run .standard (relay none)
        ([] ++ .receive (.item (.ok (.requestChannel (.ofNat 7) 5 .empty))) ::
          [.turn 0 5, .receive (.item (.ok (.complete (.ofNat 7)))), .turn 0 5])
        (Responder.start, ()))
      (.requestChannel (.ofNat 7) 5 .empty) := by decide
  have ended : ((Responder.run .standard (relay none)
      ([] ++ .receive (.item (.ok (.requestChannel (.ofNat 7) 5 .empty))) ::
        [.turn 0 5, .receive (.item (.ok (.complete (.ofNat 7)))), .turn 0 5])
      (Responder.start, ())).1.channels[0]?.map Channel.terminated) = some true := by decide
  obtain ⟨task, channel⟩ := Responder.no_late_frames .standard (relay none) () [] _ [.turn 0 5, .drop 0]
    _ _ rfl older newer
  obtain ⟨c, hc, _, _, silent⟩ := channel rfl
  refine ⟨by decide, task, silent ?_⟩
  rw [show (Responder.run .standard (relay none) [] (Responder.start, ())).1.channels.length = 0 from
    rfl] at hc
  rw [hc] at ended
  exact Option.some.inj ended

/-- The peer has ended its half of a channel that the application keeps, and whose response has ended. A
request for a response stream under the same stream is accepted, and then the old channel, dropped at
last, sends CANCEL under it. -/
theorem Responder.channel_cancels_late :
    let f := (Frame.requestChannel (.ofNat 7) 5 .empty).withFlags .complete
    let g := Frame.requestStream (.ofNat 7) 5 .empty
    let s' := Responder.run .standard keeper [.receive (.item (.ok f)), .turn 0 5]
      (Responder.start, ())
    let s'' := Responder.step .standard keeper (.receive (.item (.ok g))) s'
    let r := (Responder.run .standard keeper [.drop 0] s'').1
    Responder.Accepts .standard keeper (Responder.start, ()) f ∧
      s'.1.registry.outbound = [] ∧ s'.1.registry.inbound = [] ∧
      Responder.Accepts .standard keeper s' g ∧ framesOf (.channel 0) s''.1.history = [] ∧
      framesOf (.channel 0) r.history = [.cancel (.ofNat 7)] := by
  decide

end Multiplexer
