import Multiplexer.Proofs.CancelledTurns
import Multiplexer.Proofs.ChannelEntries
import Multiplexer.Proofs.Reopening
import Multiplexer.Proofs.RequestResponse
import Multiplexer.Proofs.ResponseStream

/-!
Cancellation over runs: the operation that a CANCEL frame takes out says nothing any more, whatever its
task has in hand, and at its end the task gives up no entry.
-/

namespace Multiplexer

variable {ω : Type} {r r' r'' : Responder} {n : Nat}

/-- No task works for operation `n` that has not been cancelled. -/
def Responder.Stopped (n : Nat) (r : Responder) : Prop :=
  ∀ t ∈ r.tasks, t.number = n → r.isCancelled n = true ∧ ∃ token, t.work.token? = some token

/-- What a turn of operation `n` leaves when it has been cancelled: application code may have run, and the
task may be gone, but no operation has lost its entry. -/
structure Responder.Expires (n : Nat) (r r' : Responder) : Prop where
  converses : r.Converses r'
  outbound : r'.registry.outbound = r.registry.outbound
  tasks : ∀ t ∈ r'.tasks, t.number = n → t ∈ r.tasks

theorem Responder.Expires.refl (n : Nat) (r : Responder) : Responder.Expires n r r :=
  ⟨.refl r, rfl, fun _ ht _ => ht⟩

theorem Responder.Expires.trans (h : Responder.Expires n r r') (h' : Responder.Expires n r' r'') :
    Responder.Expires n r r'' :=
  ⟨h.converses.trans h'.converses, h'.outbound.trans h.outbound,
    fun t ht number => h.tasks t (h'.tasks t ht number) number⟩

theorem Responder.ChannelMoves.expires (h : r.ChannelMoves r') (n : Nat) :
    Responder.Expires n r r' := by
  have kept := Responder.ChannelMoves.keepsTasks h
  exact ⟨Responder.ChannelMoves.converses h, kept.outbound, fun t ht _ => kept.tasks ▸ ht⟩

/-- Nothing is noted but events without a frame. -/
theorem Responder.Expires.note {events : List Event} (channels : r'.channels = r.channels)
    (registry : r'.registry = r.registry) (history : r'.history = r.history ++ events)
    (silent : ∀ speaker f, Event.sent speaker f ∉ events)
    (tasks : ∀ t ∈ r'.tasks, t.number = n → t ∈ r.tasks) : Responder.Expires n r r' :=
  ⟨.note channels (by rw [registry]) history silent, by rw [registry], tasks⟩

theorem Responder.Ebb.expires {asking : Prop} (ebb : Responder.Ebb asking n r r') :
    Responder.Expires n r r' := by
  cases ebb with
  | touch touch => exact Responder.ChannelMoves.expires (.single touch.move) n
  | lapse lapse =>
    obtain ⟨events, history, silent⟩ := lapse.told
    exact .note lapse.channels lapse.registry history silent lapse.tasks

theorem Responder.Ebbs.expires {asking : Prop} (ebbs : Responder.Ebbs asking n r r') :
    Responder.Expires n r r' := by
  induction ebbs with
  | refl => exact .refl n r
  | tail _ ebb ih => exact ih.trans ebb.expires

/-- A turn of an operation that has been cancelled. -/
theorem Responder.Stopped.turn {s : Responder × ω} (settings : Settings) (app : Application ω)
    (budget : Nat) (h : s.1.Linked) (stopped : Responder.Stopped n s.1) :
    Responder.Expires n s.1 (Responder.step settings app (.turn n budget) s).1 := by
  obtain ⟨r, w⟩ := s
  have begun : r.KeepsTasks r.beginTurn := Responder.AsideMove.keepsTasks (.pace r _)
  have paced : Responder.Expires n r r.beginTurn :=
    .note rfl rfl (List.append_nil _).symm (fun _ _ => List.not_mem_nil) (fun _ hu _ => hu)
  have ebbs := ((begun.linked h).turn_ebbs (n := n) (fun t there number => (stopped t there number).1)
    app.within_all (w := w) trivial budget).1
  exact paced.trans ebbs.expires

/-- Where only inbound halves speak no task does. -/
theorem Responder.Converses.frames (h : r.Converses r') (n : Nat) :
    framesOf (.task n) r'.history = framesOf (.task n) r.history := by
  obtain ⟨events, history, sent⟩ := h.told
  have silent : framesOf (.task n) events = [] := framesOf_eq_nil fun f told => by
    obtain ⟨m, other, _⟩ := sent _ f told
    cases other
  rw [history, framesOf_append, silent, List.append_nil]

/-- No action makes an operation speak that has been cancelled, and it stays cancelled. -/
theorem Responder.Stopped.step {s : Responder × ω} (settings : Settings) (app : Application ω)
    (a : Action ω) (h : s.1.Linked) (known : n < s.1.controls.length)
    (stopped : Responder.Stopped n s.1) :
    let r' := (Responder.step settings app a s).1
    Responder.Stopped n r' ∧ framesOf (.task n) r'.history = framesOf (.task n) s.1.history := by
  intro r'
  have moves : s.1.Moves a.permits r' := h.step_moves settings app a
  -- as long as the tasks are those of before, so is what there is to say of them
  have still (tasks : ∀ t ∈ r'.tasks, t.number = n → t ∈ s.1.tasks) : Responder.Stopped n r' := by
    intro t ht number
    obtain ⟨cancelled, registered⟩ := stopped t (tasks t ht number) number
    exact ⟨moves.isCancelled cancelled, registered⟩
  cases turn : a.isTurnOf n with
  | true =>
    cases a with
    | turn m budget =>
      obtain rfl : m = n := by simpa [Action.isTurnOf] using turn
      have expires := stopped.turn settings app budget h
      exact ⟨still expires.tasks, expires.converses.frames m⟩
    | _ => cases turn
  | false =>
    have idle : ¬ a.permits (.task n) := by
      rintro ⟨budget, rfl⟩
      simp [Action.isTurnOf] at turn
    have undisturbed := moves.undisturbed h known idle
    exact ⟨still fun t ht number => (undisturbed.tasks t number).mp ht, undisturbed.frames⟩

theorem Responder.Stopped.run {s : Responder × ω} (settings : Settings) (app : Application ω)
    (as : List (Action ω)) (h : s.1.Linked) (known : n < s.1.controls.length)
    (stopped : Responder.Stopped n s.1) :
    let r' := (Responder.run settings app as s).1
    Responder.Stopped n r' ∧ framesOf (.task n) r'.history = framesOf (.task n) s.1.history := by
  induction as generalizing s with
  | nil => exact ⟨stopped, rfl⟩
  | cons a as ih =>
    have moves := h.step_moves settings app a
    have known' := Nat.lt_of_lt_of_le known moves.length_le
    obtain ⟨next, silent⟩ := stopped.step settings app a h known
    obtain ⟨last, silence⟩ := ih (moves.linked h) known' next
    exact ⟨last, silence.trans silent⟩

/-- CANCEL stops the operation that is registered under its stream. -/
theorem Responder.Linked.cancel_stops {s : Responder × ω} (settings : Settings)
    (app : Application ω) {f : Frame} (h : s.1.Linked) (listens : s.1.Listens)
    (kind : f.kind = .cancel) (registered : s.1.registry.outbound? f.stream = some n) :
    let r' := (Responder.step settings app (.receive (.item (.ok f))) s).1
    Responder.Stopped n r' ∧ framesOf (.task n) r'.history = framesOf (.task n) s.1.history := by
  intro r'
  have moves : s.1.Moves (Action.receive (.item (.ok f))).permits r' :=
    h.step_moves settings app (.receive (.item (.ok f)))
  obtain ⟨token, entry⟩ := (Registry.outbound?_eq_some_iff h.streams).mp registered
  have known : n < s.1.controls.length := (h.registered _ entry).1
  have idle : ¬ (Action.receive (.item (.ok f)) : Action ω).permits (.task n) := by
    rintro ⟨budget, eq⟩
    cases eq
  have undisturbed := moves.undisturbed h known idle
  have withdraws : (Action.receive (.item (.ok f)) : Action ω).withdraws f.stream s.1 :=
    ⟨listens, kind, rfl⟩
  have free : r'.registry.outbound? f.stream = none := withdraws.free settings app
  refine ⟨?_, undisturbed.frames⟩
  intro t ht number
  -- the entry was that of the task, which is cancelled now that the entry is gone
  have there := (undisturbed.tasks t number).mp ht
  obtain ⟨htoken, own⟩ := h.own t there _ entry (.inr number.symm)
  refine ⟨?_, token, htoken⟩
  by_contra running
  have entry' := ((moves.linked h).live t ht token htoken).mp (by rw [number]; simpa using running)
  have on : t.stream = f.stream := (congrArg Entry.stream own).symm
  exact Registry.outbound?_eq_none_iff.mp free _ entry' on

/-- CANCEL is final. Nothing is registered under its stream until an action asks for it. The operation
that it has taken out never hands over a frame again, whatever its task has in hand, whoever grants
credit, and whoever uses the stream; the inbound half of its channel may ask for payloads, cancel, or
answer an error of the peer. And no turn of the task changes the entry of an operation, or takes out
the entry of a channel that has not terminated in that turn. -/
theorem Responder.cancel_final (settings : Settings) (app : Application ω) (w : ω)
    (before : List (Action ω)) (f : Frame) (kind : f.kind = .cancel)
    (listens : (Responder.run settings app before (Responder.start, w)).1.Listens) :
    let s := Responder.run settings app before (Responder.start, w)
    let s' := Responder.step settings app (.receive (.item (.ok f))) s
    (∀ after, (Responder.run settings app after s').1.registry.outbound? f.stream = none ∨
      ∃ mid a rest, after = mid ++ a :: rest ∧ a.requests f.stream ∧
        (∀ early, early <+: mid →
          (Responder.run settings app early s').1.registry.outbound? f.stream = none) ∧
        (Responder.run settings app (mid ++ [a]) s').1.registry.outbound? f.stream ≠ none) ∧
    ∀ n, s.1.registry.outbound? f.stream = some n →
      (∀ after,
        let r := (Responder.run settings app after s').1
        framesOf (.task n) r.history = framesOf (.task n) s.1.history ∧
          ∀ m g, Event.sent (.channel m) g ∈ r.history →
            Event.SentInbound r.history (.channel m) g) ∧
      ∀ after budget,
        let r := (Responder.run settings app after s').1
        let r' := (Responder.run settings app (after ++ [.turn n budget]) s').1
        r'.registry.outbound = r.registry.outbound ∧
          (∀ e ∈ r.registry.inbound, e ∈ r'.registry.inbound ∨
            ∃ c c', r.channels[e.handle]? = some c ∧ r'.channels[e.handle]? = some c' ∧
              c.terminated = false ∧ c'.terminated = true) ∧
          ∃ events, r'.history = r.history ++ events ∧
            ∀ speaker g, Event.sent speaker g ∈ events → Event.SentInbound events speaker g := by
  intro s s'
  have linked := Responder.linked_start.run settings app before (s := (Responder.start, w))
  have withdraws : (Action.receive (.item (.ok f)) : Action ω).withdraws f.stream s.1 :=
    ⟨listens, kind, rfl⟩
  have moves := linked.step_moves settings app (.receive (.item (.ok f)))
  have linked' : s'.1.Linked := moves.linked linked
  have path (after : List (Action ω)) : Responder.run settings app after s' =
      Responder.run settings app (before ++ .receive (.item (.ok f)) :: after)
        (Responder.start, w) := by
    rw [Responder.run_append]
    rfl
  refine ⟨fun after => linked'.run_free settings app after (withdraws.free settings app), ?_⟩
  intro n registered
  obtain ⟨stopped, silent⟩ := linked.cancel_stops settings app listens kind registered
  obtain ⟨token, entry⟩ := (Registry.outbound?_eq_some_iff linked.streams).mp registered
  have known : n < s'.1.controls.length :=
    Nat.lt_of_lt_of_le (linked.registered _ entry).1 moves.length_le
  refine ⟨fun after => ⟨?_, ?_⟩, fun after budget => ?_⟩
  · have silence := (stopped.run settings app after linked' known).2
    exact silence.trans silent
  · rw [path after]
    exact fun m g => Responder.inbound_run settings app w _
  · intro r r'
    have stopped' := (stopped.run settings app after linked' known).1
    have expires : Responder.Expires n r r' := by
      have turn := stopped'.turn settings app budget (linked'.run settings app after)
      rw [show r' = _ from congrArg Prod.fst (Responder.run_append settings app after _ s')]
      exact turn
    have paired : r.Paired := by
      show (Responder.run settings app after s').1.Paired
      rw [path after]
      exact Responder.paired_run settings app w _
    exact ⟨expires.outbound, fun e he => expires.converses.entry paired he, expires.converses.told⟩

/-- A stream is cancelled while an item waits for credit, and its identifier is used again before the task
of the old stream has ended. -/
theorem Responder.supplier_cancel_final :
    let request := Frame.requestStream (.ofNat 1) 1 .empty
    let before : List (Action (List Item)) := [.receive (.item (.ok request)), .turn 0 5]
    let s := Responder.run .standard supplier before
      (Responder.start, [.ok .empty, .ok .empty, .ok .empty])
    let f := Frame.cancel (.ofNat 1)
    let s' := Responder.step .standard supplier (.receive (.item (.ok f))) s
    let after : List (Action (List Item)) :=
      [.receive (.item (.ok request)), .receive (.item (.ok (.requestN (.ofNat 1) 1)))]
    let r := (Responder.run .standard supplier after s').1
    let r' := (Responder.run .standard supplier (after ++ [.turn 0 5]) s').1
    f.kind = .cancel ∧ s.1.Listens ∧ s.1.registry.outbound? f.stream = some 0 ∧
      r.registry.outbound? f.stream = some 1 ∧ r'.registry.outbound = r.registry.outbound ∧
      framesOf (.task 0) r'.history = framesOf (.task 0) s.1.history := by
  have listens : (Responder.run .standard supplier
      [.receive (.item (.ok (Frame.requestStream (.ofNat 1) 1 .empty))), .turn 0 5]
      (Responder.start, [.ok .empty, .ok .empty, .ok .empty])).1.Listens := by decide
  have final := Responder.cancel_final .standard supplier _ _ (.cancel (.ofNat 1)) rfl listens
  dsimp only at final ⊢
  refine ⟨rfl, listens, ?registered, ?again, ((final.2 0 ?registered).2 _ 5).1,
    ((final.2 0 ?registered).1 _).1⟩
  · decide
  · decide

end Multiplexer
