import Multiplexer.Proofs.CancelledTurns
import Multiplexer.Proofs.RequestChannel
import Multiplexer.Proofs.Teardown

/-!
Silence after the end of a connection: operations are silent from the cleanup on. A channel is if it has
been registered then or has ended, unless the application asks it for more payloads.
-/

namespace Multiplexer

variable {ω : Type} {asking : Prop} {P : ω → Prop} {c c' : Channel} {f : Frame} {r r' r'' : Responder}
  {n : Nat}

/-- The channel may hand over the frame: it is open, or it is asked for payloads and has not terminated. -/
def Channel.MaySend (asking : Prop) (c : Channel) (f : Frame) : Prop :=
  c.isOpen = true ∨ asking ∧ c.terminated = false ∧ f.kind = .requestN

theorem Channel.isOpen_eq_true_iff {c : Channel} :
    c.isOpen = true ↔ c.terminated = false ∧ c.cancelled = false := by
  simp [Channel.isOpen]

theorem Channel.MaySend.live (may : c.MaySend asking f) : c.terminated = false :=
  may.elim (fun going => (Channel.isOpen_eq_true_iff.mp going).1) fun asked => asked.2.1

/-- What a channel may send at some time it might have sent at any time before. -/
theorem Channel.Course.maySend (course : c.Course c') (may : c'.MaySend asking f) :
    c.MaySend asking f := by
  obtain ⟨terminated, cancelled⟩ := course.flags
  have live (going : c'.terminated = false) : c.terminated = false := by
    by_contra ended
    rw [terminated (by simpa using ended)] at going
    cases going
  have uncancelled (going : c'.cancelled = false) : c.cancelled = false := by
    by_contra ended
    rw [cancelled (by simpa using ended)] at going
    cases going
  rcases may with going | ⟨may, going, kind⟩
  · obtain ⟨going, going'⟩ := Channel.isOpen_eq_true_iff.mp going
    exact .inl (Channel.isOpen_eq_true_iff.mpr ⟨live going, uncancelled going'⟩)
  · exact .inr ⟨may, live going, kind⟩

/-- A channel that is not open is read and dropped in silence. -/
theorem Channel.frames_closed (closed : ¬ c.isOpen = true) :
    c.poll.1.frames = [] ∧ c.drop.frames = [] := by
  rw [Channel.isOpen_eq_true_iff, not_and_or, Bool.not_eq_false, Bool.not_eq_false] at closed
  refine ⟨?_, if_pos closed⟩
  unfold Channel.poll
  split
  next => rfl
  next live => rw [if_pos (closed.resolve_left live)]

theorem Channel.Use.maySend {step : ChannelStep} {xs : List Item} (use : c.Use asking step xs)
    (sent : f ∈ step.frames) : c.MaySend asking f := by
  cases use with
  | poll =>
    refine .inl (by_contra fun closed => ?_)
    rw [(Channel.frames_closed closed).1] at sent
    cases sent
  | open_ live => exact .inl live
  | request may demand =>
    unfold Channel.request at sent
    split at sent
    next => cases sent
    next asked =>
      obtain rfl := List.mem_singleton.mp sent
      exact .inr ⟨may, by simpa using (not_or.mp asked).2, rfl⟩
  | drop =>
    refine .inl (by_contra fun closed => ?_)
    rw [(Channel.frames_closed closed).2] at sent
    cases sent
  | keep => cases sent

/-- Between two states no channel is opened, and only channels speak, as far as they may. -/
structure Responder.Dwindles (asking : Prop) (r r' : Responder) : Prop where
  hosts : r.Hosts r'
  length : r'.channels.length = r.channels.length
  told : ∃ events, r'.history = r.history ++ events ∧ ∀ speaker f, Event.sent speaker f ∈ events →
    ∃ m c, speaker = .channel m ∧ r.channels[m]? = some c ∧ c.MaySend asking f

theorem Responder.Dwindles.note {events : List Event} (hosts : r.Hosts r')
    (length : r'.channels.length = r.channels.length) (history : r'.history = r.history ++ events)
    (silent : ∀ speaker f, Event.sent speaker f ∉ events) : Responder.Dwindles asking r r' :=
  ⟨hosts, length, events, history, fun speaker f sent => absurd sent (silent speaker f)⟩

theorem Responder.Dwindles.quiet (hosts : r.Hosts r')
    (length : r'.channels.length = r.channels.length) (history : r'.history = r.history) :
    Responder.Dwindles asking r r' :=
  .note hosts length (history.trans (List.append_nil _).symm) fun _ _ => List.not_mem_nil

theorem Responder.Dwindles.of_eq (channels : r'.channels = r.channels)
    (history : r'.history = r.history) : Responder.Dwindles asking r r' :=
  .quiet (.of_eq channels) (congrArg List.length channels) history

/-- The channel that a later state holds under a number has come from one of the earlier state. -/
theorem Responder.Dwindles.origin (h : Responder.Dwindles asking r r') (hc : r'.channels[n]? = some c') :
    ∃ c, r.channels[n]? = some c ∧ c.Course c' := by
  have bound : n < r.channels.length := h.length ▸ (List.getElem?_eq_some_iff.mp hc).1
  obtain ⟨d, hd, course⟩ := h.hosts.old n r.channels[n] (List.getElem?_eq_getElem bound)
  cases hd.symm.trans hc
  exact ⟨_, List.getElem?_eq_getElem bound, course⟩

theorem Responder.Dwindles.trans (h : Responder.Dwindles asking r r')
    (h' : Responder.Dwindles asking r' r'') : Responder.Dwindles asking r r'' := by
  obtain ⟨es, history, may⟩ := h.told
  obtain ⟨es', history', may'⟩ := h'.told
  refine ⟨h.hosts.trans h'.hosts, h'.length.trans h.length, es ++ es',
    by rw [history', history, List.append_assoc], fun speaker f sent => ?_⟩
  rcases List.mem_append.mp sent with sent | sent
  · exact may speaker f sent
  · obtain ⟨m, c', speaks, hc', may⟩ := may' speaker f sent
    obtain ⟨c, hc, course⟩ := h.origin hc'
    exact ⟨m, c, speaks, hc, course.maySend may⟩

theorem Responder.Touch.dwindles (touch : Responder.Touch asking r r') :
    Responder.Dwindles asking r r' := by
  have hosts := touch.move.hosts
  obtain rfl | ⟨n, c, step, xs, held, used, applies⟩ := touch.uses
  · exact .of_eq rfl rfl
  · obtain ⟨there, _, registry, allowance, _, _, rest⟩ := applies.changes
    refine ⟨hosts, by rw [rest, List.length_set], step.events n xs, by rw [rest], ?_⟩
    intro speaker f sent
    rcases List.mem_append.mp sent with sent | yielded
    · obtain ⟨f, hf, eq⟩ := List.mem_map.mp sent
      cases eq
      exact ⟨n, c, rfl, there, used.maySend hf⟩
    · simp at yielded

theorem Responder.Touches.dwindles (touches : Responder.Touches asking r r') :
    Responder.Dwindles asking r r' := by
  induction touches with
  | refl => exact .of_eq rfl rfl
  | tail _ touch ih => exact ih.trans touch.dwindles

theorem Responder.Ebbs.dwindles (ebbs : Responder.Ebbs asking n r r') :
    Responder.Dwindles asking r r' := by
  induction ebbs with
  | refl => exact .of_eq rfl rfl
  | tail _ ebb ih =>
    cases ebb with
    | touch touch => exact ih.trans touch.dwindles
    | lapse lapse =>
      obtain ⟨events, history, silent⟩ := lapse.told
      exact ih.trans (.note (.of_eq lapse.channels) (by rw [lapse.channels]) history silent)

theorem length_cancelChannelAt (n : Nat) (channels : List Channel) :
    (cancelChannelAt n channels).length = channels.length := by
  unfold cancelChannelAt
  split
  · exact List.length_set
  · rfl

theorem Responder.drained_dwindles (r : Responder) : Responder.Dwindles asking r r.drained := by
  refine .quiet r.drained_hosts ?_ rfl
  show (List.foldl _ r.channels _).length = _
  generalize r.registry.inbound.map Entry.handle = ns
  generalize r.channels = channels
  induction ns generalizing channels with
  | nil => rfl
  | cons n ns ih => exact (ih _).trans (length_cancelChannelAt n channels)

theorem Responder.report_dwindles (r : Responder) (e : Failure) :
    Responder.Dwindles asking r (r.report e) :=
  .note (.of_eq rfl) rfl rfl (by simp)

theorem Responder.cancelStreams_dwindles (r : Responder) :
    Responder.Dwindles asking r r.cancelStreams := by
  have reports (es : List Failure) (r : Responder) :
      Responder.Dwindles asking r (es.foldl Responder.report r) := by
    induction es generalizing r with
    | nil => exact .of_eq rfl rfl
    | cons e es ih => exact (r.report_dwindles e).trans (ih _)
  obtain ⟨failures, eq⟩ := r.cancelStreams_eq
  rw [eq]
  exact r.drained_dwindles.trans (reports failures _)

theorem Responder.cleanup_dwindles (r : Responder) (w : ω) (app : Application ω) :
    Responder.Dwindles True r (r.cleanup w app).1 := by
  have cancelled : Responder.Dwindles True r r.cancelStreams := r.cancelStreams_dwindles
  cases going : r.disposed with
  | true =>
    rw [Responder.cleanup_again going]
    exact cancelled.trans (.of_eq rfl rfl)
  | false =>
    have going : r.cancelStreams.disposed = false := r.cancelStreams_retains.disposed.trans going
    have gone : Responder.Dwindles True r.cancelStreams
        ({ r.cancelStreams with disposed := true }.record .disposed) :=
      .note (.of_eq rfl) rfl rfl (by simp)
    have within := Dialogue.within_all (fun _ => trivial) (app.dispose w) (Q := fun _ => True)
    have talked := Responder.Touches.dwindles
      (within.run ({ r.cancelStreams with disposed := true }.record .disposed)).1
    rw [Responder.cleanup, Responder.dispose_eq _ w app going]
    exact ((cancelled.trans gone).trans talked).trans (.note (.of_eq rfl) rfl rfl (by simp))

/-- Payloads are asked for only where that is allowed, and the application's world changes as it should. -/
def Action.Within (asking : Prop) (P : ω → Prop) : Action ω → Prop
  | .request _ _ => asking
  | .world change => ∀ w, P w → P (change w)
  | _ => True

theorem Action.within_all (a : Action ω) : a.Within True fun _ => True := by
  cases a <;> simp [Action.Within]

/-- Once a connection has been cleaned up it only dwindles. -/
theorem Responder.Accounts.dwindles {s : Responder × ω} (h : s.1.Accounts true) (linked : s.1.Linked)
    (settings : Settings) {app : Application ω} (within : app.Within asking P) (fine : P s.2)
    {a : Action ω} (fits : a.Within asking P) :
    Responder.Dwindles asking s.1 (Responder.step settings app a s).1 ∧
      P (Responder.step settings app a s).2 := by
  obtain ⟨r, w⟩ := s
  have paced : Responder.Dwindles asking r r.beginTurn := .of_eq rfl rfl
  have touched {r' : Responder} (touch : Responder.Touch asking r.beginTurn r') :
      Responder.Dwindles asking r r' := paced.trans touch.dwindles
  cases a with
  | receive x =>
    rw [h.receive settings app x]
    exact ⟨.of_eq rfl rfl, fine⟩
  | turn n budget =>
    have begun : r.KeepsTasks r.beginTurn := Responder.AsideMove.keepsTasks (.pace r _)
    have stopped : r.beginTurn.shutdown = true := h.shutdown
    have ebbs := (begun.linked linked).turn_ebbs (n := n)
      (fun t _ _ => by rw [Responder.isCancelled, stopped, Bool.true_or]) within fine budget
    exact ⟨paced.trans ebbs.1.dwindles, ebbs.2⟩
  | transportStopped result =>
    refine ⟨?_, fine⟩
    cases result with
    | ok _ => exact paced.trans r.beginTurn.cancelStreams_dwindles
    | error e =>
      have told := paced.trans (r.beginTurn.report_dwindles (.transport e))
      exact told.trans (Responder.cancelStreams_dwindles _)
  | cleanup =>
    have eq : Responder.step settings app .cleanup (r, w) = _ :=
      Responder.cleanup_again (r := r.beginTurn) h.disposed w app
    rw [eq]
    exact ⟨(paced.trans r.beginTurn.cancelStreams_dwindles).trans (.of_eq rfl rfl), fine⟩
  | read n => exact ⟨touched (.read _ n), fine⟩
  | request n demand => exact ⟨touched (.request _ fits n demand), fine⟩
  | drop n => exact ⟨touched (.drop _ n), fine⟩
  | signal n s =>
    refine ⟨paced.trans ?_, fine⟩
    have hosts := Responder.AsideMove.hosts (.signal r.beginTurn n s)
    show Responder.Dwindles asking r.beginTurn (r.beginTurn.signal n s)
    unfold Responder.signal at hosts ⊢
    split
    next c hc =>
      rw [hc] at hosts
      exact .quiet hosts List.length_set rfl
    next => exact .of_eq rfl rfl
  | cancelChannel n =>
    exact ⟨paced.trans (.quiet (r.beginTurn.cancelChannel_hosts n) (length_cancelChannelAt n _) rfl),
      fine⟩
  | register stream control => exact ⟨.of_eq rfl rfl, fine⟩
  | world change => exact ⟨paced, fits w fine⟩

theorem Responder.Accounts.run_dwindles {s : Responder × ω} (h : s.1.Accounts true)
    (linked : s.1.Linked) (settings : Settings) {app : Application ω} (within : app.Within asking P)
    (fine : P s.2) {as : List (Action ω)} (fit : ∀ a ∈ as, a.Within asking P) :
    Responder.Dwindles asking s.1 (Responder.run settings app as s).1 := by
  induction as generalizing s with
  | nil => exact .of_eq rfl rfl
  | cons a as ih =>
    obtain ⟨first, fine⟩ := h.dwindles linked settings within fine (fit a List.mem_cons_self)
    have linked' := (linked.step_moves settings app a).linked linked
    have gone : (Responder.step settings app a s).1.Accounts true := h.step linked settings app a
    exact first.trans (ih gone linked' fine fun b hb => fit b (List.mem_cons_of_mem a hb))

/-- A cleanup misses channel `n`: it is open, but its entry has gone, as it does when the peer ends its half
of the channel. -/
def Responder.Strays (n : Nat) (r : Responder) : Prop :=
  ∃ c, r.channels[n]? = some c ∧ c.isOpen = true ∧ n ∉ r.registry.inbound.map Entry.handle

/-- A channel that is open after a cleanup has been missed by it. -/
theorem Responder.TearsDown.strays (torn : Responder.TearsDown r r')
    (dwindles : Responder.Dwindles asking r r') (hc' : r'.channels[n]? = some c')
    (going : c'.isOpen = true) : Responder.Strays n r := by
  obtain ⟨c, hc, course⟩ := dwindles.origin hc'
  have may : c.MaySend False (.cancel c.stream) := course.maySend (.inl going)
  refine ⟨c, hc, may.resolve_right fun asked => asked.1, fun registered => ?_⟩
  obtain ⟨d, hd, cancelled⟩ := torn.cancelled registered
  cases hd.symm.trans hc'
  rw [(Channel.isOpen_eq_true_iff.mp going).2] at cancelled
  cases cancelled

/-- Without open channels, and unless payloads are asked for, nothing is sent. -/
theorem Responder.Dwindles.silent (h : Responder.Dwindles False r r')
    (closed : ∀ (m : Nat) (c : Channel), r.channels[m]? = some c → ¬ c.isOpen = true)
    (speaker : Speaker) : framesOf speaker r'.history = framesOf speaker r.history := by
  obtain ⟨events, history, sent⟩ := h.told
  have silent : framesOf speaker events = [] := framesOf_eq_nil fun f told => by
    obtain ⟨m, c, _, hc, may⟩ := sent speaker f told
    exact closed m c hc (may.resolve_right fun asked => asked.1)
  rw [history, framesOf_append, silent, List.append_nil]

/-- After a cleanup neither the dispatcher nor any task hands over a frame again, whatever happens in which
order. A channel does only if the cleanup has missed it, or to ask for more payloads. So nothing is sent at
all if the cleanup misses no channel, and the application no longer asks for payloads. -/
theorem Responder.silence_after_cleanup (settings : Settings) (app : Application ω) (w : ω)
    (before : List (Action ω)) :
    let s := Responder.run settings app before (Responder.start, w)
    let s' := Responder.step settings app .cleanup s
    (∀ after, ∃ events, (Responder.run settings app after s').1.history = s'.1.history ++ events ∧
      ∀ speaker f, Event.sent speaker f ∈ events → ∃ m c, speaker = .channel m ∧
        s.1.channels[m]? = some c ∧ c.terminated = false ∧
        (f.kind = .requestN ∨ Responder.Strays m s.1)) ∧
    ∀ P : ω → Prop, app.Within False P → P s'.2 → (∀ m, ¬ Responder.Strays m s.1) →
      ∀ after, (∀ a ∈ after, a.Within False P) → ∀ speaker,
        framesOf speaker (Responder.run settings app after s').1.history =
          framesOf speaker s'.1.history := by
  intro s s'
  have linked : s.1.Linked := Responder.linked_start.run settings app before
    (s := (Responder.start, w))
  have torn : Responder.TearsDown s.1 s'.1 := linked.step_tearsDown
    (Responder.paired_run settings app w before) (Responder.sound_run settings app w before) settings
    app rfl
  have gone : s'.1.Accounts true := by
    have gone := (Responder.accounts_run settings app w before).step linked settings app .cleanup
    rwa [show Action.isCleanup (.cleanup : Action ω) = true from rfl, Bool.or_true] at gone
  have linked' : s'.1.Linked := (linked.step_moves settings app .cleanup).linked linked
  have paced : Responder.Dwindles True s.1 s.1.beginTurn := .of_eq rfl rfl
  have cleaned : Responder.Dwindles True s.1 s'.1 :=
    paced.trans (s.1.beginTurn.cleanup_dwindles s.2 app)
  refine ⟨fun after => ?_, fun P within fine none after fit speaker => ?_⟩
  · obtain ⟨events, history, sent⟩ := (gone.run_dwindles linked' settings app.within_all trivial
      fun (a : Action ω) (_ : a ∈ after) => a.within_all).told
    refine ⟨events, history, fun speaker f told => ?_⟩
    obtain ⟨m, c', speaks, hc', may⟩ := sent speaker f told
    obtain ⟨c, hc, course⟩ := cleaned.origin hc'
    refine ⟨m, c, speaks, hc, (course.maySend may).live, ?_⟩
    exact may.elim (fun going => .inr (torn.strays cleaned hc' going)) fun asked => .inl asked.2.2
  · have dwindles := gone.run_dwindles linked' settings within fine fit
    exact dwindles.silent (fun m c' hc' going => none m (torn.strays cleaned hc' going)) speaker

/-- A channel is still registered at the cleanup, and its operation ends without a word. -/
theorem Responder.relay_silence_after_cleanup :
    let s := Responder.run .standard (relay none)
      [.receive (.item (.ok (Frame.requestChannel (.ofNat 7) 5 .empty)))] (Responder.start, ())
    let s' := Responder.step .standard (relay none) .cleanup s
    let r := (Responder.run .standard (relay none) [.turn 0 5] s').1
    s'.1.tasks.length = 1 ∧ r.tasks = [] ∧ (r.channels.map Channel.holder) = [.nobody] ∧
      ∀ speaker, framesOf speaker r.history = framesOf speaker s'.1.history := by
  have silence := Responder.silence_after_cleanup .standard (relay none) ()
    [.receive (.item (.ok (Frame.requestChannel (.ofNat 7) 5 .empty)))]
  have within : (relay none).Within False (fun _ => True) :=
    ⟨fun _ _ _ => trivial, fun _ _ _ => trivial⟩
  dsimp only at silence ⊢
  refine ⟨by decide, by decide, by decide, ?_⟩
  refine silence.2 (fun _ => True) within trivial ?_ [.turn 0 5] (by simp [Action.Within])
  rintro m ⟨c, hc, _, missed⟩
  obtain rfl : m = 0 := Nat.lt_one_iff.mp (List.getElem?_eq_some_iff.mp hc).1
  exact missed (by decide)

/-- The peer has ended its half when the connection is cleaned up, and the channel is cancelled on
the wire once the task of its operation drops it. -/
theorem Responder.relay_speaks_after_cleanup :
    let s := Responder.run .standard (relay none)
      [.receive (.item (.ok (Frame.requestChannel (.ofNat 7) 5 .empty))),
        .receive (.item (.ok (.complete (.ofNat 7))))] (Responder.start, ())
    let s' := Responder.step .standard (relay none) .cleanup s
    let r := (Responder.run .standard (relay none) [.turn 0 5] s').1
    s'.1.shutdown = true ∧ framesOf (.channel 0) s'.1.history = [] ∧
      framesOf (.channel 0) r.history = [.cancel (.ofNat 7)] := by
  decide

end Multiplexer
