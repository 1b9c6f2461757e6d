import Multiplexer.Proofs.TurnMoves

/-!
Every action is a chain of the moves that it permits.
-/

namespace Multiplexer

variable {ω : Type} {allowed : Label → Prop} {r r' : Responder}

theorem Action.permits_aside (a : Action ω) : a.permits .aside := trivial

theorem Responder.record_aside (r : Responder) {e : Event} (h : e.task? = none)
    (silent : ∀ n f, e ≠ .sent (.channel n) f) (kept : ∀ n x, e ≠ .yielded n x)
    (going : e ≠ .disposed) (own : ∀ f, e = .sent .dispatcher f → f.FromDispatcher) :
    r.AsideMoves (r.record e) :=
  .single (.record r e h silent kept going own)

theorem Responder.send_aside (r : Responder) {f : Frame} (own : f.FromDispatcher) :
    r.AsideMoves (r.send .dispatcher f) := by
  refine r.record_aside rfl (by simp) (by simp) (by simp) ?_
  rintro _ ⟨⟩
  exact own

theorem Responder.report_aside (r : Responder) (e : Failure) : r.AsideMoves (r.report e) := by
  have counted : r.AsideMoves { r with metrics := r.metrics.failed } := .single (.count r _ rfl)
  exact counted.trans (Responder.record_aside _ rfl (by simp) (by simp) (by simp) (by simp))

theorem Responder.reports_aside (es : List Failure) (r : Responder) :
    r.AsideMoves (es.foldl Responder.report r) := by
  induction es generalizing r with
  | nil => exact .refl
  | cons e es ih => exact (r.report_aside e).trans (ih _)

theorem Responder.violation_aside (r : Responder) (e : ProtocolError) :
    r.AsideMoves (r.violation e) :=
  (r.send_aside (.refusal ..)).trans (Responder.report_aside _ _)

theorem Responder.readRequest_aside {settings : Settings} {f : Frame}
    (h : r.readRequest settings f = .error r') : r.AsideMoves r' := by
  unfold Responder.readRequest at h
  split at h
  · cases h
  · cases h
    exact (r.send_aside (.refusal ..)).trans (Responder.report_aside _ _)

/-- A registration that is refused uses up a token and is answered. -/
theorem Responder.refuse_aside (r : Responder) (e : ProtocolError) :
    r.AsideMoves (Responder.violation
      { r with registry := { r.registry with issued := r.registry.issued + 1 } } e) := by
  have refused : r.AsideMoves
      { r with registry := { r.registry with issued := r.registry.issued + 1 } } := .single (.refuse r)
  exact refused.trans (Responder.violation_aside _ e)

/-- A request under a stream that is active is refused. -/
theorem Responder.startSingle_taken (r : Responder) (kind : SingleRequest) {stream : StreamId}
    (p : Payload) (taken : r.registry.outbound.contains stream = true) :
    r.startSingle kind stream p = Responder.violation
      { r with registry := { r.registry with issued := r.registry.issued + 1 } }
      (.duplicateStream stream) := by
  simp [Responder.startSingle, Registry.registerOutbound, taken]

theorem Responder.startSingle_begins (r : Responder) (kind : SingleRequest) {stream : StreamId}
    (p : Payload) (free : r.registry.outbound.contains stream = false) :
    Responder.Begins stream (.task false) (.single kind (some r.registry.issued) (some p)) r
      (r.startSingle kind stream p) := by
  refine ⟨free, _, .refl, ?_⟩
  simp [Responder.startSingle, Responder.register, Registry.registerOutbound, free, Responder.spawn]

/-- A request is refused, or a task without flow control begins. -/
theorem Responder.startSingle_spec (r : Responder) (kind : SingleRequest) (stream : StreamId)
    (p : Payload) :
    r.AsideMoves (r.startSingle kind stream p) ∨
      Responder.Begins stream (.task false) (.single kind (some r.registry.issued) (some p)) r
        (r.startSingle kind stream p) := by
  cases taken : r.registry.outbound.contains stream with
  | false => exact .inr (r.startSingle_begins kind p taken)
  | true =>
    rw [r.startSingle_taken kind p taken]
    exact .inl (r.refuse_aside _)

theorem Responder.startSingle_moves (kind : SingleRequest) (stream : StreamId) (p : Payload)
    (aside : allowed .aside) (start : allowed .start) (running : r.shutdown = false) :
    r.Moves allowed (r.startSingle kind stream p) := by
  rcases r.startSingle_spec kind stream p with refused | begins
  · exact Responder.AsideMoves.moves aside refused
  · exact .single start (.begin begins running rfl rfl rfl rfl)

theorem Responder.fireAndForget_moves (settings : Settings) (f : Frame) (aside : allowed .aside)
    (start : allowed .start) (running : r.shutdown = false) :
    r.Moves allowed (r.fireAndForget settings f) := by
  unfold Responder.fireAndForget
  split
  · exact Responder.startSingle_moves _ _ _ aside start running
  · exact Responder.AsideMoves.moves aside (r.report_aside _)

theorem Responder.requestResponse_moves (settings : Settings) (f : Frame) (aside : allowed .aside)
    (start : allowed .start) (running : r.shutdown = false) :
    r.Moves allowed (r.requestResponse settings f) := by
  unfold Responder.requestResponse
  split
  · exact Responder.startSingle_moves _ _ _ aside start running
  next unread => exact Responder.AsideMoves.moves aside (Responder.readRequest_aside unread)

theorem Responder.driveStream_taken (r : Responder) (w : ω) {stream : StreamId} (demand : UInt32)
    (channel : Option Nat) (openIt : Nat → ω → Dialogue (Option Panic × ω))
    (taken : r.registry.outbound.contains stream = true) :
    r.driveStream w stream demand channel openIt = ((Responder.violation
      { r with registry := { r.registry with issued := r.registry.issued + 1 } }
      (.duplicateStream stream)).dropOwnChannel channel, w) := by
  simp [Responder.driveStream, Registry.registerOutbound, taken]

/-- Where the driver of a response stream begins after the call that has opened the stream. -/
def StreamPhase.opened : Option Panic → StreamPhase
  | none => .pulling
  | some p => .broken (.panicked p.message)

/-- What follows the call that has opened a response stream: the task of its driver. A call that has
panicked loses the channel. -/
def Responder.drive (n : Nat) (stream : StreamId) (token : Nat) (channel : Option Nat)
    (answer : Responder × Option Panic × ω) : Responder × ω :=
  let (r, panic, w) := answer
  let r := (if panic.isSome then r.dropOwnChannel channel else r).notePanic (panic.map Panic.message)
  ({ r with tasks := r.tasks ++ [⟨n, stream, .stream token channel (.opened panic)⟩] }, w)

/-- Under a stream that is free the application is called. -/
theorem Responder.driveStream_free (r : Responder) (w : ω) {stream : StreamId} (demand : UInt32)
    (channel : Option Nat) (openIt : Nat → ω → Dialogue (Option Panic × ω))
    (free : r.registry.outbound.contains stream = false) :
    r.driveStream w stream demand channel openIt =
      Responder.drive r.controls.length stream r.registry.issued channel
        ((openIt r.controls.length w).run
          (r.register stream (.stream false (Demand.new.grant (creditOfDemand demand)))).1) := by
  simp only [Responder.driveStream, Responder.register, Registry.registerOutbound, free,
    Bool.false_eq_true, if_false]
  generalize (openIt r.controls.length w).run _ = answer
  obtain ⟨r1, panic, w1⟩ := answer
  cases panic <;> rfl

/-- Under a stream that is free the driver of a response stream begins. -/
theorem Responder.driveStream_begins (r : Responder) (w : ω) {stream : StreamId} (demand : UInt32)
    (channel : Option Nat) (openIt : Nat → ω → Dialogue (Option Panic × ω))
    (free : r.registry.outbound.contains stream = false) :
    ∃ phase, phase.inHand = none ∧
      Responder.Begins stream (.stream false (Demand.new.grant (creditOfDemand demand)))
        (.stream r.registry.issued channel phase) r
        (r.driveStream w stream demand channel openIt).1 := by
  have opened := Responder.ChannelMoves.aside ((openIt r.controls.length w).run_moves
    (r.register stream (.stream false (Demand.new.grant (creditOfDemand demand)))).1)
  rw [r.driveStream_free w demand channel openIt free]
  generalize (openIt r.controls.length w).run _ = answer at opened ⊢
  obtain ⟨r1, panic, w1⟩ := answer
  cases panic with
  | none => exact ⟨.pulling, rfl, free, r1, opened, rfl⟩
  | some p =>
    have dropped := opened.trans
      (Responder.ChannelMoves.aside (r1.dropOwnChannel_moves channel))
    have noted := dropped.trans ((r1.dropOwnChannel channel).notePanic_aside (some p.message))
    exact ⟨.broken (.panicked p.message), rfl, free, _, noted, rfl⟩

/-- A request is refused, or the driver of a response stream begins. -/
theorem Responder.driveStream_spec (r : Responder) (w : ω) (stream : StreamId) (demand : UInt32)
    (channel : Option Nat) (openIt : Nat → ω → Dialogue (Option Panic × ω)) :
    r.AsideMoves (r.driveStream w stream demand channel openIt).1 ∨
      ∃ phase, phase.inHand = none ∧
        Responder.Begins stream (.stream false (Demand.new.grant (creditOfDemand demand)))
          (.stream r.registry.issued channel phase) r
          (r.driveStream w stream demand channel openIt).1 := by
  cases taken : r.registry.outbound.contains stream with
  | true =>
    rw [r.driveStream_taken w demand channel openIt taken]
    exact .inl ((r.refuse_aside _).trans
      (Responder.ChannelMoves.aside (Responder.dropOwnChannel_moves _ channel)))
  | false => exact .inr (r.driveStream_begins w demand channel openIt taken)

theorem Responder.driveStream_moves (w : ω) (stream : StreamId) (demand : UInt32)
    (channel : Option Nat) (openIt : Nat → ω → Dialogue (Option Panic × ω))
    (aside : allowed .aside) (start : allowed .start) (running : r.shutdown = false) :
    r.Moves allowed (r.driveStream w stream demand channel openIt).1 := by
  rcases r.driveStream_spec w stream demand channel openIt with refused | ⟨phase, fresh, begins⟩
  · exact Responder.AsideMoves.moves aside refused
  · exact .single start (.begin begins running rfl rfl rfl fresh)

theorem Responder.requestStream_moves (w : ω) (settings : Settings) (app : Application ω)
    (f : Frame) (aside : allowed .aside) (start : allowed .start) (running : r.shutdown = false) :
    r.Moves allowed (r.requestStream w settings app f).1 := by
  unfold Responder.requestStream
  split
  · exact Responder.driveStream_moves w f.stream f.demand none _ aside start running
  next unread => exact Responder.AsideMoves.moves aside (Responder.readRequest_aside unread)

theorem Responder.openInbound_refused {settings : Settings} {f : Frame} {p : Payload}
    (h : r.openInbound settings f p = .error r') : r.AsideMoves r' := by
  simp only [Responder.openInbound, Registry.registerInbound] at h
  cases taken : r.registry.inbound.contains f.stream with
  | true =>
    simp only [taken, if_true, Except.error.injEq] at h
    exact h ▸ r.refuse_aside _
  | false =>
    simp only [taken, Bool.false_eq_true, if_false] at h
    split at h <;> cases h

theorem Responder.requestChannel_moves (w : ω) (settings : Settings) (app : Application ω)
    (f : Frame) (aside : allowed .aside) (start : allowed .start) (running : r.shutdown = false) :
    r.Moves allowed (r.requestChannel w settings app f).1 := by
  unfold Responder.requestChannel
  split
  · exact Responder.AsideMoves.moves aside (r.violation_aside _)
  · split
    next unread => exact Responder.AsideMoves.moves aside (Responder.readRequest_aside unread)
    next p _ =>
      split
      next refused => exact Responder.AsideMoves.moves aside (Responder.openInbound_refused refused)
      next opened open_ =>
        have step : r.AsideMoves opened := .single (.openInbound open_)
        refine (Responder.AsideMoves.moves aside step).trans ?_
        exact Responder.driveStream_moves w f.stream f.demand _ _ aside start
          (step.keepsTasks.shutdown.trans running)

theorem Responder.metadataPush_moves (settings : Settings) (f : Frame) (aside : allowed .aside)
    (start : allowed .start) (running : r.shutdown = false) :
    r.Moves allowed (r.metadataPush settings f) := by
  unfold Responder.metadataPush
  split
  · exact .single start (.startPush f.stream _ running)
  · exact Responder.AsideMoves.moves aside (r.report_aside _)

theorem Responder.cancelStream_moves (stream : StreamId) (cancel : allowed (.cancel stream)) :
    r.Moves allowed (r.cancelStream stream).1 := by
  cases found : r.registry.outbound? stream with
  | some n => exact .single cancel (.cancel found)
  | none =>
    have same : (r.cancelStream stream).1 = r := by
      simp [Responder.cancelStream, Registry.removeOutbound, found]
    rw [same]
    exact .refl r

theorem Responder.grantStream_moves (stream : StreamId) (demand : UInt32)
    (grant : allowed (.grant stream)) : r.Moves allowed (r.grantStream stream demand).1 := by
  cases found : r.registry.outbound? stream with
  | some n => exact .single grant (.grant found demand)
  | none =>
    have same : (r.grantStream stream demand).1 = r := by simp [Responder.grantStream, found]
    rw [same]
    exact .refl r

theorem Responder.answerKeepalive_aside (r : Responder) (f : Frame) :
    r.AsideMoves (r.answerKeepalive f) := by
  unfold Responder.answerKeepalive
  split
  · exact r.send_aside (.echo f.data)
  · exact .refl

theorem Responder.deliver_aside (r : Responder) (settings : Settings) (n : Nat) (f : Frame) :
    r.AsideMoves (r.deliver settings n f) := by
  unfold Responder.deliver
  split
  · exact .single (.signal r n _)
  · exact r.report_aside _

theorem Responder.inboundNext_aside (r : Responder) (settings : Settings) (f : Frame) :
    r.AsideMoves (r.inboundNext settings f) := by
  unfold Responder.inboundNext
  split
  · exact r.deliver_aside settings _ f
  · exact .refl

theorem Responder.closeInbound_aside {stream : StreamId} {registry : Registry Nat Nat}
    {n : Option Nat} (h : r.registry.removeInbound stream = (registry, n)) :
    r.AsideMoves { r with registry } := by
  have step := Responder.AsideMove.closeInbound r stream
  rw [h] at step
  exact .single step

theorem Responder.inboundNextComplete_aside (r : Responder) (settings : Settings) (f : Frame) :
    r.AsideMoves (r.inboundNextComplete settings f) := by
  unfold Responder.inboundNextComplete
  split
  next closed =>
    exact ((Responder.closeInbound_aside closed).trans (Responder.deliver_aside ..)).tail
      (.signal _ _ _)
  next => exact .refl

theorem Responder.inboundEnd_aside (r : Responder) (stream : StreamId) (s : Signal) :
    r.AsideMoves (r.inboundEnd stream s) := by
  unfold Responder.inboundEnd
  split
  next closed => exact (Responder.closeInbound_aside closed).tail (.signal _ _ _)
  next => exact .refl

theorem Responder.dispatch_moves (w : ω) (settings : Settings) (app : Application ω) (f : Frame)
    (running : r.shutdown = false) :
    r.Moves (Action.receive (.item (.ok f)) : Action ω).permits
      (r.dispatch w settings app f).responder := by
  have aside : (Action.receive (.item (.ok f)) : Action ω).permits .aside := trivial
  have start : (Action.receive (.item (.ok f)) : Action ω).permits .start := ⟨f, rfl⟩
  have counted : r.AsideMoves { r with metrics := r.metrics.frameReceived } :=
    .single (.count r _ rfl)
  refine (Responder.AsideMoves.moves aside counted).trans ?_
  have other {r' : Responder} (h : Responder.AsideMoves
      { r with metrics := r.metrics.frameReceived } r') := Responder.AsideMoves.moves aside h
  unfold Responder.dispatch
  split
  next => exact Responder.fireAndForget_moves settings f aside start running
  next => exact Responder.requestResponse_moves settings f aside start running
  next => exact Responder.requestStream_moves w settings app f aside start running
  next => exact Responder.requestChannel_moves w settings app f aside start running
  next => exact Responder.metadataPush_moves settings f aside start running
  next kind => exact Responder.cancelStream_moves f.stream ⟨f, rfl, kind, rfl⟩
  next kind => exact Responder.grantStream_moves f.stream f.demand ⟨f, rfl, kind, rfl⟩
  next => exact other (Responder.answerKeepalive_aside _ f)
  next => exact other (Responder.inboundNext_aside _ settings f)
  next => exact other (Responder.inboundNextComplete_aside _ settings f)
  next => exact other (Responder.inboundEnd_aside _ _ _)
  next => exact other (Responder.inboundEnd_aside _ _ _)
  next => exact .refl _
  next => exact .refl _
  all_goals exact other (Responder.violation_aside _ _)

theorem Responder.receive_moves (w : ω) (settings : Settings) (app : Application ω)
    (x : Receipt (Except TransportError Frame)) :
    r.Moves (Action.receive x : Action ω).permits (r.receive w settings app x).1 := by
  have stop (r : Responder) :
      r.Moves (Action.receive x : Action ω).permits { r with receiving := false } :=
    .single (Action.permits_aside _) (.aside (.stopReceiving r))
  unfold Responder.receive
  split
  · exact .refl r
  · split
    · exact stop r
    next running =>
      split
      · exact .refl r
      · exact stop r
      · exact .trans (Responder.AsideMoves.moves trivial (r.report_aside _)) (stop _)
      next f =>
        have moves := Responder.dispatch_moves w settings app f (by simpa using running)
        dsimp only
        split
        · exact moves
        · exact moves.trans (stop _)

theorem Entries.cancelAll_controls (es : Entries Nat) (controls : Controls)
    (channels : List Channel) :
    (es.cancelAll (fun n (controls, channels) =>
      let (controls, panic) := Controls.cancel controls n
      ((controls, channels), panic)) (controls, channels)).1 =
      (controls.cancelEach (es.map Entry.handle), channels) := by
  induction es generalizing controls with
  | nil => rfl
  | cons e es ih =>
    rw [Entries.cancelAll]
    dsimp only
    split <;> exact ih _

theorem Entries.cancelAll_channels (es : Entries Nat) (controls : Controls)
    (channels : List Channel) :
    (es.cancelAll (fun n (controls, channels) =>
      ((controls, cancelChannelAt n channels), none)) (controls, channels)).1 =
      (controls, (es.map Entry.handle).foldl (fun cs n => cancelChannelAt n cs) channels) := by
  induction es generalizing channels with
  | nil => rfl
  | cons e es ih => exact ih _

/-- All streams are taken out and cancelled, and what fails is reported. -/
theorem Responder.cancelStreams_eq (r : Responder) :
    ∃ failures : List Failure, r.cancelStreams = failures.foldl Responder.report r.drained := by
  have world := Entries.cancelAll_controls r.registry.outbound r.controls r.channels
  have world' := Entries.cancelAll_channels r.registry.inbound
    (r.controls.cancelEach (r.registry.outbound.map Entry.handle)) r.channels
  have told : ∃ failures : List Failure, r.cancelStreams = failures.foldl Responder.report _ :=
    ⟨_, rfl⟩
  simpa only [Registry.drain, world, world', Responder.drained] using told

theorem Responder.cancelStreams_aside (r : Responder) : r.drained.AsideMoves r.cancelStreams := by
  obtain ⟨failures, eq⟩ := r.cancelStreams_eq
  rw [eq]
  exact Responder.reports_aside failures r.drained

/-- An application that has not been disposed of is asked to let go, and the connection is counted out
even if it panics. -/
theorem Responder.dispose_eq (r : Responder) (w : ω) (app : Application ω)
    (going : r.disposed = false) :
    r.dispose w app =
      let answer := (app.dispose w).run ({ r with disposed := true }.record .disposed)
      let panics := answer.2.1.toList.map fun p => Event.disposePanicked p.message
      ({ answer.1 with
          metrics := answer.1.metrics.connectionClosed
          history := answer.1.history ++ panics }, answer.2.2) := by
  rw [Responder.dispose, going, if_neg Bool.false_ne_true]
  generalize (app.dispose w).run _ = answer
  obtain ⟨r1, panic, w1⟩ := answer
  cases panic with
  | none => simp
  | some p => simp [Responder.record]

theorem Responder.dispose_spec (r : Responder) (w : ω) (app : Application ω)
    (going : r.disposed = false) :
    ∃ told, ({ r with disposed := true }.record .disposed).AsideMoves told ∧
      (r.dispose w app).1 = { told with metrics := told.metrics.connectionClosed } := by
  have talked := Responder.ChannelMoves.aside
    ((app.dispose w).run_moves ({ r with disposed := true }.record .disposed))
  rw [r.dispose_eq w app going]
  generalize (app.dispose w).run _ = answer at talked ⊢
  obtain ⟨r1, panic, w1⟩ := answer
  cases panic with
  | none => exact ⟨r1, talked, by simp⟩
  | some p =>
    have noted := r1.record_aside (e := .disposePanicked p.message) rfl (by simp) (by simp) (by simp)
      (by simp)
    exact ⟨_, talked.trans noted, rfl⟩

theorem Responder.dispose_moves (w : ω) (app : Application ω) (aside : allowed .aside)
    (disposal : allowed .disposal) : r.Moves allowed (r.dispose w app).1 := by
  cases going : r.disposed with
  | true =>
    rw [Responder.dispose, going, if_pos rfl]
    exact .refl r
  | false =>
    obtain ⟨told, moves, eq⟩ := r.dispose_spec w app going
    rw [eq]
    exact (Responder.Moves.single disposal .dispose).trans
      ((Responder.AsideMoves.moves aside moves).trans (.single disposal .disconnect))

theorem Responder.dispose_keepsTasks (r : Responder) (w : ω) (app : Application ω) :
    r.KeepsTasks (r.dispose w app).1 := by
  cases going : r.disposed with
  | true =>
    rw [Responder.dispose, going, if_pos rfl]
    exact .refl r
  | false =>
    obtain ⟨told, moves, eq⟩ := r.dispose_spec w app going
    rw [eq]
    exact (r.disposed_keepsTasks.trans (Responder.AsideMoves.keepsTasks moves)).trans
      (told.counted_keepsTasks _)

theorem Responder.Linked.step_moves {s : Responder × ω} (h : s.1.Linked) (settings : Settings)
    (app : Application ω) (a : Action ω) :
    s.1.Moves a.permits (Responder.step settings app a s).1 := by
  obtain ⟨r, w⟩ := s
  have paced : r.AsideMoves r.beginTurn := .single (.pace r _)
  have begun : r.Moves a.permits r.beginTurn := Responder.AsideMoves.moves trivial paced
  have linked := begun.linked h
  refine begun.trans ?_
  have aside {r' : Responder} (step : r.beginTurn.AsideMove r') : r.beginTurn.Moves a.permits r' :=
    .single (Action.permits_aside a) (.aside step)
  cases a with
  | receive x => exact Responder.receive_moves w settings app x
  | turn n budget => exact linked.turn_moves w app n budget trivial ⟨budget, rfl⟩
  | transportStopped result =>
    have teardown : (Action.transportStopped result : Action ω).permits .teardown :=
      .inr ⟨result, rfl⟩
    have drained (r : Responder) :
        r.Moves (Action.transportStopped result : Action ω).permits r.cancelStreams :=
      .trans (.single teardown .drain) (Responder.AsideMoves.moves trivial r.cancelStreams_aside)
    unfold Responder.step Responder.transportStopped
    cases result with
    | ok _ => exact drained _
    | error e =>
      exact .trans (Responder.AsideMoves.moves trivial (Responder.report_aside _ _)) (drained _)
  | cleanup =>
    have cancelled := r.beginTurn.cancelStreams_aside
    have teardown : (Action.cleanup : Action ω).permits .teardown := .inl rfl
    have disposed : Responder.Moves (Action.cleanup : Action ω).permits r.beginTurn.cancelStreams
        (r.beginTurn.cancelStreams.dispose w app).1 := Responder.dispose_moves w app trivial rfl
    have kept := (Responder.AsideMoves.keepsTasks cancelled).trans
      (r.beginTurn.cancelStreams.dispose_keepsTasks w app)
    have empty : (r.beginTurn.cancelStreams.dispose w app).1.registry.outbound = [] := kept.outbound
    exact (Responder.Moves.single teardown .drain).trans
      ((Responder.AsideMoves.moves trivial cancelled).trans
        (disposed.trans (.single teardown (.shut empty))))
  | read n => exact aside (.channel (.read _ n))
  | request n demand => exact aside (.channel (.request _ n demand))
  | drop n => exact aside (.channel (.drop _ n))
  | signal n s => exact aside (.signal _ n s)
  | cancelChannel n => exact aside (.cancelChannel _ n)
  | register stream control =>
    have foreign : (Action.register stream control : Action ω).permits .foreign :=
      ⟨stream, control, rfl⟩
    exact .single foreign (.register stream control)
  | world change => exact .refl _

theorem Responder.Linked.run_moves {s : Responder × ω} (h : s.1.Linked) (settings : Settings)
    (app : Application ω) (as : List (Action ω)) :
    s.1.Moves (fun _ => True) (Responder.run settings app as s).1 := by
  induction as generalizing s with
  | nil => exact .refl s.1
  | cons a as ih =>
    have moves := h.step_moves settings app a
    exact (moves.mono fun _ _ => trivial).trans (ih (moves.linked h))

/-- Links are kept by every action, in any order. -/
theorem Responder.Linked.run {s : Responder × ω} (h : s.1.Linked) (settings : Settings)
    (app : Application ω) (as : List (Action ω)) : (Responder.run settings app as s).1.Linked :=
  (h.run_moves settings app as).linked h

end Multiplexer
