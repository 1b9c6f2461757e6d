import Multiplexer.Proofs.Acceptance
import Multiplexer.Proofs.Drives
import Multiplexer.Proofs.Signals

/-!
What passes a channel by: all that can happen to a responder without a signal to the channel. Whoever holds
the channel may use it in the meantime, and it may be cancelled.
-/

namespace Multiplexer

variable {ω : Type} {m n : Nat} {r r' : Responder}

/-- Something happens that tells channel `m` nothing. -/
inductive Responder.Pass (m : Nat) : Responder → Responder → Prop where
  | talk {r r' : Responder} (h : r.ChannelMove r') : Pass m r r'
  | cancel (r : Responder) (n : Nat) : Pass m r (r.cancelChannel n)
  | spare {r r' : Responder} {events : List Event} (same : r'.channels[m]? = r.channels[m]?)
    (history : r'.history = r.history ++ events) (other : ∀ e ∈ events, e.channel? ≠ some m) :
    Pass m r r'

abbrev Responder.Passes (m : Nat) : Responder → Responder → Prop :=
  Relation.ReflTransGen (Responder.Pass m)

theorem Responder.ChannelMoves.passes (h : r.ChannelMoves r') : Responder.Passes m r r' :=
  Relation.ReflTransGen.mono (fun _ _ step => .talk step) _ _ h

theorem Responder.Passes.tell {events : List Event} (same : r'.channels[m]? = r.channels[m]?)
    (history : r'.history = r.history ++ events) (other : ∀ e ∈ events, e.channel? ≠ some m) :
    Responder.Passes m r r' :=
  .single (.spare same history other)

theorem Responder.Passes.of_eq (same : r'.channels[m]? = r.channels[m]?)
    (history : r'.history = r.history) : Responder.Passes m r r' :=
  .tell same (history.trans (List.append_nil _).symm) fun _ he => absurd he List.not_mem_nil

theorem Responder.record_passes (r : Responder) {e : Event} (other : e.channel? ≠ some m) :
    Responder.Passes m r (r.record e) :=
  .tell rfl rfl fun _ he => List.mem_singleton.mp he ▸ other

theorem Responder.send_passes (r : Responder) (f : Frame) :
    Responder.Passes m r (r.send .dispatcher f) :=
  r.record_passes (by simp [Event.channel?])

theorem Responder.report_passes (r : Responder) (e : Failure) :
    Responder.Passes m r (r.report e) := by
  have other : ∀ x ∈ [Event.reported e], x.channel? ≠ some m := by simp [Event.channel?]
  exact .tell rfl rfl other

theorem Responder.reports_passes (es : List Failure) (r : Responder) :
    Responder.Passes m r (es.foldl Responder.report r) := by
  induction es generalizing r with
  | nil => exact .refl
  | cons e es ih => exact (r.report_passes e).trans (ih _)

theorem Responder.violation_passes (r : Responder) (e : ProtocolError) :
    Responder.Passes m r (r.violation e) :=
  (r.send_passes _).trans (Responder.report_passes _ _)

theorem Responder.readRequest_passes {settings : Settings} {f : Frame}
    (unread : r.readRequest settings f = .error r') : Responder.Passes m r r' := by
  unfold Responder.readRequest at unread
  split at unread
  · cases unread
  · cases unread
    exact (r.send_passes _).trans (Responder.report_passes _ _)

theorem Responder.startSingle_passes (r : Responder) (kind : SingleRequest) (stream : StreamId)
    (p : Payload) : Responder.Passes m r (r.startSingle kind stream p) := by
  have counted (registry : Registry Nat Nat) : Responder.Passes m r { r with registry } := .of_eq rfl rfl
  unfold Responder.startSingle
  split
  next registry _ _ => exact (counted registry).trans (Responder.Passes.of_eq rfl rfl)
  next registry e _ => exact (counted registry).trans (Responder.violation_passes _ e)

theorem Responder.fireAndForget_passes (r : Responder) (settings : Settings) (f : Frame) :
    Responder.Passes m r (r.fireAndForget settings f) := by
  unfold Responder.fireAndForget
  split
  · exact r.startSingle_passes _ _ _
  · exact r.report_passes _

theorem Responder.requestResponse_passes (r : Responder) (settings : Settings) (f : Frame) :
    Responder.Passes m r (r.requestResponse settings f) := by
  unfold Responder.requestResponse
  split
  · exact r.startSingle_passes _ _ _
  next unread => exact Responder.readRequest_passes unread

theorem Responder.metadataPush_passes (r : Responder) (settings : Settings) (f : Frame) :
    Responder.Passes m r (r.metadataPush settings f) := by
  unfold Responder.metadataPush
  split
  · exact Responder.Passes.of_eq rfl rfl
  · exact r.report_passes _

theorem Responder.driveStream_passes (r : Responder) (w : ω) (stream : StreamId) (demand : UInt32)
    (channel : Option Nat) (openIt : Nat → ω → Dialogue (Option Panic × ω)) :
    Responder.Passes m r (r.driveStream w stream demand channel openIt).1 := by
  have counted (registry : Registry Nat Nat) (controls : Controls) :
      Responder.Passes m r { r with registry, controls } := .of_eq rfl rfl
  have left (r : Responder) := Responder.ChannelMoves.passes (m := m) (r.dropOwnChannel_moves channel)
  unfold Responder.driveStream
  dsimp only
  split
  next registry e _ =>
    exact ((counted registry r.controls).trans (Responder.violation_passes _ e)).trans (left _)
  next registry token _ =>
    have opened := (counted registry (r.controls ++
      [.stream false (Demand.new.grant (creditOfDemand demand))])).trans
      (Responder.ChannelMoves.passes ((openIt r.controls.length w).run_moves _))
    generalize (openIt r.controls.length w).run _ = answer at opened ⊢
    obtain ⟨r1, panic, w1⟩ := answer
    cases panic with
    | none => exact opened.trans (Responder.Passes.of_eq rfl rfl)
    | some p =>
      have noted := (opened.trans (left r1)).trans
        (Responder.record_passes _ (e := .handlerPanicked p.message) nofun)
      exact noted.trans (Responder.Passes.of_eq rfl rfl)

theorem Responder.requestStream_passes (r : Responder) (w : ω) (settings : Settings)
    (app : Application ω) (f : Frame) :
    Responder.Passes m r (r.requestStream w settings app f).1 := by
  unfold Responder.requestStream
  split
  · exact r.driveStream_passes w f.stream f.demand none _
  next unread => exact Responder.readRequest_passes unread

theorem Responder.openInbound_passes {settings : Settings} {f : Frame} {p : Payload}
    (opened : r.openInbound settings f p = .ok r') (known : m < r.channels.length) :
    Responder.Passes m r r' := by
  unfold Responder.openInbound at opened
  split at opened
  · cases opened
  · split at opened <;> cases opened <;> exact .of_eq (List.getElem?_append_left known) rfl

theorem Responder.openInbound_refused_passes {settings : Settings} {f : Frame} {p : Payload}
    (refused : r.openInbound settings f p = .error r') : Responder.Passes m r r' := by
  have counted (registry : Registry Nat Nat) : Responder.Passes m r { r with registry } := .of_eq rfl rfl
  unfold Responder.openInbound at refused
  split at refused
  next registry e _ =>
    cases refused
    exact (counted registry).trans (Responder.violation_passes _ e)
  · split at refused <;> cases refused

theorem Responder.requestChannel_passes (r : Responder) (w : ω) (settings : Settings)
    (app : Application ω) (f : Frame) (known : m < r.channels.length) :
    Responder.Passes m r (r.requestChannel w settings app f).1 := by
  unfold Responder.requestChannel
  split
  · exact r.violation_passes _
  · split
    next unread => exact Responder.readRequest_passes unread
    next p _ =>
      split
      next refused => exact Responder.openInbound_refused_passes refused
      next opened open_ =>
        exact (Responder.openInbound_passes open_ known).trans
          (opened.driveStream_passes w f.stream f.demand _ _)

theorem Responder.cancelStream_passes (r : Responder) (stream : StreamId) :
    Responder.Passes m r (r.cancelStream stream).1 := by
  unfold Responder.cancelStream
  split <;> exact Responder.Passes.of_eq rfl rfl

theorem Responder.grantStream_passes (r : Responder) (stream : StreamId) (demand : UInt32) :
    Responder.Passes m r (r.grantStream stream demand).1 := by
  unfold Responder.grantStream
  split <;> exact Responder.Passes.of_eq rfl rfl

theorem Responder.answerKeepalive_passes (r : Responder) (f : Frame) :
    Responder.Passes m r (r.answerKeepalive f) := by
  unfold Responder.answerKeepalive
  split
  · exact r.send_passes _
  · exact .refl

theorem Responder.signal_passes (r : Responder) (s : Signal) (other : n ≠ m) :
    Responder.Passes m r (r.signal n s) := by
  unfold Responder.signal
  split
  · exact .of_eq (List.getElem?_set_ne other) rfl
  · exact .refl

theorem Responder.deliver_passes (r : Responder) (settings : Settings) (f : Frame) (other : n ≠ m) :
    Responder.Passes m r (r.deliver settings n f) := by
  unfold Responder.deliver
  split
  · exact r.signal_passes _ other
  · exact r.report_passes _

theorem Registry.removeInbound_handle {g g' : Registry Nat Nat} {stream : StreamId} {x : Option Nat}
    (h : g.removeInbound stream = (g', x)) : x = g.inbound? stream := by
  unfold Registry.removeInbound at h
  split at h
  next found => cases h; exact found.symm
  next absent => cases h; exact absent.symm

theorem Responder.inboundNext_passes (r : Responder) (settings : Settings) (f : Frame)
    (other : r.registry.inbound? f.stream ≠ some m) :
    Responder.Passes m r (r.inboundNext settings f) := by
  unfold Responder.inboundNext
  split
  next n found => exact r.deliver_passes settings f fun eq => other (eq ▸ found)
  next => exact .refl

theorem Responder.inboundNextComplete_passes (r : Responder) (settings : Settings) (f : Frame)
    (other : r.registry.inbound? f.stream ≠ some m) :
    Responder.Passes m r (r.inboundNextComplete settings f) := by
  unfold Responder.inboundNextComplete
  split
  next registry n removed =>
    have elsewhere : n ≠ m := fun eq =>
      other ((Registry.removeInbound_handle removed).symm.trans (congrArg some eq))
    have closed : Responder.Passes m r { r with registry } := .of_eq rfl rfl
    exact (closed.trans (Responder.deliver_passes _ settings f elsewhere)).trans
      (Responder.signal_passes _ .complete elsewhere)
  next => exact .refl

theorem Responder.inboundEnd_passes (r : Responder) {stream : StreamId} (s : Signal)
    (other : r.registry.inbound? stream ≠ some m) :
    Responder.Passes m r (r.inboundEnd stream s) := by
  unfold Responder.inboundEnd
  split
  next registry n removed =>
    have elsewhere : n ≠ m := fun eq =>
      other ((Registry.removeInbound_handle removed).symm.trans (congrArg some eq))
    have closed : Responder.Passes m r { r with registry } := .of_eq rfl rfl
    exact closed.trans (Responder.signal_passes _ s elsewhere)
  next => exact .refl

/-- The frames that tell a channel something. -/
def FrameKind.delivers : FrameKind → Bool
  | .next | .nextComplete | .complete | .error => true
  | _ => false

theorem Responder.dispatch_passes (r : Responder) (w : ω) (settings : Settings) (app : Application ω)
    (f : Frame) (known : f.kind = .requestChannel → m < r.channels.length)
    (other : f.kind.delivers = true → r.registry.inbound? f.stream ≠ some m) :
    Responder.Passes m r (r.dispatch w settings app f).responder := by
  have counted : Responder.Passes m r { r with metrics := r.metrics.frameReceived } := .of_eq rfl rfl
  refine counted.trans ?_
  unfold Responder.dispatch
  split
  next => exact Responder.fireAndForget_passes _ settings f
  next => exact Responder.requestResponse_passes _ settings f
  next => exact Responder.requestStream_passes _ w settings app f
  next kind => exact Responder.requestChannel_passes _ w settings app f (known kind)
  next => exact Responder.metadataPush_passes _ settings f
  next => exact Responder.cancelStream_passes _ f.stream
  next => exact Responder.grantStream_passes _ f.stream f.demand
  next => exact Responder.answerKeepalive_passes _ f
  next kind => exact Responder.inboundNext_passes _ settings f (other (by rw [kind]; rfl))
  next kind => exact Responder.inboundNextComplete_passes _ settings f (other (by rw [kind]; rfl))
  next kind => exact Responder.inboundEnd_passes _ _ (other (by rw [kind]; rfl))
  next kind => exact Responder.inboundEnd_passes _ _ (other (by rw [kind]; rfl))
  next => exact .refl
  next => exact .refl
  all_goals exact Responder.violation_passes _ _

theorem Responder.receive_passes (r : Responder) (w : ω) (settings : Settings) (app : Application ω)
    (x : Receipt (Except TransportError Frame))
    (known : ∀ f, x = .item (.ok f) → r.Listens → f.kind = .requestChannel → m < r.channels.length)
    (other : ∀ f, x = .item (.ok f) → r.Listens → f.kind.delivers = true →
      r.registry.inbound? f.stream ≠ some m) :
    Responder.Passes m r (r.receive w settings app x).1 := by
  have stop (r : Responder) : Responder.Passes m r { r with receiving := false } := .of_eq rfl rfl
  unfold Responder.receive
  split
  · exact .refl
  next receiving =>
    split
    · exact stop r
    next running =>
      split
      · exact .refl
      · exact stop r
      · exact (r.report_passes _).trans (stop _)
      next f =>
        have listens : r.Listens := ⟨by simpa using receiving, by simpa using running⟩
        have passes := r.dispatch_passes w settings app f (known f rfl listens)
          (other f rfl listens)
        dsimp only
        split
        · exact passes
        · exact passes.trans (stop _)

theorem Responder.notePanic_passes (r : Responder) (panic : Option String) :
    Responder.Passes m r (r.notePanic panic) := by
  cases panic with
  | none => exact .refl
  | some message => exact r.record_passes (by simp [Event.channel?])

theorem Responder.Labours.passes {panic : Option String} (h : r.Labours panic r') :
    Responder.Passes m r r' := by
  obtain ⟨r1, talked, dropped⟩ := h
  exact ((Responder.ChannelMoves.passes talked).trans (r1.notePanic_passes panic)).trans
    (Responder.ChannelMoves.passes dropped)

variable {t : Task}

theorem Task.Drive.pass {x y : StreamPhase × Responder} (h : t.Drive x y) :
    Responder.Pass m x.2 y.2 := by
  have told {e : Event} (by_task : e.ToldBy t.number) : ∀ e' ∈ [e], e'.channel? ≠ some m :=
    fun _ he => List.mem_singleton.mp he ▸ by_task.silent_on m
  cases h with
  | talk phase step => exact .talk step
  | pace phase r allowance =>
    exact .spare rfl (List.append_nil _).symm fun _ he => absurd he List.not_mem_nil
  | pull r p => exact .spare rfl rfl (told (Event.pulled_told t.number (.ok p)))
  | @next _ _ p _ _ held demand taken =>
    exact .spare rfl rfl (told (Event.sent_told t.number (.next t.stream p)))
  | wait held kept =>
    exact .spare rfl (List.append_nil _).symm fun _ he => absurd he List.not_mem_nil

theorem Task.Drives.passes {x y : StreamPhase × Responder} (h : t.Drives x y) :
    Responder.Passes m x.2 y.2 :=
  h.lift Prod.snd fun _ _ step => step.pass

theorem Task.Rests.passes {app : Application ω} {token : Nat} {channel : Option Nat}
    {x : StreamPhase × Responder} (h : t.Rests app token channel x r') :
    Responder.Passes m x.2 r' := by
  cases h with
  | waits phase r => exact .of_eq rfl rfl
  | @ends phase r events outcome w how panic _ =>
    have noted : Responder.Passes m (r.notePanic panic)
        { r.notePanic panic with history := (r.notePanic panic).history ++ events } :=
      .tell rfl rfl fun _ he => (how.told he).silent_on m
    obtain ⟨left, moves, eq⟩ := Responder.finishStream_left
      { r.notePanic panic with history := (r.notePanic panic).history ++ events } w app t token
      channel outcome
    have dropped := ((r.notePanic_passes panic).trans noted).trans (Responder.ChannelMoves.passes moves)
    rw [eq, Responder.settleStream_eq]
    exact dropped.trans
      (Responder.Passes.tell rfl rfl fun _ he => (t.lastWords_told _ outcome he).silent_on m)

theorem Responder.concludeSingle_passes (r : Responder) (t : Task) (kind : SingleRequest)
    (token : Option Nat) (verdict : Option (Option Item)) :
    Responder.Passes m r (r.concludeSingle t kind token verdict) := by
  cases verdict with
  | none => exact .of_eq rfl rfl
  | some result =>
    unfold Responder.concludeSingle
    dsimp only
    rw [Responder.settleSingle_eq]
    exact .tell rfl rfl fun _ he => (t.answer_told kind _ result he).silent_on m

theorem Responder.turn_passes (r : Responder) (w : ω) (app : Application ω) (n budget : Nat) :
    Responder.Passes m r (r.turn w app n budget).1 := by
  unfold Responder.turn
  split
  · exact .refl
  next t _ =>
    split
    next kind token request _ =>
      obtain ⟨panic, r1, labours, _, eq⟩ := r.turnSingle_spec w app t kind token request
      rw [eq]
      exact (Responder.Labours.passes labours).trans (r1.concludeSingle_passes t kind token _)
    next token channel phase _ =>
      obtain ⟨y, drives, rests⟩ := r.turnStream_spec app t token channel budget phase w
      exact (Task.Drives.passes drives).trans rests.passes

theorem Responder.cancelStreams_passes (r : Responder) : Responder.Passes m r r.cancelStreams := by
  have cancelled (ns : List Nat) (r : Responder) : Responder.Passes m r
      { r with channels := ns.foldl (fun cs n => cancelChannelAt n cs) r.channels } := by
    induction ns generalizing r with
    | nil => exact .refl
    | cons n ns ih => exact .head (.cancel r n) (ih (r.cancelChannel n))
  have drained : Responder.Passes m r r.drained :=
    (cancelled (r.registry.inbound.map Entry.handle) r).trans (Responder.Passes.of_eq rfl rfl)
  obtain ⟨failures, eq⟩ := r.cancelStreams_eq
  rw [eq]
  exact drained.trans (Responder.reports_passes failures r.drained)

theorem Responder.dispose_passes (r : Responder) (w : ω) (app : Application ω) :
    Responder.Passes m r (r.dispose w app).1 := by
  cases going : r.disposed with
  | true =>
    rw [Responder.dispose, going, if_pos rfl]
  | false =>
    have other : ∀ x ∈ [Event.disposed], x.channel? ≠ some m := by simp [Event.channel?]
    have noted : Responder.Passes m r ({ r with disposed := true }.record .disposed) :=
      .tell rfl rfl other
    rw [r.dispose_eq w app going]
    refine (noted.trans (Responder.ChannelMoves.passes ((app.dispose w).run_moves _))).trans ?_
    exact Responder.Passes.tell rfl rfl (by simp [Event.channel?])

/-- An action passes channel `m` by if it is not the channel's own signal and no frame for the channel, and
if it is not to open the channel. -/
theorem Responder.step_passes (settings : Settings) (app : Application ω) (a : Action ω)
    (s : Responder × ω)
    (known : ∀ f, a = .receive (.item (.ok f)) → s.1.Listens → f.kind = .requestChannel →
      m < s.1.channels.length)
    (own : ∀ x, a ≠ .signal m x)
    (other : ∀ f, a = .receive (.item (.ok f)) → s.1.Listens → f.kind.delivers = true →
      s.1.registry.inbound? f.stream ≠ some m) :
    Responder.Passes m s.1 (Responder.step settings app a s).1 := by
  obtain ⟨r, w⟩ := s
  have begun : Responder.Passes m r r.beginTurn := .of_eq rfl rfl
  refine begun.trans ?_
  cases a with
  | receive x =>
    exact r.beginTurn.receive_passes w settings app x (fun f eq => known f (eq ▸ rfl))
      fun f eq => other f (eq ▸ rfl)
  | turn n budget => exact r.beginTurn.turn_passes w app n budget
  | transportStopped result =>
    unfold Responder.step Responder.transportStopped
    cases result with
    | ok _ => exact Responder.cancelStreams_passes _
    | error e => exact (Responder.report_passes _ _).trans (Responder.cancelStreams_passes _)
  | cleanup =>
    have disposed := (r.beginTurn.cancelStreams_passes (m := m)).trans
      (r.beginTurn.cancelStreams.dispose_passes w app)
    exact disposed.trans (Responder.Passes.of_eq rfl rfl)
  | read n => exact .single (.talk (.read _ n))
  | request n demand => exact .single (.talk (.request _ n demand))
  | drop n => exact .single (.talk (.drop _ n))
  | signal n x => exact Responder.signal_passes _ x fun eq => own x (eq ▸ rfl)
  | cancelChannel n => exact .single (.cancel _ n)
  | register stream control => exact Responder.Passes.of_eq rfl rfl
  | world change => exact .refl

end Multiplexer
