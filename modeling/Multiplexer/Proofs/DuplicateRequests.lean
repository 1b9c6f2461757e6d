import Multiplexer.Proofs.Acceptance
import Multiplexer.Proofs.Reopening

/-!
Requests under a stream that is active: which are refused, and that a refusal is the whole of what happens.
A request for a channel asks for both halves of the stream, every other request for the operation only.
-/

namespace Multiplexer

variable {ω : Type} {r r' : Responder} {stream : StreamId} {s : Responder × ω} {f : Frame} {p : Payload}

/-- The request finds its stream active. -/
def Responder.Denies (r : Responder) (f : Frame) : Prop :=
  r.registry.outbound.contains f.stream = true ∨
    f.kind = .requestChannel ∧ r.registry.inbound.contains f.stream = true

/-- A refusal: one ERROR frame, one report, and a token at most. -/
def Responder.refusal (r : Responder) (stream : StreamId) (issued : Nat) : Responder :=
  { r with
    registry := { r.registry with issued }
    metrics := r.metrics.failed
    history := r.history ++
      [.sent .dispatcher (.error stream .invalid (ProtocolError.duplicateStream stream).message),
        .reported (.protocol (.duplicateStream stream))] }

theorem Responder.violation_duplicate (r : Responder) (stream : StreamId) (issued : Nat) :
    Responder.violation { r with registry := { r.registry with issued } } (.duplicateStream stream) =
      r.refusal stream issued := by
  simp [Responder.violation, Responder.send, Responder.report, Responder.record, Responder.refusal,
    ProtocolError.stream]

theorem Responder.readRequest_ok (settings : Settings) (readable : settings.reader f = .ok p) :
    r.readRequest settings f = .ok p := by
  simp [Responder.readRequest, readable]

/-- What a responder that receives makes of a frame, where no control panics. -/
theorem Responder.step_dispatch (settings : Settings) (app : Application ω) (f : Frame)
    (listens : s.1.Listens) (calm : (s.1.beginTurn.dispatch s.2 settings app f).panic = none) :
    Responder.step settings app (.receive (.item (.ok f))) s =
      ((s.1.beginTurn.dispatch s.2 settings app f).responder,
        (s.1.beginTurn.dispatch s.2 settings app f).world) := by
  have gate : (!s.1.beginTurn.receiving) = false := by simp [Responder.beginTurn, listens.1]
  have open_ : s.1.beginTurn.shutdown = false := listens.2
  simp only [Responder.step, Responder.receive, gate, open_, Bool.false_eq_true, if_false, calm]

/-- A request whose stream is active comes to nothing, and the application is not asked. A request for a
channel is refused before it is read. -/
theorem Responder.Denies.dispatch (denies : r.Denies f) (settings : Settings)
    (opens : f.kind.opens = true)
    (readable : f.kind ≠ .requestChannel → ∃ p, settings.reader f = .ok p) :
    ∃ issued, r.registry.issued ≤ issued ∧ issued ≤ r.registry.issued + 1 ∧
      ∀ (app : Application ω) (w : ω),
        r.beginTurn.dispatch w settings app f = ⟨r.ready.refusal f.stream issued, w, none⟩ := by
  -- but for a channel only the operation's half is asked for
  have operation (other : f.kind ≠ .requestChannel) :
      r.ready.registry.outbound.contains f.stream = true :=
    denies.resolve_right fun half => other half.1
  have single (kind : SingleRequest) (p : Payload) (other : f.kind ≠ .requestChannel) :
      r.ready.startSingle kind f.stream p = r.ready.refusal f.stream (r.registry.issued + 1) := by
    rw [r.ready.startSingle_taken kind p (operation other), Responder.violation_duplicate]
    rfl
  cases kind : f.kind with
  | fireAndForget =>
    have other : f.kind ≠ .requestChannel := by simp [kind]
    obtain ⟨p, readable⟩ := readable other
    refine ⟨_, Nat.le_succ _, Nat.le_refl _, fun app w => ?_⟩
    simp only [Responder.dispatch, kind, Responder.fireAndForget, readable]
    exact congrArg (Dispatched.mk · w none) (single .fireAndForget p other)
  | requestResponse =>
    have other : f.kind ≠ .requestChannel := by simp [kind]
    obtain ⟨p, readable⟩ := readable other
    refine ⟨_, Nat.le_succ _, Nat.le_refl _, fun app w => ?_⟩
    simp only [Responder.dispatch, kind, Responder.requestResponse,
      Responder.readRequest_ok settings readable]
    exact congrArg (Dispatched.mk · w none) (single .requestResponse p other)
  | requestStream =>
    have other : f.kind ≠ .requestChannel := by simp [kind]
    obtain ⟨p, readable⟩ := readable other
    refine ⟨_, Nat.le_succ _, Nat.le_refl _, fun app w => ?_⟩
    have driven : r.ready.requestStream w settings app f =
        (r.ready.refusal f.stream (r.registry.issued + 1), w) := by
      simp only [Responder.requestStream, Responder.readRequest_ok settings readable]
      rw [r.ready.driveStream_taken w f.demand none _ (operation other),
        Responder.violation_duplicate, Responder.dropOwnChannel]
      rfl
    simp only [Responder.dispatch, kind]
    exact congrArg (fun answer : Responder × ω => Dispatched.mk answer.1 answer.2 none) driven
  | requestChannel =>
    refine ⟨_, Nat.le_refl _, Nat.le_succ _, fun app w => ?_⟩
    have active : (r.ready.registry.outbound.contains f.stream ||
        r.ready.registry.inbound.contains f.stream) = true :=
      (Bool.or_eq_true _ _).mpr (denies.imp_right And.right)
    have refused : r.ready.requestChannel w settings app f =
        (r.ready.refusal f.stream r.registry.issued, w) := by
      rw [Responder.requestChannel, if_pos active]
      exact congrArg (·, w) (r.ready.violation_duplicate f.stream r.registry.issued)
    simp only [Responder.dispatch, kind]
    exact congrArg (fun answer : Responder × ω => Dispatched.mk answer.1 answer.2 none) refused
  | _ => simp [FrameKind.opens, kind] at opens

theorem Responder.Denies.refused (denies : s.1.Denies f) (settings : Settings) (app : Application ω)
    (listens : s.1.Listens) (opens : f.kind.opens = true) (readable : settings.reader f = .ok p) :
    ∃ issued, Responder.step settings app (.receive (.item (.ok f))) s =
      (s.1.ready.refusal f.stream issued, s.2) := by
  obtain ⟨issued, -, -, answered⟩ := denies.dispatch settings opens fun _ => ⟨p, readable⟩
  refine ⟨issued, ?_⟩
  rw [Responder.step_dispatch settings app f listens (by rw [answered]), answered]

theorem Responder.Begins.found {control : Control} {work : Work}
    (begins : Responder.Begins stream control work r r') :
    r'.registry.outbound? stream = some r.controls.length := by
  have free := begins.free
  obtain ⟨told, moves, rfl⟩ := begins.opened
  have outbound := (Responder.AsideMoves.keepsTasks moves).outbound.trans
    (r.register_outbound control free)
  have absent : List.find? (fun e => e.stream = stream) r.registry.outbound = none := by
    simpa [Entries.contains] using free
  rw [Registry.outbound?, outbound]
  simp [Entries.find?, List.find?_append, absent]

theorem Responder.openInbound_free (settings : Settings) (p : Payload)
    (free : r.registry.inbound.contains f.stream = false) :
    ∃ opened, r.openInbound settings f p = .ok opened := by
  simp only [Responder.openInbound, Registry.registerInbound, free, Bool.false_eq_true, if_false]
  split
  · exact ⟨_, rfl⟩
  · exact ⟨_, rfl⟩

/-- A request that can be read is accepted just when it does not find its stream active. -/
theorem Responder.Linked.accepts_iff (h : s.1.Linked) (settings : Settings) (app : Application ω)
    (listens : s.1.Listens) (opens : f.kind.opens = true) (readable : settings.reader f = .ok p) :
    Responder.Accepts settings app s f ↔ ¬ s.1.Denies f := by
  have read {r : Responder} : r.readRequest settings f = .ok p :=
    Responder.readRequest_ok settings readable
  constructor
  · intro accepts denies
    obtain ⟨issued, refused⟩ := denies.refused settings app listens opens readable
    obtain ⟨token, there⟩ : ∃ token, ⟨f.stream, token, s.1.controls.length⟩ ∈
        s.1.registry.outbound := by
      rw [Responder.Accepts, refused] at accepts
      exact (Registry.outbound?_eq_some_iff h.streams).mp accepts
    exact Nat.lt_irrefl _ (h.registered _ there).1
  · intro open_
    obtain ⟨free, half⟩ := not_or.mp open_
    have free : s.1.ready.registry.outbound.contains f.stream = false := by
      rw [← Bool.not_eq_true]
      exact free
    have settled := Responder.dispatch_aside settings app f listens
    have accepted {r : Responder} (found : r.registry.outbound? f.stream = some s.1.controls.length)
        (eq : (s.1.beginTurn.dispatch s.2 settings app f).responder = r) :
        Responder.Accepts settings app s f := by
      rw [eq] at settled
      exact (Responder.AsideMoves.outbound? settled f.stream).trans found
    cases kind : f.kind with
    | fireAndForget =>
      refine accepted (s.1.ready.startSingle_begins .fireAndForget p free).found ?_
      simp only [Responder.dispatch, kind, Responder.fireAndForget, readable]
      rfl
    | requestResponse =>
      refine accepted (s.1.ready.startSingle_begins .requestResponse p free).found ?_
      simp only [Responder.dispatch, kind, Responder.requestResponse, read]
      rfl
    | requestStream =>
      obtain ⟨phase, _, begins⟩ := s.1.ready.driveStream_begins s.2 f.demand none
        (fun n w => app.openStream n p w) free
      refine accepted begins.found ?_
      simp only [Responder.dispatch, kind, Responder.requestStream, read]
      rfl
    | requestChannel =>
      have unused : s.1.ready.registry.inbound.contains f.stream = false := by
        rw [← Bool.not_eq_true]
        exact fun taken => half ⟨kind, taken⟩
      obtain ⟨opened, open_⟩ := Responder.openInbound_free settings p unused
      have kept := Responder.AsideMove.keepsTasks (.openInbound open_)
      have free' : opened.registry.outbound.contains f.stream = false := by
        rw [kept.outbound, free]
      obtain ⟨phase, _, begins⟩ := opened.driveStream_begins s.2 f.demand
        (some s.1.ready.channels.length)
        (fun n w => app.openChannel n f.stream s.1.ready.channels.length w) free'
      have found := begins.found
      rw [kept.controls] at found
      refine accepted found ?_
      have idle : (s.1.ready.registry.outbound.contains f.stream ||
          s.1.ready.registry.inbound.contains f.stream) = false := by rw [free, unused]; rfl
      have driven : s.1.ready.requestChannel s.2 settings app f =
          opened.driveStream s.2 f.stream f.demand (some s.1.ready.channels.length)
            (fun n w => app.openChannel n f.stream s.1.ready.channels.length w) := by
        rw [Responder.requestChannel, idle, if_neg Bool.false_ne_true, read]
        dsimp only
        rw [open_]
      simp only [Responder.dispatch, kind]
      exact congrArg Prod.fst driven
    | _ => simp [FrameKind.opens, kind] at opens

/-- A frame that asks for no operation registers none, nor does a request that cannot be read. -/
theorem Responder.dispatch_outbound_subset (w : ω) (settings : Settings) (app : Application ω)
    (idle : f.kind.opens = false ∨ ∃ e, settings.reader f = .error e) :
    (r.dispatch w settings app f).responder.registry.outbound ⊆ r.registry.outbound := by
  have aside {r' : Responder} (h : Responder.AsideMoves
      { r with metrics := r.metrics.frameReceived } r') :
      r'.registry.outbound ⊆ r.registry.outbound := by
    rw [(Responder.AsideMoves.keepsTasks h).outbound]
    exact List.Subset.refl _
  have asks (opens : f.kind.opens = true) : ∃ e, settings.reader f = .error e :=
    idle.resolve_left (by simp [opens])
  unfold Responder.dispatch
  cases kind : f.kind with
  | fireAndForget =>
    obtain ⟨e, unread⟩ := asks (by rw [kind]; rfl)
    simp only [Responder.fireAndForget, unread]
    exact aside (Responder.report_aside _ _)
  | requestResponse =>
    obtain ⟨e, unread⟩ := asks (by rw [kind]; rfl)
    simp only [Responder.requestResponse, Responder.readRequest, unread]
    exact aside ((Responder.send_aside _ (.refusal ..)).trans (Responder.report_aside _ _))
  | requestStream =>
    obtain ⟨e, unread⟩ := asks (by rw [kind]; rfl)
    simp only [Responder.requestStream, Responder.readRequest, unread]
    exact aside ((Responder.send_aside _ (.refusal ..)).trans (Responder.report_aside _ _))
  | requestChannel =>
    obtain ⟨e, unread⟩ := asks (by rw [kind]; rfl)
    simp only [Responder.requestChannel, Responder.readRequest, unread]
    split
    · exact aside (Responder.violation_aside _ _)
    · exact aside ((Responder.send_aside _ (.refusal ..)).trans (Responder.report_aside _ _))
  | metadataPush =>
    dsimp only [Responder.metadataPush]
    split
    · exact List.Subset.refl _
    · exact aside (Responder.report_aside _ _)
  | cancel =>
    dsimp only [Responder.cancelStream, Registry.removeOutbound]
    cases found : r.registry.outbound? f.stream with
    | none => exact List.Subset.refl _
    | some n => exact List.filter_sublist.subset
  | requestN =>
    dsimp only [Responder.grantStream]
    split <;> exact List.Subset.refl _
  | keepalive => exact aside (Responder.answerKeepalive_aside _ f)
  | next => exact aside (Responder.inboundNext_aside _ settings f)
  | nextComplete => exact aside (Responder.inboundNextComplete_aside _ settings f)
  | complete => exact aside (Responder.inboundEnd_aside _ _ _)
  | error => exact aside (Responder.inboundEnd_aside _ _ _)
  | payload | lease => exact List.Subset.refl _
  | setup | reserved | resume | resumeOk | ext | unknown =>
    exact aside (Responder.violation_aside _ _)

/-- Only a request that can be read is accepted. -/
theorem Responder.Accepts.readable {settings : Settings} {app : Application ω} (h : s.1.Linked)
    (accepts : Responder.Accepts settings app s f) :
    f.kind.opens = true ∧ ∃ p, settings.reader f = .ok p := by
  by_contra unfit
  have idle : f.kind.opens = false ∨ ∃ e, settings.reader f = .error e := by
    cases opens : f.kind.opens with
    | false => exact .inl rfl
    | true =>
      cases read : settings.reader f with
      | ok p => exact absurd ⟨opens, p, read⟩ unfit
      | error e => exact .inr ⟨e, rfl⟩
  have left := Responder.dispatch_aside settings app f (accepts.listens h)
  have linked := (h.step_moves settings app (.receive (.item (.ok f)))).linked h
  obtain ⟨token, there⟩ := (Registry.outbound?_eq_some_iff linked.streams).mp accepts
  -- the entry would go by the number of a control that is there
  rw [(Responder.AsideMoves.keepsTasks left).outbound] at there
  have old := Responder.dispatch_outbound_subset s.2 settings app idle there
  exact Nat.lt_irrefl _ (h.registered _ old).1

/-- A request that is accepted has found its stream free. -/
theorem Responder.Accepts.free {settings : Settings} {app : Application ω} (h : s.1.Linked)
    (accepts : Responder.Accepts settings app s f) : ¬ s.1.Denies f := by
  obtain ⟨opens, p, readable⟩ := accepts.readable h
  exact (h.accepts_iff settings app (accepts.listens h) opens readable).mp accepts

/-- In any state of a responder that receives, a request whose stream is active is refused: the peer gets
one ERROR frame, one failure is reported, the application is not called, and neither the tasks and
channels nor what is registered changes. An active stream is one whose operation is registered, and for a
request for a channel also one whose channel is. -/
theorem Responder.duplicate_refused (settings : Settings) (app : Application ω) (w : ω)
    (before : List (Action ω)) (f : Frame) (p : Payload) (opens : f.kind.opens = true)
    (readable : settings.reader f = .ok p)
    (listens : (Responder.run settings app before (Responder.start, w)).1.Listens)
    (active : (Responder.run settings app before (Responder.start, w)).1.Denies f) :
    let s := Responder.run settings app before (Responder.start, w)
    ∃ issued, Responder.step settings app (.receive (.item (.ok f))) s =
      ({ s.1 with
          allowance := .full
          registry := { s.1.registry with issued }
          metrics := s.1.metrics.frameReceived.failed
          history := s.1.history ++
            [.sent .dispatcher
                (.error f.stream .invalid (ProtocolError.duplicateStream f.stream).message),
              .reported (.protocol (.duplicateStream f.stream))] }, s.2) :=
  active.refused settings app listens opens readable

/-- An application that takes each channel out of its response stream, which ends at once. -/
def keeper : Application Unit where
  start _ _ _ w := w
  poll _ w := .answer (.pending, w)
  openStream _ _ w := .answer (none, w)
  openChannel _ _ channel w := .keep channel (.answer (none, w))
  pull _ w := .answer (.ready none, w)
  drop _ w := .answer w
  dispose w := .answer (none, w)

/-- The response of a channel has ended, and a request for another channel under its stream is refused. -/
theorem Responder.keeper_duplicate_refused :
    let f := Frame.requestChannel (.ofNat 7) 5 .empty
    let s := Responder.run .standard keeper [.receive (.item (.ok f)), .turn 0 5] (Responder.start, ())
    let s' := Responder.step .standard keeper (.receive (.item (.ok f))) s
    s.1.registry.outbound = [] ∧ s.1.Denies f ∧ s'.1.tasks = s.1.tasks ∧ s'.1.channels = s.1.channels ∧
      framesOf .dispatcher s'.1.history =
        framesOf .dispatcher s.1.history ++ [.error (.ofNat 7) .invalid "StreamId(7) is already active"] := by
  have listens : (Responder.run .standard keeper
      [.receive (.item (.ok (.requestChannel (.ofNat 7) 5 .empty))), .turn 0 5]
      (Responder.start, ())).1.Listens := by decide
  have active : (Responder.run .standard keeper
      [.receive (.item (.ok (.requestChannel (.ofNat 7) 5 .empty))), .turn 0 5]
      (Responder.start, ())).1.Denies (.requestChannel (.ofNat 7) 5 .empty) := .inr (by decide)
  obtain ⟨issued, refused⟩ := Responder.duplicate_refused .standard keeper () _
    (.requestChannel (.ofNat 7) 5 .empty) .empty rfl rfl listens active
  dsimp only at refused ⊢
  rw [refused]
  refine ⟨by decide, active, rfl, rfl, ?_⟩
  rw [framesOf_append]
  rfl

/-- A stream whose channel is still registered is used again by a request for a response stream: nothing is
refused, and what the peer sends under it next reaches the old channel. -/
theorem Responder.channel_stream_reused :
    let s := Responder.run .standard keeper
      [.receive (.item (.ok (.requestChannel (.ofNat 7) 5 .empty))), .turn 0 5] (Responder.start, ())
    let f := Frame.requestStream (.ofNat 7) 5 .empty
    let s' := Responder.step .standard keeper (.receive (.item (.ok f))) s
    let s'' := Responder.step .standard keeper (.receive (.item (.ok (.next (.ofNat 7) .empty)))) s'
    s.1.Listens ∧ s.1.registry.inbound.contains f.stream = true ∧
      Responder.Accepts .standard keeper s f ∧ s'.1.history = s.1.history ∧
      (s''.1.channels[0]?.map (List.length ∘ Channel.queue)) =
        (s'.1.channels[0]?.map (List.length ∘ Channel.queue)).map (· + 1) := by
  decide

end Multiplexer
