import Multiplexer.Proofs.Undisturbed

/-!
Acceptance of a request: the operation that begins when a request is not refused, and the state it
begins in.
-/

namespace Multiplexer

variable {ω : Type} {r r' : Responder} {stream : StreamId} {control : Control} {work : Work}

/-- The request `f` is accepted in state `s`: it becomes the operation whose number is next. -/
def Responder.Accepts (settings : Settings) (app : Application ω) (s : Responder × ω) (f : Frame) :
    Prop :=
  (Responder.step settings app (.receive (.item (.ok f))) s).1.registry.outbound? f.stream =
    some s.1.controls.length

instance (settings : Settings) (app : Application ω) (s : Responder × ω) (f : Frame) :
    Decidable (Responder.Accepts settings app s f) :=
  inferInstanceAs (Decidable (_ = _))

/-- Operation `n` has just begun. -/
structure Responder.Begun (n : Nat) (stream : StreamId) (control : Control) (work : Work)
    (r : Responder) : Prop where
  linked : r.Linked
  there : ⟨n, stream, work⟩ ∈ r.tasks
  control : r.controls[n]? = some control
  running : r.shutdown = false
  account : r.account n = []

theorem Responder.Begun.isCancelled {n : Nat} (begun : Responder.Begun n stream control work r)
    (uncancelled : control.isCancelled = false) : r.isCancelled n = false := by
  simp [Responder.isCancelled, begun.running, begun.control, uncancelled]

theorem Responder.Begins.begun (begins : Responder.Begins stream control work r r') (h : r.Linked)
    (running : r.shutdown = false) (plain : control.isCustom = false)
    (uncancelled : control.isCancelled = false) (token : work.token? = some r.registry.issued) :
    Responder.Begun r.controls.length stream control work r' := by
  have linked := h.begin begins running plain uncancelled token
  obtain ⟨told, moves, rfl⟩ := begins.opened
  have kept := Responder.AsideMoves.keepsTasks moves
  refine ⟨linked, by simp, ?_, kept.shutdown.trans running, ?_⟩
  · have last : (r.controls ++ [control])[r.controls.length]? = some control := by simp
    exact kept.controls ▸ last
  · exact (kept.account _).trans (h.fresh _ (Nat.le_refl _))

/-- What leaves all operations as they are accepts no request. -/
theorem Responder.not_accepted (moves : r.AsideMoves r') (h : r.Linked)
    (stream : StreamId) : r'.registry.outbound? stream ≠ some r.controls.length := by
  intro found
  have kept := Responder.AsideMoves.keepsTasks moves
  obtain ⟨token, there⟩ := (Registry.outbound?_eq_some_iff (kept.linked h).streams).mp found
  -- an entry goes by the number of a control that is there
  have bound := (h.registered _ (kept.outbound ▸ there)).1
  exact Nat.lt_irrefl _ bound

/-- Frames are still dispatched. -/
def Responder.Listens (r : Responder) : Prop := r.receiving = true ∧ r.shutdown = false

instance (r : Responder) : Decidable r.Listens := inferInstanceAs (Decidable (_ ∧ _))

/-- Where nothing is received any more a frame changes nothing. -/
theorem Responder.step_idle (settings : Settings) (app : Application ω) (s : Responder × ω)
    (x : Receipt (Except TransportError Frame)) (idle : ¬ s.1.Listens) :
    s.1.AsideMoves (Responder.step settings app (.receive x) s).1 := by
  obtain ⟨r, w⟩ := s
  have paced : r.AsideMoves r.beginTurn := .single (.pace r _)
  show r.AsideMoves (r.beginTurn.receive w settings app x).1
  unfold Responder.receive
  cases receiving : r.beginTurn.receiving with
  | false => exact paced
  | true =>
    have stopped : r.beginTurn.shutdown = true :=
      eq_true_of_ne_false fun running => idle ⟨receiving, running⟩
    rw [Bool.not_true, if_neg Bool.false_ne_true, if_pos stopped]
    exact paced.tail (.stopReceiving r.beginTurn)

theorem Responder.Accepts.listens {settings : Settings} {app : Application ω} {s : Responder × ω}
    {f : Frame} (accepts : Responder.Accepts settings app s f) (h : s.1.Linked) : s.1.Listens := by
  by_contra idle
  exact Responder.not_accepted (Responder.step_idle settings app s _ idle) h f.stream accepts

def Responder.ready (r : Responder) : Responder :=
  { r.beginTurn with metrics := r.metrics.frameReceived }

theorem Responder.ready_aside (r : Responder) : r.AsideMoves r.ready :=
  (Relation.ReflTransGen.single (Responder.AsideMove.pace r _)).tail (.count _ _ rfl)

/-- A responder that receives dispatches each frame, and stops receiving if a control panics. -/
theorem Responder.step_receive (settings : Settings) (app : Application ω) {s : Responder × ω}
    (f : Frame) (listens : s.1.Listens) :
    (Responder.step settings app (.receive (.item (.ok f))) s).1 =
      let d := s.1.beginTurn.dispatch s.2 settings app f
      if d.panic = none then d.responder else { d.responder with receiving := false } := by
  have gate : (!s.1.beginTurn.receiving) = false := by simp [Responder.beginTurn, listens.1]
  have open_ : s.1.beginTurn.shutdown = false := listens.2
  simp only [Responder.step, Responder.receive, gate, open_, Bool.false_eq_true, if_false]
  cases (s.1.beginTurn.dispatch s.2 settings app f).panic <;> rfl

theorem Responder.dispatch_aside (settings : Settings) (app : Application ω) {s : Responder × ω}
    (f : Frame) (listens : s.1.Listens) :
    (s.1.beginTurn.dispatch s.2 settings app f).responder.AsideMoves
      (Responder.step settings app (.receive (.item (.ok f))) s).1 := by
  rw [Responder.step_receive settings app f listens]
  dsimp only
  split
  · exact .refl
  · exact .single (.stopReceiving _)

theorem Responder.readRequest_reads {settings : Settings} {f : Frame} {p : Payload}
    (read : r.readRequest settings f = .ok p) : settings.reader f = .ok p := by
  unfold Responder.readRequest at read
  split at read
  next p' readable =>
    cases read
    exact readable
  next => cases read

/-- An accepted request for a channel opens the channel before its response stream. -/
theorem Responder.Accepts.opens {settings : Settings} {app : Application ω} {s : Responder × ω}
    {f : Frame} (h : s.1.Linked) (kind : f.kind = .requestChannel)
    (accepts : Responder.Accepts settings app s f) :
    ∃ p opened, settings.reader f = .ok p ∧ s.1.ready.openInbound settings f p = .ok opened ∧
      (Responder.step settings app (.receive (.item (.ok f))) s).1 =
        (opened.driveStream s.2 f.stream f.demand (some s.1.channels.length)
          (fun n w => app.openChannel n f.stream s.1.channels.length w)).1 := by
  have ready := s.1.ready_aside
  have eq : (Responder.step settings app (.receive (.item (.ok f))) s).1 =
      (s.1.ready.requestChannel s.2 settings app f).1 :=
    (Responder.step_receive settings app f (accepts.listens h)).trans
      (by simp only [Responder.dispatch, kind]; rfl)
  rw [Responder.Accepts, eq] at accepts
  rw [eq]
  unfold Responder.requestChannel at accepts ⊢
  split at accepts
  · have aside := ready.trans (Responder.violation_aside _ (.duplicateStream f.stream))
    exact absurd accepts (Responder.not_accepted aside h f.stream)
  next free =>
    rw [if_neg free]
    split at accepts
    next unread =>
      have aside := ready.trans (Responder.readRequest_aside unread)
      exact absurd accepts (Responder.not_accepted aside h f.stream)
    next p read =>
      split at accepts
      next refused =>
        have aside := ready.trans (Responder.openInbound_refused refused)
        exact absurd accepts (Responder.not_accepted aside h f.stream)
      next opened open_ => exact ⟨p, opened, Responder.readRequest_reads read, open_, rfl⟩

/-- An accepted request for a response stream or a channel begins with the credit it brings and
with no item, on the channel that it opens. -/
theorem Responder.accepted_stream {settings : Settings} {app : Application ω} {s : Responder × ω}
    {f : Frame} (h : s.1.Linked) (kind : f.kind = .requestStream ∨ f.kind = .requestChannel)
    (accepts : Responder.Accepts settings app s f) :
    ∃ token channel phase, phase.inHand = none ∧
      (f.kind = .requestChannel → channel = some s.1.channels.length) ∧
      Responder.Begun s.1.controls.length f.stream
        (.stream false (Demand.new.grant (creditOfDemand f.demand))) (.stream token channel phase)
        (Responder.step settings app (.receive (.item (.ok f))) s).1 := by
  have running := (accepts.listens h).2
  have ready := s.1.ready_aside
  -- a refusal leaves all operations as they are
  have driven {r : Responder} {channel : Option Nat} (aside : s.1.AsideMoves r) (w : ω)
      (openIt : Nat → ω → Dialogue (Option Panic × ω))
      (opened : f.kind = .requestChannel → channel = some s.1.channels.length)
      (eq : (Responder.step settings app (.receive (.item (.ok f))) s).1 =
        (r.driveStream w f.stream f.demand channel openIt).1) :
      ∃ token channel phase, phase.inHand = none ∧
        (f.kind = .requestChannel → channel = some s.1.channels.length) ∧
        Responder.Begun s.1.controls.length f.stream
          (.stream false (Demand.new.grant (creditOfDemand f.demand)))
          (.stream token channel phase)
          (Responder.step settings app (.receive (.item (.ok f))) s).1 := by
    have kept := Responder.AsideMoves.keepsTasks aside
    rw [Responder.Accepts, eq] at accepts
    rw [eq]
    rcases r.driveStream_spec w f.stream f.demand channel openIt with refused | ⟨phase, held, begins⟩
    · exact absurd accepts (Responder.not_accepted (aside.trans refused) h f.stream)
    · refine ⟨r.registry.issued, channel, phase, held, opened, ?_⟩
      rw [← kept.controls]
      exact begins.begun (kept.linked h) (kept.shutdown.trans running) rfl rfl rfl
  rcases kind with kind | kind
  · have eq : (Responder.step settings app (.receive (.item (.ok f))) s).1 =
        (s.1.ready.requestStream s.2 settings app f).1 :=
      (Responder.step_receive settings app f (accepts.listens h)).trans
        (by simp only [Responder.dispatch, kind]; rfl)
    unfold Responder.requestStream at eq
    split at eq
    · exact driven ready _ _ (fun half => by rw [kind] at half; cases half) eq
    next unread =>
      have aside := ready.trans (Responder.readRequest_aside unread)
      rw [Responder.Accepts, eq] at accepts
      exact absurd accepts (Responder.not_accepted aside h f.stream)
  · obtain ⟨p, opened, _, open_, eq⟩ := accepts.opens h kind
    exact driven (ready.tail (.openInbound open_)) _ _ (fun _ => rfl) eq

/-- An accepted request-response begins with its payload. -/
theorem Responder.accepted_response {settings : Settings} {app : Application ω}
    {s : Responder × ω} {f : Frame} (h : s.1.Linked) (kind : f.kind = .requestResponse)
    (accepts : Responder.Accepts settings app s f) :
    ∃ token p, settings.reader f = .ok p ∧
      Responder.Begun s.1.controls.length f.stream (.task false)
        (.single .requestResponse (some token) (some p))
        (Responder.step settings app (.receive (.item (.ok f))) s).1 := by
  have listens := accepts.listens h
  have ready := s.1.ready_aside
  have kept := Responder.AsideMoves.keepsTasks ready
  have eq : (Responder.step settings app (.receive (.item (.ok f))) s).1 =
      s.1.ready.requestResponse settings f :=
    (Responder.step_receive settings app f listens).trans (by simp only [Responder.dispatch, kind]; rfl)
  rw [Responder.Accepts, eq] at accepts
  rw [eq]
  unfold Responder.requestResponse at accepts ⊢
  split at accepts
  next p read =>
    have payload : settings.reader f = .ok p := by
      unfold Responder.readRequest at read
      split at read
      next readable => exact readable.trans (congrArg _ (Except.ok.inj read))
      next => cases read
    rcases s.1.ready.startSingle_spec .requestResponse f.stream p with refused | begins
    · exact absurd accepts (Responder.not_accepted (ready.trans refused) h f.stream)
    · refine ⟨s.1.ready.registry.issued, p, payload, ?_⟩
      have begun := begins.begun (kept.linked h) (kept.shutdown.trans listens.2) rfl rfl rfl
      exact begun
  next unread =>
    have aside := ready.trans (Responder.readRequest_aside unread)
    exact absurd accepts (Responder.not_accepted aside h f.stream)

end Multiplexer
