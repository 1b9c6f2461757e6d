import Multiplexer.Proofs.ChannelEntries
import Multiplexer.Proofs.ChannelCourses

/-!
Panics of the application: where they are noted, and what the operation leaves alone whose code has
panicked. In a frame's dispatch it is the call that opens a response stream, in a turn the code of the task.
-/

namespace Multiplexer

variable {ω : Type} {ms ms' : List String} {r r' r'' : Responder}

/-- The panic of a request handler that an event tells of. -/
def Event.panic? : Event → Option String
  | .handlerPanicked message => some message
  | _ => none

def panicsOf (events : List Event) : List String := events.filterMap Event.panic?

@[simp]
theorem panicsOf_append (es es' : List Event) : panicsOf (es ++ es') = panicsOf es ++ panicsOf es' :=
  List.filterMap_append

/-- Between two states these panics are noted, and the receive loop goes on as before. -/
structure Responder.Notes (ms : List String) (r r' : Responder) : Prop where
  receiving : r'.receiving = r.receiving
  shutdown : r'.shutdown = r.shutdown
  told : ∃ events, r'.history = r.history ++ events ∧ panicsOf events = ms

theorem Responder.Notes.of_eq (receiving : r'.receiving = r.receiving)
    (shutdown : r'.shutdown = r.shutdown) (history : r'.history = r.history) :
    Responder.Notes [] r r' :=
  ⟨receiving, shutdown, [], by rw [history, List.append_nil], rfl⟩

theorem Responder.Notes.refl (r : Responder) : Responder.Notes [] r r := .of_eq rfl rfl rfl

theorem Responder.Notes.trans (h : Responder.Notes ms r r') (h' : Responder.Notes ms' r' r'') :
    Responder.Notes (ms ++ ms') r r'' := by
  obtain ⟨es, history, rfl⟩ := h.told
  obtain ⟨es', history', rfl⟩ := h'.told
  refine ⟨h'.receiving.trans h.receiving, h'.shutdown.trans h.shutdown, es ++ es', ?_, ?_⟩
  · rw [history', history, List.append_assoc]
  · exact panicsOf_append es es'

theorem Responder.record_notes (r : Responder) {e : Event} (calm : e.panic? = none) :
    Responder.Notes [] r (r.record e) :=
  ⟨rfl, rfl, [e], rfl, by simp [panicsOf, calm]⟩

theorem Responder.send_notes (r : Responder) (speaker : Speaker) (f : Frame) :
    Responder.Notes [] r (r.send speaker f) :=
  r.record_notes rfl

theorem Responder.report_notes (r : Responder) (e : Failure) : Responder.Notes [] r (r.report e) :=
  ⟨rfl, rfl, [.reported e], rfl, rfl⟩

theorem Responder.violation_notes (r : Responder) (e : ProtocolError) :
    Responder.Notes [] r (r.violation e) :=
  (r.send_notes _ _).trans (Responder.report_notes _ _)

theorem Responder.notePanic_notes (r : Responder) (panic : Option String) :
    Responder.Notes panic.toList r (r.notePanic panic) := by
  cases panic with
  | none => exact .refl r
  | some message => exact ⟨rfl, rfl, [.handlerPanicked message], rfl, rfl⟩

theorem Responder.signal_notes (r : Responder) (n : Nat) (x : Signal) :
    Responder.Notes [] r (r.signal n x) := by
  unfold Responder.signal
  split <;> exact .of_eq rfl rfl rfl

theorem Responder.ChannelMove.notes (move : r.ChannelMove r') : Responder.Notes [] r r' := by
  obtain rfl | ⟨n, c, step, xs, changes⟩ := move.changes
  · exact .refl r'
  · obtain ⟨registry, allowance, _, _, rfl⟩ := changes.rest
    refine ⟨rfl, rfl, _, rfl, List.filterMap_eq_nil_iff.mpr fun e he => ?_⟩
    have on := (ChannelStep.channel_events he).1
    cases e with
    | handlerPanicked message => cases on
    | _ => rfl

theorem Responder.ChannelMoves.notes (moves : r.ChannelMoves r') : Responder.Notes [] r r' := by
  induction moves with
  | refl => exact .refl r
  | tail _ step ih => exact ih.trans step.notes

/-- Channels that have an entry keep it, or terminate. -/
def Responder.Spares (r r' : Responder) : Prop :=
  ∀ e ∈ r.registry.inbound, e ∈ r'.registry.inbound ∨
    ∃ c, r'.channels[e.handle]? = some c ∧ c.terminated = true

/-- Between two states channels take their courses, and the inbound map goes along. -/
structure Responder.Attends (r r' : Responder) : Prop where
  hosts : r.Hosts r'
  paired : r.Paired → r'.Paired
  spares : r.Paired → r.Spares r'

theorem Responder.Attends.of_eq (inbound : r'.registry.inbound = r.registry.inbound)
    (issued : r.registry.issued ≤ r'.registry.issued) (channels : r'.channels = r.channels) :
    r.Attends r' :=
  ⟨.of_eq channels, fun h => h.of_eq inbound issued channels, fun _ _ he => .inl (inbound ▸ he)⟩

theorem Responder.Attends.trans (h : r.Attends r') (h' : r'.Attends r'') : r.Attends r'' := by
  refine ⟨h.hosts.trans h'.hosts, fun paired => h'.paired (h.paired paired), fun paired e he => ?_⟩
  rcases h.spares paired e he with there | ⟨c, hc, stopped⟩
  · exact h'.spares (h.paired paired) e there
  · obtain ⟨c', hc', course⟩ := h'.hosts.old _ c hc
    exact .inr ⟨c', hc', course.flags.1 stopped⟩

theorem Responder.ChannelMoves.attends (moves : r.ChannelMoves r') : r.Attends r' := by
  have aside := Responder.ChannelMoves.aside moves
  refine ⟨Responder.AsideMoves.hosts aside, Responder.AsideMoves.paired aside, fun paired e he => ?_⟩
  rcases (Responder.ChannelMoves.converses moves).entry paired he with there | ⟨_, c', _, hc', _, stopped⟩
  · exact .inl there
  · exact .inr ⟨c', hc', stopped⟩

theorem Responder.openInbound_attends {settings : Settings} {f : Frame} {p : Payload}
    (opened : r.openInbound settings f p = .ok r') : r.Attends r' := by
  have aside := Responder.AsideMove.openInbound opened
  refine ⟨aside.hosts, aside.paired, fun _ e he => .inl ?_⟩
  have there (token handle : Nat) : e ∈ r.registry.inbound ++ [⟨f.stream, token, handle⟩] :=
    List.mem_append_left _ he
  simp only [Responder.openInbound, Registry.registerInbound] at opened
  cases taken : r.registry.inbound.contains f.stream with
  | true => simp [taken] at opened
  | false =>
    simp only [taken, Bool.false_eq_true, if_false] at opened
    have other : e.stream ≠ f.stream := by
      have free : ∀ e ∈ r.registry.inbound, e.stream ≠ f.stream := by
        simpa [Entries.contains] using taken
      exact free e he
    split at opened
    · cases opened
      dsimp only [Registry.releaseInbound]
      split
      · exact Entries.mem_erase.mpr ⟨there _ _, other⟩
      · exact there _ _
    · cases opened
      exact there _ _

/-- An operation begins with a panic, which its task is to report. -/
structure Responder.Breaks (stream : StreamId) (message : String) (r r' : Responder) : Prop where
  begins : ∃ token channel,
    r'.registry.outbound = r.registry.outbound ++ [⟨stream, token, r.controls.length⟩] ∧
    r'.tasks = r.tasks ++ [⟨r.controls.length, stream,
      .stream token channel (.broken (.panicked message))⟩]
  controls : ∃ control, r'.controls = r.controls ++ [control]

/-- Between two states no panic is noted, or that of the call that opens a response stream. -/
def Responder.AtMostBreaks (stream : StreamId) (r r' : Responder) : Prop :=
  Responder.Notes [] r r' ∨
    ∃ message, Responder.Notes [message] r r' ∧ Responder.Breaks stream message r r' ∧ r.Attends r'

theorem Responder.driveStream_breaks (w : ω) (stream : StreamId) (demand : UInt32)
    (channel : Option Nat) (openIt : Nat → ω → Dialogue (Option Panic × ω)) :
    Responder.AtMostBreaks stream r (r.driveStream w stream demand channel openIt).1 := by
  cases taken : r.registry.outbound.contains stream with
  | true =>
    rw [r.driveStream_taken w demand channel openIt taken]
    left
    have refused : Responder.Notes [] r
        { r with registry := { r.registry with issued := r.registry.issued + 1 } } :=
      .of_eq rfl rfl rfl
    exact (refused.trans (Responder.violation_notes _ _)).trans
      (Responder.ChannelMoves.notes (Responder.dropOwnChannel_moves _ channel))
  | false =>
    let control := Control.stream false (Demand.new.grant (creditOfDemand demand))
    have registered : (r.register stream control).1.registry.outbound = _ :=
      r.register_outbound control taken
    have talked := (openIt r.controls.length w).run_moves (r.register stream control).1
    have begun : Responder.Notes [] r (r.register stream control).1 := .of_eq rfl rfl rfl
    have registers : r.Attends (r.register stream control).1 := by
      refine .of_eq ?_ ?_ rfl
      · simp [Responder.register, Registry.registerOutbound, taken]
      · rw [r.register_issued]
        exact Nat.le_succ _
    rw [r.driveStream_free w demand channel openIt taken]
    generalize (openIt r.controls.length w).run (r.register stream control).1 = answer at talked ⊢
    obtain ⟨r1, panic, w1⟩ := answer
    have quiet := begun.trans (Responder.ChannelMoves.notes talked)
    cases panic with
    | none => exact .inl (quiet.trans (.of_eq rfl rfl rfl))
    | some p =>
      have moves := Relation.ReflTransGen.trans talked (r1.dropOwnChannel_moves channel)
      have kept := Responder.ChannelMoves.keepsTasks moves
      have dropped := begun.trans (Responder.ChannelMoves.notes moves)
      have noted := dropped.trans ((r1.dropOwnChannel channel).notePanic_notes (some p.message))
      refine .inr ⟨p.message, noted.trans (.of_eq rfl rfl rfl), ?_⟩
      refine ⟨⟨⟨r.registry.issued, channel, ?_, ?_⟩, control, kept.controls⟩, ?_⟩
      · exact kept.outbound.trans registered
      · exact congrArg (· ++ _) kept.tasks
      · exact (registers.trans (Responder.ChannelMoves.attends moves)).trans
          (.of_eq rfl (Nat.le_refl _) rfl)

theorem Responder.Breaks.after {stream : StreamId} {message : String}
    (h : Responder.Breaks stream message r' r'') (kept : r.KeepsTasks r') :
    Responder.Breaks stream message r r'' := by
  obtain ⟨⟨token, channel, outbound, tasks⟩, controls⟩ := h
  rw [kept.outbound, kept.controls] at outbound
  rw [kept.tasks, kept.controls] at tasks
  rw [kept.controls] at controls
  exact ⟨⟨token, channel, outbound, tasks⟩, controls⟩

theorem Responder.AtMostBreaks.after {stream : StreamId} (h : Responder.AtMostBreaks stream r' r'')
    (calm : Responder.Notes [] r r') (kept : r.KeepsTasks r') (attends : r.Attends r') :
    Responder.AtMostBreaks stream r r'' := by
  rcases h with calm' | ⟨message, noted, breaks, attends'⟩
  · exact .inl (calm.trans calm')
  · exact .inr ⟨message, calm.trans noted, breaks.after kept, attends.trans attends'⟩

section dispatch

variable (settings : Settings) (app : Application ω) (w : ω) (f : Frame)

theorem Responder.readRequest_notes (unread : r.readRequest settings f = .error r') :
    Responder.Notes [] r r' := by
  unfold Responder.readRequest at unread
  split at unread
  · cases unread
  · cases unread
    exact (r.send_notes _ _).trans (Responder.report_notes _ _)

theorem Responder.startSingle_notes (r : Responder) (kind : SingleRequest) (stream : StreamId)
    (p : Payload) : Responder.Notes [] r (r.startSingle kind stream p) := by
  unfold Responder.startSingle
  split
  · exact .of_eq rfl rfl rfl
  next registry e _ =>
    have refused : Responder.Notes [] r { r with registry } := .of_eq rfl rfl rfl
    exact refused.trans (Responder.violation_notes _ e)

theorem Responder.requestStream_breaks (r : Responder) :
    Responder.AtMostBreaks f.stream r (r.requestStream w settings app f).1 := by
  unfold Responder.requestStream
  split
  · exact Responder.driveStream_breaks w f.stream f.demand none _
  next unread => exact .inl (Responder.readRequest_notes settings f unread)

theorem Responder.openInbound_notes {p : Payload} (opened : r.openInbound settings f p = .ok r') :
    Responder.Notes [] r r' := by
  unfold Responder.openInbound at opened
  split at opened
  · cases opened
  · split at opened
    · cases opened
      exact .of_eq rfl rfl rfl
    · cases opened
      exact .of_eq rfl rfl rfl

theorem Responder.openInbound_refusal_notes {p : Payload}
    (refused : r.openInbound settings f p = .error r') : Responder.Notes [] r r' := by
  unfold Responder.openInbound at refused
  split at refused
  next registry e _ =>
    cases refused
    have begun : Responder.Notes [] r { r with registry } := .of_eq rfl rfl rfl
    exact begun.trans (Responder.violation_notes _ e)
  · split at refused <;> cases refused

theorem Responder.requestChannel_breaks (r : Responder) :
    Responder.AtMostBreaks f.stream r (r.requestChannel w settings app f).1 := by
  unfold Responder.requestChannel
  split
  · exact .inl (r.violation_notes _)
  · split
    next unread => exact .inl (Responder.readRequest_notes settings f unread)
    next p _ =>
      split
      next refused => exact .inl (Responder.openInbound_refusal_notes settings f refused)
      next opened open_ =>
        have driven : Responder.AtMostBreaks f.stream opened _ :=
          Responder.driveStream_breaks w f.stream f.demand (some r.channels.length)
            fun n w => app.openChannel n f.stream r.channels.length w
        exact driven.after (Responder.openInbound_notes settings f open_)
          (Responder.AsideMove.openInbound open_).keepsTasks (Responder.openInbound_attends open_)

theorem Responder.deliver_notes (r : Responder) (n : Nat) :
    Responder.Notes [] r (r.deliver settings n f) := by
  unfold Responder.deliver
  split
  · exact r.signal_notes n _
  · exact r.report_notes _

theorem Responder.inboundEnd_notes (r : Responder) (stream : StreamId) (x : Signal) :
    Responder.Notes [] r (r.inboundEnd stream x) := by
  unfold Responder.inboundEnd
  split
  next registry n _ =>
    have closed : Responder.Notes [] r { r with registry } := .of_eq rfl rfl rfl
    exact closed.trans (Responder.signal_notes _ n x)
  · exact .refl r

theorem Responder.dispatch_breaks (r : Responder) :
    Responder.AtMostBreaks f.stream r (r.dispatch w settings app f).responder := by
  have counted : Responder.Notes [] r { r with metrics := r.metrics.frameReceived } :=
    .of_eq rfl rfl rfl
  have attends : r.Attends { r with metrics := r.metrics.frameReceived } :=
    .of_eq rfl (Nat.le_refl _) rfl
  suffices later : Responder.AtMostBreaks f.stream { r with metrics := r.metrics.frameReceived }
      (r.dispatch w settings app f).responder from
    later.after counted (r.counted_keepsTasks _) attends
  unfold Responder.dispatch
  generalize ({ r with metrics := r.metrics.frameReceived } : Responder) = r
  dsimp only
  split
  next =>
    left
    unfold Responder.fireAndForget
    split
    · exact r.startSingle_notes _ _ _
    · exact r.report_notes _
  next =>
    left
    unfold Responder.requestResponse
    split
    · exact r.startSingle_notes _ _ _
    next unread => exact Responder.readRequest_notes settings f unread
  next => exact r.requestStream_breaks settings app w f
  next => exact r.requestChannel_breaks settings app w f
  next =>
    left
    unfold Responder.metadataPush
    split
    · exact .of_eq rfl rfl rfl
    · exact r.report_notes _
  next =>
    left
    unfold Responder.cancelStream
    split <;> exact .of_eq rfl rfl rfl
  next =>
    left
    unfold Responder.grantStream
    split <;> exact .of_eq rfl rfl rfl
  next =>
    left
    unfold Responder.answerKeepalive
    split
    · exact r.send_notes _ _
    · exact .refl r
  next =>
    left
    unfold Responder.inboundNext
    split
    · exact r.deliver_notes settings f _
    · exact .refl r
  next =>
    left
    unfold Responder.inboundNextComplete
    split
    next registry n _ =>
      have closed : Responder.Notes [] r { r with registry } := .of_eq rfl rfl rfl
      exact (closed.trans (Responder.deliver_notes settings f _ n)).trans
        (Responder.signal_notes _ n _)
    · exact .refl r
  next => exact .inl (r.inboundEnd_notes _ _)
  next => exact .inl (r.inboundEnd_notes _ _)
  next => exact .inl (.refl r)
  next => exact .inl (.refl r)
  all_goals exact .inl (r.violation_notes _)

/-- The control that is registered under the stream of a frame does not panic at what the frame asks of
it. -/
def Responder.Withstands (r : Responder) (f : Frame) : Prop :=
  ∀ n c, r.registry.outbound? f.stream = some n → r.controls[n]? = some c →
    (f.kind = .cancel → c.cancel.2 = none) ∧
      (f.kind = .requestN → (c.request (creditOfDemand f.demand)).2 = none)

theorem Controls.act_calm {cs : Controls} {n : Nat} {action : Control → Control × Option Panic}
    (calm : ∀ c, cs[n]? = some c → (action c).2 = none) : (cs.act n action).2 = none := by
  unfold Controls.act
  split
  next c hc => exact calm c hc
  next => rfl

variable {f}

/-- Dispatching a frame fails on nothing but a control of the application's own. -/
theorem Responder.Withstands.calm (h : r.Withstands f) : (r.dispatch w settings app f).panic = none := by
  unfold Responder.dispatch
  dsimp only
  split
  case h_6 kind =>
    unfold Responder.cancelStream Registry.removeOutbound
    dsimp only
    cases found : r.registry.outbound? f.stream with
    | none => rfl
    | some n => exact Controls.act_calm fun c hc => (h n c found hc).1 kind
  case h_7 kind =>
    unfold Responder.grantStream
    dsimp only
    cases found : r.registry.outbound? f.stream with
    | none => rfl
    | some n => exact Controls.act_calm fun c hc => (h n c found hc).2 kind
  all_goals rfl

end dispatch

end Multiplexer
