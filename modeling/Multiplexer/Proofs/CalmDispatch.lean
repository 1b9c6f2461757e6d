import Multiplexer.Proofs.CalmTurns

/-!
Dispatch and teardown with the calm twin of an application, as far as no response stream is opened: they
lead to the same state, but for the panics in the log.
-/

namespace Multiplexer

variable {ω : Type} {memory : Memory} (r : Responder) (settings : Settings) (f : Frame)

theorem Responder.readRequest_calmed :
    r.calmed.readRequest settings f = (r.readRequest settings f).mapError Responder.calmed := by
  unfold Responder.readRequest
  cases settings.reader f with
  | ok p => rfl
  | error e =>
    dsimp only
    rw [Responder.send_calmed, Responder.report_calmed]
    rfl

theorem Responder.spawn_calmed (stream : StreamId) (control : Control)
    (kind : SingleRequest) (token : Option Nat) (request : Option Payload) :
    r.calmed.spawn stream control (.single kind token request) =
      (r.spawn stream control (.single kind token request)).calmed := by
  simp [Responder.spawn, Responder.calmed, Task.calmed, Work.calmed]

theorem Responder.startSingle_calmed (kind : SingleRequest) (stream : StreamId)
    (p : Payload) : r.calmed.startSingle kind stream p = (r.startSingle kind stream p).calmed := by
  unfold Responder.startSingle
  rw [Responder.calmed_registry, Responder.calmed_controls]
  obtain ⟨registry, _ | token⟩ := r.registry.registerOutbound stream r.controls.length
  · exact Responder.violation_calmed { r with registry } _
  · exact Responder.spawn_calmed { r with registry } stream _ kind _ _

theorem Responder.fireAndForget_calmed :
    r.calmed.fireAndForget settings f = (r.fireAndForget settings f).calmed := by
  unfold Responder.fireAndForget
  cases settings.reader f with
  | ok p => exact r.startSingle_calmed _ f.stream p
  | error e => exact r.report_calmed _

theorem Responder.requestResponse_calmed :
    r.calmed.requestResponse settings f = (r.requestResponse settings f).calmed := by
  unfold Responder.requestResponse
  rw [Responder.readRequest_calmed]
  cases r.readRequest settings f with
  | ok p => exact r.startSingle_calmed _ f.stream p
  | error r' => rfl

theorem Responder.metadataPush_calmed :
    r.calmed.metadataPush settings f = (r.metadataPush settings f).calmed := by
  unfold Responder.metadataPush
  cases settings.reader f with
  | ok p => exact r.spawn_calmed f.stream _ _ _ _
  | error e => exact r.report_calmed _

theorem Responder.openInbound_calmed (p : Payload) :
    r.calmed.openInbound settings f p =
      ((r.openInbound settings f p).map Responder.calmed).mapError Responder.calmed := by
  unfold Responder.openInbound
  rw [Responder.calmed_registry, Responder.calmed_channels]
  obtain ⟨registry, _ | token⟩ := r.registry.registerInbound f.stream r.channels.length
  · exact congrArg Except.error (Responder.violation_calmed { r with registry } _)
  · dsimp only
    split <;> rfl

theorem Responder.cancelStream_calmed (stream : StreamId) :
    r.calmed.cancelStream stream = ((r.cancelStream stream).1.calmed, (r.cancelStream stream).2) := by
  unfold Responder.cancelStream
  rw [Responder.calmed_registry]
  obtain ⟨registry, _ | n⟩ := r.registry.removeOutbound stream
  · rfl
  · rfl

theorem Responder.grantStream_calmed (stream : StreamId) (demand : UInt32) :
    r.calmed.grantStream stream demand =
      ((r.grantStream stream demand).1.calmed, (r.grantStream stream demand).2) := by
  unfold Responder.grantStream
  rw [Responder.calmed_registry]
  cases r.registry.outbound? stream with
  | none => rfl
  | some n => rfl

theorem Responder.answerKeepalive_calmed :
    r.calmed.answerKeepalive f = (r.answerKeepalive f).calmed := by
  unfold Responder.answerKeepalive
  split
  · exact r.send_calmed _ _
  · rfl

theorem Responder.signal_calmed (n : Nat) (s : Signal) :
    r.calmed.signal n s = (r.signal n s).calmed := by
  unfold Responder.signal
  rw [Responder.calmed_channels]
  split <;> rfl

theorem Responder.deliver_calmed (n : Nat) :
    r.calmed.deliver settings n f = (r.deliver settings n f).calmed := by
  unfold Responder.deliver
  split
  · exact r.signal_calmed n _
  · exact r.report_calmed _

theorem Responder.inboundNext_calmed :
    r.calmed.inboundNext settings f = (r.inboundNext settings f).calmed := by
  unfold Responder.inboundNext
  rw [Responder.calmed_registry]
  split
  · exact r.deliver_calmed settings f _
  · rfl

theorem Responder.inboundNextComplete_calmed :
    r.calmed.inboundNextComplete settings f = (r.inboundNextComplete settings f).calmed := by
  unfold Responder.inboundNextComplete
  rw [Responder.calmed_registry]
  obtain ⟨registry, _ | n⟩ := r.registry.removeInbound f.stream
  · rfl
  · have delivered := Responder.deliver_calmed { r with registry } settings f n
    exact (congrArg (fun r => r.signal n .complete) delivered).trans (Responder.signal_calmed _ n _)

theorem Responder.inboundEnd_calmed (stream : StreamId) (x : Signal) :
    r.calmed.inboundEnd stream x = (r.inboundEnd stream x).calmed := by
  unfold Responder.inboundEnd
  rw [Responder.calmed_registry]
  obtain ⟨registry, _ | n⟩ := r.registry.removeInbound stream
  · rfl
  · exact Responder.signal_calmed { r with registry } n x

theorem Responder.reports_calmed (failures : List Failure) (r : Responder) :
    failures.foldl Responder.report r.calmed = (failures.foldl Responder.report r).calmed := by
  induction failures generalizing r with
  | nil => rfl
  | cons e failures ih =>
    rw [List.foldl_cons, List.foldl_cons, Responder.report_calmed]
    exact ih _

theorem Responder.cancelStreams_calmed :
    r.calmed.cancelStreams = r.cancelStreams.calmed :=
  Responder.reports_calmed _ { r with
    registry := _
    controls := _
    channels := _ }

theorem Responder.transportStopped_calmed (result : Except TransportError Unit) :
    r.calmed.transportStopped result = (r.transportStopped result).calmed := by
  cases result with
  | ok _ => exact r.cancelStreams_calmed
  | error e =>
    unfold Responder.transportStopped
    dsimp only
    rw [Responder.report_calmed, Responder.cancelStreams_calmed]

theorem Application.dispose_calm (app : Application ω) (w : ω) :
    (app.calm.dispose (w, memory)).run r.calmed =
      (((app.dispose w).run r).1.calmed, none, ((app.dispose w).run r).2.2, memory) := by
  simp only [Application.calm, Dialogue.run_map, Dialogue.run_calmed]

theorem Responder.dispose_calmed (w : ω) (app : Application ω) :
    r.calmed.dispose (w, memory) app.calm = Responder.calmTwin memory (r.dispose w app) := by
  have disposed : r.calmed.disposed = r.disposed := rfl
  cases going : r.disposed with
  | true =>
    simp only [Responder.dispose, disposed, going, if_true]
    rfl
  | false =>
    have begun : ({ r.calmed with disposed := true } : Responder).record .disposed =
        (({ r with disposed := true } : Responder).record .disposed).calmed :=
      Responder.record_calmed (r := { r with disposed := true }) rfl
    simp only [Responder.dispose, disposed, going, Bool.false_eq_true, if_false, begun,
      Application.dispose_calm]
    generalize (app.dispose w).run _ = answer
    obtain ⟨r1, _ | p, w1⟩ := answer
    · rfl
    · have noted : (r1.record (.disposePanicked p.message)).calmed = r1.calmed :=
        Responder.calmed_note rfl
      exact congrArg (fun r => ({ r with metrics := r1.metrics.connectionClosed }, w1, memory)) noted.symm

end Multiplexer
