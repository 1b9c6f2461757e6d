import Multiplexer.Proofs.Passing
import Multiplexer.Proofs.StreamScope

/-!
The dispatch of a frame stays on the stream of the frame, whether the frame is a request that is accepted
or refused, acts on what is registered under the stream, or must not arrive at all.
-/

namespace Multiplexer

variable {ω : Type} {stream : StreamId} {others : Nat → Prop} {r r' : Responder}

theorem Responder.violation_staysOn (r : Responder) {e : ProtocolError} (on : e.stream = stream) :
    Responder.StaysOn stream others r (r.violation e) := by
  have told : Responder.StaysOn stream others r (r.send .dispatcher (.error e.stream .invalid e.message)) :=
    r.send_staysOn _ on
  exact told.trans (Responder.report_staysOn _ (congrArg some on))

/-- A registration that is refused is answered on its own stream. -/
theorem Responder.refuse_staysOn (r : Responder) (stream : StreamId) :
    Responder.StaysOn stream others r (Responder.violation
      { r with registry := { r.registry with issued := r.registry.issued + 1 } }
      (.duplicateStream stream)) := by
  have refused : Responder.StaysOn stream others r
      { r with registry := { r.registry with issued := r.registry.issued + 1 } } :=
    ⟨fun _ _ => rfl, fun _ _ => rfl, fun _ _ _ => Iff.rfl, fun _ _ => Iff.rfl, fun _ _ => rfl, rfl,
      Event.silent_on stream _⟩
  exact refused.trans (Responder.violation_staysOn _ rfl)

section operations

variable (known : ∀ k, others k → k < r.controls.length)

include known

theorem Responder.addControl_staysOn (control : Control) :
    Responder.StaysOn stream others r { r with controls := r.controls ++ [control] } :=
  .setControls r fun k other => List.getElem?_append_left (known k other)

theorem Responder.register_staysOn (stream : StreamId) (control : Control) :
    Responder.StaysOn stream others r (r.register stream control).1 := by
  have registered : Responder.StaysOn stream others r
      { r with registry := (r.registry.registerOutbound stream r.controls.length).1 } :=
    r.performOutbound_staysOn (.register stream r.controls.length) rfl
  refine registered.trans (.setControls _ fun k other => ?_)
  exact List.getElem?_append_left (known k other)

/-- A task begins under a control of its own. -/
theorem Responder.spawn_staysOn (stream : StreamId) (control : Control) (work : Work) :
    Responder.StaysOn stream others r (r.spawn stream control work) :=
  (Responder.addControl_staysOn known control).trans (.addTask { r with controls := _ } rfl)

theorem Responder.startSingle_staysOn (kind : SingleRequest) (stream : StreamId) (p : Payload) :
    Responder.StaysOn stream others r (r.startSingle kind stream p) := by
  cases taken : r.registry.outbound.contains stream with
  | true =>
    rw [r.startSingle_taken kind p taken]
    exact r.refuse_staysOn stream
  | false =>
    have registered := Responder.register_staysOn known stream (.task false)
    simp only [Responder.startSingle, Registry.registerOutbound, taken]
    simp only [Responder.register, Registry.registerOutbound, taken] at registered
    exact registered.trans (.addTask { r with registry := _, controls := _ } rfl)

theorem Responder.driveStream_staysOn {w : ω} {stream : StreamId} {demand : UInt32}
    {channel : Option Nat} {openIt : Nat → ω → Dialogue (Option Panic × ω)}
    (own : ∀ m, channel = some m → r.MayUse stream m)
    (opens : (openIt r.controls.length w).On (r.MayUse stream) fun _ => True) :
    Responder.StaysOn stream others r (r.driveStream w stream demand channel openIt).1 := by
  cases taken : r.registry.outbound.contains stream with
  | true =>
    rw [r.driveStream_taken w demand channel openIt taken]
    have refused : Responder.StaysOn stream others r _ := r.refuse_staysOn stream
    exact refused.trans (Responder.dropOwnChannel_staysOn fun m held => refused.mayUse (own m held))
  | false =>
    let control := Control.stream false (Demand.new.grant (creditOfDemand demand))
    have registered : Responder.StaysOn stream others r (r.register stream control).1 :=
      Responder.register_staysOn known stream control
    have talked : Responder.StaysOn stream others (r.register stream control).1
        ((openIt r.controls.length w).run (r.register stream control).1).1 :=
      (opens.run fun m may => registered.mayUse may).1
    rw [r.driveStream_free w demand channel openIt taken]
    generalize (openIt r.controls.length w).run (r.register stream control).1 = answer at talked ⊢
    obtain ⟨r1, panic, w1⟩ := answer
    have so_far := registered.trans talked
    refine so_far.trans ?_
    cases panic with
    | none => exact .addTask r1 rfl
    | some p =>
      have dropped : Responder.StaysOn stream others r1 (r1.dropOwnChannel channel) :=
        Responder.dropOwnChannel_staysOn fun m held => so_far.mayUse (own m held)
      exact (dropped.trans (Responder.notePanic_staysOn _ (some p.message))).trans (.addTask _ rfl)

end operations

/-- The calls by which the next operation may be opened act only on channels that they may use. -/
structure Application.OpensOn (app : Application ω) (r : Responder) (stream : StreamId) (w : ω) :
    Prop where
  plain : ∀ p, (app.openStream r.controls.length p w).On (r.MayUse stream) fun _ => True
  channel : (app.openChannel r.controls.length stream r.channels.length w).On (r.MayUse stream)
    fun _ => True

section dispatch

variable {w : ω} {settings : Settings} {app : Application ω} {f : Frame} {p : Payload}

theorem Responder.readRequest_staysOn (unread : r.readRequest settings f = .error r') :
    Responder.StaysOn f.stream others r r' := by
  unfold Responder.readRequest at unread
  split at unread
  · cases unread
  next e _ =>
    cases unread
    let failure := Failure.decode f.stream e
    have told : Responder.StaysOn f.stream others r
        (r.send .dispatcher (.error f.stream failure.code failure.message)) := r.send_staysOn _ rfl
    exact told.trans (Responder.report_staysOn _ rfl)

theorem Responder.openInbound_refusal_staysOn (refused : r.openInbound settings f p = .error r') :
    Responder.StaysOn f.stream others r r' := by
  simp only [Responder.openInbound, Registry.registerInbound] at refused
  cases taken : r.registry.inbound.contains f.stream with
  | true =>
    simp only [taken, if_true, Except.error.injEq] at refused
    exact refused ▸ r.refuse_staysOn f.stream
  | false =>
    simp only [taken, Bool.false_eq_true, if_false] at refused
    split at refused <;> cases refused

/-- A new channel is one of its stream. -/
theorem Responder.openInbound_staysOn (opened : r.openInbound settings f p = .ok r') :
    Responder.StaysOn f.stream others r r' := by
  have registered : Responder.StaysOn f.stream others r
      { r with registry := (r.registry.registerInbound f.stream r.channels.length).1 } :=
    r.performInbound_staysOn (.register f.stream r.channels.length) rfl
  unfold Responder.openInbound at opened
  split at opened
  · cases opened
  next registry token issued =>
    rw [issued] at registered
    split at opened
    · cases opened
      have released : Responder.StaysOn f.stream others { r with registry }
          { r with registry := (registry.releaseInbound f.stream token).1 } :=
        Responder.performInbound_staysOn { r with registry } (.release f.stream token) rfl
      refine (registered.trans released).trans (.addChannel { r with registry := _ } ?_)
      rw [Channel.push_stream, Channel.push_stream]
      rfl
    · cases opened
      refine registered.trans (.addChannel { r with registry } ?_)
      rw [Channel.push_stream]
      rfl

variable (known : ∀ k, others k → k < r.controls.length)

include known

theorem Responder.requestStream_staysOn (opens : app.OpensOn r f.stream w) :
    Responder.StaysOn f.stream others r (r.requestStream w settings app f).1 := by
  unfold Responder.requestStream
  split
  next p _ => exact Responder.driveStream_staysOn known nofun (opens.plain p)
  next unread => exact Responder.readRequest_staysOn unread

theorem Responder.requestChannel_staysOn (opens : app.OpensOn r f.stream w) :
    Responder.StaysOn f.stream others r (r.requestChannel w settings app f).1 := by
  unfold Responder.requestChannel
  split
  · exact r.violation_staysOn rfl
  · split
    next unread => exact Responder.readRequest_staysOn unread
    next p _ =>
      split
      next refused => exact Responder.openInbound_refusal_staysOn refused
      next opened open_ =>
        have first : Responder.StaysOn f.stream others r opened := Responder.openInbound_staysOn open_
        have kept := (Responder.AsideMove.openInbound open_).keepsTasks
        -- the new channel is on the stream, as no other has had its number
        have unused : r.MayUse f.stream r.channels.length := by
          intro c there
          rw [List.getElem?_eq_none (Nat.le_refl _)] at there
          cases there
        have opens' : (app.openChannel opened.controls.length f.stream r.channels.length w).On
            (opened.MayUse f.stream) fun _ => True := by
          rw [kept.controls]
          exact opens.channel.mono fun m may => first.mayUse may
        refine first.trans (Responder.driveStream_staysOn (kept.controls ▸ known) ?_ opens')
        rintro m ⟨⟩
        exact first.mayUse unused

theorem Responder.requestResponse_staysOn :
    Responder.StaysOn f.stream others r (r.requestResponse settings f) := by
  unfold Responder.requestResponse
  split
  · exact Responder.startSingle_staysOn known ..
  next unread => exact Responder.readRequest_staysOn unread

theorem Responder.fireAndForget_staysOn :
    Responder.StaysOn f.stream others r (r.fireAndForget settings f) := by
  unfold Responder.fireAndForget
  split
  · exact Responder.startSingle_staysOn known ..
  · exact r.report_staysOn rfl

theorem Responder.metadataPush_staysOn :
    Responder.StaysOn f.stream others r (r.metadataPush settings f) := by
  unfold Responder.metadataPush
  split
  · exact Responder.spawn_staysOn known ..
  · exact r.report_staysOn rfl

omit known

theorem Responder.cancelStream_staysOn
    (own : ∀ n, r.registry.outbound? stream = some n → ¬ others n) :
    Responder.StaysOn stream others r (r.cancelStream stream).1 := by
  have removed : Responder.StaysOn stream others r
      { r with registry := (r.registry.removeOutbound stream).1 } :=
    r.performOutbound_staysOn (.remove stream) rfl
  cases found : r.registry.outbound? stream with
  | none =>
    simp only [Responder.cancelStream, Registry.removeOutbound, found]
    exact .refl r
  | some n =>
    simp only [Responder.cancelStream, Registry.removeOutbound, found] at removed ⊢
    exact removed.trans (.act { r with registry := _ } (own n found) Control.cancel)

theorem Responder.grantStream_staysOn (demand : UInt32)
    (own : ∀ n, r.registry.outbound? stream = some n → ¬ others n) :
    Responder.StaysOn stream others r (r.grantStream stream demand).1 := by
  unfold Responder.grantStream
  split
  next n found => exact .act r (own n found) (Control.request (creditOfDemand demand))
  next => exact .refl r

theorem Responder.deliver_staysOn {n : Nat} (may : r.MayUse f.stream n) :
    Responder.StaysOn f.stream others r (r.deliver settings n f) := by
  unfold Responder.deliver
  split
  · exact Responder.signal_staysOn may _
  · exact r.report_staysOn rfl

/-- What is registered for the inbound half of a stream is a channel of the stream. -/
theorem Responder.Paired.mayUse (paired : r.Paired) {n : Nat}
    (found : r.registry.inbound? stream = some n) : r.MayUse stream n := by
  obtain ⟨e, there, rfl⟩ := Option.map_eq_some_iff.mp found
  obtain ⟨he, rfl⟩ := Entries.mem_of_find? there
  obtain ⟨c, hc, origin, _⟩ := paired.channels e he
  intro d hd
  cases hc.symm.trans hd
  exact (Prod.mk.inj origin).1

theorem Responder.inboundNext_staysOn (paired : r.Paired) :
    Responder.StaysOn f.stream others r (r.inboundNext settings f) := by
  unfold Responder.inboundNext
  split
  next n found => exact Responder.deliver_staysOn (paired.mayUse found)
  next => exact .refl r

theorem Responder.removeInbound_staysOn {registry : Registry Nat Nat} {n : Nat}
    (removed : r.registry.removeInbound stream = (registry, some n)) :
    Responder.StaysOn stream others r { r with registry } := by
  have out : Responder.StaysOn stream others r
      { r with registry := (r.registry.removeInbound stream).1 } :=
    r.performInbound_staysOn (.remove stream) rfl
  rw [removed] at out
  exact out

theorem Responder.inboundNextComplete_staysOn (paired : r.Paired) :
    Responder.StaysOn f.stream others r (r.inboundNextComplete settings f) := by
  unfold Responder.inboundNextComplete
  split
  next registry n removed =>
    have may := paired.mayUse (Registry.removeInbound_handle removed).symm
    have closed : Responder.StaysOn f.stream others r { r with registry } :=
      Responder.removeInbound_staysOn removed
    have delivered : Responder.StaysOn f.stream others { r with registry }
        (Responder.deliver { r with registry } settings n f) :=
      Responder.deliver_staysOn (closed.mayUse may)
    have both := closed.trans delivered
    exact both.trans (Responder.signal_staysOn (both.mayUse may) _)
  next => exact .refl r

theorem Responder.inboundEnd_staysOn (paired : r.Paired) (s : Signal) :
    Responder.StaysOn stream others r (r.inboundEnd stream s) := by
  unfold Responder.inboundEnd
  split
  next registry n removed =>
    have may := paired.mayUse (Registry.removeInbound_handle removed).symm
    have closed : Responder.StaysOn stream others r { r with registry } :=
      Responder.removeInbound_staysOn removed
    exact closed.trans (Responder.signal_staysOn (closed.mayUse may) s)
  next => exact .refl r

/-- Every frame but a keepalive stays on its stream. -/
theorem Responder.dispatch_staysOn (paired : r.Paired)
    (known : ∀ k, others k → k < r.controls.length)
    (own : ∀ n, r.registry.outbound? f.stream = some n → ¬ others n)
    (opens : app.OpensOn r f.stream w) (kind : f.kind ≠ .keepalive) :
    Responder.StaysOn f.stream others r (r.dispatch w settings app f).responder := by
  have counted : Responder.StaysOn f.stream others r { r with metrics := r.metrics.frameReceived } :=
    .of_eq rfl rfl rfl rfl rfl rfl
  refine counted.trans ?_
  have paired : Responder.Paired { r with metrics := r.metrics.frameReceived } :=
    paired.of_eq rfl (Nat.le_refl _) rfl
  have opens : app.OpensOn { r with metrics := r.metrics.frameReceived } f.stream w :=
    ⟨opens.plain, opens.channel⟩
  unfold Responder.dispatch
  dsimp only
  split
  next => exact Responder.fireAndForget_staysOn known
  next => exact Responder.requestResponse_staysOn known
  next => exact Responder.requestStream_staysOn known opens
  next => exact Responder.requestChannel_staysOn known opens
  next => exact Responder.metadataPush_staysOn known
  next => exact Responder.cancelStream_staysOn own
  next => exact Responder.grantStream_staysOn f.demand own
  next keepalive => exact absurd keepalive kind
  next => exact Responder.inboundNext_staysOn paired
  next => exact Responder.inboundNextComplete_staysOn paired
  next => exact Responder.inboundEnd_staysOn paired _
  next => exact Responder.inboundEnd_staysOn paired _
  next => exact .refl _
  next => exact .refl _
  all_goals exact Responder.violation_staysOn _ rfl

end dispatch

end Multiplexer
