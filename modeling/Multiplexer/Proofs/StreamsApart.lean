import Multiplexer.Proofs.StreamDispatch
import Multiplexer.Proofs.StreamTurns
import Multiplexer.Proofs.TaskChannels

/-!
Streams do not interfere. In any state that a run leads to, a frame, a turn of a task and whatever is done
with a channel stay on one stream, and a frame for which there is nothing under its stream is ignored.
-/

namespace Multiplexer

variable {ω : Type} {r r' : Responder} {stream : StreamId} {f : Frame} {t : Task}

/-- An operation on another stream goes by the number, that of a task or of what is registered. -/
def Responder.Elsewhere (r : Responder) (stream : StreamId) (k : Nat) : Prop :=
  (∃ t ∈ r.tasks, t.number = k ∧ t.stream ≠ stream) ∨
    ∃ e ∈ r.registry.outbound, e.handle = k ∧ e.stream ≠ stream

/-- Something is done with channel `m`. -/
inductive Responder.ActsOn (m : Nat) (r : Responder) : Responder → Prop where
  | read : ActsOn m r (r.readChannel m).1
  | request (demand : UInt32) : ActsOn m r (r.requestOnChannel m demand)
  | drop : ActsOn m r (r.dropChannel m)
  | keep : ActsOn m r (r.keepChannel m)
  | signal (s : Signal) : ActsOn m r (r.signal m s)
  | cancel : ActsOn m r (r.cancelChannel m)

/-- A frame finds nothing to act on: its stream is absent from the map that its kind looks it up in, or
its kind asks for nothing. -/
def Responder.Ignores (r : Responder) (f : Frame) : Prop :=
  match f.kind with
  | .cancel | .requestN => r.registry.outbound? f.stream = none
  | .next | .nextComplete | .complete | .error => r.registry.inbound? f.stream = none
  | .keepalive => f.wantsResponse = false
  | .payload | .lease => True
  | .fireAndForget | .requestResponse | .requestStream | .requestChannel | .metadataPush | .setup
  | .reserved | .resume | .resumeOk | .ext | .unknown _ => False

theorem Responder.Linked.elsewhere_lt (h : r.Linked) {k : Nat} (other : r.Elsewhere stream k) :
    k < r.controls.length := by
  rcases other with ⟨t, there, rfl, _⟩ | ⟨e, there, rfl, _⟩
  · exact h.task_lt there
  · exact (h.registered e there).1

/-- The number of a task is that of no operation on another stream. -/
theorem Responder.Linked.task_not_elsewhere (h : r.Linked) (there : t ∈ r.tasks) :
    ¬ r.Elsewhere t.stream t.number := by
  rintro (⟨u, hu, number, other⟩ | ⟨e, he, handle, other⟩)
  · exact other (congrArg Task.stream (h.eq_of_number hu there number))
  · exact other (congrArg Entry.stream (h.own t there e he (.inr handle)).2)

/-- Nor is the number that is registered under a stream. -/
theorem Responder.Linked.found_not_elsewhere (h : r.Linked) {n : Nat}
    (found : r.registry.outbound? stream = some n) : ¬ r.Elsewhere stream n := by
  obtain ⟨token, entry⟩ := (Registry.outbound?_eq_some_iff h.streams).mp found
  rintro (⟨t, ht, number, other⟩ | ⟨e, he, handle, other⟩)
  · exact other (congrArg Entry.stream (h.own t ht _ entry (.inr number.symm)).2).symm
  · exact other (congrArg Entry.stream (Entries.eq_of_handle h.handles he entry handle))

theorem Responder.ActsOn.staysOn {others : Nat → Prop} {m : Nat} (acts : r.ActsOn m r')
    (may : r.MayUse stream m) : Responder.StaysOn stream others r r' := by
  cases acts with
  | read => exact Responder.readChannel_staysOn may
  | request demand => exact Responder.requestOnChannel_staysOn may demand
  | drop => exact Responder.dropChannel_staysOn may
  | keep => exact Responder.keepChannel_staysOn may
  | signal s => exact Responder.signal_staysOn may s
  | cancel => exact Responder.cancelChannel_staysOn may

/-- A keepalive is answered on the stream of the connection, if an answer is asked for. -/
theorem Responder.dispatch_keepalive (r : Responder) (w : ω) (settings : Settings)
    (app : Application ω) (kind : f.kind = .keepalive) :
    r.dispatch w settings app f =
      ⟨{ r with
          metrics := r.metrics.frameReceived
          history := r.history ++
            if f.wantsResponse then [.sent .dispatcher (.keepalive 0 f.data false)] else [] },
        w, none⟩ := by
  simp only [Responder.dispatch, kind, Responder.answerKeepalive]
  split
  · rfl
  · rw [List.append_nil]

/-- A frame that finds nothing to act on is counted, and that is all. -/
theorem Responder.Ignores.dispatch (ignored : r.Ignores f) (w : ω) (settings : Settings)
    (app : Application ω) :
    r.dispatch w settings app f = ⟨{ r with metrics := r.metrics.frameReceived }, w, none⟩ := by
  unfold Responder.Ignores at ignored
  split at ignored
  next kind => simp [Responder.dispatch, kind, Responder.cancelStream, Registry.removeOutbound, ignored]
  next kind => simp [Responder.dispatch, kind, Responder.grantStream, ignored]
  next kind => simp [Responder.dispatch, kind, Responder.inboundNext, ignored]
  next kind =>
    simp [Responder.dispatch, kind, Responder.inboundNextComplete, Registry.removeInbound, ignored]
  next kind => simp [Responder.dispatch, kind, Responder.inboundEnd, Registry.removeInbound, ignored]
  next kind => simp [Responder.dispatch, kind, Responder.inboundEnd, Registry.removeInbound, ignored]
  next kind => simp [Responder.dispatch, kind, Responder.answerKeepalive, ignored]
  next kind => simp [Responder.dispatch, kind]
  next kind => simp [Responder.dispatch, kind]
  all_goals exact ignored.elim

/-- Streams do not interfere. In the state at the beginning of any turn of any run, a frame that is not a
keepalive stays on its stream, a turn of a task stays on the stream of the task, and what is done with a
channel stays on the stream of the channel: no entry, channel or task of another stream is touched, no
control of an operation on another stream, and all that is said is said on the stream. This takes calls
that open operations, and code of the operation whose turn it is, that act on no channel of another
stream. A keepalive does nothing but ask for its answer, which goes out on the stream of the connection. A
frame that finds nothing to act on is only counted. -/
theorem Responder.streams_apart (settings : Settings) (app : Application ω) (w : ω)
    (as : List (Action ω)) :
    let s := Responder.run settings app as (Responder.start, w)
    let r := s.1.beginTurn
    (∀ f : Frame, f.kind ≠ .keepalive → app.OpensOn r f.stream s.2 →
      Responder.StaysOn f.stream (r.Elsewhere f.stream) r
        (r.dispatch s.2 settings app f).responder) ∧
    (∀ f : Frame, f.kind = .keepalive → r.dispatch s.2 settings app f =
      ⟨{ r with
          metrics := r.metrics.frameReceived
          history := r.history ++
            if f.wantsResponse then [.sent .dispatcher (.keepalive 0 f.data false)] else [] },
        s.2, none⟩) ∧
    (∀ t ∈ r.tasks, ∀ P : ω → Prop, app.Confined P t.number (r.MayUse t.stream) → P s.2 →
      ∀ budget, Responder.StaysOn t.stream (r.Elsewhere t.stream) r
        (r.turn s.2 app t.number budget).1) ∧
    (∀ (m : Nat) (c : Channel), r.channels[m]? = some c → ∀ r', r.ActsOn m r' →
      Responder.StaysOn c.stream (r.Elsewhere c.stream) r r') ∧
    (∀ f : Frame, r.Ignores f →
      r.dispatch s.2 settings app f = ⟨{ r with metrics := r.metrics.frameReceived }, s.2, none⟩) := by
  intro s r
  have paced : s.1.AsideMoves r := .single (.pace s.1 _)
  have linked : r.Linked := (Responder.AsideMoves.keepsTasks paced).linked
    (Responder.linked_start.run settings app as (s := (Responder.start, w)))
  have paired : r.Paired :=
    Responder.AsideMoves.paired paced (Responder.paired_run settings app w as)
  have equipped : r.Equipped :=
    Responder.AsideMoves.equipped paced (Responder.equipped_run settings app w as)
  refine ⟨fun f kind opens => ?_, fun f kind => r.dispatch_keepalive s.2 settings app kind,
    fun t there P confined fine budget => ?_, fun m c hc r' acts => ?_,
    fun f ignored => ignored.dispatch s.2 settings app⟩
  · exact Responder.dispatch_staysOn paired (fun k other => linked.elsewhere_lt other)
      (fun n found => linked.found_not_elsewhere found) opens kind
  · refine linked.turn_staysOn there (fun m held c hc => ?_) (fun m may => may) confined fine
      (linked.task_not_elsewhere there) budget
    obtain ⟨d, hd, on⟩ := equipped t there m held
    cases hd.symm.trans hc
    exact on
  · refine acts.staysOn fun d hd => ?_
    cases hc.symm.trans hd
    rfl

/-- An application each of whose channels is sent back by its own operation. -/
def mirror : Application (List (Nat × Nat)) where
  start _ _ _ w := w
  poll _ w := .answer (.pending, w)
  openStream _ _ w := .answer (none, w)
  openChannel n _ m w := .answer (none, (n, m) :: w)
  pull n w := match w.lookup n with
    | none => .answer (.ready none, w)
    | some m => .read m fun
      | some (.item x) => .answer (.ready (some x), w)
      | some .pending => .answer (.pending, w)
      | some .finished | none => .answer (.ready none, w)
  drop _ w := .answer w
  dispose w := .answer (none, w)

theorem mirror_opensOn (r : Responder) (stream : StreamId) (w : List (Nat × Nat)) :
    mirror.OpensOn r stream w :=
  ⟨fun _ => trivial, trivial⟩

/-- Each operation keeps to the channel that it has been opened with. -/
theorem mirror_confined (n : Nat) (may : Nat → Prop) :
    mirror.Confined (fun w => ∀ m, w.lookup n = some m → may m) n may := by
  refine ⟨fun _ _ _ fine => fine, fun _ fine => fine, fun w fine => ?_, fun _ _ => trivial⟩
  simp only [mirror]
  split
  next => exact fine
  next m held =>
    refine ⟨fine m held, fun reply => ?_⟩
    rcases reply with _ | (x | _ | _) <;> exact fine

/-- Two channels on two streams: a turn of one operation and the cancellation of the other do not concern
each other, and a stream that is not there is ignored. -/
theorem Responder.mirror_streams_apart :
    let s := Responder.run .standard mirror
      [.receive (.item (.ok (.requestChannel (.ofNat 7) 5 .empty))),
        .receive (.item (.ok (.requestChannel (.ofNat 9) 5 .empty)))] (Responder.start, [])
    let r := s.1.beginTurn
    let turned := (r.turn s.2 mirror 0 5).1
    let cancelled := (r.dispatch s.2 .standard mirror (.cancel (.ofNat 9))).responder
    turned.controls[0]? ≠ r.controls[0]? ∧ turned.controls[1]? = r.controls[1]? ∧
      turned.registry.inbound.find? (.ofNat 9) = r.registry.inbound.find? (.ofNat 9) ∧
      cancelled.controls[1]? ≠ r.controls[1]? ∧ cancelled.controls[0]? = r.controls[0]? ∧
      (r.readChannel 1).1.registry.outbound.find? (.ofNat 7) = r.registry.outbound.find? (.ofNat 7) ∧
      (r.dispatch s.2 .standard mirror (.cancel (.ofNat 11))).responder =
        { r with metrics := r.metrics.frameReceived } := by
  intro s r turned cancelled
  obtain ⟨frames, _, turns, acts, ignores⟩ := Responder.streams_apart .standard mirror []
    [.receive (.item (.ok (.requestChannel (.ofNat 7) 5 .empty))),
      .receive (.item (.ok (.requestChannel (.ofNat 9) 5 .empty)))]
  have first : ⟨0, .ofNat 7, .stream 1 (some 0) .pulling⟩ ∈ r.tasks := by decide
  have second : ⟨1, .ofNat 9, .stream 3 (some 1) .pulling⟩ ∈ r.tasks := by decide
  have fine : ∀ m, s.2.lookup 0 = some m → r.MayUse (.ofNat 7) m := by
    intro m held c hc
    obtain rfl : 0 = m := Option.some.inj ((show s.2.lookup 0 = some 0 by decide).symm.trans held)
    have on : (r.channels[0]?).map Channel.stream = some (.ofNat 7) := by decide
    rw [hc] at on
    exact Option.some.inj on
  have turn := turns _ first _ (mirror_confined 0 _) fine 5
  have cancel := frames (.cancel (.ofNat 9)) (by decide) (mirror_opensOn r _ s.2)
  obtain ⟨c, hc, on⟩ : ∃ c, r.channels[1]? = some c ∧ c.stream = .ofNat 9 := ⟨_, rfl, by decide⟩
  have read := acts 1 c hc _ .read
  rw [on] at read
  have other : r.Elsewhere (.ofNat 7) 1 := .inl ⟨_, second, rfl, by decide⟩
  have other' : r.Elsewhere (.ofNat 9) 0 := .inl ⟨_, first, rfl, by decide⟩
  have ignored : r.Ignores (.cancel (.ofNat 11)) :=
    show r.registry.outbound? (.ofNat 11) = none by decide
  exact ⟨by decide, turn.controls 1 other, turn.inbound _ (by decide), by decide,
    cancel.controls 0 other', read.outbound _ (by decide),
    congrArg Dispatched.responder (ignores _ ignored)⟩

end Multiplexer
