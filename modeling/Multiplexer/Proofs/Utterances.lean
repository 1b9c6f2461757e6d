import Multiplexer.Proofs.Deliveries
import Multiplexer.Proofs.RefusedRequests

/-!
What the dispatcher and the tasks say in the course of an action, to the peer and to the listener. A frame that
arrives draws one report at most, and so does the turn of a task.
-/

namespace Multiplexer

variable {ω : Type} {r r' r'' : Responder} {words words' : List Event} {settings : Settings} {f : Frame}

/-- The dispatcher or a task speaks: it sends a frame, or a failure is reported. -/
def Event.isUttered : Event → Bool
  | .sent .dispatcher _ | .sent (.task _) _ | .reported _ => true
  | .sent (.channel _) _ | .handlerPanicked _ | .disposed | .disposePanicked _ | .pulled .. | .ended _
  | .yielded .. => false

def uttered (events : List Event) : List Event := events.filter Event.isUttered

@[simp]
theorem uttered_append (events events' : List Event) :
    uttered (events ++ events') = uttered events ++ uttered events' :=
  List.filter_append ..

/-- Between two states the dispatcher and the tasks say these words. -/
def Responder.Utters (words : List Event) (r r' : Responder) : Prop :=
  ∃ events, r'.history = r.history ++ events ∧ uttered events = words

theorem Responder.Utters.tell (events : List Event) (history : r'.history = r.history ++ events) :
    Responder.Utters (uttered events) r r' :=
  ⟨events, history, rfl⟩

theorem Responder.Utters.of_eq (history : r'.history = r.history) : Responder.Utters [] r r' :=
  ⟨[], history.trans (List.append_nil _).symm, rfl⟩

theorem Responder.Utters.refl (r : Responder) : Responder.Utters [] r r := .of_eq rfl

theorem Responder.Utters.trans (h : Responder.Utters words r r') (h' : Responder.Utters words' r' r'') :
    Responder.Utters (words ++ words') r r'' := by
  obtain ⟨events, history, rfl⟩ := h
  obtain ⟨events', history', rfl⟩ := h'
  exact ⟨events ++ events', by rw [history', history, List.append_assoc], uttered_append _ _⟩

/-- What is said before and after silence. -/
theorem Responder.Utters.after (h : Responder.Utters [] r r') (h' : Responder.Utters words r' r'') :
    Responder.Utters words r r'' :=
  h.trans h'

theorem Responder.Utters.before (h : Responder.Utters words r r') (h' : Responder.Utters [] r' r'') :
    Responder.Utters words r r'' := by
  simpa using h.trans h'

theorem Event.isUttered_of_channel {e : Event} {n : Nat} (on : e.channel? = some n) :
    e.isUttered = false := by
  unfold Event.channel? at on
  split at on
  · rfl
  · rfl
  all_goals cases on

theorem Responder.ChannelMove.utters (move : r.ChannelMove r') : Responder.Utters [] r r' := by
  obtain rfl | ⟨n, c, step, xs, changes⟩ := move.changes
  · exact .refl r'
  · obtain ⟨registry, allowance, _, _, rfl⟩ := changes.rest
    refine ⟨_, rfl, List.filter_eq_nil_iff.mpr fun e he => ?_⟩
    rw [Event.isUttered_of_channel (ChannelStep.channel_events he).1]
    exact Bool.false_ne_true

theorem Responder.ChannelMoves.utters (moves : r.ChannelMoves r') : Responder.Utters [] r r' := by
  induction moves with
  | refl => exact .refl r
  | tail _ step ih => exact ih.after step.utters

theorem Responder.notePanic_utters (r : Responder) (panic : Option String) :
    Responder.Utters [] r (r.notePanic panic) := by
  cases panic with
  | none => exact .refl r
  | some message => exact .tell [.handlerPanicked message] rfl

theorem Responder.reports_utters (failures : List Failure) (r : Responder) :
    Responder.Utters (failures.map .reported) r (failures.foldl Responder.report r) := by
  induction failures generalizing r with
  | nil => exact .refl r
  | cons e es ih => exact Responder.Utters.trans (.tell [.reported e] rfl) (ih (r.report e))

/-- What the dispatcher says to a frame: it refuses it, reports that its payload cannot be read, or echoes
it, unless it has nothing to say. -/
inductive Responder.Elicits (r : Responder) (settings : Settings) (f : Frame) : List Event → Prop where
  | silence : Elicits r settings f []
  | echo (kind : f.kind = .keepalive) :
    Elicits r settings f [.sent .dispatcher (.keepalive 0 f.data false)]
  | refusal {failure : Failure} {frames : List Frame} (opens : f.kind.opens = true)
    (refuses : r.Refuses settings f failure frames) :
    Elicits r settings f (frames.map (.sent .dispatcher) ++ [.reported failure])
  | violation {e : ProtocolError} (on : e.stream = f.stream) (other : f.kind.opens = false)
    (heard : f.kind ≠ .metadataPush) :
    Elicits r settings f [.sent .dispatcher (.error e.stream .invalid e.message), .reported (.protocol e)]
  | unread (e : PayloadError) (other : f.kind.opens = false) :
    Elicits r settings f [.reported (.decode f.stream e)]

theorem Responder.Elicits.uttered (elicits : r.Elicits settings f words) :
    Multiplexer.uttered words = words := by
  refine List.filter_eq_self.mpr fun e he => ?_
  cases elicits with
  | silence => exact absurd he List.not_mem_nil
  | echo kind => rw [List.mem_singleton.mp he]; rfl
  | refusal opens refuses =>
    rcases List.mem_append.mp he with sent | reported
    · obtain ⟨g, _, rfl⟩ := List.mem_map.mp sent
      rfl
    · rw [List.mem_singleton.mp reported]; rfl
  | violation on other heard => rcases List.mem_pair.mp he with rfl | rfl <;> rfl
  | unread e other => rw [List.mem_singleton.mp he]; rfl

theorem Responder.Elicits.utters (elicits : r.Elicits settings f words)
    (history : r'.history = r.history ++ words) : Responder.Utters words r r' :=
  ⟨words, history, elicits.uttered⟩

theorem Responder.violation_history (r : Responder) (e : ProtocolError) :
    (r.violation e).history = r.history ++
      [.sent .dispatcher (.error e.stream .invalid e.message), .reported (.protocol e)] :=
  List.append_assoc ..

/-- A request is refused, or it can be read and its stream is free. -/
theorem Responder.refused_or_readable (r : Responder) (settings : Settings) (f : Frame) :
    ((∃ e, settings.reader f = .error e) ∨ r.Denies f) ∨
      ∃ p, settings.reader f = .ok p ∧ ¬ r.Denies f := by
  by_cases denied : r.Denies f
  · exact .inl (.inr denied)
  · cases readable : settings.reader f with
    | error e => exact .inl (.inl ⟨e, rfl⟩)
    | ok p => exact .inr ⟨p, rfl, denied⟩

/-- A request that is refused is told so, and nothing else happens. -/
theorem Responder.refused_elicits (r : Responder) (w : ω) (settings : Settings) (app : Application ω)
    (f : Frame) (opens : f.kind.opens = true)
    (refused : (∃ e, settings.reader f = .error e) ∨ r.Denies f) :
    ∃ words, r.Elicits settings f words ∧
      (r.beginTurn.dispatch w settings app f).responder.history = r.history ++ words := by
  obtain ⟨failure, frames, refuses⟩ := r.refuses_of settings f refused
  obtain ⟨issued, -, -, answered⟩ := refuses.dispatch (ω := ω) opens
  refine ⟨_, .refusal opens refuses, ?_⟩
  rw [answered]
  exact List.append_assoc ..

theorem Responder.startSingle_history (r : Responder) (kind : SingleRequest) {stream : StreamId}
    (p : Payload) (free : r.registry.outbound.contains stream = false) :
    (r.startSingle kind stream p).history = r.history := by
  simp [Responder.startSingle, Registry.registerOutbound, free, Responder.spawn]

theorem Responder.driveStream_utters (r : Responder) (w : ω) {stream : StreamId} (demand : UInt32)
    (channel : Option Nat) (openIt : Nat → ω → Dialogue (Option Panic × ω))
    (free : r.registry.outbound.contains stream = false) :
    Responder.Utters [] r (r.driveStream w stream demand channel openIt).1 := by
  have registered : Responder.Utters [] r
      (r.register stream (.stream false (Demand.new.grant (creditOfDemand demand)))).1 := .of_eq rfl
  have opened := registered.after
    (Responder.ChannelMoves.utters ((openIt r.controls.length w).run_moves _))
  rw [r.driveStream_free w demand channel openIt free]
  generalize (openIt r.controls.length w).run _ = answer at opened ⊢
  obtain ⟨r1, panic, w1⟩ := answer
  have dropped : Responder.Utters [] r1 (if panic.isSome then r1.dropOwnChannel channel else r1) := by
    split
    · exact Responder.ChannelMoves.utters (r1.dropOwnChannel_moves channel)
    · exact .refl r1
  exact ((opened.after dropped).after (Responder.notePanic_utters _ _)).after (.of_eq rfl)

theorem Responder.openInbound_history {p : Payload} (opened : r.openInbound settings f p = .ok r') :
    r'.history = r.history := by
  unfold Responder.openInbound at opened
  split at opened
  · cases opened
  · split at opened <;> cases opened <;> rfl

theorem Responder.fireAndForget_history (r : Responder) (w : ω) (settings : Settings)
    (app : Application ω) (f : Frame) {p : Payload} (kind : f.kind = .fireAndForget)
    (readable : settings.reader f = .ok p) (free : ¬ r.Denies f) :
    (r.beginTurn.dispatch w settings app f).responder.history = r.history := by
  have idle : r.ready.registry.outbound.contains f.stream = false :=
    eq_false_of_ne_true (not_or.mp free).1
  simp only [Responder.dispatch, kind, Responder.fireAndForget, readable]
  exact r.ready.startSingle_history .fireAndForget p idle

/-- A request that is accepted draws no word from the dispatcher. -/
theorem Responder.accepted_utters (r : Responder) (w : ω) (settings : Settings) (app : Application ω)
    (f : Frame) {p : Payload} (opens : f.kind.opens = true) (readable : settings.reader f = .ok p)
    (free : ¬ r.Denies f) :
    Responder.Utters [] r (r.beginTurn.dispatch w settings app f).responder := by
  have read : r.ready.readRequest settings f = .ok p := Responder.readRequest_ok settings readable
  obtain ⟨idle, half⟩ := not_or.mp free
  have idle : r.ready.registry.outbound.contains f.stream = false := eq_false_of_ne_true idle
  have begun : Responder.Utters [] r r.ready := .of_eq rfl
  refine begun.after ?_
  cases kind : f.kind with
  | fireAndForget => exact .of_eq (r.fireAndForget_history w settings app f kind readable free)
  | requestResponse =>
    have started : (r.beginTurn.dispatch w settings app f).responder =
        r.ready.startSingle .requestResponse f.stream p := by
      simp only [Responder.dispatch, kind]
      show r.ready.requestResponse settings f = _
      rw [Responder.requestResponse, read]
    rw [started]
    exact .of_eq (r.ready.startSingle_history .requestResponse p idle)
  | requestStream =>
    have driven : (r.beginTurn.dispatch w settings app f).responder =
        (r.ready.driveStream w f.stream f.demand none (fun n w => app.openStream n p w)).1 := by
      simp only [Responder.dispatch, kind]
      show (r.ready.requestStream w settings app f).1 = _
      rw [Responder.requestStream, read]
    rw [driven]
    exact r.ready.driveStream_utters w f.demand none _ idle
  | requestChannel =>
    have unused : r.ready.registry.inbound.contains f.stream = false :=
      eq_false_of_ne_true fun taken => half ⟨kind, taken⟩
    obtain ⟨opened, open_⟩ := Responder.openInbound_free settings p unused
    have kept := Responder.AsideMove.keepsTasks (.openInbound open_)
    have free' : opened.registry.outbound.contains f.stream = false := by rw [kept.outbound, idle]
    have driven : (r.beginTurn.dispatch w settings app f).responder =
        (opened.driveStream w f.stream f.demand (some r.ready.channels.length)
          (fun n w => app.openChannel n f.stream r.ready.channels.length w)).1 := by
      simp only [Responder.dispatch, kind]
      show (r.ready.requestChannel w settings app f).1 = _
      rw [Responder.requestChannel, idle, unused]
      simp only [Bool.or_self, Bool.false_eq_true, if_false, read, open_]
    rw [driven]
    exact Responder.Utters.after (.of_eq (Responder.openInbound_history open_))
      (opened.driveStream_utters w f.demand _ _ free')
  | _ => simp [FrameKind.opens, kind] at opens

theorem Responder.deliver_elicits (r : Responder) (settings : Settings) (n : Nat) (f : Frame) :
    (r.deliver settings n f).history = r.history ∨
      ∃ e, (r.deliver settings n f).history = r.history ++ [.reported (.decode f.stream e)] := by
  unfold Responder.deliver
  split
  next p _ => exact .inl (r.signal_history n (.next p))
  next e _ => exact .inr ⟨e, rfl⟩

/-- A frame that asks for no operation draws these words and has nothing else happen. -/
theorem Responder.dispatch_other_elicits (r : Responder) (w : ω) (settings : Settings)
    (app : Application ω) (f : Frame) (other : f.kind.opens = false) :
    ∃ words, r.Elicits settings f words ∧
      (r.beginTurn.dispatch w settings app f).responder.history = r.history ++ words := by
  have silent {r' : Responder} (history : r'.history = r.history) :
      ∃ words, r.Elicits settings f words ∧ r'.history = r.history ++ words :=
    ⟨[], .silence, history.trans (List.append_nil _).symm⟩
  have delivered {r' : Responder} (outcome : r'.history = r.history ∨
      ∃ e, r'.history = r.history ++ [.reported (.decode f.stream e)]) :
      ∃ words, r.Elicits settings f words ∧ r'.history = r.history ++ words := by
    obtain history | ⟨e, history⟩ := outcome
    · exact silent history
    · exact ⟨_, .unread e other, history⟩
  have violated {e : ProtocolError} (on : e.stream = f.stream) (heard : f.kind ≠ .metadataPush) :
      ∃ words, r.Elicits settings f words ∧ (r.ready.violation e).history = r.history ++ words :=
    ⟨_, .violation on other heard, r.ready.violation_history e⟩
  cases kind : f.kind with
  | metadataPush =>
    simp only [Responder.dispatch, kind, Responder.metadataPush]
    split
    · exact silent rfl
    next e _ => exact ⟨_, .unread e other, rfl⟩
  | cancel =>
    simp only [Responder.dispatch, kind, Responder.cancelStream]
    split <;> exact silent rfl
  | requestN =>
    simp only [Responder.dispatch, kind, Responder.grantStream]
    split <;> exact silent rfl
  | keepalive =>
    simp only [Responder.dispatch, kind, Responder.answerKeepalive]
    split
    · exact ⟨_, .echo kind, rfl⟩
    · exact silent rfl
  | next =>
    simp only [Responder.dispatch, kind, Responder.inboundNext]
    split
    · exact delivered (Responder.deliver_elicits ..)
    · exact silent rfl
  | nextComplete =>
    simp only [Responder.dispatch, kind, Responder.inboundNextComplete]
    split
    · rw [Responder.signal_history]
      exact delivered (Responder.deliver_elicits ..)
    · exact silent rfl
  | complete | error =>
    simp only [Responder.dispatch, kind, Responder.inboundEnd]
    split
    · exact silent (Responder.signal_history ..)
    · exact silent rfl
  | payload | lease =>
    simp only [Responder.dispatch, kind]
    exact silent rfl
  | setup | reserved | resume | resumeOk | ext | unknown =>
    simp only [Responder.dispatch, kind]
    exact violated rfl (by simp [kind])
  | _ => simp [FrameKind.opens, kind] at other

theorem Responder.fireAndForget_elicits (r : Responder) (w : ω) (settings : Settings)
    (app : Application ω) (f : Frame) (kind : f.kind = .fireAndForget) :
    ∃ words, r.Elicits settings f words ∧
      (r.beginTurn.dispatch w settings app f).responder.history = r.history ++ words := by
  have opens : f.kind.opens = true := by rw [kind]; rfl
  obtain refused | ⟨p, readable, free⟩ := r.refused_or_readable settings f
  · exact r.refused_elicits w settings app f opens refused
  · have history := r.fireAndForget_history w settings app f kind readable free
    exact ⟨[], .silence, history.trans (List.append_nil _).symm⟩

theorem Responder.dispatch_elicits (r : Responder) (w : ω) (settings : Settings) (app : Application ω)
    (f : Frame) :
    ∃ words, r.Elicits settings f words ∧
      Responder.Utters words r (r.beginTurn.dispatch w settings app f).responder := by
  have whole (h : ∃ words, r.Elicits settings f words ∧
      (r.beginTurn.dispatch w settings app f).responder.history = r.history ++ words) :
      ∃ words, r.Elicits settings f words ∧
        Responder.Utters words r (r.beginTurn.dispatch w settings app f).responder := by
    obtain ⟨words, elicits, history⟩ := h
    exact ⟨words, elicits, elicits.utters history⟩
  cases opens : f.kind.opens with
  | false => exact whole (r.dispatch_other_elicits w settings app f opens)
  | true =>
    obtain refused | ⟨p, readable, free⟩ := r.refused_or_readable settings f
    · exact whole (r.refused_elicits w settings app f opens refused)
    · exact ⟨[], .silence, r.accepted_utters w settings app f opens readable free⟩

section turns

variable {t : Task} {token : Nat} {channel : Option Nat}

/-- What a task says in a turn: its answer to a request, or the items that it sends and its last words. -/
inductive Task.Says (t : Task) : List Event → Prop where
  | answer {kind : SingleRequest} {token : Option Nat} {request : Option Payload}
    (work : t.work = .single kind token request) (released : Bool) (result : Option Item) :
    Says t (t.answer kind released result)
  | stream {token : Nat} {channel : Option Nat} {phase : StreamPhase}
    (work : t.work = .stream token channel phase) (items : List Payload) (released : Bool)
    (outcome : StreamOutcome) :
    Says t (items.map (fun p => .sent (.task t.number) (.next t.stream p)) ++
      if released then t.lastWords outcome else [])

theorem Task.LastWord.isUttered {e : Event} (last : t.LastWord e) : e.isUttered = true := by
  cases last <;> rfl

theorem Task.uttered_answer (t : Task) (kind : SingleRequest) (released : Bool) (result : Option Item) :
    uttered (t.answer kind released result) = t.answer kind released result := by
  refine List.filter_eq_self.mpr fun e he => ?_
  obtain ⟨p, _, rfl⟩ | last := Task.mem_answer he
  · rfl
  · exact last.isUttered

theorem Task.uttered_lastWords (t : Task) (released : Bool) (outcome : StreamOutcome) :
    uttered (if released then t.lastWords outcome else []) =
      if released then t.lastWords outcome else [] := by
  cases released with
  | false => rfl
  | true => exact List.filter_eq_self.mpr fun e he => (Task.mem_lastWords he).isUttered

theorem Responder.Labours.utters {panic : Option String} (h : r.Labours panic r') :
    Responder.Utters [] r r' := by
  obtain ⟨r1, talked, dropped⟩ := h
  exact ((Responder.ChannelMoves.utters talked).after (r1.notePanic_utters panic)).after
    (Responder.ChannelMoves.utters dropped)

theorem Responder.concludeSingle_utters (r : Responder) (t : Task) (kind : SingleRequest)
    (token : Option Nat) (verdict : Option (Option Item)) :
    ∃ released result, Responder.Utters (t.answer kind released result) r
      (r.concludeSingle t kind token verdict) := by
  cases verdict with
  | none =>
    have unanswered : t.answer kind false none = [] := by cases kind <;> rfl
    exact ⟨false, none, unanswered ▸ .of_eq rfl⟩
  | some result =>
    refine ⟨(t.release token r.registry).2, result, ?_⟩
    rw [Responder.concludeSingle, Responder.settleSingle_eq]
    exact ⟨_, rfl, t.uttered_answer kind _ result⟩

/-- On its way the driver of a response stream says nothing but items. -/
theorem Task.Drives.utters {x y : StreamPhase × Responder} (h : t.Drives x y) :
    ∃ items : List Payload, Responder.Utters
      (items.map fun p => .sent (.task t.number) (.next t.stream p)) x.2 y.2 := by
  induction h with
  | refl => exact ⟨[], .refl x.2⟩
  | tail _ step ih =>
    obtain ⟨items, said⟩ := ih
    cases step with
    | talk phase step => exact ⟨items, said.before step.utters⟩
    | pace phase r allowance => exact ⟨items, said.before (.of_eq rfl)⟩
    | pull r p => exact ⟨items, said.before (.tell [.pulled t.number (.ok p)] rfl)⟩
    | @next phase r p d d' held demand taken =>
      refine ⟨items ++ [p], ?_⟩
      rw [List.map_append]
      exact said.trans (.tell [.sent (.task t.number) (.next t.stream p)] rfl)
    | wait held whole kept => exact ⟨items, said.before (.of_eq rfl)⟩

theorem Task.Rests.utters {app : Application ω} {x : StreamPhase × Responder}
    (h : t.Rests app token channel x r') :
    ∃ (released : Bool) (outcome : StreamOutcome),
      Responder.Utters (if released then t.lastWords outcome else []) x.2 r' := by
  cases h with
  | waits phase r => exact ⟨false, .completed, .of_eq rfl⟩
  | @ends phase r events outcome w how panic _ =>
    have noted : Responder.Utters [] (r.notePanic panic)
        { r.notePanic panic with history := (r.notePanic panic).history ++ events } := by
      refine ⟨events, rfl, ?_⟩
      generalize r.isCancelled t.number = cancelled at how
      cases how <;> rfl
    obtain ⟨left, moves, eq⟩ := Responder.finishStream_left
      { r.notePanic panic with history := (r.notePanic panic).history ++ events } w app t token
      channel outcome
    have dropped := ((r.notePanic_utters panic).after noted).after (Responder.ChannelMoves.utters moves)
    refine ⟨(t.release (some token) left.registry).2, outcome, dropped.after ?_⟩
    rw [eq, Responder.settleStream_eq]
    exact ⟨_, rfl, t.uttered_lastWords _ outcome⟩

theorem Responder.turn_utters (r : Responder) (w : ω) (app : Application ω) (n budget : Nat) :
    Responder.Utters [] r (r.turn w app n budget).1 ∨
      ∃ t words, r.task? n = some t ∧ t.Says words ∧
        Responder.Utters words r (r.turn w app n budget).1 := by
  unfold Responder.turn
  split
  next => exact .inl (.refl r)
  next t found =>
    right
    split
    next kind token request work =>
      obtain ⟨panic, left, labours, _, eq⟩ := r.turnSingle_spec w app t kind token request
      obtain ⟨released, result, said⟩ := left.concludeSingle_utters t kind token
        (r.verdict? w app t kind request)
      rw [eq]
      exact ⟨t, _, found, .answer work released result, (Responder.Labours.utters labours).after said⟩
    next token channel phase work =>
      obtain ⟨y, drives, rests⟩ := r.turnStream_spec app t token channel budget phase w
      obtain ⟨items, sent⟩ := Task.Drives.utters drives
      obtain ⟨released, outcome, said⟩ := rests.utters
      exact ⟨t, _, found, .stream work items released outcome, sent.trans said⟩

end turns

/-- A failure that no operation is told of: that of the transport, and those of a teardown. -/
def Failure.isLocal : Failure → Bool
  | .transport _ | .cancellation .. => true
  | .handler .. | .protocol _ | .decode .. => false

theorem Entries.cancelAll_local {α σ : Type} (cancel : α → σ → σ × Option Panic) (es : Entries α)
    (w : σ) : ∀ e ∈ (es.cancelAll cancel w).2, e.isLocal = true := by
  induction es generalizing w with
  | nil => exact fun _ he => absurd he List.not_mem_nil
  | cons x es ih =>
    intro e he
    rw [Entries.cancelAll] at he
    dsimp only at he
    split at he
    · rcases List.mem_cons.mp he with rfl | later
      · rfl
      · exact ih _ e later
    · exact ih _ e he

theorem Responder.cancelStreams_utters (r : Responder) :
    ∃ failures : List Failure, (∀ e ∈ failures, e.isLocal = true) ∧
      Responder.Utters (failures.map .reported) r r.cancelStreams := by
  refine ⟨_, fun e he => ?_, Responder.Utters.after (.of_eq rfl) (Responder.reports_utters _ _)⟩
  rcases List.mem_append.mp he with operation | channel
  · exact Entries.cancelAll_local _ _ _ e operation
  · exact Entries.cancelAll_local _ _ _ e channel

theorem Responder.dispose_utters (r : Responder) (w : ω) (app : Application ω) :
    Responder.Utters [] r (r.dispose w app).1 := by
  cases going : r.disposed with
  | true =>
    rw [Responder.dispose, going, if_pos rfl]
    exact .refl r
  | false =>
    have noted : Responder.Utters [] r ({ r with disposed := true }.record .disposed) :=
      .tell [.disposed] rfl
    have talked := noted.after (Responder.ChannelMoves.utters ((app.dispose w).run_moves _))
    rw [r.dispose_eq w app going]
    refine talked.after ⟨_, rfl, List.filter_eq_nil_iff.mpr fun e he => ?_⟩
    obtain ⟨p, _, rfl⟩ := List.mem_map.mp he
    exact Bool.false_ne_true

/-- What the dispatcher and the tasks say in the course of an action. -/
inductive Responder.Says (settings : Settings) (r : Responder) : Action ω → List Event → Prop where
  /-- The connection fails or is torn down, unless there is nothing to say. -/
  | locally (a : Action ω) (failures : List Failure) (own : ∀ e ∈ failures, e.isLocal = true) :
    Says settings r a (failures.map .reported)
  | frame {f : Frame} {words : List Event} (elicits : r.Elicits settings f words) :
    Says settings r (.receive (.item (.ok f))) words
  | turn {n budget : Nat} {t : Task} {words : List Event} (found : r.task? n = some t)
    (speaks : t.Says words) : Says settings r (.turn n budget) words

theorem Responder.step_utters (settings : Settings) (app : Application ω) (a : Action ω)
    (s : Responder × ω) :
    ∃ words, Responder.Says settings s.1 a words ∧
      Responder.Utters words s.1 (Responder.step settings app a s).1 := by
  obtain ⟨r, w⟩ := s
  have begun : Responder.Utters [] r r.beginTurn := .of_eq rfl
  have silent {r' : Responder} (said : Responder.Utters [] r.beginTurn r') :
      ∃ words, Responder.Says settings r a words ∧ Responder.Utters words r r' :=
    ⟨_, .locally a [] (fun _ he => absurd he List.not_mem_nil), begun.after said⟩
  cases a with
  | receive x =>
    show ∃ words, _ ∧ Responder.Utters words r (r.beginTurn.receive w settings app x).1
    unfold Responder.receive
    split
    · exact silent (.refl _)
    · split
      · exact silent (.of_eq rfl)
      · split
        · exact silent (.refl _)
        · exact silent (.of_eq rfl)
        next e =>
          have reported : Responder.Utters [.reported (.transport e)] r.beginTurn
              { r.beginTurn.report (.transport e) with receiving := false } :=
            .tell [.reported (.transport e)] rfl
          exact ⟨_, .locally _ [.transport e] (by simp [Failure.isLocal]), begun.after reported⟩
        next f =>
          obtain ⟨words, elicits, said⟩ := r.dispatch_elicits w settings app f
          refine ⟨words, .frame elicits, ?_⟩
          dsimp only
          split
          · exact said
          · exact said.before (.of_eq rfl)
  | turn n budget =>
    obtain said | ⟨t, words, found, speaks, said⟩ := r.beginTurn.turn_utters w app n budget
    · exact silent said
    · exact ⟨words, .turn found speaks, begun.after said⟩
  | transportStopped result =>
    show ∃ words, _ ∧ Responder.Utters words r (r.beginTurn.transportStopped result)
    unfold Responder.transportStopped
    cases result with
    | ok _ =>
      obtain ⟨failures, own, said⟩ := r.beginTurn.cancelStreams_utters
      exact ⟨_, .locally _ failures own, begun.after said⟩
    | error e =>
      obtain ⟨failures, own, said⟩ := (r.beginTurn.report (.transport e)).cancelStreams_utters
      have reported : Responder.Utters [.reported (.transport e)] r.beginTurn
          (r.beginTurn.report (.transport e)) := .tell [.reported (.transport e)] rfl
      refine ⟨_, .locally _ (.transport e :: failures) ?_, begun.after (reported.trans said)⟩
      exact List.forall_mem_cons.mpr ⟨rfl, own⟩
  | cleanup =>
    obtain ⟨failures, own, said⟩ := r.beginTurn.cancelStreams_utters
    have disposed := said.before (r.beginTurn.cancelStreams.dispose_utters w app)
    exact ⟨_, .locally _ failures own, begun.after (disposed.before (.of_eq rfl))⟩
  | read n => exact silent (Responder.ChannelMove.utters (.read _ n))
  | request n demand => exact silent (Responder.ChannelMove.utters (.request _ n demand))
  | drop n => exact silent (Responder.ChannelMove.utters (.drop _ n))
  | signal n x => exact silent (.of_eq (r.beginTurn.signal_history n x))
  | cancelChannel n => exact silent (.of_eq rfl)
  | register stream control => exact silent (.of_eq rfl)
  | world change => exact silent (.refl _)

end Multiplexer
