import Mathlib.Data.List.Induction
import Multiplexer.Proofs.Deliveries
import Multiplexer.Proofs.InboundHalf

/-!
Where the errors come from that a channel answers: it has been told each of them, by an ERROR frame of the peer
or by whoever signals to it apart from any frame.
-/

namespace Multiplexer

variable {ω : Type} {m n : Nat} {c : Channel} {r r' r'' : Responder}
  {P Q : StreamId → HandlerError → Prop} {events events' : List Event}

/-- The errors that wait in a channel all are such errors. -/
def Channel.Queues (P : StreamId → HandlerError → Prop) (c : Channel) : Prop :=
  ∀ e, Signal.error e ∈ c.queue → P c.stream e

/-- The errors that wait in channel `m` all are such errors. -/
def Responder.Queues (P : StreamId → HandlerError → Prop) (m : Nat) (r : Responder) : Prop :=
  ∀ c, r.channels[m]? = some c → c.Queues P

/-- Each ERROR frame that channel `m` sends among these events answers such an error, which it yields. -/
def Event.Justify (P : StreamId → HandlerError → Prop) (m : Nat) (events : List Event) : Prop :=
  ∀ f, Event.sent (.channel m) f ∈ events → f.kind = .error →
    ∃ stream e, f = inboundAnswer stream e ∧ Event.yielded m (.error e) ∈ events ∧ P stream e

theorem Event.Justify.append (h : Event.Justify P m events) (h' : Event.Justify P m events') :
    Event.Justify P m (events ++ events') := by
  intro f sent kind
  rcases List.mem_append.mp sent with early | late
  · obtain ⟨stream, e, answer, yielded, source⟩ := h f early kind
    exact ⟨stream, e, answer, List.mem_append_left _ yielded, source⟩
  · obtain ⟨stream, e, answer, yielded, source⟩ := h' f late kind
    exact ⟨stream, e, answer, List.mem_append_right _ yielded, source⟩

theorem Event.Justify.of_silent (other : ∀ e ∈ events, e.channel? ≠ some m) :
    Event.Justify P m events :=
  fun f sent _ => absurd rfl (other (.sent (.channel m) f) sent)

/-- Where only such errors wait in channel `m`, it answers no other, and no other is told to it. -/
def Responder.Cites (P : StreamId → HandlerError → Prop) (m : Nat) (r r' : Responder) : Prop :=
  Responder.Queues P m r → Responder.Queues P m r' ∧
    ∃ events, r'.history = r.history ++ events ∧ Event.Justify P m events

theorem Responder.Cites.tell (queues : Responder.Queues P m r → Responder.Queues P m r')
    (history : r'.history = r.history ++ events) (other : ∀ e ∈ events, e.channel? ≠ some m) :
    Responder.Cites P m r r' :=
  fun h => ⟨queues h, events, history, .of_silent other⟩

theorem Responder.Cites.refl (P : StreamId → HandlerError → Prop) (m : Nat) (r : Responder) :
    Responder.Cites P m r r :=
  .tell id (List.append_nil _).symm fun _ he => absurd he List.not_mem_nil

theorem Responder.Cites.trans (h : Responder.Cites P m r r') (h' : Responder.Cites P m r' r'') :
    Responder.Cites P m r r'' := by
  intro start
  obtain ⟨middle, events, history, justified⟩ := h start
  obtain ⟨queues, events', history', justified'⟩ := h' middle
  exact ⟨queues, events ++ events', by rw [history', history, List.append_assoc],
    justified.append justified'⟩

theorem Channel.push_queue (c : Channel) (x : Signal) : ∀ y ∈ (c.push x).queue, y ∈ c.queue ∨ y = x := by
  unfold Channel.push
  split
  · exact fun y there => .inl there
  · exact fun y there => (List.mem_append.mp there).imp_right List.mem_singleton.mp

theorem Channel.Queues.push {x : Signal} (h : c.Queues P) (told : ∀ e, x = .error e → P c.stream e) :
    (c.push x).Queues P := by
  intro e there
  rw [(c.push_kept x).1]
  rcases c.push_queue x _ there with old | new
  · exact h e old
  · exact told e new.symm

theorem Channel.takeSignal_errors (c : Channel) (e : HandlerError) :
    (Signal.error e ∈ c.takeSignal.1.channel.queue → Signal.error e ∈ c.queue) ∧
      (.error e ∈ c.takeSignal.2.items → Signal.error e ∈ c.queue) := by
  unfold Channel.takeSignal
  split
  next empty => simp [Receipt.items]
  next p rest first => simp [Receipt.items, first]
  next d rest first => simp +contextual [Receipt.items, first, Channel.terminate]
  all_goals
    next rest first => simp [Receipt.items, first, Channel.terminate]

/-- A channel yields the errors that wait in it, and nobody who uses it tells it another. -/
theorem Channel.Use.errors {asking : Prop} {step : ChannelStep} {xs : List Item}
    (use : c.Use asking step xs) (e : HandlerError) :
    (Signal.error e ∈ step.channel.queue → Signal.error e ∈ c.queue) ∧
      (.error e ∈ xs → Signal.error e ∈ c.queue) := by
  have mute {queue : List Signal} (same : queue = c.queue) :
      (Signal.error e ∈ queue → Signal.error e ∈ c.queue) ∧
        (.error e ∈ ([] : List Item) → Signal.error e ∈ c.queue) :=
    ⟨fun there => same ▸ there, nofun⟩
  cases use with
  | poll =>
    unfold Channel.poll
    split
    · exact mute rfl
    · split
      · exact mute rfl
      · have taken := c.requestFirst.channel.takeSignal_errors e
        rw [c.requestFirst_queue] at taken
        exact taken
  | open_ live => exact mute c.requestFirst_queue
  | request may demand => exact mute (c.request_queue demand)
  | drop => exact ⟨nofun, nofun⟩
  | keep => exact mute rfl

theorem Channel.Use.justify {asking : Prop} {step : ChannelStep} {xs : List Item}
    (use : c.Use asking step xs) (h : c.Queues P) :
    step.channel.Queues P ∧ Event.Justify P m (step.events m xs) := by
  refine ⟨fun e there => ?_, fun f sent kind => ?_⟩
  · rw [use.speaks.stream]
    exact h e ((use.errors e).1 there)
  · rcases List.mem_append.mp sent with sent | yielded
    · obtain ⟨g, there, eq⟩ := List.mem_map.mp sent
      cases eq
      have answer : f ∈ step.frames.filter (fun f => f.kind = .error) :=
        List.mem_filter.mpr ⟨there, decide_eq_true kind⟩
      rw [use.speaks.answered] at answer
      obtain ⟨e, yields, same⟩ := List.mem_map.mp answer
      have item := mem_errorsOf.mp yields
      have told : Event.yielded m (.error e) ∈ xs.map (Event.yielded m) := List.mem_map_of_mem item
      exact ⟨c.stream, e, same.symm, List.mem_append_right _ told, h e ((use.errors e).2 item)⟩
    · obtain ⟨x, _, eq⟩ := List.mem_map.mp yielded
      cases eq

theorem Responder.ChannelMove.cites (move : r.ChannelMove r') : Responder.Cites P m r r' := by
  obtain rfl | ⟨n, c, step, xs, held, used, applies⟩ := move.touch.uses
  · exact .refl P m r'
  · obtain ⟨there, _, registry, allowance, _, _, rfl⟩ := applies.changes
    by_cases own : n = m
    · subst own
      have bound := (List.getElem?_eq_some_iff.mp there).1
      intro h
      obtain ⟨queues, justified⟩ := used.justify (m := n) (h c there)
      refine ⟨fun d hd => ?_, _, rfl, justified⟩
      cases (List.getElem?_set_self bound).symm.trans hd
      exact queues
    · refine .tell (fun h d hd => h d ((List.getElem?_set_ne own).symm.trans hd)) rfl fun e he => ?_
      rw [(ChannelStep.channel_events he).1]
      exact fun eq => own (Option.some.inj eq)

theorem Responder.Queues.set (h : Responder.Queues P m r) (there : r.channels[n]? = some c)
    {c' : Channel} (queues : c.Queues P → c'.Queues P) :
    Responder.Queues P m { r with channels := r.channels.set n c' } := by
  intro d hd
  by_cases own : n = m
  · subst own
    cases (List.getElem?_set_self (List.getElem?_eq_some_iff.mp there).1).symm.trans hd
    exact queues (h c there)
  · exact h d ((List.getElem?_set_ne own).symm.trans hd)

theorem Responder.cancelChannel_cites (r : Responder) (n : Nat) :
    Responder.Cites P m r (r.cancelChannel n) := by
  refine .tell ?_ (List.append_nil _).symm fun _ he => absurd he List.not_mem_nil
  unfold Responder.cancelChannel cancelChannelAt
  split
  next c there =>
    exact fun h => h.set there fun queues =>
      Channel.Queues.push (c := { c with cancelled := true }) queues nofun
  next => exact id

theorem Responder.Passes.cites (passes : Responder.Passes m r r') : Responder.Cites P m r r' := by
  induction passes with
  | refl => exact .refl P m r
  | tail _ step ih =>
    refine ih.trans ?_
    cases step with
    | talk move => exact move.cites
    | cancel n => exact Responder.cancelChannel_cites _ n
    | spare same history other => exact .tell (fun h c hc => h c (same ▸ hc)) history other

/-- No error waits in a channel that has just been opened. -/
theorem Responder.openInbound_cites {settings : Settings} {f : Frame} {p : Payload}
    (opened : r.openInbound settings f p = .ok r') : Responder.Cites P m r r' := by
  have first (stream : StreamId) (token : Nat) (demand : UInt32) :
      ((Channel.new stream token demand).push (.next p)).Queues P :=
    Channel.Queues.push (fun _ there => absurd there List.not_mem_nil) nofun
  have append {c : Channel} (queues : c.Queues P) (h : Responder.Queues P m r) :
      ∀ d, (r.channels ++ [c])[m]? = some d → d.Queues P := by
    intro d hd
    rcases Nat.lt_or_ge m r.channels.length with old | new
    · exact h d ((List.getElem?_append_left old).symm.trans hd)
    · rw [List.getElem?_append_right new] at hd
      obtain rfl := List.mem_singleton.mp (List.mem_of_getElem? hd)
      exact queues
  have still {r' : Responder} (history : r'.history = r.history)
      (queues : Responder.Queues P m r → Responder.Queues P m r') : Responder.Cites P m r r' :=
    .tell queues (history.trans (List.append_nil _).symm) fun _ he => absurd he List.not_mem_nil
  unfold Responder.openInbound at opened
  split at opened
  · cases opened
  · split at opened
    · cases opened
      exact still rfl (append ((first _ _ _).push nofun))
    · cases opened
      exact still rfl (append (first _ _ _))

theorem Responder.requestChannel_cites (r : Responder) (w : ω) (settings : Settings)
    (app : Application ω) (f : Frame) :
    Responder.Cites P m r (r.requestChannel w settings app f).1 := by
  unfold Responder.requestChannel
  split
  · exact Responder.Passes.cites (r.violation_passes _)
  · split
    next unread => exact Responder.Passes.cites (Responder.readRequest_passes unread)
    next p _ =>
      split
      next refused => exact Responder.Passes.cites (Responder.openInbound_refused_passes refused)
      next opened open_ =>
        exact (Responder.openInbound_cites open_).trans
          (Responder.Passes.cites (opened.driveStream_passes w f.stream f.demand _ _))

theorem Responder.Queues.signals (h : Responder.Queues P m r) (ss : List Signal)
    (told : ∀ e, Signal.error e ∈ ss → ∀ c, r.channels[m]? = some c → P c.stream e) :
    Responder.Queues P m (r.signals m ss) := by
  induction ss generalizing r with
  | nil => exact h
  | cons x ss ih =>
    show Responder.Queues P m ((r.signal m x).signals m ss)
    cases there : r.channels[m]? with
    | none =>
      have ignored : r.signal m x = r := by simp only [Responder.signal, there]
      rw [ignored]
      exact ih h fun e he => told e (List.mem_cons_of_mem _ he)
    | some c =>
      have bound := (List.getElem?_eq_some_iff.mp there).1
      have queued : r.signal m x = { r with channels := r.channels.set m (c.push x) } := by
        simp only [Responder.signal, there]
      rw [queued]
      refine ih (h.set there fun queues => queues.push fun e eq => ?_) fun e he d hd => ?_
      · exact told e (eq ▸ List.mem_cons_self) c there
      · cases (List.getElem?_set_self bound).symm.trans hd
        rw [(c.push_kept x).1]
        exact told e (List.mem_cons_of_mem _ he) c there

theorem Frame.error_signals {settings : Settings} {f : Frame} {e : HandlerError}
    (told : Signal.error e ∈ f.signals settings) :
    f.kind = .error ∧ e = .remote f.errorCode f.message := by
  have unread : Signal.error e ∉ f.payloadSignal settings := by
    unfold Frame.payloadSignal
    split <;> simp
  unfold Frame.signals at told
  split at told
  · exact absurd told unread
  · simp [unread] at told
  · simp at told
  next kind => exact ⟨kind, by simpa using told⟩
  · exact absurd told List.not_mem_nil

theorem Responder.Paired.found_stream (h : r.Paired) {stream : StreamId}
    (found : r.registry.inbound? stream = some m) (there : r.channels[m]? = some c) :
    c.stream = stream := by
  obtain ⟨e, he, handle⟩ := Responder.registered_of_found found
  obtain ⟨d, hd, origin, _⟩ := h.channels e he
  rw [handle, there] at hd
  cases hd
  exact (congrArg Prod.fst origin).trans (h.stream_of_found found he handle)

/-- The error has been told to channel `m` in the course of these actions. -/
inductive Responder.ToldOf (settings : Settings) (app : Application ω) (w : ω) (as : List (Action ω))
    (m : Nat) : StreamId → HandlerError → Prop where
  /-- An ERROR frame of the peer has been dispatched while the channel was registered under its stream. -/
  | peer {before after : List (Action ω)} {f : Frame}
    (dispatched : as = before ++ .receive (.item (.ok f)) :: after) (kind : f.kind = .error)
    (listens : (Responder.run settings app before (Responder.start, w)).1.Listens)
    (found : (Responder.run settings app before (Responder.start, w)).1.registry.inbound? f.stream =
      some m) : ToldOf settings app w as m f.stream (.remote f.errorCode f.message)
  /-- It has reached the channel apart from any frame. -/
  | signal (stream : StreamId) {e : HandlerError} (there : .signal m (.error e) ∈ as) :
    ToldOf settings app w as m stream e

theorem Responder.ToldOf.concat {settings : Settings} {app : Application ω} {w : ω}
    {as : List (Action ω)} {stream : StreamId} {e : HandlerError}
    (told : Responder.ToldOf settings app w as m stream e) (a : Action ω) :
    Responder.ToldOf settings app w (as ++ [a]) m stream e := by
  cases told with
  | @peer before after f dispatched kind listens found =>
    have later : as ++ [a] = before ++ .receive (.item (.ok f)) :: (after ++ [a]) := by simp [dispatched]
    exact .peer later kind listens found
  | signal _ there => exact .signal stream (List.mem_append_left _ there)

/-- Actions that tell channel `m` nothing, whether they concern it or open it. -/
theorem Responder.step_cites (settings : Settings) (app : Application ω) (a : Action ω)
    (s : Responder × ω) (own : ∀ x, a ≠ .signal m x)
    (other : ∀ f, a = .receive (.item (.ok f)) → s.1.Listens → f.kind.delivers = true →
      s.1.registry.inbound? f.stream ≠ some m) :
    Responder.Cites P m s.1 (Responder.step settings app a s).1 := by
  by_cases request : ∃ f, a = .receive (.item (.ok f)) ∧ s.1.Listens ∧ f.kind = .requestChannel
  · obtain ⟨f, rfl, listens, kind⟩ := request
    have step : (Responder.step settings app (.receive (.item (.ok f))) s).1 =
        (s.1.ready.requestChannel s.2 settings app f).1 :=
      (Responder.step_receive settings app f listens).trans
        (by simp only [Responder.dispatch, kind]; rfl)
    have begun : Responder.Passes m s.1 s.1.ready := .of_eq rfl rfl
    rw [step]
    exact (Responder.Passes.cites begun).trans
      (s.1.ready.requestChannel_cites s.2 settings app f)
  · refine Responder.Passes.cites (Responder.step_passes settings app a s ?_ own other)
    exact fun f eq listens kind => absurd ⟨f, eq, listens, kind⟩ request

/-- A frame tells channel `m` no error but that of an ERROR frame. -/
theorem Responder.Queues.receive {s : Responder × ω} (h : Responder.Queues P m s.1)
    (paired : s.1.Paired) (settings : Settings) (app : Application ω) (f : Frame)
    (listens : s.1.Listens) (delivers : f.kind.delivers = true)
    (found : s.1.registry.inbound? f.stream = some m)
    (told : f.kind = .error → P f.stream (.remote f.errorCode f.message)) :
    let s' := Responder.step settings app (.receive (.item (.ok f))) s
    Responder.Queues P m s'.1 ∧ ∃ events, s'.1.history = s.1.history ++ events ∧
      ∀ e ∈ events, e.channel? ≠ some m := by
  intro s'
  obtain ⟨calm, r1, events, eq, channels, history, other, -⟩ :=
    s.1.beginTurn.dispatch_delivers s.2 settings app f delivers found
  have step : s'.1 = r1.signals m (f.signals settings) := by
    refine (Responder.step_receive settings app f listens).trans ?_
    dsimp only
    rw [if_pos calm, eq]
  rw [step]
  refine ⟨Responder.Queues.signals (fun c hc => h c (channels ▸ hc)) _ fun e signal c hc => ?_, events,
    (Responder.signals_history r1 m _).trans history, other⟩
  obtain ⟨kind, rfl⟩ := Frame.error_signals signal
  rw [paired.found_stream found ((congrArg (·[m]?) channels).symm.trans hc)]
  exact told kind

section runs

variable {settings : Settings} {app : Application ω} {w : ω} {before : List (Action ω)}

/-- A channel is told an error by what the last action says, if at all, and answers what it has been told
before. -/
theorem Responder.ToldOf.step (a : Action ω) :
    let s := Responder.run settings app before (Responder.start, w)
    let s' := Responder.step settings app a s
    Responder.Queues (Responder.ToldOf settings app w before m) m s.1 →
      Responder.Queues (Responder.ToldOf settings app w (before ++ [a]) m) m s'.1 ∧
      ∃ events, s'.1.history = s.1.history ++ events ∧
        Event.Justify (Responder.ToldOf settings app w before m) m events := by
  intro s s' queues
  have later (c : Channel) (h : c.Queues (Responder.ToldOf settings app w before m)) :
      c.Queues (Responder.ToldOf settings app w (before ++ [a]) m) :=
    fun e there => (h e there).concat a
  by_cases own : ∃ x, a = .signal m x
  · obtain ⟨x, rfl⟩ := own
    have begun : Responder.Queues (Responder.ToldOf settings app w (before ++ [.signal m x]) m) m
        s.1.beginTurn := fun c hc => later c (queues c hc)
    refine ⟨begun.signals [x] fun e told c _ => .signal c.stream ?_, [], ?_,
      .of_silent fun _ he => absurd he List.not_mem_nil⟩
    · rw [List.mem_singleton.mp told]
      exact List.mem_append_right _ List.mem_cons_self
    · exact (Responder.signals_history s.1.beginTurn m [x]).trans (List.append_nil _).symm
  by_cases frame : ∃ f, a = .receive (.item (.ok f)) ∧ s.1.Listens ∧ f.kind.delivers = true ∧
      s.1.registry.inbound? f.stream = some m
  · obtain ⟨f, rfl, listens, delivers, found⟩ := frame
    have paired : s.1.Paired :=
      Responder.Moves.paired (Responder.linked_start.run_moves settings app before)
        Responder.paired_start
    obtain ⟨queues, events, history, other⟩ := Responder.Queues.receive
      (fun c hc => later c (queues c hc)) paired settings app f listens delivers found
      fun kind => .peer rfl kind listens found
    exact ⟨queues, events, history, .of_silent other⟩
  · have cites : Responder.Cites (Responder.ToldOf settings app w before m) m s.1 s'.1 :=
      Responder.step_cites settings app a s (fun x eq => own ⟨x, eq⟩)
        fun f eq listens delivers found => frame ⟨f, eq, listens, delivers, found⟩
    exact (cites queues).imp_left fun queues c hc => later c (queues c hc)

theorem Responder.ToldOf.queues (m : Nat) (as : List (Action ω)) :
    Responder.Queues (Responder.ToldOf settings app w as m) m
      (Responder.run settings app as (Responder.start, w)).1 := by
  induction as using List.reverseRecOn with
  | nil => exact fun c hc => absurd hc (by simp [Responder.run, Responder.start])
  | append_singleton as a ih =>
    rw [Responder.run_append]
    exact (Responder.ToldOf.step a ih).1

variable (settings app w before) in
/-- In any run a channel answers only errors that it yields in the same step and has been told of before. -/
theorem Responder.ToldOf.answers (m : Nat) (a : Action ω) :
    let s := Responder.run settings app before (Responder.start, w)
    ∃ events, (Responder.step settings app a s).1.history = s.1.history ++ events ∧
      Event.Justify (Responder.ToldOf settings app w before m) m events :=
  (Responder.ToldOf.step a (Responder.ToldOf.queues m before)).2

end runs

end Multiplexer
