import Multiplexer.Proofs.RegistryRuns
import Multiplexer.Proofs.Undisturbed

/-!
Changes that stay on one stream: of all other streams they touch neither an entry nor a channel, neither a
task nor the control of an operation, and what they say is said on the stream. Whatever application code
does with the channels of a stream is of this kind.
-/

namespace Multiplexer

variable {ω ρ : Type} {stream : StreamId} {others : Nat → Prop} {r r' r'' : Responder}

/-- A frame, or a report, that an event brings is one on the stream. -/
def Event.isOn (stream : StreamId) : Event → Prop
  | .sent _ f => f.stream = stream
  | .reported e => e.stream = some stream
  | .handlerPanicked _ | .disposed | .disposePanicked _ | .pulled .. | .ended _ | .yielded .. => True

theorem Event.silent_on (stream : StreamId) (history : List Event) :
    ∃ events, history = history ++ events ∧ ∀ e ∈ events, e.isOn stream :=
  ⟨[], (List.append_nil _).symm, fun _ there => absurd there List.not_mem_nil⟩

/-- Between two states nothing is touched that is on another stream, nor any control with one of the
numbers that belong to others, and nothing is said on another stream. -/
structure Responder.StaysOn (stream : StreamId) (others : Nat → Prop) (r r' : Responder) : Prop where
  outbound : ∀ other, other ≠ stream →
    r'.registry.outbound.find? other = r.registry.outbound.find? other
  inbound : ∀ other, other ≠ stream →
    r'.registry.inbound.find? other = r.registry.inbound.find? other
  channels : ∀ (m : Nat) (c : Channel), c.stream ≠ stream →
    (r'.channels[m]? = some c ↔ r.channels[m]? = some c)
  tasks : ∀ t : Task, t.stream ≠ stream → (t ∈ r'.tasks ↔ t ∈ r.tasks)
  controls : ∀ k : Nat, others k → r'.controls[k]? = r.controls[k]?
  shutdown : r'.shutdown = r.shutdown
  told : ∃ events, r'.history = r.history ++ events ∧ ∀ e ∈ events, e.isOn stream

/-- Channel `m` is none of another stream. -/
def Responder.MayUse (r : Responder) (stream : StreamId) (m : Nat) : Prop :=
  ∀ c, r.channels[m]? = some c → c.stream = stream

theorem Responder.StaysOn.tell {events : List Event} (registry : r'.registry = r.registry)
    (channels : r'.channels = r.channels) (tasks : r'.tasks = r.tasks)
    (controls : r'.controls = r.controls) (shutdown : r'.shutdown = r.shutdown)
    (history : r'.history = r.history ++ events) (on : ∀ e ∈ events, e.isOn stream) :
    Responder.StaysOn stream others r r' :=
  ⟨fun _ _ => by rw [registry], fun _ _ => by rw [registry], fun _ _ _ => by rw [channels],
    fun _ _ => by rw [tasks], fun _ _ => by rw [controls], shutdown, events, history, on⟩

theorem Responder.StaysOn.of_eq (registry : r'.registry = r.registry)
    (channels : r'.channels = r.channels) (tasks : r'.tasks = r.tasks)
    (controls : r'.controls = r.controls) (shutdown : r'.shutdown = r.shutdown)
    (history : r'.history = r.history) : Responder.StaysOn stream others r r' :=
  .tell registry channels tasks controls shutdown (history.trans (List.append_nil _).symm)
    fun _ there => absurd there List.not_mem_nil

theorem Responder.StaysOn.refl (r : Responder) : Responder.StaysOn stream others r r :=
  .of_eq rfl rfl rfl rfl rfl rfl

theorem Responder.StaysOn.trans (h : Responder.StaysOn stream others r r')
    (h' : Responder.StaysOn stream others r' r'') : Responder.StaysOn stream others r r'' := by
  obtain ⟨es, history, on⟩ := h.told
  obtain ⟨es', history', on'⟩ := h'.told
  refine
    { outbound := fun other hne => (h'.outbound other hne).trans (h.outbound other hne)
      inbound := fun other hne => (h'.inbound other hne).trans (h.inbound other hne)
      channels := fun m c hne => (h'.channels m c hne).trans (h.channels m c hne)
      tasks := fun t hne => (h'.tasks t hne).trans (h.tasks t hne)
      controls := fun k other => (h'.controls k other).trans (h.controls k other)
      shutdown := h'.shutdown.trans h.shutdown
      told := ⟨es ++ es', by rw [history', history, List.append_assoc], fun e there => ?_⟩ }
  exact (List.mem_append.mp there).elim (on e) (on' e)

/-- What is on no other stream before is on no other afterwards. -/
theorem Responder.StaysOn.mayUse (h : Responder.StaysOn stream others r r') {m : Nat}
    (may : r.MayUse stream m) : r'.MayUse stream m := by
  intro c there
  by_contra other
  exact other (may c ((h.channels m c other).mp there))

theorem Responder.StaysOn.own_tasks (h : Responder.StaysOn stream others r r') {n : Nat}
    (own : ∀ t ∈ r.tasks, t.number = n → t.stream = stream) :
    ∀ t ∈ r'.tasks, t.number = n → t.stream = stream := by
  intro t there number
  by_contra other
  exact other (own t ((h.tasks t other).mp there) number)

theorem Responder.record_staysOn (r : Responder) {e : Event} (on : e.isOn stream) :
    Responder.StaysOn stream others r (r.record e) :=
  .tell rfl rfl rfl rfl rfl rfl fun _ there => List.mem_singleton.mp there ▸ on

theorem Responder.send_staysOn (r : Responder) (speaker : Speaker) {f : Frame}
    (on : f.stream = stream) : Responder.StaysOn stream others r (r.send speaker f) :=
  r.record_staysOn on

theorem Responder.report_staysOn (r : Responder) {e : Failure} (on : e.stream = some stream) :
    Responder.StaysOn stream others r (r.report e) := by
  have told : ∀ x ∈ [Event.reported e], x.isOn stream := fun _ there => List.mem_singleton.mp there ▸ on
  exact .tell rfl rfl rfl rfl rfl rfl told

theorem Responder.notePanic_staysOn (r : Responder) (panic : Option String) :
    Responder.StaysOn stream others r (r.notePanic panic) := by
  cases panic with
  | none => exact .refl r
  | some message => exact r.record_staysOn trivial

/-- An operation on the outbound map stays on its stream, and so does one on the inbound map. -/
theorem Responder.performOutbound_staysOn (r : Responder) (op : Entries.Operation Nat)
    (on : op.stream = stream) :
    Responder.StaysOn stream others r { r with registry := (r.registry.performOutbound op).1 } := by
  obtain ⟨inbound, outbound⟩ := r.registry.performOutbound_apart op
  exact ⟨on ▸ outbound, fun other _ => by rw [inbound], fun _ _ _ => Iff.rfl, fun _ _ => Iff.rfl,
    fun _ _ => rfl, rfl, Event.silent_on stream _⟩

theorem Responder.performInbound_staysOn (r : Responder) (op : Entries.Operation Nat)
    (on : op.stream = stream) :
    Responder.StaysOn stream others r { r with registry := (r.registry.performInbound op).1 } := by
  obtain ⟨outbound, inbound⟩ := r.registry.performInbound_apart op
  exact ⟨fun other _ => by rw [outbound], on ▸ inbound, fun _ _ _ => Iff.rfl, fun _ _ => Iff.rfl,
    fun _ _ => rfl, rfl, Event.silent_on stream _⟩

/-- A channel of the stream is replaced by one of the stream. -/
theorem Responder.StaysOn.setChannel {n : Nat} {c c' : Channel} (r : Responder)
    (held : r.channels[n]? = some c) (on : c.stream = stream) (on' : c'.stream = stream) :
    Responder.StaysOn stream others r { r with channels := r.channels.set n c' } := by
  have bound : n < r.channels.length := (List.getElem?_eq_some_iff.mp held).1
  refine ⟨fun _ _ => rfl, fun _ _ => rfl, fun m d other => ?_, fun _ _ => Iff.rfl, fun _ _ => rfl, rfl,
    Event.silent_on stream _⟩
  show (r.channels.set n c')[m]? = some d ↔ r.channels[m]? = some d
  by_cases same : n = m
  · subst same
    rw [List.getElem?_set_self bound, held, Option.some_inj, Option.some_inj]
    exact iff_of_false (fun eq => other (eq ▸ on')) (fun eq => other (eq ▸ on))
  · rw [List.getElem?_set_ne same]

theorem Responder.StaysOn.addChannel {c : Channel} (r : Responder) (on : c.stream = stream) :
    Responder.StaysOn stream others r { r with channels := r.channels ++ [c] } := by
  refine ⟨fun _ _ => rfl, fun _ _ => rfl, fun m d other => ?_, fun _ _ => Iff.rfl, fun _ _ => rfl, rfl,
    Event.silent_on stream _⟩
  show (r.channels ++ [c])[m]? = some d ↔ r.channels[m]? = some d
  have new : ([c] : List Channel)[m - r.channels.length]? ≠ some d := by
    intro there
    have there := List.mem_singleton.mp (List.mem_of_getElem? there)
    exact other (there ▸ on)
  rcases Nat.lt_or_ge m r.channels.length with old | beyond
  · rw [List.getElem?_append_left old]
  · rw [List.getElem?_append_right beyond, List.getElem?_eq_none beyond]
    exact iff_of_false new nofun

theorem Responder.StaysOn.addTask {t : Task} (r : Responder) (on : t.stream = stream) :
    Responder.StaysOn stream others r { r with tasks := r.tasks ++ [t] } := by
  refine ⟨fun _ _ => rfl, fun _ _ => rfl, fun _ _ _ => Iff.rfl, fun u other => ?_, fun _ _ => rfl, rfl,
    Event.silent_on stream _⟩
  have new : u ≠ t := fun eq => other (eq ▸ on)
  rw [List.mem_append, List.mem_singleton, or_iff_left new]

theorem Responder.StaysOn.setControls {controls : Controls} (r : Responder)
    (same : ∀ k : Nat, others k → controls[k]? = r.controls[k]?) :
    Responder.StaysOn stream others r { r with controls } :=
  ⟨fun _ _ => rfl, fun _ _ => rfl, fun _ _ _ => Iff.rfl, fun _ _ => Iff.rfl, same, rfl,
    Event.silent_on stream _⟩

/-- What is done to an operation of the stream concerns no control of the others. -/
theorem Responder.StaysOn.act {n : Nat} (r : Responder) (own : ¬ others n)
    (action : Control → Control × Option Panic) :
    Responder.StaysOn stream others r { r with controls := (r.controls.act n action).1 } := by
  refine .setControls r fun k other => ?_
  have elsewhere : k ≠ n := fun eq => own (eq ▸ other)
  rw [Controls.getElem?_act, if_neg elsewhere]

theorem Responder.setWork_staysOn (r : Responder) {n : Nat}
    (own : ∀ t ∈ r.tasks, t.number = n → t.stream = stream) (work : Work) :
    Responder.StaysOn stream others r (r.setWork n work) := by
  refine ⟨fun _ _ => rfl, fun _ _ => rfl, fun _ _ _ => Iff.rfl, fun t other => ?_, fun _ _ => rfl, rfl,
    Event.silent_on stream _⟩
  by_cases number : t.number = n
  · refine iff_of_false (fun there => ?_) fun there => other (own t there number)
    obtain ⟨u, hu, eq⟩ := List.mem_map.mp there
    split at eq
    · exact other (eq ▸ own u hu ‹_›)
    · exact other (eq ▸ own u hu (eq ▸ number))
  · exact r.mem_tasks_setWork work number

theorem Responder.removeTask_staysOn (r : Responder) {n : Nat}
    (own : ∀ t ∈ r.tasks, t.number = n → t.stream = stream) :
    Responder.StaysOn stream others r (r.removeTask n) := by
  refine ⟨fun _ _ => rfl, fun _ _ => rfl, fun _ _ _ => Iff.rfl, fun t other => ?_, fun _ _ => rfl, rfl,
    Event.silent_on stream _⟩
  rw [r.mem_tasks_removeTask]
  exact and_iff_left_of_imp fun there number => other (own t there number)

theorem Responder.setDemand_staysOn (r : Responder) {n : Nat} (own : ¬ others n) (d : Demand) :
    Responder.StaysOn stream others r (r.setDemand n d) := by
  refine .setControls r fun k other => ?_
  have elsewhere : k ≠ n := fun eq => own (eq ▸ other)
  rw [Controls.getElem?_setDemand, if_neg elsewhere]

section channels

variable {n : Nat} {c : Channel} {step : ChannelStep} {xs : List Item}

theorem Channel.push_stream (c : Channel) (s : Signal) : (c.push s).stream = c.stream :=
  (c.push_kept s).1

theorem Responder.Applies.staysOn (h : Responder.Applies n c step xs r r')
    (on : c.stream = stream) : Responder.StaysOn stream others r r' := by
  obtain ⟨held, speaks, registry, allowance, _, _, rfl⟩ := h.changes
  have released : Responder.StaysOn stream others r { r with registry } := by
    rw [show registry = _ from h.registry]
    split
    · exact r.performInbound_staysOn (.release c.stream c.token) on
    · exact .refl r
  have on' : step.channel.stream = stream := speaks.stream.trans on
  have changed := released.trans (.setChannel { r with registry } held on on')
  refine changed.trans (.tell rfl rfl rfl rfl rfl rfl fun e there => ?_)
  rcases List.mem_append.mp there with sent | yielded
  · obtain ⟨f, hf, rfl⟩ := List.mem_map.mp sent
    exact (h.acts.frames f hf).on.trans on
  · obtain ⟨x, _, rfl⟩ := List.mem_map.mp yielded
    trivial

theorem Responder.pollChannel_staysOn (held : r.channels[n]? = some c) (on : c.stream = stream) :
    Responder.StaysOn stream others r (r.pollChannel n c).1 :=
  (Responder.pollChannel_applies held).staysOn on

theorem Channel.Use.applyStep_staysOn {asking : Prop} (use : c.Use asking step [])
    (held : r.channels[n]? = some c) (on : c.stream = stream) :
    Responder.StaysOn stream others r (r.applyStep n c step) :=
  (use.applies held).staysOn on

variable (may : r.MayUse stream n)

include may

theorem Responder.readChannel_staysOn : Responder.StaysOn stream others r (r.readChannel n).1 := by
  unfold Responder.readChannel
  split
  next c held =>
    have there := Responder.channel_of_held held
    split
    next spent =>
      have use : c.Use True c.requestFirst [] := .open_ ((Bool.and_eq_true _ _).mp spent).1
      have paced : Responder.StaysOn stream others r r.putOff := .of_eq rfl rfl rfl rfl rfl rfl
      exact paced.trans (use.applyStep_staysOn there (may c there))
    next => exact Responder.pollChannel_staysOn there (may c there)
  next => exact .refl r

theorem Responder.requestOnChannel_staysOn (demand : UInt32) :
    Responder.StaysOn stream others r (r.requestOnChannel n demand) := by
  unfold Responder.requestOnChannel
  split
  next c held =>
    have there := Responder.channel_of_held held
    have use : c.Use True (c.request demand) [] := .request trivial demand
    exact use.applyStep_staysOn there (may c there)
  next => exact .refl r

theorem Responder.dropChannel_staysOn : Responder.StaysOn stream others r (r.dropChannel n) := by
  unfold Responder.dropChannel
  split
  next c held =>
    have there := Responder.channel_of_held held
    have use : c.Use True c.drop [] := .drop
    exact use.applyStep_staysOn there (may c there)
  next => exact .refl r

theorem Responder.keepChannel_staysOn : Responder.StaysOn stream others r (r.keepChannel n) := by
  unfold Responder.keepChannel
  split
  next c held =>
    have there := Responder.channel_of_held held
    exact .setChannel r there (may c there) (may c there)
  next => exact .refl r

theorem Responder.signal_staysOn (s : Signal) : Responder.StaysOn stream others r (r.signal n s) := by
  unfold Responder.signal
  split
  next c held => exact .setChannel r held (may c held) ((c.push_stream s).trans (may c held))
  next => exact .refl r

theorem Responder.cancelChannel_staysOn : Responder.StaysOn stream others r (r.cancelChannel n) := by
  unfold Responder.cancelChannel cancelChannelAt
  split
  next c held =>
    have on : c.cancel.stream = stream :=
      (Channel.push_stream { c with cancelled := true } .cancel).trans (may c held)
    exact .setChannel r held (may c held) on
  next => exact .refl r

end channels

theorem Responder.dropOwnChannel_staysOn {channel : Option Nat}
    (may : ∀ m, channel = some m → r.MayUse stream m) :
    Responder.StaysOn stream others r (r.dropOwnChannel channel) := by
  unfold Responder.dropOwnChannel
  split
  next m =>
    split
    · exact Responder.dropChannel_staysOn (may m rfl)
    · exact .refl r
  next => exact .refl r

/-- Application code acts only on channels that it may use, and answers as it should. To look at a channel
is not to act on it. -/
def Dialogue.On (may : Nat → Prop) (Q : ρ → Prop) : Dialogue ρ → Prop
  | .answer x => Q x
  | .read n next => may n ∧ ∀ reply, (next reply).On may Q
  | .request n _ next => may n ∧ next.On may Q
  | .drop n next => may n ∧ next.On may Q
  | .keep n next => may n ∧ next.On may Q
  | .inspect _ next => ∀ reply, (next reply).On may Q

theorem Dialogue.On.mono {may may' : Nat → Prop} {Q : ρ → Prop} {d : Dialogue ρ} (h : d.On may Q)
    (allow : ∀ m, may m → may' m) : d.On may' Q := by
  induction d with
  | answer x => exact h
  | read n next ih => exact ⟨allow n h.1, fun reply => ih reply (h.2 reply)⟩
  | request n demand next ih => exact ⟨allow n h.1, ih h.2⟩
  | drop n next ih => exact ⟨allow n h.1, ih h.2⟩
  | keep n next ih => exact ⟨allow n h.1, ih h.2⟩
  | inspect n next ih => exact fun reply => ih reply (h reply)

theorem Responder.StaysOn.andThen {may : Nat → Prop} {Q : ρ → Prop} {d : Dialogue ρ}
    (first : Responder.StaysOn stream others r r') (on : ∀ m, may m → r.MayUse stream m)
    (rest : (∀ m, may m → r'.MayUse stream m) →
      Responder.StaysOn stream others r' (d.run r').1 ∧ Q (d.run r').2) :
    Responder.StaysOn stream others r (d.run r').1 ∧ Q (d.run r').2 := by
  obtain ⟨stays, fine⟩ := rest fun m allowed => first.mayUse (on m allowed)
  exact ⟨first.trans stays, fine⟩

/-- Code that acts only on channels of a stream stays on the stream. -/
theorem Dialogue.On.run {may : Nat → Prop} {Q : ρ → Prop} {d : Dialogue ρ} (h : d.On may Q)
    (on : ∀ m, may m → r.MayUse stream m) :
    Responder.StaysOn stream others r (d.run r).1 ∧ Q (d.run r).2 := by
  induction d generalizing r with
  | answer x => exact ⟨.refl r, h⟩
  | read n next ih =>
    exact (Responder.readChannel_staysOn (on n h.1)).andThen on (ih _ (h.2 _))
  | request n demand next ih =>
    exact (Responder.requestOnChannel_staysOn (on n h.1) demand).andThen on (ih h.2)
  | drop n next ih => exact (Responder.dropChannel_staysOn (on n h.1)).andThen on (ih h.2)
  | keep n next ih => exact (Responder.keepChannel_staysOn (on n h.1)).andThen on (ih h.2)
  | inspect n next ih => exact ih _ (h _) on

end Multiplexer
