import Multiplexer.Proofs.StepMoves

/-!
Courses of channels: what can happen to one channel from its opening on, whatever happens to all others.
-/

namespace Multiplexer

variable {ω : Type} {c c' : Channel} {r r' r'' : Responder} {n : Nat}

/-- Something happens to a channel. -/
inductive Channel.Change : Channel → Channel → Prop where
  | push (c : Channel) (s : Signal) : Change c (c.push s)
  | cancel (c : Channel) : Change c c.cancel
  | use {c : Channel} {step : ChannelStep} {xs : List Item} (held : c.holder ≠ .nobody)
    (used : c.Use True step xs) : Change c step.channel

abbrev Channel.Course : Channel → Channel → Prop := Relation.ReflTransGen Channel.Change

theorem Channel.push_flags (c : Channel) (s : Signal) :
    (c.push s).terminated = c.terminated ∧ (c.push s).cancelled = c.cancelled ∧
      (c.push s).holder = c.holder := by
  unfold Channel.push
  split <;> exact ⟨rfl, rfl, rfl⟩

theorem Channel.cancel_flags (c : Channel) :
    c.cancel.terminated = c.terminated ∧ c.cancel.cancelled = true ∧ c.cancel.holder = c.holder :=
  Channel.push_flags { c with cancelled := true } .cancel

theorem Channel.request_flags (c : Channel) (demand : UInt32) :
    (c.request demand).channel.terminated = c.terminated ∧
      (c.request demand).channel.cancelled = c.cancelled ∧
      (c.request demand).channel.holder = c.holder := by
  unfold Channel.request
  split <;> exact ⟨rfl, rfl, rfl⟩

theorem Channel.requestFirst_flags (c : Channel) :
    c.requestFirst.channel.terminated = c.terminated ∧
      c.requestFirst.channel.cancelled = c.cancelled ∧
      c.requestFirst.channel.holder = c.holder := by
  unfold Channel.requestFirst
  split
  · exact ⟨rfl, rfl, rfl⟩
  · exact c.request_flags c.initialDemand

theorem Channel.takeSignal_flags (c : Channel) :
    (c.terminated = true → c.takeSignal.1.channel.terminated = true) ∧
      c.takeSignal.1.channel.cancelled = c.cancelled ∧ c.takeSignal.1.channel.holder = c.holder := by
  unfold Channel.takeSignal
  split
  next => exact ⟨id, rfl, rfl⟩
  next => exact ⟨id, rfl, rfl⟩
  all_goals exact ⟨fun _ => rfl, rfl, rfl⟩

theorem Channel.poll_flags (c : Channel) :
    (c.terminated = true → c.poll.1.channel.terminated = true) ∧
      c.poll.1.channel.cancelled = c.cancelled ∧ c.poll.1.channel.holder = c.holder := by
  unfold Channel.poll
  split
  · exact ⟨id, rfl, rfl⟩
  next live =>
    split
    · exact ⟨fun _ => rfl, rfl, rfl⟩
    · obtain ⟨_, cancelled, holder⟩ := c.requestFirst_flags
      obtain ⟨_, cancelled', holder'⟩ := c.requestFirst.channel.takeSignal_flags
      exact ⟨fun ended => absurd ended live, cancelled'.trans cancelled, holder'.trans holder⟩

/-- A channel that has terminated or been cancelled stays so. -/
theorem Channel.Change.flags (change : c.Change c') :
    (c.terminated = true → c'.terminated = true) ∧ (c.cancelled = true → c'.cancelled = true) := by
  have same {c' : Channel} (terminated : c'.terminated = c.terminated)
      (cancelled : c'.cancelled = c.cancelled) :
      (c.terminated = true → c'.terminated = true) ∧ (c.cancelled = true → c'.cancelled = true) :=
    ⟨terminated.trans, cancelled.trans⟩
  cases change with
  | push s => exact same (c.push_flags s).1 (c.push_flags s).2.1
  | cancel => exact ⟨c.cancel_flags.1.trans, fun _ => c.cancel_flags.2.1⟩
  | use held used =>
    cases used with
    | poll => exact ⟨c.poll_flags.1, c.poll_flags.2.1.trans⟩
    | open_ live => exact same c.requestFirst_flags.1 c.requestFirst_flags.2.1
    | request may demand => exact same (c.request_flags demand).1 (c.request_flags demand).2.1
    | drop => exact ⟨fun _ => rfl, id⟩
    | keep => exact same rfl rfl

theorem Channel.Course.flags (course : c.Course c') :
    (c.terminated = true → c'.terminated = true) ∧ (c.cancelled = true → c'.cancelled = true) := by
  induction course with
  | refl => exact ⟨id, id⟩
  | tail _ change ih => exact ⟨change.flags.1 ∘ ih.1, change.flags.2 ∘ ih.2⟩

/-- A channel stays that of its stream and of its registration. -/
theorem Channel.Change.origin (change : c.Change c') :
    c'.stream = c.stream ∧ c'.token = c.token := by
  have pushed (c : Channel) (s : Signal) : (c.push s).stream = c.stream ∧ (c.push s).token = c.token := by
    unfold Channel.push
    split <;> exact ⟨rfl, rfl⟩
  cases change with
  | push s => exact pushed c s
  | cancel => exact pushed { c with cancelled := true } .cancel
  | use held used => exact ⟨used.speaks.stream, used.acts.token⟩

theorem Channel.Course.origin (course : c.Course c') :
    c'.stream = c.stream ∧ c'.token = c.token := by
  induction course with
  | refl => exact ⟨rfl, rfl⟩
  | tail _ change ih => exact ⟨change.origin.1.trans ih.1, change.origin.2.trans ih.2⟩

/-- Nobody lets go of a channel but by dropping it, which ends it. -/
theorem Channel.Change.dropped (change : c.Change c') (h : c.holder = .nobody → c.terminated = true) :
    c'.holder = .nobody → c'.terminated = true := by
  intro gone
  cases change with
  | push s =>
    obtain ⟨terminated, _, holder⟩ := c.push_flags s
    exact terminated.trans (h (holder.symm.trans gone))
  | cancel =>
    obtain ⟨terminated, _, holder⟩ := c.cancel_flags
    exact terminated.trans (h (holder.symm.trans gone))
  | use held used =>
    cases used with
    | poll => exact absurd (c.poll_flags.2.2.symm.trans gone) held
    | open_ live => exact absurd (c.requestFirst_flags.2.2.symm.trans gone) held
    | request may demand => exact absurd ((c.request_flags demand).2.2.symm.trans gone) held
    | drop => rfl
    | keep => cases gone

theorem Channel.Course.dropped (course : c.Course c') (h : c.holder = .nobody → c.terminated = true) :
    c'.holder = .nobody → c'.terminated = true := by
  induction course with
  | refl => exact h
  | tail _ change ih => exact change.dropped ih

/-- Between two states channels take their courses, and new ones begin theirs. -/
structure Responder.Hosts (r r' : Responder) : Prop where
  old : ∀ (m : Nat) (c : Channel), r.channels[m]? = some c →
    ∃ c', r'.channels[m]? = some c' ∧ c.Course c'
  new : ∀ (m : Nat) (c' : Channel), r.channels.length ≤ m → r'.channels[m]? = some c' →
    ∃ stream token demand, (Channel.new stream token demand).Course c'

theorem Responder.Hosts.of_eq (channels : r'.channels = r.channels) : r.Hosts r' := by
  refine ⟨fun m c hc => ⟨c, channels ▸ hc, .refl⟩, fun m c' unknown hc' => ?_⟩
  rw [channels] at hc'
  exact absurd (List.getElem?_eq_some_iff.mp hc').1 (Nat.not_lt.mpr unknown)

theorem Responder.Hosts.trans (h : r.Hosts r') (h' : r'.Hosts r'') : r.Hosts r'' := by
  refine ⟨fun m c hc => ?_, fun m c'' unknown hc'' => ?_⟩
  · obtain ⟨c', hc', course⟩ := h.old m c hc
    obtain ⟨c'', hc'', course'⟩ := h'.old m c' hc'
    exact ⟨c'', hc'', course.trans course'⟩
  · cases there : r'.channels[m]? with
    | none => exact h'.new m c'' (List.getElem?_eq_none_iff.mp there) hc''
    | some c' =>
      -- the channel has begun on the way
      obtain ⟨stream, token, demand, course⟩ := h.new m c' unknown there
      obtain ⟨d, hd, course'⟩ := h'.old m c' there
      cases hd.symm.trans hc''
      exact ⟨stream, token, demand, course.trans course'⟩

theorem Responder.Hosts.set (held : r.channels[n]? = some c) (change : c.Change c')
    (channels : r'.channels = r.channels.set n c') : r.Hosts r' := by
  have bound : n < r.channels.length := (List.getElem?_eq_some_iff.mp held).1
  refine ⟨fun m d hd => ?_, fun m d unknown hd => ?_⟩
  · rw [channels]
    by_cases same : n = m
    · subst same
      cases held.symm.trans hd
      exact ⟨c', List.getElem?_set_self bound, .single change⟩
    · exact ⟨d, (List.getElem?_set_ne same).trans hd, .refl⟩
  · have there := (List.getElem?_eq_some_iff.mp hd).1
    rw [channels, List.length_set] at there
    exact absurd there (Nat.not_lt.mpr unknown)

theorem Responder.Hosts.append {stream : StreamId} {token : Nat} {demand : UInt32}
    (course : (Channel.new stream token demand).Course c)
    (channels : r'.channels = r.channels ++ [c]) : r.Hosts r' := by
  refine ⟨fun m d hd => ?_, fun m d unknown hd => ?_⟩
  · rw [channels, List.getElem?_append_left (List.getElem?_eq_some_iff.mp hd).1]
    exact ⟨d, hd, .refl⟩
  · rw [channels, List.getElem?_append_right unknown] at hd
    obtain rfl := List.mem_singleton.mp (List.mem_of_getElem? hd)
    exact ⟨stream, token, demand, course⟩

theorem Responder.ChannelMove.hosts (move : r.ChannelMove r') : r.Hosts r' := by
  obtain rfl | ⟨n, c, step, xs, held, used, applies⟩ := move.touch.uses
  · exact .of_eq rfl
  · obtain ⟨there, _, registry, allowance, _, _, rest⟩ := applies.changes
    have live : c.holder ≠ .nobody := by
      simpa using (Option.filter_eq_some_iff.mp held).2
    exact .set there (.use live used) (by rw [rest])

theorem Responder.cancelChannel_hosts (r : Responder) (n : Nat) : r.Hosts (r.cancelChannel n) := by
  unfold Responder.cancelChannel cancelChannelAt
  split
  next c held => exact .set held (.cancel c) rfl
  next => exact .of_eq rfl

theorem Responder.signal_hosts (r : Responder) (n : Nat) (s : Signal) : r.Hosts (r.signal n s) := by
  unfold Responder.signal
  split
  next c held => exact .set held (.push c s) rfl
  next => exact .of_eq rfl

theorem Responder.openInbound_hosts {settings : Settings} {f : Frame} {p : Payload}
    (opened : r.openInbound settings f p = .ok r') : r.Hosts r' := by
  have first (stream : StreamId) (token : Nat) (demand : UInt32) (p : Payload) :
      (Channel.new stream token demand).Course
        ((Channel.new stream token demand).push (.next p)) := .single (.push _ _)
  unfold Responder.openInbound at opened
  split at opened
  · cases opened
  · split at opened
    · cases opened
      exact .append ((first _ _ _ _).tail (.push _ .complete)) rfl
    · cases opened
      exact .append (first _ _ _ _) rfl

/-- What holds of each thing that happens to a channel, of events elsewhere, and of one after the other. -/
structure Responder.Channelwise (R : Responder → Responder → Prop) : Prop where
  trans : ∀ {r r' r''}, R r r' → R r' r'' → R r r''
  use : ∀ {r r'}, r.ChannelMove r' → R r r'
  signal : ∀ r n s, R r (r.signal n s)
  cancel : ∀ r n, R r (r.cancelChannel n)
  opened : ∀ {r r' settings f p}, r.openInbound settings f p = .ok r' → R r r'
  tell : ∀ {r r' : Responder} {events : List Event}, r'.channels = r.channels →
    r'.history = r.history ++ events → (∀ e ∈ events, e.channel? = none) → R r r'

section channelwise

variable {R : Responder → Responder → Prop}

theorem Responder.Channelwise.still (h : Responder.Channelwise R) (channels : r'.channels = r.channels)
    (history : r'.history = r.history) : R r r' :=
  h.tell channels (history.trans (List.append_nil _).symm) fun _ he => absurd he List.not_mem_nil

theorem Responder.Channelwise.aside (h : Responder.Channelwise R) (move : r.AsideMove r') : R r r' := by
  cases move with
  | channel step => exact h.use step
  | signal n s => exact h.signal r n s
  | cancelChannel n => exact h.cancel r n
  | openInbound opened => exact h.opened opened
  | record e _ silent kept _ _ =>
    refine h.tell rfl rfl fun e' he => ?_
    obtain rfl := List.mem_singleton.mp he
    unfold Event.channel?
    split
    · exact absurd rfl (silent _ _)
    · exact absurd rfl (kept _ _)
    all_goals rfl
  | _ => exact h.still rfl rfl

theorem Responder.Channelwise.asides (h : Responder.Channelwise R) (moves : r.AsideMoves r') :
    R r r' := by
  induction moves with
  | refl => exact h.still rfl rfl
  | tail _ step ih => exact h.trans ih (h.aside step)

theorem Responder.Channelwise.work (h : Responder.Channelwise R) {t : Task} (move : t.Move r r') :
    R r r' := by
  have told {r r' : Responder} {events : List Event} (channels : r'.channels = r.channels)
      (history : r'.history = r.history ++ events) (told : ∀ e ∈ events, e.ToldBy t.number) :
      R r r' := h.tell channels history fun e he => (told e he).channel
  cases move with
  | waitSingle work => exact h.still rfl rfl
  | @finishSingle r1 kind token request work dropped result cancelled =>
    rw [Responder.settleSingle_eq]
    exact h.trans (h.asides dropped)
      (told rfl rfl fun _ => t.answer_told kind (t.release token r1.registry).2 result)
  | pull work p =>
    exact told rfl rfl fun _ he => List.mem_singleton.mp he ▸ Event.pulled_told t.number (.ok p)
  | @next _ _ _ p _ _ work held demand taken =>
    exact told rfl rfl fun _ he =>
      List.mem_singleton.mp he ▸ Event.sent_told t.number (.next t.stream p)
  | wait work held kept => exact h.still rfl rfl
  | @finishStream r1 token channel phase events outcome work ends dropped =>
    have noted : R r { r with history := r.history ++ events } := told rfl rfl fun _ => ends.told
    rw [Responder.settleStream_eq]
    exact h.trans (h.trans noted (h.asides dropped))
      (told rfl rfl fun _ => t.lastWords_told (t.release (some token) r1.registry).2 outcome)

theorem Responder.Channelwise.drained (h : Responder.Channelwise R) (r : Responder) : R r r.drained := by
  have cancelled (ns : List Nat) (r : Responder) : R r
      { r with channels := ns.foldl (fun cs n => cancelChannelAt n cs) r.channels } := by
    induction ns generalizing r with
    | nil => exact h.still rfl rfl
    | cons n ns ih => exact h.trans (h.cancel r n) (ih (r.cancelChannel n))
  exact h.trans (cancelled (r.registry.inbound.map Entry.handle) r) (h.still rfl rfl)

theorem Responder.Channelwise.move (h : Responder.Channelwise R) {l : Label}
    (move : Responder.Move l r r') : R r r' := by
  cases move with
  | aside step => exact h.aside step
  | @begin _ _ stream control work begins running plain uncancelled token _ =>
    obtain ⟨told, moves, rfl⟩ := begins.opened
    have registered : R r (r.register stream control).1 := h.still rfl rfl
    exact h.trans (h.trans registered (h.asides moves)) (h.still rfl rfl)
  | cancel found =>
    unfold Responder.cancelStream
    split <;> exact h.still rfl rfl
  | grant found demand =>
    unfold Responder.grantStream
    split <;> exact h.still rfl rfl
  | drain => exact h.drained r
  | dispose => exact h.tell rfl rfl (by simp [Event.channel?])
  | task there step => exact h.work step
  | _ => exact h.still rfl rfl

theorem Responder.Channelwise.moves (h : Responder.Channelwise R) {allowed : Label → Prop}
    (moves : r.Moves allowed r') : R r r' := by
  induction moves with
  | refl => exact h.still rfl rfl
  | tail _ step ih =>
    obtain ⟨l, _, move⟩ := step
    exact h.trans ih (h.move move)

end channelwise

theorem Responder.hosts_channelwise : Responder.Channelwise Responder.Hosts where
  trans := .trans
  use := Responder.ChannelMove.hosts
  signal := Responder.signal_hosts
  cancel := Responder.cancelChannel_hosts
  opened := Responder.openInbound_hosts
  tell channels _ _ := .of_eq channels

theorem Responder.AsideMove.hosts (move : r.AsideMove r') : r.Hosts r' :=
  Responder.hosts_channelwise.aside move

theorem Responder.AsideMoves.hosts (moves : r.AsideMoves r') : r.Hosts r' :=
  Responder.hosts_channelwise.asides moves

theorem Task.Move.hosts {t : Task} (move : t.Move r r') : r.Hosts r' :=
  Responder.hosts_channelwise.work move

theorem Responder.drained_hosts (r : Responder) : r.Hosts r.drained :=
  Responder.hosts_channelwise.drained r

theorem Responder.Move.hosts {l : Label} (move : Responder.Move l r r') : r.Hosts r' :=
  Responder.hosts_channelwise.move move

theorem Responder.Moves.hosts {allowed : Label → Prop} (moves : r.Moves allowed r') : r.Hosts r' :=
  Responder.hosts_channelwise.moves moves

/-- What holds of each use of a channel and of whatever happens elsewhere holds of any moves. -/
theorem Responder.Moves.tells {R : Responder → Responder → Prop} {allowed : Label → Prop}
    (trans : ∀ {r r' r''}, R r r' → R r' r'' → R r r'')
    (use : ∀ {r r'}, r.ChannelMove r' → R r r')
    (tell : ∀ {r r' : Responder} {events : List Event}, r.Hosts r' →
      r'.history = r.history ++ events → (∀ e ∈ events, e.channel? = none) → R r r')
    (moves : r.Moves allowed r') : R r r' := by
  have quiet {r r' : Responder} (hosts : r.Hosts r') (history : r'.history = r.history) : R r r' :=
    tell hosts (history.trans (List.append_nil _).symm) fun _ he => absurd he List.not_mem_nil
  refine Responder.Channelwise.moves ⟨trans, use, ?_, ?_, ?_, fun same => tell (.of_eq same)⟩ moves
  · intro r n s
    refine quiet (r.signal_hosts n s) ?_
    unfold Responder.signal
    split <;> rfl
  · exact fun r n => quiet (r.cancelChannel_hosts n) rfl
  · intro r r' settings f p opened
    refine quiet (Responder.openInbound_hosts opened) ?_
    unfold Responder.openInbound at opened
    split at opened
    · cases opened
    · split at opened <;> cases opened <;> rfl

/-- In any run nobody has let go of a channel that has not terminated. -/
theorem Responder.dropped_run (settings : Settings) (app : Application ω) (w : ω)
    (as : List (Action ω)) {c : Channel}
    (there : c ∈ (Responder.run settings app as (Responder.start, w)).1.channels) :
    c.holder = .nobody → c.terminated = true := by
  have moves := Responder.linked_start.run_moves settings app as (s := (Responder.start, w))
  obtain ⟨m, hc⟩ := List.mem_iff_getElem?.mp there
  obtain ⟨stream, token, demand, course⟩ := moves.hosts.new m c (Nat.zero_le m) hc
  exact course.dropped (by rintro ⟨⟩)

end Multiplexer
