import Multiplexer.Proofs.Passing
import Multiplexer.Proofs.RegistrySteps

/-!
Deliveries: which frames tell a channel something, and what they tell it. A frame reaches the channel that is
registered under its stream, and one that ends the peer's half is the last to do so.
-/

namespace Multiplexer

variable {ω : Type} {m : Nat} {r r' : Responder} {told : List Signal}

/-- The payload of a frame as a signal, if it can be read. -/
def Frame.payloadSignal (settings : Settings) (f : Frame) : List Signal :=
  match settings.reader f with
  | .ok p => [.next p]
  | .error _ => []

/-- What a frame tells the channel that is registered under its stream. -/
def Frame.signals (settings : Settings) (f : Frame) : List Signal :=
  match f.kind with
  | .next => f.payloadSignal settings
  | .nextComplete => f.payloadSignal settings ++ [.complete]
  | .complete => [.complete]
  | .error => [.error (.remote f.errorCode f.message)]
  | _ => []

/-- What a request tells the channel that it opens. -/
def Frame.firstSignals (settings : Settings) (f : Frame) : List Signal :=
  f.payloadSignal settings ++ if f.isComplete then [.complete] else []

/-- What an action tells channel `m`: that of a frame which is dispatched while the channel is
registered under its stream. -/
def Responder.heardOf (settings : Settings) (m : Nat) (s : Responder × ω) : Action ω → List Signal
  | .receive (.item (.ok f)) =>
    if s.1.Listens ∧ s.1.registry.inbound? f.stream = some m then f.signals settings else []
  | _ => []

/-- What the actions of a run tell channel `m`, in order. -/
def Responder.heard (settings : Settings) (app : Application ω) (m : Nat) :
    List (Action ω) → Responder × ω → List Signal
  | [], _ => []
  | a :: as, s =>
    Responder.heardOf settings m s a ++ Responder.heard settings app m as (Responder.step settings app a s)

theorem Frame.payloadSignal_going (settings : Settings) (f : Frame) :
    ∀ s ∈ f.payloadSignal settings, s.isLast = false := by
  unfold Frame.payloadSignal
  split <;> simp [Signal.isLast]

/-- Only the last signal of a frame may end the channel. -/
theorem Frame.signals_single (settings : Settings) (f : Frame) :
    ∀ s ∈ (f.signals settings).dropLast, s.isLast = false := by
  have going := f.payloadSignal_going settings
  unfold Frame.signals
  split
  · exact fun s there => going s (List.dropLast_subset _ there)
  · rw [List.dropLast_concat]
    exact going
  all_goals simp

theorem Frame.signals_of_not_delivers (settings : Settings) {f : Frame}
    (other : f.kind.delivers = false) : f.signals settings = [] := by
  unfold Frame.signals
  split
  case h_5 => rfl
  all_goals
    next kind =>
      rw [kind] at other
      cases other

/-- Channel `m` has an entry. -/
def Responder.Registered (m : Nat) (r : Responder) : Prop := ∃ e ∈ r.registry.inbound, e.handle = m

theorem Responder.registered_of_found {stream : StreamId}
    (found : r.registry.inbound? stream = some m) : Responder.Registered m r := by
  obtain ⟨e, there, handle⟩ := Option.map_eq_some_iff.mp found
  exact ⟨e, (Entries.mem_of_find? there).1, handle⟩

theorem Responder.Registered.lt (h : Responder.Registered m r) (paired : r.Paired) :
    m < r.channels.length := by
  obtain ⟨e, he, rfl⟩ := h
  obtain ⟨c, hc, _⟩ := paired.channels e he
  exact (List.getElem?_eq_some_iff.mp hc).1

theorem Responder.Registered.live (h : Responder.Registered m r) (paired : r.Paired) {c : Channel}
    (hc : r.channels[m]? = some c) : c.terminated = false := by
  obtain ⟨e, he, rfl⟩ := h
  obtain ⟨d, hd, _, live⟩ := paired.channels e he
  cases hd.symm.trans hc
  exact live

theorem Responder.Paired.stream_of_found (h : r.Paired) {stream : StreamId}
    (found : r.registry.inbound? stream = some m) {e : Entry Nat} (he : e ∈ r.registry.inbound)
    (handle : e.handle = m) : e.stream = stream := by
  obtain ⟨d, there, handle'⟩ := Option.map_eq_some_iff.mp found
  obtain ⟨hd, on⟩ := Entries.mem_of_find? there
  obtain ⟨c, hc, origin, _⟩ := h.channels d hd
  obtain ⟨c', hc', origin', _⟩ := h.channels e he
  rw [handle', ← handle, hc'] at hc
  cases hc
  exact ((Prod.mk.inj (origin'.symm.trans origin)).1).trans on

theorem Registry.Steps.inbound {g g' : Registry Nat Nat} (h : g.Steps g') :
    g.issued ≤ g'.issued ∧ ∀ e ∈ g'.inbound, e ∈ g.inbound ∨ g.issued ≤ e.token := by
  have less {g g' : Registry Nat Nat} (issued : g.issued ≤ g'.issued) (sub : g'.inbound ⊆ g.inbound) :
      g.issued ≤ g'.issued ∧ ∀ e ∈ g'.inbound, e ∈ g.inbound ∨ g.issued ≤ e.token :=
    ⟨issued, fun e he => .inl (sub he)⟩
  have step {g g' : Registry Nat Nat} (h : g.Step g') :
      g.issued ≤ g'.issued ∧ ∀ e ∈ g'.inbound, e ∈ g.inbound ∨ g.issued ≤ e.token := by
    cases h with
    | registerOutbound stream handle =>
      simp only [Registry.registerOutbound]
      split <;> exact less (Nat.le_succ _) (List.Subset.refl _)
    | registerInbound stream handle =>
      simp only [Registry.registerInbound]
      split
      · exact less (Nat.le_succ _) (List.Subset.refl _)
      · refine ⟨Nat.le_succ _, fun e he => ?_⟩
        rcases List.mem_append.mp he with old | new
        · exact .inl old
        · obtain rfl := List.mem_singleton.mp new
          exact .inr (Nat.le_refl _)
    | refuse => exact less (Nat.le_succ _) (List.Subset.refl _)
    | removeOutbound stream =>
      unfold Registry.removeOutbound
      split <;> exact less (Nat.le_refl _) (List.Subset.refl _)
    | removeInbound stream =>
      unfold Registry.removeInbound
      split
      · exact less (Nat.le_refl _) List.filter_sublist.subset
      · exact less (Nat.le_refl _) (List.Subset.refl _)
    | releaseOutbound stream token =>
      unfold Registry.releaseOutbound
      split <;> exact less (Nat.le_refl _) (List.Subset.refl _)
    | releaseInbound stream token =>
      exact less (Nat.le_of_eq (by simp)) (Registry.releaseInbound_sublist g stream token).subset
    | clear => exact less (Nat.le_refl _) (List.nil_subset _)
  induction h with
  | refl => exact less (Nat.le_refl _) (List.Subset.refl _)
  | tail _ last ih =>
    obtain ⟨issued, new⟩ := step last
    refine ⟨Nat.le_trans ih.1 issued, fun e he => ?_⟩
    rcases new e he with old | newer
    · exact ih.2 e old
    · exact .inr (Nat.le_trans ih.1 newer)

/-- A channel that has no entry never has one again. -/
theorem Responder.Moves.registered {allowed : Label → Prop} (moves : r.Moves allowed r')
    (paired : r.Paired) (known : m < r.channels.length) (there : Responder.Registered m r') :
    Responder.Registered m r := by
  obtain ⟨e, he, handle⟩ := there
  obtain ⟨c', hc', origin', _⟩ := (Responder.Moves.paired moves paired).channels e he
  have hc : r.channels[m]? = some r.channels[m] := List.getElem?_eq_getElem known
  obtain ⟨d, hd, course⟩ := moves.hosts.old m _ hc
  rw [handle] at hc'
  cases hc'.symm.trans hd
  have token : e.token = (r.channels[m]).token :=
    (congrArg Prod.snd origin').symm.trans course.origin.2
  rcases (Responder.Moves.registry moves).inbound.2 e he with old | newer
  · exact ⟨e, old, handle⟩
  · have issued := paired.issued _ (List.mem_of_getElem? hc)
    omega

/-- Channel `m` is there, has been told these signals, and has yielded accordingly. -/
def Responder.Followed (m : Nat) (told : List Signal) (r : Responder) : Prop :=
  ∃ c, r.channels[m]? = some c ∧ c.Follows told (yieldedBy m r.history)

theorem Responder.Followed.spare {events : List Event} (h : Responder.Followed m told r)
    (same : r'.channels[m]? = r.channels[m]?) (history : r'.history = r.history ++ events)
    (other : ∀ e ∈ events, e.channel? ≠ some m) : Responder.Followed m told r' := by
  obtain ⟨c, hc, follows⟩ := h
  refine ⟨c, same.trans hc, ?_⟩
  rw [history, yieldedBy_append, yieldedBy_eq_nil other, List.append_nil]
  exact follows

theorem Responder.ChannelMove.followed (move : r.ChannelMove r') (h : Responder.Followed m told r) :
    Responder.Followed m told r' := by
  obtain ⟨c, hc, follows⟩ := h
  obtain rfl | ⟨n, d, step, xs, held, used, applies⟩ := move.touch.uses
  · exact ⟨c, hc, follows⟩
  · obtain ⟨there, _, registry, allowance, _, _, rest⟩ := applies.changes
    have channels : r'.channels = r.channels.set n step.channel := by rw [rest]
    have history : r'.history = r.history ++ step.events n xs := by rw [rest]
    by_cases own : n = m
    · subst own
      cases there.symm.trans hc
      have live : c.holder ≠ .nobody := by simpa using (Option.filter_eq_some_iff.mp held).2
      have bound := (List.getElem?_eq_some_iff.mp there).1
      refine ⟨step.channel, by rw [channels, List.getElem?_set_self bound], ?_⟩
      rw [history, yieldedBy_append, ChannelStep.yieldedBy_events]
      exact follows.use live used
    · refine Responder.Followed.spare ⟨c, hc, follows⟩ ?_ history ?_
      · rw [channels, List.getElem?_set_ne own]
      · intro e he
        rw [(ChannelStep.channel_events he).1]
        exact fun eq => own (Option.some.inj eq)

theorem Responder.cancelChannel_followed (n : Nat) (h : Responder.Followed m told r) :
    Responder.Followed m told (r.cancelChannel n) := by
  unfold Responder.cancelChannel cancelChannelAt
  split
  next d there =>
    obtain ⟨c, hc, follows⟩ := h
    by_cases own : n = m
    · subst own
      cases hc.symm.trans there
      have bound := (List.getElem?_eq_some_iff.mp there).1
      exact ⟨d.cancel, List.getElem?_set_self bound, follows.cancel⟩
    · exact ⟨c, (List.getElem?_set_ne own).trans hc, follows⟩
  next => exact h

theorem Responder.Passes.followed (passes : Responder.Passes m r r')
    (h : Responder.Followed m told r) : Responder.Followed m told r' := by
  induction passes with
  | refl => exact h
  | tail _ step ih =>
    cases step with
    | talk move => exact move.followed ih
    | cancel n => exact Responder.cancelChannel_followed n ih
    | spare same history other => exact ih.spare same history other

/-- Queues signals for a channel, one after the other. -/
def Responder.signals (r : Responder) (n : Nat) (ss : List Signal) : Responder :=
  ss.foldl (fun r s => r.signal n s) r

theorem Responder.signal_history (r : Responder) (n : Nat) (x : Signal) :
    (r.signal n x).history = r.history := by
  unfold Responder.signal
  split <;> rfl

theorem Responder.signals_history (r : Responder) (n : Nat) (ss : List Signal) :
    (r.signals n ss).history = r.history := by
  induction ss generalizing r with
  | nil => rfl
  | cons x ss ih => exact (ih (r.signal n x)).trans (r.signal_history n x)

theorem Responder.signals_registry (r : Responder) (n : Nat) (ss : List Signal) :
    (r.signals n ss).registry = r.registry := by
  induction ss generalizing r with
  | nil => rfl
  | cons s ss ih =>
    refine (ih (r.signal n s)).trans ?_
    unfold Responder.signal
    split <;> rfl

/-- A channel that has not terminated may be told what goes on from what it has been told. -/
theorem Responder.Followed.signals (h : Responder.Followed m told r)
    (live : ∀ c, r.channels[m]? = some c → c.terminated = false) {ss : List Signal}
    (single : ∀ s ∈ (told ++ ss).dropLast, s.isLast = false) :
    Responder.Followed m (told ++ ss) (r.signals m ss) := by
  induction ss generalizing r told with
  | nil =>
    rw [List.append_nil]
    exact h
  | cons s ss ih =>
    obtain ⟨c, hc, follows⟩ := h
    have bound := (List.getElem?_eq_some_iff.mp hc).1
    have going : ∀ x ∈ told, x.isLast = false := by
      intro x there
      refine single x ?_
      rw [List.dropLast_append_cons]
      exact List.mem_append_left _ there
    have signalled : r.signal m s = { r with channels := r.channels.set m (c.push s) } := by
      simp only [Responder.signal, hc]
    have here : (r.signal m s).channels[m]? = some (c.push s) := by
      rw [signalled]
      exact List.getElem?_set_self bound
    have history : (r.signal m s).history = r.history := by rw [signalled]
    have next : Responder.Followed m (told ++ [s]) (r.signal m s) := by
      refine ⟨c.push s, here, ?_⟩
      rw [history]
      exact follows.push (live c hc) going s
    have split : told ++ s :: ss = (told ++ [s]) ++ ss := by simp
    rw [split] at single ⊢
    refine ih next (fun d hd => ?_) single
    cases here.symm.trans hd
    exact (c.push_flags s).1.trans (live c hc)

/-- A frame for a channel that is registered tells it its signals, and takes out the entry unless it is
a NEXT. -/
theorem Responder.dispatch_delivers (r : Responder) (w : ω) (settings : Settings)
    (app : Application ω) (f : Frame) (delivers : f.kind.delivers = true)
    (found : r.registry.inbound? f.stream = some m) :
    (r.dispatch w settings app f).panic = none ∧ ∃ (r1 : Responder) (events : List Event),
      (r.dispatch w settings app f).responder = r1.signals m (f.signals settings) ∧
      r1.channels = r.channels ∧ r1.history = r.history ++ events ∧
      (∀ e ∈ events, e.channel? ≠ some m) ∧
      r1.registry =
        if f.kind = .next then r.registry else (r.registry.removeInbound f.stream).1 := by
  have removed : r.registry.removeInbound f.stream =
      ((r.registry.removeInbound f.stream).1, some m) := by simp [Registry.removeInbound, found]
  have quiet : ∀ e ∈ ([] : List Event), e.channel? ≠ some m := fun _ he => absurd he List.not_mem_nil
  have noted (e : Failure) : ∀ x ∈ [Event.reported e], x.channel? ≠ some m := by
    simp [Event.channel?]
  unfold FrameKind.delivers at delivers
  split at delivers
  next kind =>
    rw [if_pos kind]
    simp only [Responder.dispatch, Responder.inboundNext, Responder.deliver, Frame.signals,
      Frame.payloadSignal, kind, found]
    refine ⟨trivial, ?_⟩
    cases read : settings.reader f with
    | ok p => exact ⟨{ r with metrics := r.metrics.frameReceived }, [], rfl, rfl, by simp, quiet, rfl⟩
    | error e => exact ⟨_, _, rfl, rfl, rfl, noted (.decode f.stream e), rfl⟩
  next kind =>
    rw [if_neg (by simp [kind])]
    simp only [Responder.dispatch, Responder.inboundNextComplete, Responder.deliver, Frame.signals,
      Frame.payloadSignal, kind]
    rw [removed]
    refine ⟨trivial, ?_⟩
    cases read : settings.reader f with
    | ok p =>
      exact ⟨{ r with
        metrics := r.metrics.frameReceived
        registry := (r.registry.removeInbound f.stream).1 }, [], rfl, rfl, by simp, quiet, rfl⟩
    | error e => exact ⟨_, _, rfl, rfl, rfl, noted (.decode f.stream e), rfl⟩
  next kind =>
    rw [if_neg (by simp [kind])]
    simp only [Responder.dispatch, Responder.inboundEnd, Frame.signals, kind]
    rw [removed]
    exact ⟨trivial, _, [], rfl, rfl, by simp, quiet, rfl⟩
  next kind =>
    rw [if_neg (by simp [kind])]
    simp only [Responder.dispatch, Responder.inboundEnd, Frame.signals, kind]
    rw [removed]
    exact ⟨trivial, _, [], rfl, rfl, by simp, quiet, rfl⟩
  next => cases delivers

/-- Channel `m` has been told these signals, and none of them is its last while it has an entry. -/
structure Responder.Feeds (m : Nat) (told : List Signal) (r : Responder) : Prop where
  followed : Responder.Followed m told r
  going : Responder.Registered m r → ∀ s ∈ told, s.isLast = false

theorem Responder.Feeds.known (h : Responder.Feeds m told r) : m < r.channels.length := by
  obtain ⟨c, hc, _⟩ := h.followed
  exact (List.getElem?_eq_some_iff.mp hc).1

theorem Responder.Feeds.receive {s : Responder × ω} (h : Responder.Feeds m told s.1)
    (paired : s.1.Paired) (settings : Settings) (app : Application ω) (f : Frame)
    (listens : s.1.Listens) (delivers : f.kind.delivers = true)
    (found : s.1.registry.inbound? f.stream = some m) :
    Responder.Feeds m (told ++ f.signals settings)
      (Responder.step settings app (.receive (.item (.ok f))) s).1 := by
  have registered := Responder.registered_of_found found
  have going := h.going registered
  obtain ⟨calm, r1, events, eq, channels, history, other, registry⟩ :=
    s.1.beginTurn.dispatch_delivers s.2 settings app f delivers found
  have step : (Responder.step settings app (.receive (.item (.ok f))) s).1 =
      r1.signals m (f.signals settings) := by
    rw [Responder.step_receive settings app f listens]
    dsimp only
    rw [if_pos calm, eq]
  rw [step]
  refine ⟨?_, ?_⟩
  · refine Responder.Followed.signals (h.followed.spare (by rw [channels]; rfl) history other) ?_ ?_
    · intro c hc
      rw [channels] at hc
      exact registered.live paired hc
    · intro x there
      by_cases nothing : f.signals settings = []
      · rw [nothing, List.append_nil] at there
        exact going x (List.dropLast_subset _ there)
      · rw [List.dropLast_append_of_ne_nil nothing] at there
        exact (List.mem_append.mp there).elim (going x) (f.signals_single settings x)
  · rintro ⟨e, he, handle⟩
    rw [Responder.signals_registry, registry] at he
    split at he
    next kind =>
      have fine : ∀ x ∈ f.signals settings, x.isLast = false := by
        simp only [Frame.signals, kind]
        exact f.payloadSignal_going settings
      exact fun x there => (List.mem_append.mp there).elim (going x) (fine x)
    next =>
      -- the entry of the channel has just been taken out
      have found' : s.1.beginTurn.registry.inbound? f.stream = some m := found
      simp only [Registry.removeInbound, found'] at he
      obtain ⟨he, elsewhere⟩ := Entries.mem_erase.mp he
      exact absurd (paired.stream_of_found found he handle) elsewhere

/-- Every action but a signal of the channel's own adds what it tells the channel. -/
theorem Responder.Feeds.step {s : Responder × ω} (h : Responder.Feeds m told s.1)
    (linked : s.1.Linked) (paired : s.1.Paired) (settings : Settings) (app : Application ω)
    (a : Action ω) (own : ∀ x, a ≠ .signal m x) :
    Responder.Feeds m (told ++ Responder.heardOf settings m s a) (Responder.step settings app a s).1 := by
  by_cases frame : ∃ f, a = .receive (.item (.ok f)) ∧ s.1.Listens ∧ f.kind.delivers = true ∧
      s.1.registry.inbound? f.stream = some m
  · obtain ⟨f, rfl, listens, delivers, found⟩ := frame
    have heard : Responder.heardOf settings m s (.receive (.item (.ok f)) : Action ω) =
        f.signals settings := if_pos ⟨listens, found⟩
    rw [heard]
    exact h.receive paired settings app f listens delivers found
  · have nothing : Responder.heardOf settings m s a = [] := by
      unfold Responder.heardOf
      split
      next f =>
        split
        next both =>
          refine f.signals_of_not_delivers settings ?_
          by_contra delivers
          exact frame ⟨f, rfl, both.1, by simpa using delivers, both.2⟩
        next => rfl
      next => rfl
    rw [nothing, List.append_nil]
    have passes : Responder.Passes m s.1 (Responder.step settings app a s).1 := by
      refine Responder.step_passes settings app a s (fun _ _ _ _ => h.known) own ?_
      exact fun f eq listens delivers found => frame ⟨f, eq, listens, delivers, found⟩
    refine ⟨passes.followed h.followed, fun there => h.going ?_⟩
    exact (linked.step_moves settings app a).registered paired h.known there

/-- In any run without signals of the channel's own the channel is told what the frames tell it. -/
theorem Responder.Feeds.run {s : Responder × ω} (h : Responder.Feeds m told s.1) (linked : s.1.Linked)
    (paired : s.1.Paired) (settings : Settings) (app : Application ω) (as : List (Action ω))
    (own : ∀ x, .signal m x ∉ as) :
    Responder.Feeds m (told ++ Responder.heard settings app m as s)
      (Responder.run settings app as s).1 := by
  induction as generalizing s told with
  | nil =>
    rw [Responder.heard, List.append_nil]
    exact h
  | cons a as ih =>
    have moves := linked.step_moves settings app a
    have first := h.step linked paired settings app a fun x eq => own x (eq ▸ List.mem_cons_self)
    have rest := ih first (moves.linked linked) (Responder.Moves.paired moves paired)
      fun x there => own x (List.mem_cons_of_mem _ there)
    rw [Responder.heard, ← List.append_assoc]
    exact rest

end Multiplexer
