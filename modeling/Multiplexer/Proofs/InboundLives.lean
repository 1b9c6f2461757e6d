import Multiplexer.Proofs.ChannelEntries
import Multiplexer.Proofs.ChannelLives
import Multiplexer.Proofs.DuplicateRequests
import Multiplexer.Session.Steps

/-!
The channels of a responder: the life that each has had accounts for all that has been sent and yielded by
it, and from its end on it is neither registered nor told anything.
-/

namespace Multiplexer

variable {ω : Type} {r r' : Responder} {m n : Nat} {c : Channel}

/-- Channel `m` has gone through operations that account for what the history tells of it. -/
def Responder.Recounts (m : Nat) (r : Responder) : Prop :=
  match r.channels[m]? with
  | none => framesOf (.channel m) r.history = [] ∧ yieldedBy m r.history = []
  | some c => ∃ stream token demand ops,
    let x := (ChannelLife.begin stream token demand).after ops
    c = x.channel ∧ framesOf (.channel m) r.history = x.frames ∧ yieldedBy m r.history = x.items

theorem Responder.Recounts.of_eq (h : Responder.Recounts m r)
    (same : r'.channels[m]? = r.channels[m]?)
    (frames : framesOf (.channel m) r'.history = framesOf (.channel m) r.history)
    (items : yieldedBy m r'.history = yieldedBy m r.history) : Responder.Recounts m r' := by
  rw [Responder.Recounts, same, frames, items]
  exact h

theorem Responder.Recounts.tell {events : List Event} (h : Responder.Recounts m r)
    (same : r'.channels[m]? = r.channels[m]?) (history : r'.history = r.history ++ events)
    (other : ∀ e ∈ events, e.channel? ≠ some m) : Responder.Recounts m r' := by
  refine h.of_eq same ?_ ?_
  · rw [history, framesOf_append, framesOf_channel_eq_nil other, List.append_nil]
  · rw [history, yieldedBy_append, yieldedBy_eq_nil other, List.append_nil]

/-- The life of a channel goes on with an operation. -/
theorem Responder.Recounts.perform (h : Responder.Recounts m r) (there : r.channels[m]? = some c)
    (op : ChannelOp) (here : r'.channels[m]? = some (c.perform op).1.channel)
    (history : r'.history = r.history ++ (c.perform op).1.events m (c.perform op).2) :
    Responder.Recounts m r' := by
  rw [Responder.Recounts, there] at h
  obtain ⟨stream, token, demand, ops, rfl, frames, items⟩ := h
  rw [Responder.Recounts, here]
  refine ⟨stream, token, demand, ops ++ [op], ?_⟩
  rw [ChannelLife.after_concat, history, framesOf_append, ChannelStep.framesOf_events, yieldedBy_append,
    ChannelStep.yieldedBy_events, frames, items]
  exact ⟨rfl, rfl, rfl⟩

/-- A silent operation on channel `n`. -/
theorem Responder.Recounts.set (h : Responder.Recounts m r) (there : r.channels[n]? = some c)
    (op : ChannelOp) (silent : c.perform op = (⟨(c.perform op).1.channel, []⟩, [])) :
    Responder.Recounts m { r with channels := r.channels.set n (c.perform op).1.channel } := by
  by_cases own : n = m
  · subst own
    have bound := (List.getElem?_eq_some_iff.mp there).1
    refine h.perform there op (List.getElem?_set_self bound) ?_
    rw [silent]
    exact (List.append_nil _).symm
  · exact h.of_eq (List.getElem?_set_ne own) rfl rfl

theorem Responder.ChannelMove.recounts (move : r.ChannelMove r') (h : Responder.Recounts m r) :
    Responder.Recounts m r' := by
  obtain rfl | ⟨n, c, step, xs, held, used, applies⟩ := move.touch.uses
  · exact h
  · obtain ⟨there, _, registry, allowance, _, _, rest⟩ := applies.changes
    have channels : r'.channels = r.channels.set n step.channel := by rw [rest]
    have history : r'.history = r.history ++ step.events n xs := by rw [rest]
    by_cases own : n = m
    · subst own
      obtain ⟨op, performed⟩ := used.performed
      have bound := (List.getElem?_eq_some_iff.mp there).1
      refine h.perform there op ?_ ?_
      · rw [channels, performed, List.getElem?_set_self bound]
      · rw [history, performed]
    · refine h.tell ?_ history fun e he => ?_
      · rw [channels, List.getElem?_set_ne own]
      · rw [(ChannelStep.channel_events he).1]
        exact fun eq => own (Option.some.inj eq)

/-- A channel that is opened begins a life, in which it is silent at first. -/
theorem Responder.Recounts.begin {stream : StreamId} {token : Nat} {demand : UInt32}
    (ops : List ChannelOp) (h : Responder.Recounts m r)
    (silent : (ChannelLife.begin stream token demand |>.after ops).frames = [] ∧
      (ChannelLife.begin stream token demand |>.after ops).items = [])
    (channels : r'.channels =
      r.channels ++ [(ChannelLife.begin stream token demand |>.after ops).channel])
    (history : r'.history = r.history) : Responder.Recounts m r' := by
  have same (at_ : r'.channels[m]? = r.channels[m]?) : Responder.Recounts m r' :=
    h.of_eq at_ (by rw [history]) (by rw [history])
  obtain old | new | later := Nat.lt_trichotomy m r.channels.length
  · exact same (by rw [channels, List.getElem?_append_left old])
  · subst new
    have unknown : r.channels[r.channels.length]? = none := List.getElem?_eq_none (Nat.le_refl _)
    have here : r'.channels[r.channels.length]? = some _ := channels ▸ List.getElem?_concat_length
    rw [Responder.Recounts, unknown] at h
    rw [Responder.Recounts, here, history]
    exact ⟨stream, token, demand, ops, rfl, h.1.trans silent.1.symm, h.2.trans silent.2.symm⟩
  · refine same ?_
    rw [List.getElem?_eq_none (Nat.le_of_lt later), channels, List.getElem?_eq_none]
    rw [List.length_append]
    exact later

theorem Responder.Recounts.openInbound {settings : Settings} {f : Frame} {p : Payload}
    (h : Responder.Recounts m r) (opened : r.openInbound settings f p = .ok r') :
    Responder.Recounts m r' := by
  unfold Responder.openInbound at opened
  split at opened
  · cases opened
  · split at opened
    · cases opened
      exact Responder.Recounts.begin [.push (.next p), .push .complete] h ⟨rfl, rfl⟩ rfl rfl
    · cases opened
      exact Responder.Recounts.begin [.push (.next p)] h ⟨rfl, rfl⟩ rfl rfl

theorem Responder.recounts_channelwise (m : Nat) :
    Responder.Channelwise fun r r' => Responder.Recounts m r → Responder.Recounts m r' where
  trans first next h := next (first h)
  use := Responder.ChannelMove.recounts
  signal r n s h := by
    unfold Responder.signal
    split
    next c held => exact h.set held (.push s) rfl
    next => exact h
  cancel r n h := by
    unfold Responder.cancelChannel cancelChannelAt
    split
    next c held => exact h.set held .cancel rfl
    next => exact h
  opened opened h := h.openInbound opened
  tell channels history elsewhere h :=
    h.tell (by rw [channels]) history fun e he => by rw [elsewhere e he]; exact nofun

theorem Responder.Moves.recounts {allowed : Label → Prop} (moves : r.Moves allowed r')
    (h : Responder.Recounts m r) : Responder.Recounts m r' :=
  (Responder.recounts_channelwise m).moves moves h

/-- A channel that has terminated has no entry. -/
theorem Responder.Paired.unregistered (h : r.Paired) (there : r.channels[m]? = some c)
    (ended : c.terminated = true) : ∀ e ∈ r.registry.inbound, e.token ≠ c.token := by
  intro e he same
  obtain ⟨d, hd, origin, live⟩ := h.channels e he
  have token : d.token = c.token := (congrArg Prod.snd origin).trans same
  obtain rfl := h.eq_of_token hd there token
  cases there.symm.trans hd
  exact Bool.false_ne_true (live.symm.trans ended)

/-- What is done with a channel takes out no entry of another registration. -/
theorem Responder.TouchOf.spares {asking : Prop} (touch : Responder.TouchOf asking m r r')
    (h : r.Paired) (there : r.channels[m]? = some c) :
    r'.registry.outbound = r.registry.outbound ∧
      ∀ e ∈ r.registry.inbound, e.token ≠ c.token → e ∈ r'.registry.inbound := by
  obtain rfl | ⟨d, step, xs, held, _, applies⟩ := touch.uses
  · exact ⟨rfl, fun e he _ => he⟩
  · cases (Responder.channel_of_held held).symm.trans there
    obtain ⟨_, _, registry, allowance, outbound, _, rest⟩ := applies.changes
    refine ⟨by rw [rest, ← outbound], fun e he other => ?_⟩
    have found : r.registry.inbound.find? e.stream = some e :=
      (Entries.find?_eq_some_iff h.streams).mpr ⟨he, rfl⟩
    rw [applies.registry]
    split
    · have left : (r.registry.releaseInbound c.stream c.token).1.inbound.find? e.stream = some e ∨
          (c.stream, c.token) = (e.stream, e.token) := Registry.find?_releaseInbound found
      obtain kept | own := left
      · exact (Entries.mem_of_find? kept).1
      · exact absurd (Prod.mk.inj own).2.symm other
    · exact he

theorem Session.deliver_ended (s : Session) {channel : Nat} (p : Payload)
    (there : s.responder.channels[channel]? = some c) (ended : c.terminated = true) :
    (s.deliver channel p).2 = false := by
  simp [Session.deliver, there, ended]

/-- Whatever is done to a channel and in whatever order, it asks for payloads, within the range of the
wire, and has one last word at most; each operation sends just what is due. So the initial demand goes out
with the first read that finds the channel open, unless payloads have been asked for before; an error is
answered by the read that yields it; and a drop cancels a channel that is open. The channels of a responder
have such lives, at the end of an action and in the midst of one. From its end on, and so from its drop, a
channel has no entry and takes no payload; and what is done with it leaves the entries of others. -/
theorem Responder.channel_lives (settings : Settings) (app : Application ω) (w : ω)
    (as : List (Action ω)) :
    (∀ stream token demand ops,
      let x := (ChannelLife.begin stream token demand).after ops
      x.channel.stream = stream ∧ x.channel.initialDemand = demand ∧
      (∃ grants last, x.frames = grants ++ last ∧ Frame.Grants stream grants ∧
        Frame.LastWord stream last) ∧
      (∀ op, (x.channel.perform op).1.frames = x.due op) ∧
      (x.perform .drop).channel.terminated = true ∧
      (x.channel.terminated = true → ∀ more,
        (x.after more).frames = x.frames ∧ (x.after more).channel.terminated = true)) ∧
    ∀ r m c, (Responder.run settings app as (Responder.start, w)).1.Moves (fun _ => True) r →
      r.channels[m]? = some c →
      (∃ stream token demand ops,
        let x := (ChannelLife.begin stream token demand).after ops
        c = x.channel ∧ framesOf (.channel m) r.history = x.frames ∧ yieldedBy m r.history = x.items) ∧
      (c.holder = .nobody → c.terminated = true) ∧
      (c.terminated = true → ∀ r', r.Moves (fun _ => True) r' →
        ∃ c', r'.channels[m]? = some c' ∧ c'.token = c.token ∧ c'.terminated = true ∧
          (∀ e ∈ r'.registry.inbound, e.token ≠ c.token) ∧
          ∀ s : Session, s.responder.channels = r'.channels → ∀ p, (s.deliver m p).2 = false) ∧
      ∀ r', Responder.TouchOf True m r r' → r'.registry.outbound = r.registry.outbound ∧
        ∀ e ∈ r.registry.inbound, e.token ≠ c.token → e ∈ r'.registry.inbound := by
  refine ⟨fun stream token demand ops => ?_, fun r m c passed there => ?_⟩
  · have orderly := (ChannelLife.orderly_begin stream token demand).after ops
    obtain ⟨same, kept⟩ := (ChannelLife.begin stream token demand).after_kept ops
    have frames := orderly.frames
    rw [same] at frames
    exact ⟨same, kept, frames, orderly.due, rfl, orderly.silent⟩
  · have moves : Responder.start.Moves (fun _ => True) r :=
      (Responder.linked_start.run_moves settings app as (s := (Responder.start, w))).trans passed
    have paired : r.Paired := Responder.Moves.paired moves Responder.paired_start
    have lived : Responder.Recounts m r := moves.recounts ⟨rfl, rfl⟩
    rw [Responder.Recounts, there] at lived
    refine ⟨lived, ?_, fun ended r' later => ?_, fun r' touch => touch.spares paired there⟩
    · obtain ⟨stream, token, demand, course⟩ := moves.hosts.new m c (Nat.zero_le m) there
      exact course.dropped nofun
    · obtain ⟨c', here, course⟩ := later.hosts.old m c there
      have token := course.origin.2
      have stays := course.flags.1 ended
      refine ⟨c', here, token, stays, ?_, fun s same p => s.deliver_ended p (same ▸ here) stays⟩
      rw [← token]
      exact (Responder.Moves.paired later paired).unregistered here stays

/-- A channel is read and dropped, and its stream is used for another one, which stays registered whatever
is done with the first. -/
theorem Responder.keeper_channel_lives :
    let f := Frame.requestChannel (.ofNat 7) 5 .empty
    let r := (Responder.run .standard keeper [.receive (.item (.ok f)), .turn 0 5, .read 0, .drop 0,
      .receive (.item (.ok f))] (Responder.start, ())).1
    framesOf (.channel 0) r.history =
        [.requestN (.ofNat 7) (.ofNat largestDemand), .cancel (.ofNat 7)] ∧
      (∃ c, r.channels[0]? = some c ∧ c.terminated = true ∧
        ∀ e ∈ r.registry.inbound, e.token ≠ c.token) ∧
      r.registry.inbound.map Entry.handle = [1] ∧
      ∀ e ∈ r.registry.inbound, e ∈ (r.dropChannel 0).registry.inbound := by
  intro f r
  have dropped : r.channels[0]?.map Channel.terminated = some true := by decide
  obtain ⟨c, there, ended⟩ := Option.map_eq_some_iff.mp dropped
  have lives := Responder.channel_lives .standard keeper () [.receive (.item (.ok f)), .turn 0 5,
    .read 0, .drop 0, .receive (.item (.ok f))]
  obtain ⟨_, _, gone, spares⟩ := lives.2 r 0 c (.refl r) there
  obtain ⟨_, _, _, _, absent, _⟩ := gone ended r (.refl r)
  exact ⟨by decide, ⟨c, there, ended, absent⟩, by decide,
    fun e he => (spares _ (.drop r)).2 e he (absent e he)⟩

end Multiplexer
