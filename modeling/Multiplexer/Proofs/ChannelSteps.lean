import Multiplexer.Proofs.Account

/-!
Changes to a channel: which frames one sends and which items it yields. A channel yields one error at
most, which ends it, and answers the peer for it.
-/

namespace Multiplexer

/-- The frame with which a channel answers an error that it yields. -/
def inboundAnswer (stream : StreamId) (e : HandlerError) : Frame :=
  .error stream .applicationError e.message

/-- A change to a channel that yields the items `xs`: each error among them is answered and ends the
channel, and without one nothing of the kind is sent. -/
structure Channel.Speaks (c : Channel) (step : ChannelStep) (xs : List Item) : Prop where
  stream : step.channel.stream = c.stream
  answered : step.frames.filter (fun f => f.kind = .error) =
    (errorsOf xs).map (inboundAnswer c.stream)
  once : (errorsOf xs).length + c.terminated.toNat ≤ step.channel.terminated.toNat

/-- The item that a read of a channel has led to. -/
def Receipt.items : Receipt Item → List Item
  | .item x => [x]
  | .pending | .finished => []

theorem Channel.quiet_speaks {c c' : Channel} (stream : c'.stream = c.stream)
    (terminated : c'.terminated = c.terminated) : c.Speaks ⟨c', []⟩ [] :=
  ⟨stream, rfl, by rw [terminated]; exact Nat.le_of_eq (Nat.zero_add _)⟩

theorem Channel.request_speaks (c : Channel) (demand : UInt32) : c.Speaks (c.request demand) [] := by
  unfold Channel.request
  split
  · exact Channel.quiet_speaks rfl rfl
  · exact ⟨rfl, rfl, Nat.le_of_eq (Nat.zero_add _)⟩

theorem Channel.requestFirst_speaks (c : Channel) : c.Speaks c.requestFirst [] := by
  unfold Channel.requestFirst
  split
  · exact Channel.quiet_speaks rfl rfl
  · exact c.request_speaks c.initialDemand

theorem Channel.drop_speaks (c : Channel) : c.Speaks c.drop [] := by
  refine ⟨rfl, ?_, ?_⟩
  · show List.filter _ (if _ then [] else [Frame.cancel c.stream]) = []
    split <;> rfl
  · show 0 + c.terminated.toNat ≤ 1
    cases c.terminated <;> decide

theorem Channel.takeSignal_speaks {c : Channel} (live : c.terminated = false) :
    c.Speaks c.takeSignal.1 c.takeSignal.2.items := by
  unfold Channel.takeSignal
  split
  next => exact ⟨rfl, rfl, by simp [Receipt.items]⟩
  next p rest _ => exact ⟨rfl, rfl, by simp [Receipt.items]⟩
  next e rest _ => exact ⟨rfl, rfl, by simp [Receipt.items, Channel.terminate, live]⟩
  next => exact ⟨rfl, rfl, by simp [Receipt.items, live]⟩
  next => exact ⟨rfl, rfl, by simp [Receipt.items, live]⟩

theorem Channel.terminated_requestFirst (c : Channel) :
    c.requestFirst.channel.terminated = c.terminated := by
  unfold Channel.requestFirst Channel.request
  split
  · rfl
  · split <;> rfl

theorem Channel.push_kept (c : Channel) (s : Signal) :
    (c.push s).stream = c.stream ∧ (c.push s).terminated = c.terminated := by
  unfold Channel.push
  split <;> exact ⟨rfl, rfl⟩

theorem Channel.poll_speaks (c : Channel) : c.Speaks c.poll.1 c.poll.2.items := by
  unfold Channel.poll
  cases ended : c.terminated with
  | true => exact ⟨rfl, rfl, by simp [Receipt.items]⟩
  | false =>
    rw [if_neg Bool.false_ne_true]
    split
    · exact ⟨rfl, rfl, by simp [Receipt.items, ended]⟩
    · have asked := c.requestFirst_speaks
      have live : c.requestFirst.channel.terminated = false := c.terminated_requestFirst.trans ended
      have taken := Channel.takeSignal_speaks live
      refine ⟨taken.stream.trans asked.stream, ?_, ?_⟩
      · show List.filter _ (c.requestFirst.frames ++ c.requestFirst.channel.takeSignal.1.frames) = _
        rw [List.filter_append, asked.answered, taken.answered, asked.stream]
        rfl
      · rw [ended, ← live]
        exact taken.once

section acts

variable {c : Channel} {step : ChannelStep}

/-- A frame that the inbound half of the channel on a stream sends. -/
inductive Frame.FromInbound (stream : StreamId) : Frame → Prop where
  | request {demand : UInt32} (within : demand.toNat ≤ largestDemand) :
    FromInbound stream (.requestN stream demand)
  | cancel : FromInbound stream (.cancel stream)
  | answer (e : HandlerError) : FromInbound stream (inboundAnswer stream e)

theorem Frame.FromInbound.on {stream : StreamId} {f : Frame} (h : f.FromInbound stream) :
    f.stream = stream := by
  cases h <;> rfl

/-- A change after which a channel is still that of its registration. -/
structure Channel.Acts (c : Channel) (step : ChannelStep) : Prop where
  token : step.channel.token = c.token
  frames : ∀ f ∈ step.frames, f.FromInbound c.stream

theorem Channel.Acts.quiet {c' : Channel} (token : c'.token = c.token) : c.Acts ⟨c', []⟩ :=
  ⟨token, fun _ hf => absurd hf List.not_mem_nil⟩

theorem Channel.Acts.one {c' : Channel} {f : Frame} (token : c'.token = c.token)
    (own : f.FromInbound c.stream) : c.Acts ⟨c', [f]⟩ := by
  refine ⟨token, ?_⟩
  intro g hg
  obtain rfl := List.mem_singleton.mp hg
  exact own

theorem Channel.request_acts (c : Channel) (demand : UInt32) : c.Acts (c.request demand) := by
  unfold Channel.request
  split
  · exact .quiet rfl
  · refine .one rfl (.request ?_)
    split
    · decide
    next below => exact Nat.le_of_not_le below

theorem Channel.requestFirst_acts (c : Channel) : c.Acts c.requestFirst := by
  unfold Channel.requestFirst
  split
  · exact .quiet rfl
  · exact c.request_acts c.initialDemand

theorem Channel.drop_acts (c : Channel) : c.Acts c.drop := by
  unfold Channel.drop
  split
  · exact .quiet rfl
  · exact .one rfl .cancel

theorem Channel.takeSignal_acts (c : Channel) : c.Acts c.takeSignal.1 := by
  unfold Channel.takeSignal
  split
  next => exact .quiet rfl
  next => exact .quiet rfl
  next e _ _ => exact .one rfl (.answer e)
  next => exact .quiet rfl
  next => exact .quiet rfl

theorem Channel.poll_acts (c : Channel) : c.Acts c.poll.1 := by
  unfold Channel.poll
  split
  · exact .quiet rfl
  · split
    · exact .quiet rfl
    · have asked := c.requestFirst_acts
      have taken := c.requestFirst.channel.takeSignal_acts
      refine ⟨taken.token.trans asked.token, ?_⟩
      intro f hf
      rcases List.mem_append.mp hf with early | late
      · exact asked.frames f early
      · exact c.requestFirst_speaks.stream ▸ taken.frames f late

/-- What is done with a channel by whoever holds it, who may ask for payloads or not: the change, and the
items that it yields. -/
inductive Channel.Use (asking : Prop) (c : Channel) : ChannelStep → List Item → Prop where
  | poll : Use asking c c.poll.1 c.poll.2.items
  /-- A read for which the turn has no allowance. -/
  | open_ (live : c.isOpen = true) : Use asking c c.requestFirst []
  | request (may : asking) (demand : UInt32) : Use asking c (c.request demand) []
  | drop : Use asking c c.drop []
  | keep : Use asking c ⟨{ c with holder := .application }, []⟩ []

variable {asking : Prop} {xs : List Item}

theorem Channel.Use.speaks (use : c.Use asking step xs) : c.Speaks step xs := by
  cases use with
  | poll => exact c.poll_speaks
  | open_ live => exact c.requestFirst_speaks
  | request may demand => exact c.request_speaks demand
  | drop => exact c.drop_speaks
  | keep => exact Channel.quiet_speaks rfl rfl

theorem Channel.Use.acts (use : c.Use asking step xs) : c.Acts step := by
  cases use with
  | poll => exact c.poll_acts
  | open_ live => exact c.requestFirst_acts
  | request may demand => exact c.request_acts demand
  | drop => exact c.drop_acts
  | keep => exact .quiet rfl

end acts

/-- What a change to channel `n` tells: the frames that it sends and then the items that it yields. -/
def ChannelStep.events (n : Nat) (step : ChannelStep) (xs : List Item) : List Event :=
  step.frames.map (Event.sent (.channel n)) ++ xs.map (Event.yielded n)

theorem ChannelStep.channel_events {n : Nat} {step : ChannelStep} {xs : List Item} {e : Event}
    (he : e ∈ step.events n xs) : e.channel? = some n ∧ e.task? = none := by
  rcases List.mem_append.mp he with he | he
  · obtain ⟨f, _, rfl⟩ := List.mem_map.mp he
    exact ⟨rfl, rfl⟩
  · obtain ⟨x, _, rfl⟩ := List.mem_map.mp he
    exact ⟨rfl, rfl⟩

theorem ChannelStep.framesOf_events (n : Nat) (step : ChannelStep) (xs : List Item) :
    framesOf (.channel n) (step.events n xs) = step.frames := by
  have sent (fs : List Frame) :
      framesOf (.channel n) (fs.map (Event.sent (.channel n))) = fs := by
    induction fs with
    | nil => rfl
    | cons f fs ih => simp [Event.frameBy?, ih]
  have silent : framesOf (.channel n) (xs.map (Event.yielded n)) = [] :=
    framesOf_eq_nil (by simp)
  rw [ChannelStep.events, framesOf_append, sent, silent, List.append_nil]

theorem ChannelStep.yieldedBy_events (n : Nat) (step : ChannelStep) (xs : List Item) :
    yieldedBy n (step.events n xs) = xs := by
  have silent : yieldedBy n (step.frames.map (Event.sent (.channel n))) = [] :=
    List.filterMap_eq_nil_iff.mpr (by simp [Event.yieldOf?])
  have yields : yieldedBy n (xs.map (Event.yielded n)) = xs := by
    simp [yieldedBy, List.filterMap_map, Function.comp_def, Event.yieldOf?]
  rw [ChannelStep.events, yieldedBy_append, silent, yields, List.nil_append]

end Multiplexer
