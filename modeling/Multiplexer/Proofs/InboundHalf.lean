import Multiplexer.Proofs.ChannelErrors

/-!
What the inbound half of a channel does on its own account: the frames that it sends, and the entry that
it gives up when it terminates, which is no other's.
-/

namespace Multiplexer

variable {ω : Type} {r r' r'' : Responder} {n : Nat} {c : Channel} {step : ChannelStep} {xs : List Item}

/-- Under which stream and by which registration a channel has been opened. -/
def Channel.origin (c : Channel) : StreamId × Nat := (c.stream, c.token)

/-- A channel of this origin terminates between two states. -/
def Responder.Terminates (origin : StreamId × Nat) (r r' : Responder) : Prop :=
  ∃ (m : Nat) (c c' : Channel), r.channels[m]? = some c ∧ r'.channels[m]? = some c' ∧
    c.origin = origin ∧ c.terminated = false ∧ c'.terminated = true

/-- Among these events the frame is sent by the inbound half of a channel: it asks for payloads,
cancels, or answers an error of the peer that the channel yields. -/
def Event.SentInbound (events : List Event) (speaker : Speaker) (f : Frame) : Prop :=
  ∃ m, speaker = .channel m ∧ (f.kind = .requestN ∨ f.kind = .cancel ∨
    ∃ e, f = inboundAnswer f.stream e ∧ Event.yielded m (.error e) ∈ events)

/-- What code of the application makes of channels: they keep their origins, an entry goes only when
the channel terminates that has been opened with it, and nobody else speaks. -/
structure Responder.Converses (r r' : Responder) : Prop where
  origins : ∀ m : Nat, (r'.channels[m]?).map Channel.origin = (r.channels[m]?).map Channel.origin
  ended : ∀ (m : Nat) (c c' : Channel), r.channels[m]? = some c → r'.channels[m]? = some c' →
    c.terminated = true → c'.terminated = true
  entries : ∀ (stream : StreamId) (e : Entry Nat), r.registry.inbound.find? stream = some e →
    r'.registry.inbound.find? stream = some e ∨ Responder.Terminates (stream, e.token) r r'
  told : ∃ events, r'.history = r.history ++ events ∧
    ∀ speaker f, Event.sent speaker f ∈ events → Event.SentInbound events speaker f

/-- Events that are noted without a frame. -/
theorem Responder.Converses.note {events : List Event} (channels : r'.channels = r.channels)
    (inbound : r'.registry.inbound = r.registry.inbound)
    (history : r'.history = r.history ++ events) (silent : ∀ speaker f, Event.sent speaker f ∉ events) :
    r.Converses r' := by
  refine ⟨fun m => by rw [channels], ?_, fun stream e found => .inl (by rw [inbound, found]),
    events, history, fun speaker f sent => absurd sent (silent speaker f)⟩
  intro m c c' hc hc' ended
  rw [channels, hc] at hc'
  exact Option.some.inj hc' ▸ ended

theorem Responder.Converses.refl (r : Responder) : r.Converses r :=
  .note rfl rfl (List.append_nil _).symm fun _ _ => List.not_mem_nil

theorem Responder.Converses.channel (h : r.Converses r') {m : Nat} {c : Channel}
    (there : r.channels[m]? = some c) :
    ∃ c', r'.channels[m]? = some c' ∧ c'.origin = c.origin := by
  have origins := h.origins m
  rw [there] at origins
  obtain ⟨c', hc', origin⟩ := Option.map_eq_some_iff.mp origins
  exact ⟨c', hc', origin⟩

theorem Responder.Converses.channel_before (h : r.Converses r') {m : Nat} {c' : Channel}
    (there : r'.channels[m]? = some c') :
    ∃ c, r.channels[m]? = some c ∧ c.origin = c'.origin := by
  have origins := (h.origins m).symm
  rw [there] at origins
  obtain ⟨c, hc, origin⟩ := Option.map_eq_some_iff.mp origins
  exact ⟨c, hc, origin⟩

theorem Event.SentInbound.mono {events more : List Event} {speaker : Speaker} {f : Frame}
    (sent : Event.SentInbound events speaker f) (sub : events ⊆ more) :
    Event.SentInbound more speaker f := by
  obtain ⟨m, rfl, asks | cancels | ⟨e, answer, yielded⟩⟩ := sent
  · exact ⟨m, rfl, .inl asks⟩
  · exact ⟨m, rfl, .inr (.inl cancels)⟩
  · exact ⟨m, rfl, .inr (.inr ⟨e, answer, sub yielded⟩)⟩

theorem Responder.Converses.trans (h : r.Converses r') (h' : r'.Converses r'') : r.Converses r'' := by
  refine ⟨fun m => (h'.origins m).trans (h.origins m), ?_, ?_, ?_⟩
  · intro m c c'' hc hc'' ended
    obtain ⟨c', hc', _⟩ := h.channel hc
    exact h'.ended m c' c'' hc' hc'' (h.ended m c c' hc hc' ended)
  · intro stream e found
    rcases h.entries stream e found with there | ⟨m, c, c', hc, hc', origin, going, gone⟩
    · rcases h'.entries stream e there with last | ⟨m, c', c'', hc', hc'', origin, going, gone⟩
      · exact .inl last
      · obtain ⟨c, hc, same⟩ := h.channel_before hc'
        -- a channel that is live now has been live before
        have live : c.terminated = false := by
          by_contra ended
          have ended' := h.ended m c c' hc hc' (by simpa using ended)
          exact Bool.false_ne_true (going.symm.trans ended')
        exact .inr ⟨m, c, c'', hc, hc'', same.trans origin, live, gone⟩
    · obtain ⟨c'', hc'', _⟩ := h'.channel hc'
      exact .inr ⟨m, c, c'', hc, hc'', origin, going, h'.ended m c' c'' hc' hc'' gone⟩
  · obtain ⟨events, history, sent⟩ := h.told
    obtain ⟨events', history', sent'⟩ := h'.told
    refine ⟨events ++ events', by rw [history', history, List.append_assoc], ?_⟩
    intro speaker f hf
    rcases List.mem_append.mp hf with early | late
    · exact (sent speaker f early).mono (List.subset_append_left ..)
    · exact (sent' speaker f late).mono (List.subset_append_right ..)

/-- A release takes out no entry but that of the stream with the token. -/
theorem Registry.find?_releaseInbound {registry : Registry Nat Nat} {stream other : StreamId}
    {token : Nat} {e : Entry Nat} (found : registry.inbound.find? stream = some e) :
    (registry.releaseInbound other token).1.inbound.find? stream = some e ∨
      (other, token) = (stream, e.token) := by
  unfold Registry.releaseInbound
  split
  next holds =>
    by_cases same : other = stream
    · subst same
      have own : e.token = token := by simpa [Entries.holds, found] using holds
      exact .inr (by rw [own])
    · exact .inl ((Entries.find?_erase same).trans found)
  next => exact .inl found

theorem mem_errorsOf {e : HandlerError} : e ∈ errorsOf xs ↔ .error e ∈ xs := by
  simp only [errorsOf, List.mem_filterMap]
  constructor
  · rintro ⟨_ | e, there, eq⟩
    · cases eq
      exact there
    · cases eq
  · exact fun there => ⟨_, there, rfl⟩

theorem ChannelStep.sentInbound_events (acts : c.Acts step) (speaks : c.Speaks step xs)
    {speaker : Speaker} {f : Frame} (sent : Event.sent speaker f ∈ step.events n xs) :
    Event.SentInbound (step.events n xs) speaker f := by
  rcases List.mem_append.mp sent with sent | yielded
  · obtain ⟨g, hg, eq⟩ := List.mem_map.mp sent
    cases eq
    refine ⟨n, rfl, ?_⟩
    cases acts.frames f hg with
    | request within => exact .inl rfl
    | cancel => exact .inr (.inl rfl)
    | answer e =>
      have answer : inboundAnswer c.stream e ∈ step.frames.filter (fun f => f.kind = .error) :=
        List.mem_filter.mpr ⟨hg, rfl⟩
      rw [speaks.answered] at answer
      obtain ⟨e', he, same⟩ := List.mem_map.mp answer
      have yields : Event.yielded n (.error e') ∈ xs.map (Event.yielded n) :=
        List.mem_map_of_mem (mem_errorsOf.mp he)
      exact .inr (.inr ⟨e', by rw [← same]; rfl, List.mem_append_right _ yields⟩)
  · obtain ⟨x, _, eq⟩ := List.mem_map.mp yielded
    cases eq

theorem Responder.Applies.converses (h : Responder.Applies n c step xs r r') : r.Converses r' := by
  obtain ⟨held, speaks, registry, allowance, _, _, rest⟩ := h.changes
  have bound : n < r.channels.length := (List.getElem?_eq_some_iff.mp held).1
  have origin : step.channel.origin = c.origin := by
    rw [Channel.origin, speaks.stream, h.acts.token, Channel.origin]
  have once := speaks.once
  have channels : r'.channels = r.channels.set n step.channel := by rw [rest]
  have here : r'.channels[n]? = some step.channel := by
    rw [channels, List.getElem?_set_self bound]
  have elsewhere {m : Nat} (hne : n ≠ m) : r'.channels[m]? = r.channels[m]? := by
    rw [channels, List.getElem?_set_ne hne]
  refine ⟨?_, ?_, ?_, step.events n xs, by rw [rest], ?_⟩
  · intro m
    by_cases same : n = m
    · subst same
      rw [here, held, Option.map_some, Option.map_some, origin]
    · rw [elsewhere same]
  · intro m d d' hd hd' ended
    by_cases same : n = m
    · subst same
      cases held.symm.trans hd
      cases here.symm.trans hd'
      rw [ended] at once
      by_contra live
      rw [Bool.not_eq_true] at live
      rw [live] at once
      exact absurd once (by simp)
    · rw [elsewhere same, hd] at hd'
      exact Option.some.inj hd' ▸ ended
  · intro stream e found
    rw [h.registry]
    split
    next terminates =>
      obtain ⟨gone, going⟩ := (Bool.and_eq_true _ _).mp terminates
      have left : (r.registry.releaseInbound c.stream c.token).1.inbound.find? stream = some e ∨
          (c.stream, c.token) = (stream, e.token) := Registry.find?_releaseInbound found
      rcases left with kept | own
      · exact .inl kept
      · exact .inr ⟨n, c, step.channel, held, here, own, by simpa using going, gone⟩
    next => exact .inl found
  · exact fun speaker f => ChannelStep.sentInbound_events h.acts speaks

theorem Responder.ChannelMoves.converses (h : r.ChannelMoves r') : r.Converses r' := by
  induction h with
  | refl => exact .refl r
  | tail _ move ih =>
    rcases Responder.ChannelMove.applies move with rfl | ⟨n, c, step, xs, applies⟩
    · exact ih
    · exact ih.trans applies.converses

/-- Between two states channels send what their inbound halves send and nothing else. -/
def Responder.Relays (r r' : Responder) : Prop :=
  ∃ events, r'.history = r.history ++ events ∧
    ∀ m f, Event.sent (.channel m) f ∈ events → Event.SentInbound events (.channel m) f

theorem Responder.Relays.tell {events : List Event} (history : r'.history = r.history ++ events)
    (elsewhere : ∀ e ∈ events, e.channel? = none) : r.Relays r' := by
  refine ⟨events, history, ?_⟩
  intro m f sent
  cases elsewhere _ sent

theorem Responder.Relays.trans (h : r.Relays r') (h' : r'.Relays r'') : r.Relays r'' := by
  obtain ⟨events, history, sent⟩ := h
  obtain ⟨events', history', sent'⟩ := h'
  refine ⟨events ++ events', by rw [history', history, List.append_assoc], ?_⟩
  intro m f hf
  rcases List.mem_append.mp hf with early | late
  · exact (sent m f early).mono (List.subset_append_left ..)
  · exact (sent' m f late).mono (List.subset_append_right ..)

theorem Responder.ChannelMove.relays (move : r.ChannelMove r') : r.Relays r' := by
  have talk : r.ChannelMoves r' := .single move
  obtain ⟨events, history, sent⟩ := (Responder.ChannelMoves.converses talk).told
  exact ⟨events, history, fun m f => sent (.channel m) f⟩

theorem Responder.Moves.relays {allowed : Label → Prop} (moves : r.Moves allowed r') :
    r.Relays r' := by
  refine Responder.Moves.tells (R := Responder.Relays) Responder.Relays.trans ?_ ?_ moves
  · exact Responder.ChannelMove.relays
  · exact fun _ history elsewhere => .tell history elsewhere

/-- In any run the inbound half of a channel asks for payloads, cancels, or answers an error of the peer
that it has yielded. -/
theorem Responder.inbound_run (settings : Settings) (app : Application ω) (w : ω)
    (as : List (Action ω)) {m : Nat} {f : Frame} :
    let r := (Responder.run settings app as (Responder.start, w)).1
    Event.sent (.channel m) f ∈ r.history → Event.SentInbound r.history (.channel m) f := by
  intro r
  have moves := Responder.linked_start.run_moves settings app as (s := (Responder.start, w))
  obtain ⟨events, history, sent⟩ := moves.relays
  have history : r.history = events := history
  rw [history]
  exact sent m f

end Multiplexer
