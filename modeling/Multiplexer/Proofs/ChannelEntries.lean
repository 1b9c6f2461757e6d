import Multiplexer.Proofs.InboundHalf

/-!
The inbound map and the channels: each entry is that of a channel that has not terminated, by the stream
and by the token of its registration, and no token is used twice.
-/

namespace Multiplexer

variable {ω : Type} {r r' : Responder} {n : Nat} {c c' : Channel} {e : Entry Nat}

structure Responder.Paired (r : Responder) : Prop where
  streams : (r.registry.inbound.map Entry.stream).Nodup
  channels : ∀ e ∈ r.registry.inbound, ∃ c, r.channels[e.handle]? = some c ∧
    c.origin = (e.stream, e.token) ∧ c.terminated = false
  issued : ∀ c ∈ r.channels, c.token < r.registry.issued
  tokens : (r.channels.map Channel.token).Nodup

theorem Responder.paired_start : Responder.start.Paired := by
  refine ⟨?_, ?_, ?_, ?_⟩ <;> simp [Responder.start, Registry.empty]

/-- A token belongs to one channel only. -/
theorem Responder.Paired.eq_of_token (h : r.Paired) {m : Nat} (hc : r.channels[n]? = some c)
    (hc' : r.channels[m]? = some c') (same : c.token = c'.token) : n = m := by
  have bound : n < (r.channels.map Channel.token).length := by
    rw [List.length_map]
    exact (List.getElem?_eq_some_iff.mp hc).1
  apply (List.getElem?_inj bound h.tokens).mp
  rw [List.getElem?_map, List.getElem?_map, hc, hc', Option.map_some, Option.map_some, same]

/-- Channels may change and entries may go, as long as the channels whose entries stay do not terminate. -/
theorem Responder.Paired.keep (h : r.Paired)
    (inbound : r'.registry.inbound.Sublist r.registry.inbound)
    (issued : r.registry.issued ≤ r'.registry.issued)
    (origins : ∀ m : Nat, (r'.channels[m]?).map Channel.origin = (r.channels[m]?).map Channel.origin)
    (live : ∀ e ∈ r'.registry.inbound, ∀ c c', r.channels[e.handle]? = some c →
      r'.channels[e.handle]? = some c' → c.terminated = false → c'.terminated = false) :
    r'.Paired := by
  have same : r'.channels.map Channel.origin = r.channels.map Channel.origin :=
    List.ext_getElem? fun m => by rw [List.getElem?_map, List.getElem?_map, origins m]
  have tokens : r'.channels.map Channel.token = r.channels.map Channel.token := by
    have second := congrArg (List.map Prod.snd) same
    rw [List.map_map, List.map_map] at second
    exact second
  refine ⟨h.streams.sublist (inbound.map _), ?_, ?_, tokens ▸ h.tokens⟩
  · intro e he
    obtain ⟨c, hc, origin, going⟩ := h.channels e (inbound.subset he)
    have there := origins e.handle
    rw [hc] at there
    obtain ⟨c', hc', origin'⟩ := Option.map_eq_some_iff.mp there
    exact ⟨c', hc', origin'.trans origin, live e he c c' hc hc' going⟩
  · intro c' hc'
    have token : c'.token ∈ r.channels.map Channel.token := tokens ▸ List.mem_map_of_mem hc'
    obtain ⟨c, hc, eq⟩ := List.mem_map.mp token
    have bound := h.issued c hc
    omega

theorem Responder.Paired.of_eq (h : r.Paired) (inbound : r'.registry.inbound = r.registry.inbound)
    (issued : r.registry.issued ≤ r'.registry.issued) (channels : r'.channels = r.channels) :
    r'.Paired := by
  refine h.keep (by rw [inbound]) issued (fun m => by rw [channels]) ?_
  intro e _ c c' hc hc' going
  rw [channels, hc] at hc'
  exact Option.some.inj hc' ▸ going

/-- A channel may be replaced by one that is as much alive. -/
theorem Responder.Paired.set (h : r.Paired) (held : r.channels[n]? = some c)
    (channels : r'.channels = r.channels.set n c') (registry : r'.registry = r.registry)
    (origin : c'.origin = c.origin) (terminated : c'.terminated = c.terminated) : r'.Paired := by
  have bound : n < r.channels.length := (List.getElem?_eq_some_iff.mp held).1
  refine h.keep (by rw [registry]) (Nat.le_of_eq (by rw [registry])) ?_ ?_
  · intro m
    by_cases same : n = m
    · subst same
      rw [channels, List.getElem?_set_self bound, held, Option.map_some, Option.map_some, origin]
    · rw [channels, List.getElem?_set_ne same]
  · intro e _ d d' hd hd' going
    by_cases same : n = e.handle
    · subst same
      rw [channels, List.getElem?_set_self bound] at hd'
      cases held.symm.trans hd
      cases hd'
      exact terminated.trans going
    · rw [channels, List.getElem?_set_ne same, hd] at hd'
      exact Option.some.inj hd' ▸ going

theorem Registry.releaseInbound_sublist (registry : Registry Nat Nat) (stream : StreamId)
    (token : Nat) : (registry.releaseInbound stream token).1.inbound.Sublist registry.inbound := by
  unfold Registry.releaseInbound
  split
  · exact List.filter_sublist
  · exact List.Sublist.refl _

/-- What has been released is gone. -/
theorem Registry.not_mem_releaseInbound {registry : Registry Nat Nat}
    (streams : (registry.inbound.map Entry.stream).Nodup) (he : e ∈ registry.inbound) :
    e ∉ (registry.releaseInbound e.stream e.token).1.inbound := by
  have holds : registry.inbound.holds e.stream e.token = true :=
    (Entries.holds_iff streams).mpr ⟨e, he, rfl, rfl⟩
  rw [Registry.releaseInbound, if_pos holds]
  intro there
  exact (Entries.mem_erase.mp there).2 rfl

/-- A release right after the registration leaves no more than there has been. -/
theorem Registry.releaseInbound_new {registry : Registry Nat Nat} {es : Entries Nat}
    {stream : StreamId} {token handle : Nat}
    (added : registry.inbound = es ++ [⟨stream, token, handle⟩])
    (free : es.contains stream = false) :
    (registry.releaseInbound stream token).1.inbound.Sublist es := by
  have absent : List.find? (fun e => e.stream = stream) es = none := by
    simpa [Entries.contains] using free
  have holds : registry.inbound.holds stream token = true := by
    rw [added]
    simp [Entries.holds, Entries.find?, List.find?_append, absent]
  rw [Registry.releaseInbound, if_pos holds]
  show (registry.inbound.erase stream).Sublist es
  rw [added, Entries.erase, List.filter_append, List.filter_singleton]
  simp

theorem Responder.Applies.paired {step : ChannelStep} {xs : List Item}
    (applies : Responder.Applies n c step xs r r') (h : r.Paired) : r'.Paired := by
  obtain ⟨held, speaks, registry, allowance, _, issued, rest⟩ := applies.changes
  have channels : r'.channels = r.channels.set n step.channel := by rw [rest]
  refine h.keep ?_ ?_ applies.converses.origins ?_
  · rw [applies.registry]
    split
    · exact Registry.releaseInbound_sublist ..
    · exact List.Sublist.refl _
  · rw [rest]
    exact Nat.le_of_eq issued.symm
  · intro e he d d' hd hd' going
    by_cases same : n = e.handle
    · subst same
      cases held.symm.trans hd
      have bound : e.handle < r.channels.length := (List.getElem?_eq_some_iff.mp held).1
      rw [channels, List.getElem?_set_self bound] at hd'
      cases hd'
      -- a channel that terminates has given up its entry
      by_contra gone
      have gone : step.channel.terminated = true := by simpa using gone
      have released : r'.registry = (r.registry.releaseInbound c.stream c.token).1 := by
        rw [applies.registry, gone, going]
        rfl
      rw [released] at he
      have there : e ∈ r.registry.inbound := (Registry.releaseInbound_sublist ..).subset he
      obtain ⟨_, hc, origin, _⟩ := h.channels e there
      cases held.symm.trans hc
      obtain ⟨stream, token⟩ := Prod.mk.inj origin
      rw [stream, token] at he
      exact Registry.not_mem_releaseInbound h.streams there he
    · rw [channels, List.getElem?_set_ne same, hd] at hd'
      exact Option.some.inj hd' ▸ going

theorem Responder.ChannelMove.paired (move : r.ChannelMove r') (h : r.Paired) : r'.Paired := by
  obtain rfl | ⟨n, c, step, xs, applies⟩ := move.applies
  · exact h
  · exact applies.paired h

/-- A new channel has a token of its own. -/
theorem Responder.Paired.open (h : r.Paired) (channels : r'.channels = r.channels ++ [c])
    (token : c.token = r.registry.issued) (issued : r'.registry.issued = r.registry.issued + 1)
    (inbound : r'.registry.inbound.Sublist r.registry.inbound ∨
      c.terminated = false ∧ r.registry.inbound.contains c.stream = false ∧
        r'.registry.inbound = r.registry.inbound ++ [⟨c.stream, c.token, r.channels.length⟩]) :
    r'.Paired := by
  have old {m : Nat} {d : Channel} (hd : r.channels[m]? = some d) : r'.channels[m]? = some d := by
    have bound : m < r.channels.length := (List.getElem?_eq_some_iff.mp hd).1
    rw [channels, List.getElem?_append_left bound, hd]
  refine ⟨?_, ?_, ?_, ?_⟩
  · rcases inbound with fewer | ⟨_, free, more⟩
    · exact h.streams.sublist (fewer.map _)
    · have unused : ∀ e ∈ r.registry.inbound, e.stream ≠ c.stream := by
        simpa [Entries.contains] using free
      rw [more, List.map_append, List.nodup_append]
      refine ⟨h.streams, by simp, ?_⟩
      simpa using unused
  · intro e he
    have known (he : e ∈ r.registry.inbound) : ∃ d, r'.channels[e.handle]? = some d ∧
        d.origin = (e.stream, e.token) ∧ d.terminated = false := by
      obtain ⟨d, hd, rest⟩ := h.channels e he
      exact ⟨d, old hd, rest⟩
    rcases inbound with fewer | ⟨live, _, more⟩
    · exact known (fewer.subset he)
    · rw [more] at he
      rcases List.mem_append.mp he with he | he
      · exact known he
      · obtain rfl := List.mem_singleton.mp he
        exact ⟨c, by rw [channels, List.getElem?_concat_length], rfl, live⟩
  · intro d hd
    rw [channels] at hd
    rcases List.mem_append.mp hd with hd | hd
    · have bound := h.issued d hd
      omega
    · obtain rfl := List.mem_singleton.mp hd
      omega
  · rw [channels, List.map_append, List.nodup_append]
    refine ⟨h.tokens, by simp, ?_⟩
    intro a ha b hb
    obtain ⟨d, hd, rfl⟩ := List.mem_map.mp ha
    obtain rfl : b = c.token := by simpa using hb
    have bound := h.issued d hd
    omega

theorem Channel.push_token (c : Channel) (s : Signal) : (c.push s).token = c.token := by
  unfold Channel.push
  split <;> rfl

theorem Channel.origin_push (c : Channel) (s : Signal) : (c.push s).origin = c.origin := by
  rw [Channel.origin, (c.push_kept s).1, c.push_token s, Channel.origin]

theorem Responder.Paired.cancelChannel (h : r.Paired) (n : Nat) : (r.cancelChannel n).Paired := by
  unfold Responder.cancelChannel cancelChannelAt
  split
  next c held =>
    obtain ⟨_, terminated⟩ := Channel.push_kept { c with cancelled := true } .cancel
    exact h.set held rfl rfl (Channel.origin_push _ _) terminated
  next => exact h

theorem Responder.Paired.openInbound {settings : Settings} {f : Frame} {p : Payload}
    (h : r.Paired) (opened : r.openInbound settings f p = .ok r') : r'.Paired := by
  simp only [Responder.openInbound, Registry.registerInbound] at opened
  cases free : r.registry.inbound.contains f.stream with
  | true => simp [free] at opened
  | false =>
    simp only [free, Bool.false_eq_true, if_false] at opened
    split at opened
    · cases opened
      -- the entry of a channel whose half is complete is not kept
      refine h.open rfl ?_ ?_ (.inl ?_)
      · rw [Channel.push_token, Channel.push_token, Channel.new]
      · simp
      · exact Registry.releaseInbound_new rfl free
    · cases opened
      refine h.open rfl ?_ rfl (.inr ⟨?_, ?_, ?_⟩)
      · rw [Channel.push_token, Channel.new]
      · rfl
      · exact free
      · rfl

theorem Responder.AsideMove.paired (move : r.AsideMove r') (h : r.Paired) : r'.Paired := by
  cases move with
  | channel step => exact step.paired h
  | signal n s =>
    unfold Responder.signal
    split
    next c held => exact h.set held rfl rfl (c.origin_push s) (c.push_kept s).2
    next => exact h
  | cancelChannel n => exact h.cancelChannel n
  | openInbound opened => exact h.openInbound opened
  | closeInbound stream =>
    refine h.keep ?_ (Nat.le_of_eq (by simp)) (fun _ => rfl) ?_
    · unfold Registry.removeInbound
      split
      · exact List.filter_sublist
      · exact List.Sublist.refl _
    · rintro e _ c c' hc hc' going
      exact Option.some.inj (hc.symm.trans hc') ▸ going
  | refuse => exact h.of_eq rfl (Nat.le_succ _) rfl
  | _ => exact h.of_eq rfl (Nat.le_refl _) rfl

theorem Responder.AsideMoves.paired (moves : r.AsideMoves r') (h : r.Paired) : r'.Paired := by
  induction moves with
  | refl => exact h
  | tail _ step ih => exact step.paired ih

theorem Task.release_inbound (t : Task) (token : Option Nat) (registry : Registry Nat Nat) :
    (t.release token registry).1.inbound = registry.inbound := by
  cases token with
  | none => rfl
  | some token =>
    simp only [Task.release, Registry.releaseOutbound]
    split <;> rfl

theorem Task.Move.paired {t : Task} (move : t.Move r r') (h : r.Paired) : r'.Paired := by
  cases move with
  | @finishSingle r1 kind token request work dropped result cancelled =>
    rw [Responder.settleSingle_eq]
    exact (Responder.AsideMoves.paired dropped h).of_eq (t.release_inbound token r1.registry)
      (Nat.le_of_eq (t.release_issued token r1.registry).symm) rfl
  | @finishStream r1 token channel phase events outcome work ends dropped =>
    have noted : Responder.Paired { r with history := r.history ++ events } :=
      h.of_eq rfl (Nat.le_refl _) rfl
    rw [Responder.settleStream_eq]
    exact (Responder.AsideMoves.paired dropped noted).of_eq
      (t.release_inbound (some token) r1.registry)
      (Nat.le_of_eq (t.release_issued (some token) r1.registry).symm) rfl
  | _ => exact h.of_eq rfl (Nat.le_refl _) rfl

theorem Responder.Paired.drained (h : r.Paired) : r.drained.Paired := by
  have cancelled (ns : List Nat) {r : Responder} (h : r.Paired) : Responder.Paired
      { r with channels := ns.foldl (fun cs n => cancelChannelAt n cs) r.channels } := by
    induction ns generalizing r with
    | nil => exact h
    | cons n ns ih => exact ih (h.cancelChannel n)
  refine (cancelled (r.registry.inbound.map Entry.handle) h).keep (List.nil_sublist _) (Nat.le_refl _)
    (fun _ => rfl) ?_
  intro e he
  exact absurd he List.not_mem_nil

theorem Responder.Paired.register (h : r.Paired) (stream : StreamId) (control : Control) :
    (r.register stream control).1.Paired := by
  have inbound : (r.register stream control).1.registry.inbound = r.registry.inbound := by
    simp only [Responder.register, Registry.registerOutbound]
    split <;> rfl
  refine h.of_eq inbound ?_ rfl
  rw [r.register_issued]
  exact Nat.le_succ _

theorem Responder.Move.paired {l : Label} (move : Responder.Move l r r') (h : r.Paired) :
    r'.Paired := by
  cases move with
  | aside step => exact step.paired h
  | @begin _ _ stream control work begins running plain uncancelled token _ =>
    obtain ⟨told, moves, rfl⟩ := begins.opened
    exact (Responder.AsideMoves.paired moves (h.register stream control)).of_eq rfl (Nat.le_refl _) rfl
  | startPush stream p running => exact h.of_eq rfl (Nat.le_refl _) rfl
  | register stream control => exact h.register stream control
  | cancel found =>
    unfold Responder.cancelStream Registry.removeOutbound
    rw [found]
    exact h.of_eq rfl (Nat.le_refl _) rfl
  | grant found demand =>
    unfold Responder.grantStream
    split <;> exact h.of_eq rfl (Nat.le_refl _) rfl
  | drain => exact h.drained
  | shut empty => exact h.of_eq rfl (Nat.le_refl _) rfl
  | dispose => exact h.of_eq rfl (Nat.le_refl _) rfl
  | disconnect => exact h.of_eq rfl (Nat.le_refl _) rfl
  | task there step => exact step.paired h

theorem Responder.Moves.paired {allowed : Label → Prop} (moves : r.Moves allowed r')
    (h : r.Paired) : r'.Paired :=
  moves.invariant h fun _ move => move.paired

/-- In any run the entries are those of channels that have not terminated. -/
theorem Responder.paired_run (settings : Settings) (app : Application ω) (w : ω)
    (as : List (Action ω)) : (Responder.run settings app as (Responder.start, w)).1.Paired := by
  have moves := Responder.linked_start.run_moves settings app as (s := (Responder.start, w))
  exact Responder.Moves.paired moves Responder.paired_start

/-- Code of the application costs no channel its entry but one that terminates. -/
theorem Responder.Converses.entry (h : r.Converses r') (paired : r.Paired)
    (he : e ∈ r.registry.inbound) : e ∈ r'.registry.inbound ∨
      ∃ c c', r.channels[e.handle]? = some c ∧ r'.channels[e.handle]? = some c' ∧
        c.terminated = false ∧ c'.terminated = true := by
  have found : r.registry.inbound.find? e.stream = some e :=
    (Entries.find?_eq_some_iff paired.streams).mpr ⟨he, rfl⟩
  rcases h.entries e.stream e found with there | ⟨m, c, c', hc, hc', origin, going, gone⟩
  · exact .inl (Entries.mem_of_find? there).1
  · obtain ⟨own, hown, origin', _⟩ := paired.channels e he
    have token : c.token = own.token :=
      (congrArg Prod.snd origin).trans (congrArg Prod.snd origin').symm
    obtain rfl := paired.eq_of_token hc hown token
    exact .inr ⟨c, c', hc, hc', going, gone⟩

end Multiplexer
