import Multiplexer.Proofs.Departures

/-!
Last frames over runs: from the frame that ends a response on nothing is registered for the operation any
more, and no request under its stream is refused on its account.
-/

namespace Multiplexer

variable {ω : Type} {r r' : Responder} {n : Nat} {x : Frame} {stream : StreamId}

/-- Whatever a task sends in a run, it sends in one of its turns. -/
theorem Responder.Linked.sent_in_turn {s : Responder × ω} (h : s.1.Linked) (settings : Settings)
    (app : Application ω) {as : List (Action ω)} (before : Event.sent (.task n) x ∉ s.1.history)
    (sent : Event.sent (.task n) x ∈ (Responder.run settings app as s).1.history) :
    ∃ mid budget rest, as = mid ++ .turn n budget :: rest ∧
      Event.sent (.task n) x ∉ (Responder.run settings app mid s).1.history ∧
      Event.sent (.task n) x ∈
        (Responder.step settings app (.turn n budget) (Responder.run settings app mid s)).1.history := by
  induction as generalizing s with
  | nil => exact absurd sent before
  | cons a as ih =>
    have moves := h.step_moves settings app a
    by_cases now : Event.sent (.task n) x ∈ (Responder.step settings app a s).1.history
    · cases turn : a.isTurnOf n with
      | true =>
        cases a with
        | turn m budget =>
          obtain rfl : m = n := by simpa [Action.isTurnOf] using turn
          exact ⟨[], budget, as, rfl, before, now⟩
        | _ => cases turn
      | false =>
        have idle : ¬ a.permits (.task n) := by
          rintro ⟨budget, rfl⟩
          simp [Action.isTurnOf] at turn
        have account := moves.account idle
        have told : Event.sent (.task n) x ∈ (Responder.step settings app a s).1.account n :=
          List.mem_filter.mpr ⟨now, by simp [Event.task?]⟩
        rw [account] at told
        exact absurd (List.mem_filter.mp told).1 before
    · obtain ⟨mid, budget, rest, rfl, early, late⟩ :=
        ih (moves.linked h) now sent
      exact ⟨a :: mid, budget, rest, rfl, early, late⟩

/-- What works for an accepted request: a task with the token of its entry and the channel that the request
opens, if it opens one. -/
theorem Responder.Accepts.employs {settings : Settings} {app : Application ω} {s : Responder × ω}
    {f : Frame} (h : s.1.Linked)
    (kind : f.kind = .requestResponse ∨ f.kind = .requestStream ∨ f.kind = .requestChannel)
    (accepted : Responder.Accepts settings app s f) :
    let r := (Responder.step settings app (.receive (.item (.ok f))) s).1
    ∃ token channel, (f.kind = .requestChannel → channel = some s.1.channels.length) ∧
      ⟨f.stream, token, s.1.controls.length⟩ ∈ r.registry.outbound ∧
      Responder.Employs s.1.controls.length f.stream (some token) channel r ∧
      r.account s.1.controls.length = [] := by
  intro r
  have linked : r.Linked := (h.step_moves settings app (.receive (.item (.ok f)))).linked h
  obtain ⟨token, entry⟩ := (Registry.outbound?_eq_some_iff linked.streams).mp accepted
  have works {control : Control} {work : Work} {channel : Option Nat}
      (begun : Responder.Begun s.1.controls.length f.stream control work r)
      (opened : f.kind = .requestChannel → channel = some s.1.channels.length)
      (held : work.channel? = channel) :
      ∃ token channel, (f.kind = .requestChannel → channel = some s.1.channels.length) ∧
        ⟨f.stream, token, s.1.controls.length⟩ ∈ r.registry.outbound ∧
        Responder.Employs s.1.controls.length f.stream (some token) channel r ∧
        r.account s.1.controls.length = [] := by
    have own := (linked.own _ begun.there _ entry (.inr rfl)).1
    refine ⟨token, channel, opened, entry, ?_, begun.account⟩
    rw [← own, ← held]
    exact begun.employs
  rcases kind with kind | kind
  · obtain ⟨_, p, _, begun⟩ := Responder.accepted_response h kind accepted
    exact works begun (fun half => by rw [kind] at half; cases half) rfl
  · obtain ⟨_, channel, phase, _, opened, begun⟩ := Responder.accepted_stream h kind accepted
    exact works begun opened rfl

/-- An accepted operation that hands over a last frame departs in one of its turns. -/
theorem Responder.Accepts.departs {settings : Settings} {app : Application ω} {s : Responder × ω}
    {f : Frame} (h : s.1.Linked)
    (kind : f.kind = .requestResponse ∨ f.kind = .requestStream ∨ f.kind = .requestChannel)
    (accepted : Responder.Accepts settings app s f) :
    let n := s.1.controls.length
    let s' := Responder.step settings app (.receive (.item (.ok f))) s
    ∃ token channel, (f.kind = .requestChannel → channel = some s.1.channels.length) ∧
      ⟨f.stream, token, n⟩ ∈ s'.1.registry.outbound ∧
      ∀ after x, x.kind.isLast = true →
        Event.sent (.task n) x ∈ (Responder.run settings app after s').1.history →
        ∃ mid budget rest held, after = mid ++ .turn n budget :: rest ∧
          let now := Responder.run settings app mid s'
          Responder.Departs n f.stream token channel x held now.1.beginTurn
            (Responder.step settings app (.turn n budget) now).1 := by
  intro n s'
  have linked : s'.1.Linked := (h.step_moves settings app (.receive (.item (.ok f)))).linked h
  obtain ⟨token, channel, opened, entry, employs, account⟩ := accepted.employs h kind
  have known : n < s'.1.controls.length := (linked.registered _ entry).1
  refine ⟨token, channel, opened, entry, fun after x last sent => ?_⟩
  have silent : Event.sent (.task n) x ∉ s'.1.history := fun told => by
    have here : Event.sent (.task n) x ∈ s'.1.account n :=
      List.mem_filter.mpr ⟨told, by simp [Event.task?]⟩
    rw [account] at here
    cases here
  obtain ⟨mid, budget, rest, rfl, early, late⟩ := linked.sent_in_turn settings app silent sent
  have moves := linked.run_moves settings app mid
  have begun : (Responder.run settings app mid s').1.beginTurn.Linked :=
    (Responder.AsideMove.keepsTasks (.pace _ _)).linked (moves.linked linked)
  obtain ⟨held, departs⟩ := begun.turn_departs (Responder.run settings app mid s').2 app budget
    (moves.employs linked known employs) last early late
  exact ⟨mid, budget, rest, held, rfl, departs⟩

theorem Registry.Sound.released {g : Registry Nat Nat} (sound : g.Sound) {token : Nat}
    (released : (g.releaseOutbound stream token).2 = true) :
    token ∉ (g.releaseOutbound stream token).1.tokens ∧ token < g.issued := by
  unfold Registry.releaseOutbound at released ⊢
  cases holds : g.outbound.holds stream token with
  | false =>
    rw [holds] at released
    cases released
  | true =>
    obtain ⟨e, he, on, rfl⟩ := (Entries.holds_iff sound.outbound).mp holds
    have known : e.token ∈ g.outbound.map Entry.token := List.mem_map_of_mem he
    refine ⟨?_, sound.issued _ (List.mem_append_left _ known)⟩
    have tokens := List.nodup_append.mp sound.tokens
    intro there
    rcases List.mem_append.mp there with there | there
    · obtain ⟨d, hd, same⟩ := List.mem_map.mp there
      obtain ⟨hd, other⟩ := Entries.mem_erase.mp hd
      cases List.inj_on_of_nodup_map tokens.1 hd he same
      exact other on
    · exact tokens.2.2 _ known _ there rfl

theorem Registry.Evolves.gone {g g' : Registry Nat Nat} (h : g.Evolves g') {token : Nat}
    (absent : token ∉ g.tokens) (issued : token < g.issued) : token ∉ g'.tokens :=
  fun there => (h.tokens token there).elim absent fun new => Nat.lt_irrefl _ (Nat.lt_of_lt_of_le issued new)

theorem Responder.Paired.no_entry {m : Nat} {c : Channel} (h : r.Paired)
    (hc : r.channels[m]? = some c) (ended : c.terminated = true) :
    ∀ e ∈ r.registry.inbound, e.token ≠ c.token := by
  intro e he same
  obtain ⟨d, hd, origin, live⟩ := h.channels e he
  have token : d.token = c.token := (congrArg Prod.snd origin).trans same
  obtain rfl := h.eq_of_token hd hc token
  cases hd.symm.trans hc
  exact Bool.false_ne_true (live.symm.trans ended)

section departed

variable {token : Nat} {channel : Option Nat} {held last : Responder} {allowed : Label → Prop}

theorem Responder.Departs.token_gone (departs : Responder.Departs n stream token channel x held r r')
    (sound : r.registry.Sound) (onward : r'.Moves allowed last) :
    token ∉ ((held.dropOwnChannel channel).release stream token).1.registry.tokens ∧
      token ∉ last.registry.tokens := by
  have registry := departs.signsOff.registry
  have dropped := departs.proceeds.trans (held.dropOwnChannel_proceeds channel n)
  have sound := dropped.registry.evolves.sound sound
  obtain ⟨gone, issued⟩ := sound.released departs.released
  have later := ((held.dropOwnChannel channel).registry.releaseOutbound_evolves stream token).issued
  refine ⟨gone, (Responder.Moves.registry onward).evolves.gone (registry ▸ gone) ?_⟩
  rw [registry]
  exact Nat.lt_of_lt_of_le issued later

/-- A channel that has terminated by the last frame of its operation has no entry and says nothing, then and
later. -/
theorem Responder.Departs.channel_gone {m : Nat} {c : Channel}
    (departs : Responder.Departs n stream token channel x held r r') (paired : r'.Paired)
    (hc : r'.channels[m]? = some c) (ended : c.terminated = true) (onward : r'.Moves allowed last) :
    let end_ := ((held.dropOwnChannel channel).release stream token).1
    (∀ e ∈ end_.registry.inbound, e.token ≠ c.token) ∧
      (∀ e ∈ last.registry.inbound, e.token ≠ c.token) ∧
      ∃ tail, last.history = end_.history ++ .sent (.task n) x :: tail ∧
        ∀ y, Event.sent (.channel m) y ∉ tail := by
  intro end_
  have voices := Responder.Moves.voices onward
  obtain ⟨c', hc', course⟩ := voices.hosts.old m c hc
  obtain ⟨events, later, may⟩ := voices.told
  obtain ⟨reports, told, silent⟩ := departs.signsOff.history
  refine ⟨departs.signsOff.registry ▸ paired.no_entry hc ended, ?_, reports ++ events, ?_, ?_⟩
  · rw [← course.origin.2]
    exact (Responder.Moves.paired onward paired).no_entry hc' (course.flags.1 ended)
  · rw [later]
    exact (congrArg (· ++ events) told).trans (by simp [end_])
  · intro y spoken
    rcases List.mem_append.mp spoken with early | late
    · exact silent _ y early
    · have live := (may m c y hc late).live
      exact Bool.false_ne_true (live.symm.trans ended)

end departed

/-- A request that can be read is refused because of an entry under its stream. -/
theorem Responder.Linked.blocked {s : Responder × ω} {g : Frame} {p : Payload} (h : s.1.Linked)
    (settings : Settings) (app : Application ω) (listens : s.1.Listens)
    (opens : g.kind.opens = true) (readable : settings.reader g = .ok p)
    (refused : ¬ Responder.Accepts settings app s g) :
    (∃ e ∈ s.1.registry.outbound, e.stream = g.stream) ∨
      g.kind = .requestChannel ∧ ∃ e ∈ s.1.registry.inbound, e.stream = g.stream := by
  have found {es : Entries Nat} (taken : es.contains g.stream = true) : ∃ e ∈ es, e.stream = g.stream := by
    simpa [Entries.contains] using taken
  have denies : s.1.Denies g := by
    by_contra free
    exact refused ((h.accepts_iff settings app listens opens readable).mpr free)
  exact denies.imp found fun half => ⟨half.1, found half.2⟩

/-- When the task of an accepted operation hands over the frame that ends its response, the entry of the
operation has been taken out. The response stream has dropped its channel if it still held it, and unless
somebody has taken the channel out of the stream, its entry is gone too and its own frames come before. All
this stays so, whatever happens. So a request under the same stream is refused later only because of an entry
that another registration has made. -/
theorem Responder.free_at_last_frame (settings : Settings) (app : Application ω) (w : ω)
    (before : List (Action ω)) (f : Frame)
    (kind : f.kind = .requestResponse ∨ f.kind = .requestStream ∨ f.kind = .requestChannel)
    (accepted : Responder.Accepts settings app
      (Responder.run settings app before (Responder.start, w)) f) :
    let s := Responder.run settings app before (Responder.start, w)
    let n := s.1.controls.length
    let m := s.1.channels.length
    let s' := Responder.step settings app (.receive (.item (.ok f))) s
    ∃ token, ⟨f.stream, token, n⟩ ∈ s'.1.registry.outbound ∧
      ∀ after x, x.kind.isLast = true →
        Event.sent (.task n) x ∈ (Responder.run settings app after s').1.history →
        ∃ mid budget rest channel held, after = mid ++ .turn n budget :: rest ∧
          (f.kind = .requestChannel → channel = some m) ∧
          let now := Responder.run settings app mid s'
          let end_ := ((held.dropOwnChannel channel).release f.stream token).1
          let r := (Responder.run settings app after s').1
          Responder.Departs n f.stream token channel x held now.1.beginTurn
              (Responder.step settings app (.turn n budget) now).1 ∧
            (∀ e ∈ end_.registry.outbound, e.token ≠ token) ∧
            (∀ e ∈ r.registry.outbound, e.token ≠ token) ∧
            (f.kind = .requestChannel → ∃ c, held.channels[m]? = some c ∧ c.stream = f.stream ∧
              end_.channels[m]? = some c.letGo ∧
              (c.holder ≠ .application →
                (∀ e ∈ end_.registry.inbound, e.token ≠ c.token) ∧
                (∀ e ∈ r.registry.inbound, e.token ≠ c.token) ∧
                ∃ tail, r.history = end_.history ++ .sent (.task n) x :: tail ∧
                  ∀ y, Event.sent (.channel m) y ∉ tail)) ∧
            ∀ g p, g.stream = f.stream → g.kind.opens = true → settings.reader g = .ok p →
              r.Listens → ¬ Responder.Accepts settings app (Responder.run settings app after s') g →
              (∃ e ∈ r.registry.outbound, e.stream = f.stream ∧ e.token ≠ token) ∨
                g.kind = .requestChannel ∧ ∃ e ∈ r.registry.inbound, e.stream = f.stream ∧
                  ∀ c, f.kind = .requestChannel → held.channels[m]? = some c →
                    c.holder ≠ .application → e.token ≠ c.token := by
  intro s n m s'
  have linked : s.1.Linked := Responder.linked_start.run settings app before
    (s := (Responder.start, w))
  have path (as : List (Action ω)) : Responder.run settings app as s' =
      Responder.run settings app (before ++ .receive (.item (.ok f)) :: as) (Responder.start, w) := by
    rw [Responder.run_append]
    rfl
  have linked' : s'.1.Linked := (linked.step_moves settings app (.receive (.item (.ok f)))).linked linked
  obtain ⟨token, channel, opened, entry, ends⟩ := accepted.departs linked kind
  refine ⟨token, entry, fun after x last sent => ?_⟩
  obtain ⟨mid, budget, rest, held, rfl, departs⟩ := ends after x last sent
  have sound : (Responder.run settings app mid s').1.registry.Sound := by
    rw [path]
    exact Responder.sound_run settings app w _
  let done := Responder.step settings app (.turn n budget) (Responder.run settings app mid s')
  have last_turn : done = Responder.run settings app (mid ++ [.turn n budget]) s' := by
    rw [Responder.run_append]
    rfl
  have onward : done.1.Moves (fun _ => True)
      (Responder.run settings app (mid ++ .turn n budget :: rest) s').1 := by
    have linked_done : done.1.Linked := last_turn ▸ linked'.run settings app _
    have moves := linked_done.run_moves settings app rest
    rw [Responder.run_append]
    exact moves
  obtain ⟨gone, gone'⟩ := departs.token_gone sound onward
  have absent {g : Registry Nat Nat} (gone : token ∉ g.tokens) : ∀ e ∈ g.outbound, e.token ≠ token :=
    fun e he same => gone (List.mem_append_left _ (same ▸ List.mem_map_of_mem he))
  let end_ := ((held.dropOwnChannel channel).release f.stream token).1
  have dropped : f.kind = .requestChannel → ∃ c, held.channels[m]? = some c ∧ c.stream = f.stream ∧
      end_.channels[m]? = some c.letGo ∧
      (c.holder ≠ .application → (∀ e ∈ end_.registry.inbound, e.token ≠ c.token) ∧
        (∀ e ∈ (Responder.run settings app (mid ++ .turn n budget :: rest) s').1.registry.inbound,
          e.token ≠ c.token) ∧
        ∃ tail, (Responder.run settings app (mid ++ .turn n budget :: rest) s').1.history =
            end_.history ++ .sent (.task n) x :: tail ∧
          ∀ y, Event.sent (.channel m) y ∉ tail) := by
    intro half
    obtain ⟨c', hc', on⟩ := accepted.channel_run linked half (mid ++ [.turn n budget])
    have hc' : done.1.channels[m]? = some c' := last_turn ▸ hc'
    have there : end_.channels[m]? = some c' := departs.signsOff.channels ▸ hc'
    obtain rfl := opened half
    obtain ⟨c, known, rfl⟩ := Responder.dropOwnChannel_origin there
    obtain ⟨stream, token⟩ := c.letGo_origin
    refine ⟨c, known, stream.symm.trans on, there, fun own => ?_⟩
    have ended : c.letGo.terminated = true := by
      refine Responder.dropped_run settings app w
        (before ++ .receive (.item (.ok f)) :: (mid ++ [.turn n budget])) ?_ (Channel.letGo_holder own)
      rw [← path, ← last_turn]
      exact List.mem_of_getElem? hc'
    have paired : done.1.Paired := by
      rw [last_turn, path]
      exact Responder.paired_run settings app w _
    rw [← token]
    exact departs.channel_gone paired hc' ended onward
  refine ⟨mid, budget, rest, channel, held, rfl, opened, departs, absent gone, absent gone', dropped, ?_⟩
  intro g p on opens readable listens refused
  have linked_end : (Responder.run settings app (mid ++ .turn n budget :: rest) s').1.Linked :=
    linked'.run settings app _
  rcases linked_end.blocked settings app listens opens readable refused with ⟨e, he, under⟩ | half
  · exact .inl ⟨e, he, under.trans on, absent gone' e he⟩
  · obtain ⟨asks, e, he, under⟩ := half
    refine .inr ⟨asks, e, he, under.trans on, fun c opening hc holder => ?_⟩
    obtain ⟨d, hd, _, _, left_⟩ := dropped opening
    cases hd.symm.trans hc
    exact (left_ holder).2.1 e he

/-- A response stream ends while the peer's half of its channel is open. The channel cancels that half before
the stream is completed. -/
theorem Responder.supplier_free_at_last_frame :
    let f := Frame.requestChannel (.ofNat 7) 5 .empty
    let s' := Responder.step .standard supplier (.receive (.item (.ok f))) (Responder.start, [.ok .empty])
    let r := (Responder.run .standard supplier [.turn 0 5] s').1
    Responder.Accepts .standard supplier (Responder.start, [.ok .empty]) f ∧
      (s'.1.channels.map fun c => (c.holder, c.isOpen)) = [(.stream, true)] ∧
      r.history = [.pulled 0 (.ok .empty), .sent (.task 0) (.next (.ofNat 7) .empty), .ended 0,
        .sent (.channel 0) (.cancel (.ofNat 7)), .sent (.task 0) (.complete (.ofNat 7))] ∧
      ∃ token held c, ⟨.ofNat 7, token, 0⟩ ∈ s'.1.registry.outbound ∧
        Responder.Departs 0 (.ofNat 7) token (some 0) (.complete (.ofNat 7)) held s'.1.beginTurn r ∧
        (∀ e ∈ r.registry.outbound, e.token ≠ token) ∧ held.channels[0]? = some c ∧
        c.holder ≠ .application ∧ ∀ e ∈ r.registry.inbound, e.token ≠ c.token := by
  intro f s' r
  have accepted : Responder.Accepts .standard supplier
      (Responder.run .standard supplier [] (Responder.start, [.ok .empty])) f := by decide
  have sent : Event.sent (.task 0) (.complete (.ofNat 7)) ∈ r.history := by decide
  obtain ⟨token, entry, ends⟩ := Responder.free_at_last_frame .standard supplier [.ok .empty] [] f
    (.inr (.inr rfl)) accepted
  obtain ⟨mid, budget, rest, channel, held, turns, opened, departs, _, free, half, _⟩ :=
    ends [.turn 0 5] (.complete (.ofNat 7)) rfl sent
  obtain ⟨rfl, turn⟩ : mid = [] ∧ Action.turn 0 5 :: [] = .turn 0 budget :: rest := by
    cases mid with
    | nil => exact ⟨rfl, turns⟩
    | cons a mid => simp at turns
  obtain ⟨rfl, rfl⟩ : 5 = budget ∧ [] = rest := by simpa using turn
  obtain rfl := opened rfl
  obtain ⟨c, there, _, left, gone⟩ := half rfl
  -- nobody holds the channel in the end, so the application has not taken it out before
  have nobody : r.channels[0]?.map Channel.holder = some .nobody := by decide
  have own : c.holder ≠ .application := by
    intro kept
    have dropped : r.channels[0]? = some c.letGo := departs.signsOff.channels ▸ left
    rw [dropped, Option.map_some, Channel.letGo, kept] at nobody
    simp [kept] at nobody
  exact ⟨accepted, by decide, by decide, token, held, c, entry, departs, free, there, own, (gone own).2.1⟩

end Multiplexer
