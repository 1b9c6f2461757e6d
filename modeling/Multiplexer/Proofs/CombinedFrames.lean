import Multiplexer.Proofs.InboundLives
import Multiplexer.Proofs.Understood

/-!
Frames that do the work of two. A frame that carries the last payload of a channel and its end acts as the
payload followed by the end; and a request for a channel that ends the peer's half at once acts as the
request without that, followed by the end. For this the end of the half has to commute with all that the
application does to channels while it opens the response stream.
-/

namespace Multiplexer

variable {ω ρ : Type} {r r' : Responder} {stream : StreamId} {k n : Nat} {c : Channel}

/-- Application code that does not read channel `k`, whatever it learns of others. -/
def Dialogue.LeavesUnread (k : Nat) : Dialogue ρ → Prop
  | .answer _ => True
  | .read n next => n ≠ k ∧ ∀ reply, (next reply).LeavesUnread k
  | .request _ _ next | .drop _ next | .keep _ next => next.LeavesUnread k
  | .inspect _ next => ∀ reply, (next reply).LeavesUnread k

/-- The channel as one that does not ask for payloads by itself. -/
def Channel.unasked (c : Channel) : Channel := { c with initialDemand := 0 }

def Responder.unask (r : Responder) (k : Nat) : Responder :=
  { r with channels := r.channels.modify k Channel.unasked }

/-- The channel after the end of the peer's half, if it does not ask for payloads by itself. -/
def Channel.closed (c : Channel) : Channel := (c.push .complete).unasked

/-- The end of the peer's half of channel `k`, under its stream. -/
def Responder.closeHalf (stream : StreamId) (k : Nat) (r : Responder) : Responder :=
  { r with
    registry := (r.registry.removeInbound stream).1
    channels := r.channels.modify k Channel.closed }

/-- Of a channel only its queue and its initial demand change. -/
theorem Channel.closed_eq (c : Channel) :
    c.closed = { c with
      queue := c.queue ++ if c.terminated then [] else [.complete]
      initialDemand := 0 } := by
  unfold Channel.closed Channel.unasked Channel.push
  cases h : c.terminated <;> simp [h]

theorem Channel.request_closed (c : Channel) (demand : UInt32) :
    c.closed.request demand = ⟨(c.request demand).channel.closed, (c.request demand).frames⟩ := by
  simp only [Channel.request, Channel.closed_eq]
  split <;> rfl

theorem Channel.drop_closed (c : Channel) : c.closed.drop = ⟨c.drop.channel.closed, c.drop.frames⟩ := by
  simp [Channel.drop, Channel.closed_eq, Channel.terminate]

theorem Registry.find?_removeInbound (g : Registry Nat Nat) (stream : StreamId) :
    (g.removeInbound stream).1.inbound.find? stream = none := by
  unfold Registry.removeInbound
  split
  next =>
    refine List.find?_eq_none.mpr fun e there => ?_
    simpa using (Entries.mem_erase.mp there).2
  next absent => exact Option.map_eq_none_iff.mp absent

theorem Registry.removeInbound_of_none {g : Registry Nat Nat} (absent : g.inbound.find? stream = none) :
    g.removeInbound stream = (g, none) := by
  simp [Registry.removeInbound, Registry.inbound?, absent]

/-- What holds a token is taken out, as if the stream alone had been asked for. -/
theorem Registry.releaseInbound_eq (g : Registry Nat Nat) (stream : StreamId) (token : Nat) :
    (g.releaseInbound stream token).1 =
      if g.inbound.holds stream token then (g.removeInbound stream).1 else g := by
  unfold Registry.releaseInbound
  split
  next holds =>
    cases found : g.inbound.find? stream with
    | none => simp [Entries.holds, found] at holds
    | some e => simp [Registry.removeInbound, Registry.inbound?, found]
  next => rfl

/-- The removal of another stream's entry is not noticed. -/
theorem Registry.find?_removeInbound_of_ne (g : Registry Nat Nat) {other : StreamId} (ne : other ≠ stream) :
    (g.removeInbound other).1.inbound.find? stream = g.inbound.find? stream := by
  unfold Registry.removeInbound
  split
  · exact Entries.find?_erase ne
  · rfl

theorem Registry.removeInbound_comm (g : Registry Nat Nat) (a b : StreamId) :
    ((g.removeInbound a).1.removeInbound b).1 = ((g.removeInbound b).1.removeInbound a).1 := by
  by_cases same : a = b
  · rw [same]
  · have first := g.find?_removeInbound_of_ne same
    have second := g.find?_removeInbound_of_ne (Ne.symm same)
    cases hb : g.inbound.find? b with
    | none =>
      rw [Registry.removeInbound_of_none (first.trans hb), Registry.removeInbound_of_none hb]
    | some e =>
      cases ha : g.inbound.find? a with
      | none => rw [Registry.removeInbound_of_none ha, Registry.removeInbound_of_none (second.trans ha)]
      | some d =>
        simp only [Registry.removeInbound, Registry.inbound?, ha, hb, Option.map_some,
          Entries.find?_erase same, Entries.find?_erase (Ne.symm same)]
        simp only [Entries.erase, List.filter_filter, Bool.and_comm]

/-- To take out the entry of a stream and to give up an entry by its token commute. -/
theorem Registry.releaseInbound_removeInbound (g : Registry Nat Nat) (stream other : StreamId) (token : Nat) :
    ((g.removeInbound stream).1.releaseInbound other token).1 =
      ((g.releaseInbound other token).1.removeInbound stream).1 := by
  rw [Registry.releaseInbound_eq, Registry.releaseInbound_eq]
  by_cases same : other = stream
  · subst same
    have gone := g.find?_removeInbound other
    rw [Entries.holds, gone, if_neg Bool.false_ne_true]
    split
    · rw [Registry.removeInbound_of_none gone]
    · rfl
  · rw [Entries.holds, g.find?_removeInbound_of_ne (Ne.symm same), ← Entries.holds.eq_def]
    split
    · exact g.removeInbound_comm stream other
    · rfl

/-- A channel that closes, if it is channel `k`. -/
def Channel.closedAt (k n : Nat) (c : Channel) : Channel := if k = n then c.closed else c

/-- What is asked of a channel, apart from its queue and its initial demand, stays as it is. -/
structure Channel.Resembles (c c' : Channel) : Prop where
  stream : c'.stream = c.stream
  token : c'.token = c.token
  terminated : c'.terminated = c.terminated
  holder : c'.holder = c.holder

theorem Channel.closedAt_kept (k n : Nat) (c : Channel) : c.Resembles (c.closedAt k n) := by
  unfold Channel.closedAt
  split
  · rw [Channel.closed_eq]
    exact ⟨rfl, rfl, rfl, rfl⟩
  · exact ⟨rfl, rfl, rfl, rfl⟩

theorem Channel.set_closedAt (channels : List Channel) (k n : Nat) (c : Channel) :
    (channels.modify k Channel.closed).set n (c.closedAt k n) =
      (channels.set n c).modify k Channel.closed := by
  refine List.ext_getElem? fun m => ?_
  rw [List.getElem?_modify, List.getElem?_set, List.getElem?_set, List.getElem?_modify, List.length_modify]
  by_cases here : n = m
  · subst here
    by_cases bound : n < channels.length <;> simp [bound, Channel.closedAt]
  · simp only [here, if_false]

theorem Responder.held?_closeHalf (r : Responder) (n : Nat) :
    (r.closeHalf stream k).held? n = (r.held? n).map (Channel.closedAt k n) := by
  unfold Responder.held? Responder.closeHalf
  rw [List.getElem?_modify]
  cases r.channels[n]? with
  | none => rfl
  | some c =>
    show Option.filter _ (some (Channel.closedAt k n c)) = _
    simp only [Option.filter_some, (Channel.closedAt_kept k n c).holder]
    split <;> rfl

/-- A change to a channel commutes with the end of the half, if the channel that has closed changes to one
that has closed, with the same frames. -/
theorem Responder.applyStep_closeHalf (r : Responder) (n : Nat) (c : Channel) (step : ChannelStep) :
    (r.closeHalf stream k).applyStep n (c.closedAt k n) ⟨step.channel.closedAt k n, step.frames⟩ =
      (r.applyStep n c step).closeHalf stream k := by
  have before := c.closedAt_kept k n
  have after := step.channel.closedAt_kept k n
  simp only [Responder.applyStep_eq, Responder.closeHalf, before.stream, before.token, before.terminated,
    after.terminated, Channel.set_closedAt]
  split <;> simp only [Registry.releaseInbound_removeInbound]

theorem Responder.requestOnChannel_closeHalf (r : Responder) (n : Nat) (demand : UInt32) :
    (r.closeHalf stream k).requestOnChannel n demand =
      (r.requestOnChannel n demand).closeHalf stream k := by
  unfold Responder.requestOnChannel
  rw [Responder.held?_closeHalf]
  cases r.held? n with
  | none => rfl
  | some c =>
    have asked : (c.closedAt k n).request demand =
        ⟨(c.request demand).channel.closedAt k n, (c.request demand).frames⟩ := by
      unfold Channel.closedAt
      split
      · exact c.request_closed demand
      · rfl
    simp only [Option.map_some, asked, Responder.applyStep_closeHalf]

theorem Responder.dropChannel_closeHalf (r : Responder) (n : Nat) :
    (r.closeHalf stream k).dropChannel n = (r.dropChannel n).closeHalf stream k := by
  unfold Responder.dropChannel
  rw [Responder.held?_closeHalf]
  cases r.held? n with
  | none => rfl
  | some c =>
    have dropped : (c.closedAt k n).drop = ⟨c.drop.channel.closedAt k n, c.drop.frames⟩ := by
      unfold Channel.closedAt
      split
      · exact c.drop_closed
      · rfl
    simp only [Option.map_some, dropped, Responder.applyStep_closeHalf]

theorem Responder.keepChannel_closeHalf (r : Responder) (n : Nat) :
    (r.closeHalf stream k).keepChannel n = (r.keepChannel n).closeHalf stream k := by
  unfold Responder.keepChannel
  rw [Responder.held?_closeHalf]
  cases r.held? n with
  | none => rfl
  | some c =>
    have kept : { c.closedAt k n with holder := .application } =
        Channel.closedAt k n { c with holder := .application } := by
      unfold Channel.closedAt
      split
      · simp only [Channel.closed_eq]
      · rfl
    simp only [Option.map_some, kept, Responder.closeHalf, Channel.set_closedAt]

theorem Responder.inspectChannel_closeHalf (r : Responder) (n : Nat) :
    (r.closeHalf stream k).inspectChannel n = r.inspectChannel n := by
  unfold Responder.inspectChannel
  rw [Responder.held?_closeHalf]
  cases r.held? n with
  | none => rfl
  | some c =>
    have kept := c.closedAt_kept k n
    simp only [Option.map_some, kept.stream, kept.terminated]

/-- The read of another channel commutes with the end of the half, and its reply is the same. -/
theorem Responder.readChannel_closeHalf (r : Responder) (other : n ≠ k) :
    (r.closeHalf stream k).readChannel n =
      ((r.readChannel n).1.closeHalf stream k, (r.readChannel n).2) := by
  have apart (c : Channel) : c.closedAt k n = c := if_neg (Ne.symm other)
  have applied (r : Responder) (c : Channel) (step : ChannelStep) :
      (r.closeHalf stream k).applyStep n c step = (r.applyStep n c step).closeHalf stream k := by
    have both : (r.closeHalf stream k).applyStep n (c.closedAt k n)
        ⟨step.channel.closedAt k n, step.frames⟩ = (r.applyStep n c step).closeHalf stream k :=
      r.applyStep_closeHalf n c step
    rwa [apart, apart] at both
  unfold Responder.readChannel
  rw [Responder.held?_closeHalf]
  cases r.held? n with
  | none => rfl
  | some c =>
    rw [Option.map_some, apart]
    dsimp only
    rw [show (r.closeHalf stream k).allowance = r.allowance from rfl]
    split
    · exact Prod.ext (applied r.putOff c c.requestFirst) rfl
    · have spent : (if c.isOpen && !c.queue.isEmpty then (r.closeHalf stream k).spend
          else r.closeHalf stream k) =
          (if c.isOpen && !c.queue.isEmpty then r.spend else r).closeHalf stream k := by
        split <;> rfl
      unfold Responder.pollChannel
      dsimp only
      rw [spent, applied]
      cases c.poll.2 <;> rfl

/-- Application code that does not read the channel does not notice the end of the half. -/
theorem Dialogue.run_closeHalf (d : Dialogue ρ) (unread : d.LeavesUnread k) (r : Responder) :
    d.run (r.closeHalf stream k) = ((d.run r).1.closeHalf stream k, (d.run r).2) := by
  induction d generalizing r with
  | answer x => rfl
  | read n next ih =>
    rw [Dialogue.run, Responder.readChannel_closeHalf r unread.1]
    exact ih _ (unread.2 _) _
  | request n demand next ih =>
    rw [Dialogue.run, Responder.requestOnChannel_closeHalf]
    exact ih unread _
  | drop n next ih =>
    rw [Dialogue.run, Responder.dropChannel_closeHalf]
    exact ih unread _
  | keep n next ih =>
    rw [Dialogue.run, Responder.keepChannel_closeHalf]
    exact ih unread _
  | inspect n next ih =>
    rw [Dialogue.run, Responder.inspectChannel_closeHalf]
    exact ih _ (unread _) _

theorem Responder.dropOwnChannel_closeHalf (r : Responder) (channel : Option Nat) :
    (r.closeHalf stream k).dropOwnChannel channel = (r.dropOwnChannel channel).closeHalf stream k := by
  cases channel with
  | none => rfl
  | some n =>
    have holder : ((r.closeHalf stream k).channels[n]?).map Channel.holder =
        (r.channels[n]?).map Channel.holder := by
      show ((r.channels.modify k Channel.closed)[n]?).map Channel.holder = _
      rw [List.getElem?_modify]
      cases r.channels[n]? with
      | none => rfl
      | some c => exact congrArg some (c.closedAt_kept k n).holder
    simp only [Responder.dropOwnChannel, holder]
    split
    · exact r.dropChannel_closeHalf n
    · rfl

theorem Responder.drive_closeHalf (r : Responder) (n : Nat) (on : StreamId) (token : Nat)
    (channel : Option Nat) (panic : Option Panic) (w : ω) :
    Responder.drive n on token channel (r.closeHalf stream k, panic, w) =
      ((Responder.drive n on token channel (r, panic, w)).1.closeHalf stream k,
        (Responder.drive n on token channel (r, panic, w)).2) := by
  cases panic with
  | none => rfl
  | some p =>
    simp only [Responder.drive, Option.isSome_some, if_true, Responder.dropOwnChannel_closeHalf]
    rfl

theorem Registry.registerOutbound_removeInbound (g : Registry Nat Nat) (stream other : StreamId)
    (handle : Nat) :
    ((g.removeInbound stream).1.registerOutbound other handle).1 =
      ((g.registerOutbound other handle).1.removeInbound stream).1 := by
  cases found : g.inbound.find? stream <;> cases taken : g.outbound.contains other <;>
    simp only [Registry.registerOutbound, Registry.removeInbound, Registry.inbound?, found, taken,
      Option.map_some, Option.map_none, if_true, Bool.false_eq_true, if_false]
  -- the gauge goes up and down
  simp only [Registry.mk.injEq, true_and]
  omega

theorem Responder.register_closeHalf (r : Responder) (other : StreamId) (control : Control) :
    ((r.closeHalf stream k).register other control).1 =
      (r.register other control).1.closeHalf stream k := by
  unfold Responder.register Responder.closeHalf
  simp only [Registry.registerOutbound_removeInbound]

/-- A response stream begins as before where the peer's half of its channel has come to its end, if the call
that opens it does not read the channel. -/
theorem Responder.driveStream_closeHalf (r : Responder) (w : ω) {on : StreamId} (demand : UInt32)
    (channel : Option Nat) {openIt : Nat → ω → Dialogue (Option Panic × ω)}
    (free : r.registry.outbound.contains on = false)
    (unread : (openIt r.controls.length w).LeavesUnread k) :
    (r.closeHalf stream k).driveStream w on demand channel openIt =
      ((r.driveStream w on demand channel openIt).1.closeHalf stream k,
        (r.driveStream w on demand channel openIt).2) := by
  have free' : (r.closeHalf stream k).registry.outbound.contains on = false := by
    simpa [Responder.closeHalf] using free
  have issued : (r.closeHalf stream k).registry.issued = r.registry.issued :=
    Registry.issued_removeInbound ..
  rw [Responder.driveStream_free _ w demand channel openIt free',
    Responder.driveStream_free r w demand channel openIt free, issued, Responder.register_closeHalf]
  show Responder.drive _ _ _ _ ((openIt r.controls.length w).run _) = _
  rw [Dialogue.run_closeHalf _ unread]
  exact Responder.drive_closeHalf ..

/-- The frame without the end of the sender's half. -/
def Frame.bare (f : Frame) : Frame := f.withFlags (f.flags.erase .complete)

theorem Frame.isComplete_bare (f : Frame) : f.bare.isComplete = false := by
  have none : f.flags.bits &&& ~~~Flags.complete.bits &&& Flags.complete.bits = 0#10 := by
    rw [BitVec.and_assoc, BitVec.not_and_self]
    exact BitVec.and_zero
  show (f.flags.bits &&& ~~~Flags.complete.bits &&& Flags.complete.bits == Flags.complete.bits) = false
  rw [none]
  rfl

/-- The request opens its channel, which is the newest, under an entry of its own. -/
theorem Responder.openInbound_bare {f : Frame} (settings : Settings) (p : Payload)
    (bare : f.isComplete = false) (free : r.registry.inbound.contains f.stream = false) :
    r.openInbound settings f p = .ok { r with
      registry := { r.registry with
        inbound := r.registry.inbound ++ [⟨f.stream, r.registry.issued, r.channels.length⟩]
        issued := r.registry.issued + 1
        active := r.registry.active + 1 }
      channels := r.channels ++
        [(Channel.new f.stream r.registry.issued settings.initialDemand).push (.next p)] } := by
  simp [Responder.openInbound, Registry.registerInbound, free, bare]

/-- A request that ends the peer's half opens its channel as one that does not, with the end of the half. -/
theorem Responder.openInbound_complete {settings : Settings} {f : Frame} {p : Payload} {opened : Responder}
    (whole : f.isComplete = true) (free : r.registry.inbound.contains f.stream = false)
    (opens : r.openInbound settings f.bare p = .ok opened) :
    r.openInbound settings f p = .ok (opened.closeHalf f.stream r.channels.length) := by
  let registry : Registry Nat Nat :=
    { r.registry with
      inbound := r.registry.inbound ++ [⟨f.stream, r.registry.issued, r.channels.length⟩]
      issued := r.registry.issued + 1
      active := r.registry.active + 1 }
  let channel := (Channel.new f.stream r.registry.issued settings.initialDemand).push (.next p)
  have registered : r.registry.registerInbound f.stream r.channels.length =
      (registry, .ok r.registry.issued) := by
    simp [Registry.registerInbound, free, registry]
  have holds : registry.inbound.holds f.stream r.registry.issued = true := by
    have absent : List.find? (fun e => e.stream = f.stream) r.registry.inbound = none := by
      simpa [Entries.contains] using free
    simp [registry, Entries.holds, Entries.find?, List.find?_append, absent]
  have channels : (r.channels ++ [channel]).modify r.channels.length Channel.closed =
      r.channels ++ [channel.closed] :=
    List.modifyTailIdx_add (List.modifyHead Channel.closed) 0 r.channels [channel]
  rw [Responder.openInbound_bare settings p f.isComplete_bare free, Except.ok.injEq] at opens
  rw [← opens]
  simp only [Responder.openInbound, registered, whole, if_true, Responder.closeHalf,
    Registry.releaseInbound_eq, holds]
  exact congrArg (fun channels => Except.ok { r with
    registry := (registry.removeInbound f.stream).1, channels }) channels.symm

/-- The half of the peer is open under an entry, which is the only one of its stream, until the channel of
the entry terminates. -/
structure Responder.HalfOpen (e : Entry Nat) (r : Responder) : Prop where
  paired : r.Paired
  only : ∀ e' ∈ r.registry.inbound, e'.stream = e.stream → e' = e
  there : ∃ c, r.channels[e.handle]? = some c ∧ (c.terminated = false → e ∈ r.registry.inbound)

variable {e : Entry Nat}

theorem Responder.ChannelMove.inbound_sublist (move : r.ChannelMove r') :
    r'.registry.inbound.Sublist r.registry.inbound := by
  obtain rfl | ⟨n, c, step, xs, applies⟩ := move.applies
  · exact List.Sublist.refl _
  · rw [applies.registry]
    split
    · exact Registry.releaseInbound_sublist ..
    · exact List.Sublist.refl _

theorem Responder.HalfOpen.talk (half : r.HalfOpen e) (moves : r.ChannelMoves r') : r'.HalfOpen e := by
  have converses := Responder.ChannelMoves.converses moves
  have paired : r'.Paired ∧ r'.registry.inbound.Sublist r.registry.inbound := by
    clear converses
    induction moves with
    | refl => exact ⟨half.paired, List.Sublist.refl _⟩
    | tail _ move ih => exact ⟨move.paired ih.1, move.inbound_sublist.trans ih.2⟩
  obtain ⟨c, there, open_⟩ := half.there
  obtain ⟨c', there', _⟩ := converses.channel there
  refine ⟨paired.1, fun e' still => half.only e' (paired.2.subset still), c', there', fun going => ?_⟩
  have live : c.terminated = false := by
    by_contra ended
    have ended' := converses.ended e.handle c c' there there' (by simpa using ended)
    exact Bool.false_ne_true (going.symm.trans ended')
  rcases converses.entry half.paired (open_ live) with still | ⟨_, d, _, hd, _, gone⟩
  · exact still
  · cases there'.symm.trans hd
    exact absurd (going.symm.trans gone) Bool.false_ne_true

theorem Responder.HalfOpen.of_eq (half : r.HalfOpen e) (registry : r'.registry = r.registry)
    (channels : r'.channels = r.channels) : r'.HalfOpen e := by
  refine ⟨half.paired.of_eq (by rw [registry]) (Nat.le_of_eq (by rw [registry])) channels, ?_, ?_⟩
  · rw [registry]
    exact half.only
  · rw [registry, channels]
    exact half.there

theorem Channel.push_of_terminated (s : Signal) (ended : c.terminated = true) : c.push s = c := if_pos ended

/-- The end of the half takes out the entry, if it is still there, and reaches the channel. -/
theorem Responder.HalfOpen.inboundEnd (half : r.HalfOpen e) (s : Signal) :
    r.inboundEnd e.stream s = { r with
      registry := (r.registry.removeInbound e.stream).1
      channels := r.channels.modify e.handle fun c => c.push s } := by
  obtain ⟨c, there, open_⟩ := half.there
  have changed : r.channels.modify e.handle (fun c => c.push s) = r.channels.set e.handle (c.push s) := by
    let _ : Inhabited Channel := ⟨c⟩
    rw [List.modify_eq_set, there, Option.getD_some]
  rw [changed]
  cases live : c.terminated with
  | false =>
    have found : r.registry.inbound.find? e.stream = some e :=
      (Entries.find?_eq_some_iff half.paired.streams).mpr ⟨open_ live, rfl⟩
    simp [Responder.inboundEnd, Registry.removeInbound, Registry.inbound?, found, Responder.signal, there]
  | true =>
    have gone : r.registry.inbound.find? e.stream = none := by
      cases found : r.registry.inbound.find? e.stream with
      | none => rfl
      | some e' =>
        obtain ⟨still, same⟩ := Entries.mem_of_find? found
        obtain ⟨d, hd, _, going⟩ := half.paired.channels e' still
        rw [half.only e' still same, there] at hd
        cases hd
        exact absurd (going.symm.trans live) Bool.false_ne_true
    have same : r.channels.set e.handle c = r.channels := by
      obtain ⟨bound, here⟩ := List.getElem?_eq_some_iff.mp there
      rw [← here, List.set_getElem_self]
    rw [Responder.inboundEnd, Registry.removeInbound_of_none gone, Channel.push_of_terminated s live, same]

theorem Responder.Paired.openInbound_halfOpen {settings : Settings} {f : Frame} {p : Payload}
    {opened : Responder} (paired : r.Paired) (bare : f.isComplete = false)
    (free : r.registry.inbound.contains f.stream = false) (opens : r.openInbound settings f p = .ok opened) :
    opened.HalfOpen ⟨f.stream, r.registry.issued, r.channels.length⟩ := by
  have paired := paired.openInbound opens
  rw [Responder.openInbound_bare settings p bare free, Except.ok.injEq] at opens
  rw [← opens] at paired ⊢
  refine ⟨paired, fun e there same => ?_, _, List.getElem?_concat_length, fun _ => ?_⟩
  · rcases List.mem_append.mp there with old | new
    · have absent : ∀ e ∈ r.registry.inbound, e.stream ≠ f.stream := by simpa [Entries.contains] using free
      exact absurd same (absent e old)
    · exact List.mem_singleton.mp new
  · exact List.mem_append_right _ (List.mem_singleton.mpr rfl)

theorem Responder.HalfOpen.register (half : r.HalfOpen e) (stream : StreamId) (control : Control) :
    (r.register stream control).1.HalfOpen e := by
  have inbound : (r.register stream control).1.registry.inbound = r.registry.inbound := by
    simp only [Responder.register, Registry.registerOutbound]
    split <;> rfl
  refine ⟨half.paired.register stream control, ?_, ?_⟩
  · rw [inbound]
    exact half.only
  · rw [inbound]
    exact half.there

/-- The half stays open while the response stream of the channel begins. -/
theorem Responder.HalfOpen.driveStream (half : r.HalfOpen e) (w : ω) {on : StreamId} (demand : UInt32)
    (channel : Option Nat) (openIt : Nat → ω → Dialogue (Option Panic × ω))
    (free : r.registry.outbound.contains on = false) :
    (r.driveStream w on demand channel openIt).1.HalfOpen e := by
  rw [r.driveStream_free w demand channel openIt free]
  have talked := (half.register on (.stream false (Demand.new.grant (creditOfDemand demand)))).talk
    ((openIt r.controls.length w).run_moves _)
  generalize (openIt r.controls.length w).run _ = answer at talked ⊢
  obtain ⟨r1, panic, w1⟩ := answer
  cases panic with
  | none => exact talked.of_eq rfl rfl
  | some p => exact (talked.talk (r1.dropOwnChannel_moves channel)).of_eq rfl rfl

/-- A request for a channel that ends the peer's half does what the request does without that, followed by
the end. -/
theorem Responder.requestChannel_complete {settings : Settings} (standard : settings.reader = .standard)
    (app : Application ω) (w : ω) (paired : r.Paired) {f : Frame} (kind : f.kind = .requestChannel)
    (whole : f.isComplete = true) (outbound : r.registry.outbound.contains f.stream = false)
    (inbound : r.registry.inbound.contains f.stream = false)
    (unread : (app.openChannel r.controls.length f.stream r.channels.length w).LeavesUnread
      r.channels.length) :
    let whole := r.requestChannel w settings app f
    let parts := r.requestChannel w settings app f.bare
    whole = ((parts.1.inboundEnd f.stream .complete).unask r.channels.length, parts.2) ∧
      ∃ c, whole.1.channels[r.channels.length]? = some c ∧ c.initialDemand = 0 := by
  have read (g : Frame) (carried : g.kind = .requestChannel) (r : Responder) :
      r.readRequest settings g = .ok ⟨g.data, g.metadata⟩ := by
    simp [Responder.readRequest, standard, PayloadReader.standard, carried, FrameKind.carriesPayload]
  have same : (⟨f.bare.data, f.bare.metadata⟩ : Payload) = ⟨f.data, f.metadata⟩ := rfl
  obtain ⟨opened, opens⟩ : ∃ opened, r.openInbound settings f.bare ⟨f.data, f.metadata⟩ = .ok opened :=
    ⟨_, Responder.openInbound_bare settings _ f.isComplete_bare inbound⟩
  have half := paired.openInbound_halfOpen f.isComplete_bare inbound opens
  have opens' := Responder.openInbound_complete whole inbound opens
  have kept := (Responder.AsideMove.openInbound opens).keepsTasks
  have free : opened.registry.outbound.contains f.stream = false := kept.outbound ▸ outbound
  have controls : opened.controls = r.controls := kept.controls
  unfold Responder.requestChannel
  simp only [outbound, inbound, read f kind, read f.bare kind, same, opens, opens', Bool.or_false,
    Bool.false_eq_true, if_false, show f.bare.stream = f.stream from rfl,
    show f.bare.demand = f.demand from rfl]
  rw [Responder.driveStream_closeHalf opened w f.demand _ free (by rw [controls]; exact unread)]
  have driven := half.driveStream w f.demand (some r.channels.length)
    (fun n w => app.openChannel n f.stream r.channels.length w) free
  have ended : (opened.driveStream w f.stream f.demand (some r.channels.length)
      (fun n w => app.openChannel n f.stream r.channels.length w)).1.inboundEnd f.stream .complete = _ :=
    driven.inboundEnd .complete
  rw [ended]
  constructor
  · simp only [Responder.closeHalf, Responder.unask, List.modify_modify_eq]
    rfl
  · obtain ⟨c, there, _⟩ := driven.there
    refine ⟨c.closed, ?_, rfl⟩
    rw [Responder.closeHalf, List.getElem?_modify, there]
    simp

theorem Responder.signal_registry (r : Responder) (registry : Registry Nat Nat) (n : Nat) (s : Signal) :
    { r with registry }.signal n s = { r.signal n s with registry } := by
  unfold Responder.signal
  dsimp only
  cases r.channels[n]? <;> rfl

/-- A payload with the end of the peer's half is delivered as the payload, followed by the end. -/
theorem Responder.inboundNextComplete_eq {settings : Settings} (standard : settings.reader = .standard)
    (r : Responder) (stream : StreamId) (p : Payload) :
    r.inboundNextComplete settings (.nextComplete stream p) =
      (r.inboundNext settings (.next stream p)).inboundEnd stream .complete := by
  have read (kind : FrameKind) (carries : kind.carriesPayload = true) :
      settings.reader (.ofPayload stream kind p) = .ok p := by
    obtain ⟨flags, eq⟩ := Frame.ofPayload_eq stream kind p
    rw [standard, eq, PayloadReader.standard, if_pos carries]
  have on (kind : FrameKind) : (Frame.ofPayload stream kind p).stream = stream := by
    obtain ⟨flags, eq⟩ := Frame.ofPayload_eq stream kind p
    rw [eq]
  unfold Responder.inboundNextComplete Responder.inboundNext Responder.deliver Frame.nextComplete Frame.next
  rw [read .nextComplete rfl, read .next rfl, on, on]
  cases found : r.registry.inbound? stream with
  | none => simp [Responder.inboundEnd, Registry.removeInbound, found]
  | some n =>
    have same : (r.signal n (.next p)).registry = r.registry := by
      unfold Responder.signal
      split <;> rfl
    simp [Responder.inboundEnd, Registry.removeInbound, same, found, Responder.signal_registry]

theorem Channel.Change.initialDemand {c' : Channel} (change : c.Change c') :
    c'.initialDemand = c.initialDemand := by
  cases change with
  | push s => exact (c.push_asksBy s).demand
  | cancel => exact (c.perform_asksBy .cancel).demand
  | @use step xs held used =>
    obtain ⟨op, performed⟩ := used.performed
    have asked := (c.perform_asksBy op).demand
    rwa [performed] at asked

theorem Channel.Course.initialDemand {c' : Channel} (course : c.Course c') :
    c'.initialDemand = c.initialDemand := by
  induction course with
  | refl => rfl
  | tail _ change ih => exact change.initialDemand.trans ih

/-- The end of a half counts as a frame, whenever it is counted. -/
theorem Responder.inboundEnd_counted (r : Responder) (stream : StreamId) (s : Signal) :
    { r with metrics := r.metrics.frameReceived }.inboundEnd stream s =
      { r.inboundEnd stream s with metrics := (r.inboundEnd stream s).metrics.frameReceived } := by
  unfold Responder.inboundEnd Responder.signal
  dsimp only
  obtain ⟨registry, found⟩ := r.registry.removeInbound stream
  cases found with
  | none => rfl
  | some n =>
    dsimp only
    cases r.channels[n]? <;> rfl

theorem Responder.dispatch_complete (r : Responder) (w : ω) (settings : Settings) (app : Application ω)
    (stream : StreamId) :
    r.dispatch w settings app (.complete stream) =
      ⟨{ r.inboundEnd stream .complete with
          metrics := (r.inboundEnd stream .complete).metrics.frameReceived }, w, none⟩ := by
  rw [← Responder.inboundEnd_counted]
  rfl

theorem Responder.dispatch_next (r : Responder) (w : ω) (settings : Settings) (app : Application ω)
    (stream : StreamId) (p : Payload) :
    r.dispatch w settings app (.next stream p) =
      ⟨{ r with metrics := r.metrics.frameReceived }.inboundNext settings (.next stream p), w, none⟩ := by
  simp only [Responder.dispatch, Frame.kind_next]

theorem Responder.dispatch_nextComplete (r : Responder) (w : ω) {settings : Settings}
    (standard : settings.reader = .standard) (app : Application ω) (stream : StreamId) (p : Payload) :
    r.dispatch w settings app (.nextComplete stream p) =
      ⟨({ r with metrics := r.metrics.frameReceived }.inboundNext settings (.next stream p)).inboundEnd stream
        .complete, w, none⟩ := by
  simp only [Responder.dispatch, Frame.kind_nextComplete, Responder.inboundNextComplete_eq standard]

theorem Responder.dispatch_requestChannel (r : Responder) (w : ω) (settings : Settings)
    (app : Application ω) {f : Frame} (kind : f.kind = .requestChannel) :
    r.dispatch w settings app f =
      let answer := { r with metrics := r.metrics.frameReceived }.requestChannel w settings app f
      ⟨answer.1, answer.2, none⟩ := by
  simp only [Responder.dispatch, kind]

/-- A frame that combines two does what the two do one right after the other, but that it counts as one. So
it is with the last payload of a channel and its end, whether or not there is such a channel; and with a
request for a channel that ends the peer's half at once, if the call that opens the response stream does not
read the channel, whatever else it does and however it ends. The channel of this request never asks for
payloads by itself. -/
theorem Responder.combined_frames (settings : Settings) (standard : settings.reader = .standard)
    (app : Application ω) (as : List (Action ω)) (start : ω) :
    let r := (Responder.run settings app as (Responder.start, start)).1
    ∀ w : ω,
      (∀ stream p,
        let whole := r.dispatch w settings app (.nextComplete stream p)
        let first := r.dispatch w settings app (.next stream p)
        let last := first.responder.dispatch first.world settings app (.complete stream)
        whole.panic = none ∧ first.panic = none ∧ last.panic = none ∧ last.world = whole.world ∧
          last.responder = { whole.responder with metrics := whole.responder.metrics.frameReceived }) ∧
      (∀ f : Frame, f.kind = .requestChannel → f.isComplete = true →
        r.registry.outbound.contains f.stream = false → r.registry.inbound.contains f.stream = false →
        (app.openChannel r.controls.length f.stream r.channels.length w).LeavesUnread r.channels.length →
        let whole := r.dispatch w settings app f
        let first := r.dispatch w settings app f.bare
        let last := first.responder.dispatch first.world settings app (.complete f.stream)
        whole.panic = none ∧ first.panic = none ∧ last.panic = none ∧ last.world = whole.world ∧
          last.responder.unask r.channels.length =
            { whole.responder with metrics := whole.responder.metrics.frameReceived } ∧
          ∀ later, whole.responder.Moves (fun _ => True) later →
            ∀ c, later.channels[r.channels.length]? = some c → c.requestFirst = ⟨c, []⟩) := by
  intro r w
  have paired : Responder.Paired { r with metrics := r.metrics.frameReceived } :=
    (Responder.paired_run settings app start as).of_eq rfl (Nat.le_refl _) rfl
  constructor
  · intro stream p whole first last
    have combined : whole = _ := r.dispatch_nextComplete w standard app stream p
    have begun : first = _ := r.dispatch_next w settings app stream p
    have ended : last = _ := Responder.dispatch_complete ..
    rw [ended, combined, begun]
    exact ⟨rfl, rfl, rfl, rfl, rfl⟩
  · intro f kind complete outbound inbound unread whole first last
    obtain ⟨parts, c, there, silent⟩ :=
      Responder.requestChannel_complete standard app w paired kind complete outbound inbound unread
    have combined : whole = _ := r.dispatch_requestChannel w settings app kind
    have begun : first = _ := r.dispatch_requestChannel w settings app (f := f.bare) kind
    have ended : last = _ := Responder.dispatch_complete ..
    have asksNot : ∀ later, whole.responder.Moves (fun _ => True) later →
        ∀ c, later.channels[r.channels.length]? = some c → c.requestFirst = ⟨c, []⟩ := by
      intro later moves c' there'
      rw [combined] at moves
      obtain ⟨_, here, course⟩ := moves.hosts.old _ c there
      cases here.symm.trans there'
      have none : c'.initialDemand = 0 := course.initialDemand.trans silent
      exact if_pos (.inr none)
    refine ⟨?_, ?_, ?_, ?_, ?_, asksNot⟩ <;> simp only [ended, combined, begun, parts]
    rfl

/-- A request for a channel ends the peer's half, and its response stream keeps the channel. -/
theorem Responder.keeper_combined_frames :
    let f := (Frame.requestChannel (.ofNat 7) 5 .empty).withFlags .complete
    let first := Responder.start.dispatch () .standard keeper f.bare
    let last := first.responder.dispatch () .standard keeper (.complete (.ofNat 7))
    let whole := Responder.start.dispatch () .standard keeper f
    first.responder.registry.inbound.length = 1 ∧ whole.responder.registry.inbound = [] ∧
      whole.responder.channels.map Channel.queue = [[.next .empty, .complete]] ∧
      last.responder.unask 0 =
        { whole.responder with metrics := whole.responder.metrics.frameReceived } := by
  intro f first last whole
  have combined := (Responder.combined_frames .standard rfl keeper [] () ()).2 f rfl (by decide) (by decide)
    (by decide) trivial
  exact ⟨by decide, by decide, by decide, combined.2.2.2.2.1⟩

end Multiplexer
