import Multiplexer.Proofs.Deliveries
import Multiplexer.Proofs.RequestChannel

/-!
Delivery of what a peer sends on a channel: the payloads reach the application in the order of their frames,
each once, until the peer's half ends or the channel is cancelled or dropped.
-/

namespace Multiplexer

variable {ω : Type} {m : Nat} {r r' : Responder} {told : List Signal}

theorem Responder.Hosts.length_le (h : r.Hosts r') : r.channels.length ≤ r'.channels.length := by
  by_contra fewer
  have bound : r'.channels.length < r.channels.length := Nat.lt_of_not_le fewer
  obtain ⟨c', hc', _⟩ := h.old _ _ (List.getElem?_eq_getElem bound)
  exact Nat.lt_irrefl _ (List.getElem?_eq_some_iff.mp hc').1

/-- Nothing has happened on channels that have not been opened. -/
def Responder.Numbered (r : Responder) : Prop :=
  ∀ e ∈ r.history, ∀ n, e.channel? = some n → n < r.channels.length

theorem Responder.Moves.numbered {allowed : Label → Prop} (moves : r.Moves allowed r') :
    r.Numbered → r'.Numbered := by
  refine Responder.Moves.tells (R := fun r r' => r.Numbered → r'.Numbered)
    (fun first next h => next (first h)) ?_ ?_ moves
  · intro r r' move h
    obtain rfl | ⟨n, c, step, xs, changes⟩ := move.changes
    · exact h
    · obtain ⟨registry, allowance, _, _, rfl⟩ := changes.rest
      intro e he m on
      rw [List.length_set]
      rcases List.mem_append.mp he with early | late
      · exact h e early m on
      · rw [(ChannelStep.channel_events late).1] at on
        cases on
        exact (List.getElem?_eq_some_iff.mp changes.held).1
  · intro r r' events hosts history elsewhere h e he m on
    rw [history] at he
    rcases List.mem_append.mp he with early | late
    · exact Nat.lt_of_lt_of_le (h e early m on) hosts.length_le
    · rw [elsewhere e late] at on
      cases on

theorem Responder.Numbered.yieldedBy (h : r.Numbered) : yieldedBy r.channels.length r.history = [] :=
  yieldedBy_eq_nil fun e he on => Nat.lt_irrefl _ (h e he _ on)

theorem Channel.follows_new (stream : StreamId) (token : Nat) (demand : UInt32) :
    (Channel.new stream token demand).Follows [] [] :=
  ⟨by simp, List.prefix_rfl, fun _ _ => ⟨[], rfl, rfl, by simp⟩, nofun⟩

/-- A channel that is opened has been told what the request says, and keeps its entry if that is not all. -/
theorem Responder.openInbound_feeds {settings : Settings} {f : Frame} {p : Payload} (paired : r.Paired)
    (numbered : r.Numbered) (readable : settings.reader f = .ok p)
    (opened : r.openInbound settings f p = .ok r') :
    Responder.Feeds r.channels.length (f.firstSignals settings) r' := by
  have nothing := numbered.yieldedBy
  have payload : f.payloadSignal settings = [.next p] := by simp only [Frame.payloadSignal, readable]
  have first (token : Nat) (demand : UInt32) :
      ((Channel.new f.stream token demand).push (.next p)).Follows [.next p] [] :=
    (Channel.follows_new f.stream token demand).push rfl (by simp) (.next p)
  simp only [Responder.openInbound, Registry.registerInbound] at opened
  cases taken : r.registry.inbound.contains f.stream with
  | true => simp [taken] at opened
  | false =>
    simp only [taken, Bool.false_eq_true, if_false] at opened
    split at opened
    next complete =>
      cases opened
      have all := (first r.registry.issued 0).push rfl (by simp [Signal.isLast]) .complete
      rw [Frame.firstSignals, payload, if_pos complete]
      refine ⟨⟨_, List.getElem?_concat_length, ?_⟩, ?_⟩
      · show Channel.Follows _ (Multiplexer.yieldedBy r.channels.length r.history) _
        rw [nothing]
        exact all
      · rintro ⟨e, he, handle⟩
        -- the entry has been released at once, and older entries are those of older channels
        have old := (Registry.releaseInbound_new rfl taken).subset he
        have bound : e.handle < r.channels.length :=
          Responder.Registered.lt ⟨e, old, rfl⟩ paired
        exact absurd handle (Nat.ne_of_lt bound)
    next going =>
      cases opened
      rw [Frame.firstSignals, payload, if_neg going]
      refine ⟨⟨_, List.getElem?_concat_length, ?_⟩, fun _ => by simp [Signal.isLast]⟩
      show Channel.Follows _ (Multiplexer.yieldedBy r.channels.length r.history) _
      rw [nothing]
      exact first r.registry.issued settings.initialDemand

theorem Responder.Accepts.feeds {settings : Settings} {app : Application ω} {s : Responder × ω}
    {f : Frame} (h : s.1.Linked) (paired : s.1.Paired) (numbered : s.1.Numbered)
    (kind : f.kind = .requestChannel) (accepted : Responder.Accepts settings app s f) :
    Responder.Feeds s.1.channels.length (f.firstSignals settings)
      (Responder.step settings app (.receive (.item (.ok f))) s).1 := by
  obtain ⟨p, opened, readable, open_, eq⟩ := accepted.opens h kind
  have ready : s.1.ready.Paired := paired.of_eq rfl (Nat.le_refl _) rfl
  have feeds : Responder.Feeds s.1.channels.length (f.firstSignals settings) opened :=
    Responder.openInbound_feeds (r := s.1.ready) ready numbered readable open_
  have running : opened.shutdown = false :=
    (Responder.AsideMove.keepsTasks (.openInbound open_)).shutdown.trans (accepted.listens h).2
  have moves : opened.Moves (fun _ => True)
      (Responder.step settings app (.receive (.item (.ok f))) s).1 := by
    rw [eq]
    exact Responder.driveStream_moves s.2 f.stream f.demand _ _ trivial trivial running
  refine ⟨?_, fun there => feeds.going ?_⟩
  · rw [eq]
    exact (opened.driveStream_passes s.2 f.stream f.demand _ _).followed feeds.followed
  · exact moves.registered (ready.openInbound open_) feeds.known there

/-- A read within the allowance finds the first thing that the channel has not yielded. -/
theorem Responder.Followed.read {c : Channel} (h : Responder.Followed m told r)
    (held : r.held? m = some c) (uncancelled : c.cancelled = false)
    (allowed : r.allowance.isSpent = false) :
    (r.readChannel m).2 = some (if c.terminated = true then .finished
      else Signal.receipt told[(yieldedBy m r.history).length]?) := by
  obtain ⟨d, hd, follows⟩ := h
  cases (Responder.channel_of_held held).symm.trans hd
  have poll := follows.poll.2 uncancelled
  simp only [Responder.readChannel, held, allowed, Bool.and_false, Bool.false_eq_true, if_false]
  rw [← poll]
  rfl

theorem Channel.poll_finished {c : Channel} (finished : c.poll.2 = .finished) :
    c.poll.1.channel.terminated = true := by
  unfold Channel.poll at finished ⊢
  split
  next stopped => exact stopped
  next live =>
    rw [if_neg live] at finished
    split
    · rfl
    next uncancelled =>
      rw [if_neg uncancelled] at finished
      dsimp only at finished ⊢
      unfold Channel.takeSignal at finished ⊢
      split at finished
      · cases finished
      · cases finished
      · cases finished
      all_goals rfl

theorem Channel.Course.lost {c c' : Channel} (course : c.Course c') (gone : c.holder = .nobody) :
    c'.holder = .nobody := by
  induction course with
  | refl => exact gone
  | tail _ change ih =>
    cases change with
    | push s => exact (Channel.push_flags _ s).2.2.trans ih
    | cancel => exact (Channel.cancel_flags _).2.2.trans ih
    | use held used => exact absurd ih held

theorem Responder.Hosts.before {c' : Channel} (h : r.Hosts r') (known : m < r.channels.length)
    (there : r'.channels[m]? = some c') (held : c'.holder ≠ .nobody)
    (uncancelled : c'.cancelled = false) :
    ∃ c, r.channels[m]? = some c ∧ r.held? m = some c ∧ c.cancelled = false ∧
      (c.terminated = true → c'.terminated = true) := by
  have hc : r.channels[m]? = some r.channels[m] := List.getElem?_eq_getElem known
  obtain ⟨d, hd, course⟩ := h.old m _ hc
  cases hd.symm.trans there
  refine ⟨_, hc, ?_, ?_, course.flags.1⟩
  · rw [Responder.held?, hc, Option.filter_some, if_pos]
    simpa using fun gone => held (course.lost gone)
  · by_contra cancelled
    rw [course.flags.2 (by simpa using cancelled)] at uncancelled
    cases uncancelled

/-- A read of its own that finds a channel open yields one item more, or the channel ends, or it has
yielded all that it has been told. -/
theorem Responder.Feeds.read {s : Responder × ω} (h : Responder.Feeds m told s.1)
    (settings : Settings) (app : Application ω) {c : Channel} (held : s.1.held? m = some c)
    (uncancelled : c.cancelled = false) :
    let r' := (Responder.step settings app (.read m) s).1
    (∃ c', r'.channels[m]? = some c' ∧ c'.terminated = true) ∨
      (yieldedBy m r'.history).length = (yieldedBy m s.1.history).length + 1 ∨
      told.length ≤ (yieldedBy m s.1.history).length := by
  intro r'
  have there := Responder.channel_of_held held
  have poll : r' = (s.1.beginTurn.pollChannel m c).1 := by
    show (s.1.beginTurn.readChannel m).1 = _
    have held' : s.1.beginTurn.held? m = some c := held
    have allowed : s.1.beginTurn.allowance.isSpent = false := rfl
    simp only [Responder.readChannel, held', allowed, Bool.and_false, Bool.false_eq_true, if_false]
  have changes := Responder.pollChannel_changes (r := s.1.beginTurn) there
  rw [← poll] at changes
  obtain ⟨registry, allowance, _, _, rest⟩ := changes.rest
  have here : r'.channels[m]? = some c.poll.1.channel := by
    rw [rest]
    exact List.getElem?_set_self (List.getElem?_eq_some_iff.mp there).1
  have yields : yieldedBy m r'.history = yieldedBy m s.1.history ++ c.poll.2.items := by
    rw [rest]
    show yieldedBy m (s.1.history ++ _) = _
    rw [yieldedBy_append, ChannelStep.yieldedBy_events]
  obtain ⟨d, hd, follows⟩ := h.followed
  cases there.symm.trans hd
  have receipt := follows.poll.2 uncancelled
  cases read : c.poll.2 with
  | finished => exact .inl ⟨_, here, Channel.poll_finished read⟩
  | item x =>
    rw [yields, read]
    exact .inr (.inl (List.length_append ..))
  | pending =>
    right
    right
    rw [read] at receipt
    split at receipt
    · cases receipt
    · refine List.getElem?_eq_none_iff.mp ?_
      unfold Signal.receipt at receipt
      split at receipt
      next nothing => exact nothing
      all_goals cases receipt

/-- The action is a read of channel `m`. -/
def Action.reads (m : Nat) : Action ω → Bool
  | .read n => n = m
  | _ => false

theorem Action.reads_eq_true {a : Action ω} (reads : Action.reads m a = true) : a = .read m := by
  cases a with
  | read n =>
    obtain rfl : n = m := of_decide_eq_true reads
    rfl
  | _ => cases reads

theorem Responder.yieldedBy_step_le {s : Responder × ω} (linked : s.1.Linked) (settings : Settings)
    (app : Application ω) (a : Action ω) : (yieldedBy m s.1.history).length ≤
      (yieldedBy m (Responder.step settings app a s).1.history).length := by
  obtain ⟨events, history, _⟩ := Responder.Moves.relays (linked.step_moves settings app a)
  rw [history, yieldedBy_append, List.length_append]
  exact Nat.le_add_right _ _

/-- Each read of a channel yields one item more until all is yielded that the channel has been told. -/
theorem Responder.Feeds.progress {s : Responder × ω} (h : Responder.Feeds m told s.1)
    (linked : s.1.Linked) (paired : s.1.Paired) (settings : Settings) (app : Application ω)
    (as : List (Action ω)) (own : ∀ x, .signal m x ∉ as) {c' : Channel}
    (there : (Responder.run settings app as s).1.channels[m]? = some c')
    (held : c'.holder ≠ .nobody) (uncancelled : c'.cancelled = false)
    (going : c'.terminated = false) :
    min ((yieldedBy m s.1.history).length + as.countP (Action.reads m)) told.length ≤
      (yieldedBy m (Responder.run settings app as s).1.history).length := by
  induction as generalizing s told with
  | nil => exact Nat.min_le_left _ _
  | cons a as ih =>
    have moves := linked.step_moves settings app a
    have linked' := moves.linked linked
    have next := h.step linked paired settings app a fun x eq => own x (eq ▸ List.mem_cons_self)
    have later := ih next linked' (Responder.Moves.paired moves paired)
      (fun x there => own x (List.mem_cons_of_mem _ there)) there
    rw [List.length_append] at later
    have more := Responder.yieldedBy_step_le (m := m) linked settings app a
    cases reads : Action.reads m a with
    | false =>
      rw [List.countP_cons_of_neg (by simp [reads])]
      exact Nat.le_trans (by omega) later
    | true =>
      rw [List.countP_cons_of_pos reads]
      obtain rfl := Action.reads_eq_true reads
      obtain ⟨c, hc, held, uncancelled, _⟩ := Responder.Hosts.before
        ((linked.run_moves settings app (.read m :: as)).hosts) h.known there held uncancelled
      rcases h.read settings app held uncancelled with ⟨d, hd, stopped⟩ | one | all
      · -- a channel that has ended stays so
        obtain ⟨d', hd', course⟩ := (linked'.run_moves settings app as).hosts.old m d hd
        cases hd'.symm.trans there
        rw [course.flags.1 stopped] at going
        cases going
      · exact Nat.le_trans (by omega) later
      · exact Nat.le_trans (by omega) later

theorem Channel.Course.closed {c c' : Channel} (course : c.Course c') (closed : c.isOpen = false) :
    c'.isOpen = false := by
  unfold Channel.isOpen at closed ⊢
  cases stopped : c.terminated with
  | true => simp [course.flags.1 stopped]
  | false =>
    have cancelled : c.cancelled = true := by simpa [stopped] using closed
    simp [course.flags.2 cancelled]

theorem Channel.Use.mute {asking : Prop} {c : Channel} {step : ChannelStep} {xs : List Item}
    (used : c.Use asking step xs) (closed : c.isOpen = false) : xs = [] := by
  cases used with
  | poll =>
    unfold Channel.poll
    split
    · rfl
    next live =>
      have cancelled : c.cancelled = true := by simpa [Channel.isOpen, live] using closed
      rw [if_pos cancelled]
      rfl
  | _ => rfl

/-- Channel `m` yields nothing between two states if it has been closed before. -/
structure Responder.Mutes (m : Nat) (r r' : Responder) : Prop where
  hosts : r.Hosts r'
  silent : ∀ c, r.channels[m]? = some c → c.isOpen = false →
    yieldedBy m r'.history = yieldedBy m r.history

theorem Responder.ChannelMove.mutes (move : r.ChannelMove r') : Responder.Mutes m r r' := by
  refine ⟨move.hosts, fun c hc closed => ?_⟩
  obtain rfl | ⟨n, d, step, xs, held, used, applies⟩ := move.touch.uses
  · rfl
  · obtain ⟨there, _, registry, allowance, _, _, rest⟩ := applies.changes
    have history : r'.history = r.history ++ step.events n xs := by rw [rest]
    have nothing : yieldedBy m (step.events n xs) = [] := by
      by_cases own : n = m
      · subst own
        cases there.symm.trans hc
        rw [ChannelStep.yieldedBy_events, used.mute closed]
      · refine yieldedBy_eq_nil fun e he => ?_
        rw [(ChannelStep.channel_events he).1]
        exact fun eq => own (Option.some.inj eq)
    rw [history, yieldedBy_append, nothing, List.append_nil]

theorem Responder.Moves.mutes {allowed : Label → Prop} (moves : r.Moves allowed r') :
    Responder.Mutes m r r' := by
  refine Responder.Moves.tells (R := Responder.Mutes m) ?_ Responder.ChannelMove.mutes ?_ moves
  · intro r r' r'' first next
    refine ⟨first.hosts.trans next.hosts, fun c hc closed => ?_⟩
    obtain ⟨c', hc', course⟩ := first.hosts.old m c hc
    exact (next.silent c' hc' (course.closed closed)).trans (first.silent c hc closed)
  · intro r r' events hosts history elsewhere
    have nothing : yieldedBy m events = [] :=
      yieldedBy_eq_nil fun e he => by rw [elsewhere e he]; exact nofun
    exact ⟨hosts, fun _ _ _ => by rw [history, yieldedBy_append, nothing, List.append_nil]⟩

/-- What a channel has yielded once it has been read as often as it has been told something: everything,
and it has come to its end if it has been told so. -/
theorem Channel.Follows.caught_up {c : Channel} {more : List Signal} {ys : List Item}
    (h : c.Follows (told ++ more) ys) (held : c.holder ≠ .nobody) (uncancelled : c.cancelled = false)
    (enough : c.terminated = false → told.length ≤ ys.length) :
    told.filterMap Signal.item? <+: ys ∧
      ((∃ x ∈ told, x.isLast = true) → c.terminated = true ∧ ys = told.filterMap Signal.item?) := by
  cases stopped : c.terminated with
  | true =>
    obtain ⟨all, _⟩ := h.ended stopped uncancelled held
    rw [List.filterMap_append] at all
    refine ⟨all ▸ List.prefix_append _ _, ?_⟩
    rintro ⟨x, there, last⟩
    -- nothing is told after a last signal
    have nothing : more = [] := by
      by_contra something
      have early : x ∈ (told ++ more).dropLast := by
        rw [List.dropLast_append_of_ne_nil something]
        exact List.mem_append_left _ there
      rw [h.single x early] at last
      cases last
    subst nothing
    exact ⟨rfl, by simpa using all⟩
  | false =>
    obtain ⟨taken, split, yielded, fine⟩ := h.waits stopped uncancelled
    have length : ys.length = taken.length := by rw [yielded, Signal.length_items fine]
    have head : told <+: taken := by
      have whole : taken <+: told ++ more := split ▸ List.prefix_append _ _
      exact List.prefix_of_prefix_length_le (List.prefix_append _ _) whole (length ▸ enough stopped)
    refine ⟨yielded ▸ head.filterMap _, ?_⟩
    rintro ⟨x, there, last⟩
    rw [fine x (head.subset there)] at last
    cases last

/-- What an accepted request and the frames after it tell the channel of the request, it yields in this
order, each thing once. Nothing is told after the end of the peer's half, for the channel has no entry any
more. Each read of the channel that the allowance permits finds the next thing; whoever reads often
enough has all of it, and then the end. A channel that has come to its end or has been cancelled yields
nothing more. -/
theorem Responder.inbound_delivery (settings : Settings) (app : Application ω) (w : ω)
    (before after : List (Action ω)) (f : Frame) (kind : f.kind = .requestChannel)
    (accepted : Responder.Accepts settings app
      (Responder.run settings app before (Responder.start, w)) f)
    (own : ∀ x, .signal (Responder.run settings app before (Responder.start, w)).1.channels.length x ∉
      after) :
    let s := Responder.run settings app before (Responder.start, w)
    let m := s.1.channels.length
    let s' := Responder.step settings app (.receive (.item (.ok f))) s
    let now := Responder.run settings app after s'
    let yielded := yieldedBy m now.1.history
    ∃ p, settings.reader f = .ok p ∧
      let told := .next p :: (if f.isComplete then [.complete] else []) ++
        Responder.heard settings app m after s'
      yielded <+: told.filterMap Signal.item? ∧
      (∀ x ∈ told.dropLast, x.isLast = false) ∧
      ((∃ x ∈ told, x.isLast = true) → ∀ stream, now.1.registry.inbound? stream ≠ some m) ∧
      (∀ r c, now.1.beginTurn.ChannelMoves r → r.held? m = some c → c.cancelled = false →
        r.allowance.isSpent = false →
        (r.readChannel m).2 = some (if c.terminated = true then .finished
          else Signal.receipt told[(yieldedBy m r.history).length]?)) ∧
      (∀ more c, (∀ x, .signal m x ∉ more) →
        let r := (Responder.run settings app more now).1
        r.channels[m]? = some c → c.holder ≠ .nobody → c.cancelled = false →
        told.length ≤ yielded.length + more.countP (Action.reads m) →
        told.filterMap Signal.item? <+: yieldedBy m r.history ∧
          ((∃ x ∈ told, x.isLast = true) →
            c.terminated = true ∧ yieldedBy m r.history = told.filterMap Signal.item?)) ∧
      ∀ more c, now.1.channels[m]? = some c → c.isOpen = false →
        yieldedBy m (Responder.run settings app more now).1.history = yielded := by
  intro s m s' now yielded
  have linked : s.1.Linked := Responder.linked_start.run settings app before
    (s := (Responder.start, w))
  have paired : s.1.Paired := Responder.paired_run settings app w before
  have numbered : s.1.Numbered :=
    (Responder.linked_start.run_moves settings app before (s := (Responder.start, w))).numbered
      fun _ he => absurd he List.not_mem_nil
  have moves := linked.step_moves settings app (.receive (.item (.ok f)))
  have linked' : s'.1.Linked := moves.linked linked
  have paired' : s'.1.Paired := Responder.Moves.paired moves paired
  obtain ⟨p, _, readable, _⟩ := accepted.opens linked kind
  have first := accepted.feeds linked paired numbered kind
  have later : Responder.Feeds m _ now.1 := first.run linked' paired' settings app after own
  have opening : f.firstSignals settings = .next p :: if f.isComplete then [.complete] else [] := by
    simp only [Frame.firstSignals, Frame.payloadSignal, readable, List.singleton_append]
  rw [opening] at later
  refine ⟨p, readable, ?_⟩
  intro told
  have feeds : Responder.Feeds m told now.1 := later
  have run := linked'.run_moves settings app after
  have linked'' : now.1.Linked := run.linked linked'
  have paired'' : now.1.Paired := Responder.Moves.paired run paired'
  obtain ⟨c, hc, follows⟩ := feeds.followed
  refine ⟨follows.yields, follows.single, ?_, ?_, ?_, ?_⟩
  · rintro ⟨x, there, last⟩ stream found
    rw [feeds.going (Responder.registered_of_found found) x there] at last
    cases last
  · intro r c talked held uncancelled allowed
    have begun : Responder.Followed m told now.1.beginTurn := feeds.followed
    have followed : Responder.Followed m told r :=
      (Responder.ChannelMoves.passes talked).followed begun
    exact followed.read held uncancelled allowed
  · intro more c apart r there held uncancelled enough
    have fed := feeds.run linked'' paired'' settings app more apart
    obtain ⟨d, hd, follows⟩ := fed.followed
    cases hd.symm.trans there
    refine follows.caught_up held uncancelled fun going => ?_
    have progress := feeds.progress linked'' paired'' settings app more apart there held uncancelled
      going
    exact Nat.le_trans (Nat.le_min.mpr ⟨enough, Nat.le_refl _⟩) progress
  · intro more c there closed
    exact ((linked''.run_moves settings app more).mutes (m := m)).silent c there closed

/-- A channel that is told two payloads and its end is read once more than the application has read it. -/
theorem Responder.relay_inbound_delivery :
    let f := Frame.requestChannel (.ofNat 7) 5 .empty
    let s' := Responder.step .standard (relay none) (.receive (.item (.ok f))) (Responder.start, ())
    let after := [.receive (.item (.ok (.next (.ofNat 7) (.ofData [97])))), .turn 0 5,
      .receive (.item (.ok (.complete (.ofNat 7))))]
    let now := Responder.run .standard (relay none) after s'
    let r := (Responder.run .standard (relay none) [.read 0] now).1
    yieldedBy 0 r.history = [.ok .empty, .ok (.ofData [97])] ∧
      r.channels[0]?.map Channel.terminated = some true := by
  intro f s' after now r
  have accepted : Responder.Accepts .standard (relay none)
      (Responder.run .standard (relay none) [] (Responder.start, ())) f := by decide
  obtain ⟨p, readable, _, _, _, _, caught_up, _⟩ := Responder.inbound_delivery .standard (relay none) ()
    [] after f rfl accepted (by simp [after])
  obtain rfl : Payload.empty = p := Except.ok.inj readable
  obtain ⟨c, there, flags⟩ : ∃ c, r.channels[0]? = some c ∧
      (c.holder, c.cancelled) = (.stream, false) := Option.map_eq_some_iff.mp (by decide)
  obtain ⟨holder, uncancelled⟩ := Prod.mk.inj flags
  have held : c.holder ≠ .nobody := by rw [holder]; exact nofun
  obtain ⟨_, whole⟩ := caught_up [.read 0] c (by simp) there held uncancelled (by decide)
  obtain ⟨stopped, all⟩ := whole ⟨.complete, by decide, rfl⟩
  refine ⟨all.trans (by decide), ?_⟩
  rw [there, Option.map_some, stopped]
end Multiplexer
