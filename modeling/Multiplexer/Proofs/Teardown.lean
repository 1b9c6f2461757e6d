import Mathlib.Data.List.Induction
import Multiplexer.Proofs.ChannelCourses
import Multiplexer.Proofs.Disposal
import Multiplexer.Proofs.RegistrySteps

/-!
Teardown: the end of the transport and the end of the connection, any number of times and in any order.
Each takes out and cancels all that is registered, so that nothing is cancelled by two of them.
-/

namespace Multiplexer

variable {ω : Type} {r r' r'' : Responder} {n : Nat}

theorem Controls.getElem?_cancelEach_once {cs : Controls} {ns : List Nat} (once : ns.Nodup) (k : Nat) :
    (cs.cancelEach ns)[k]? = if k ∈ ns then cs[k]?.map (fun c => c.cancel.1) else cs[k]? := by
  induction ns generalizing cs with
  | nil => rfl
  | cons n ns ih =>
    obtain ⟨new, once⟩ := List.nodup_cons.mp once
    show ((cs.cancel n).1.cancelEach ns)[k]? = _
    rw [ih once, Controls.cancel, Controls.getElem?_act]
    by_cases same : k = n
    · subst same
      simp [new]
    · simp [same]

theorem getElem?_cancelChannelAt (channels : List Channel) (n k : Nat) :
    (cancelChannelAt n channels)[k]? =
      if k = n then channels[k]?.map Channel.cancel else channels[k]? := by
  unfold cancelChannelAt
  split
  next c hc =>
    obtain ⟨bound, here⟩ := List.getElem?_eq_some_iff.mp hc
    by_cases same : k = n
    · subst same
      simp [bound, here]
    · simp [same, Ne.symm same]
  next hc =>
    split
    next same => simp [same, hc]
    next => rfl

theorem getElem?_cancelChannels {channels : List Channel} {ns : List Nat} (once : ns.Nodup) (k : Nat) :
    (ns.foldl (fun cs n => cancelChannelAt n cs) channels)[k]? =
      if k ∈ ns then channels[k]?.map Channel.cancel else channels[k]? := by
  induction ns generalizing channels with
  | nil => rfl
  | cons n ns ih =>
    obtain ⟨new, once⟩ := List.nodup_cons.mp once
    rw [List.foldl_cons, ih once, getElem?_cancelChannelAt]
    by_cases same : k = n
    · subst same
      simp [new]
    · simp [same]

/-- Two entries are not those of one channel. -/
theorem Responder.Paired.handles (h : r.Paired) : (r.registry.inbound.map Entry.handle).Nodup := by
  refine h.streams.of_map.map_on fun e he e' he' same => ?_
  obtain ⟨c, hc, origin, _⟩ := h.channels e he
  obtain ⟨c', hc', origin', _⟩ := h.channels e' he'
  rw [same] at hc
  cases hc.symm.trans hc'
  exact Entries.eq_of_stream h.streams he he' (Prod.mk.inj (origin.symm.trans origin')).1

/-- What a teardown leaves of all that has been registered: each control has been asked to cancel once and
no other has, and each channel is cancelled and no other is, unless it has been before. -/
structure Responder.TearsDown (r r' : Responder) : Prop where
  outbound : r'.registry.outbound = []
  inbound : r'.registry.inbound = []
  active : r'.registry.active = 0
  controls : ∀ n : Nat, r'.controls[n]? =
    if n ∈ r.registry.outbound.map Entry.handle then r.controls[n]?.map (fun c => c.cancel.1)
    else r.controls[n]?
  channels : ∀ n : Nat, r'.channels[n]?.map Channel.cancelled =
    if n ∈ r.registry.inbound.map Entry.handle then some true
    else r.channels[n]?.map Channel.cancelled

theorem Responder.TearsDown.tokens (h : Responder.TearsDown r r') : r'.registry.tokens = [] := by
  rw [Registry.tokens, h.outbound, h.inbound]
  rfl

theorem Responder.TearsDown.cancelled (h : Responder.TearsDown r r')
    (registered : n ∈ r.registry.inbound.map Entry.handle) :
    ∃ c, r'.channels[n]? = some c ∧ c.cancelled = true := by
  have flag := h.channels n
  rw [if_pos registered] at flag
  exact Option.map_eq_some_iff.mp flag

/-- Nobody who uses a channel cancels it. -/
theorem Channel.Use.cancelled {c : Channel} {asking : Prop} {step : ChannelStep} {xs : List Item}
    (use : c.Use asking step xs) : step.channel.cancelled = c.cancelled := by
  cases use with
  | poll => exact c.poll_flags.2.1
  | open_ live => exact c.requestFirst_flags.2.1
  | request may demand => exact (c.request_flags demand).2.1
  | drop => rfl
  | keep => rfl

theorem Responder.ChannelMoves.cancelled (moves : r.ChannelMoves r') (n : Nat) :
    r'.channels[n]?.map Channel.cancelled = r.channels[n]?.map Channel.cancelled := by
  induction moves with
  | refl => rfl
  | @tail r1 r2 _ move ih =>
    refine Eq.trans ?_ ih
    obtain rfl | ⟨m, c, step, xs, _, used, applies⟩ := move.touch.uses
    · rfl
    · obtain ⟨there, _, registry, allowance, _, _, rfl⟩ := applies.changes
      show (r1.channels.set m step.channel)[n]?.map Channel.cancelled = _
      by_cases own : m = n
      · subst own
        rw [List.getElem?_set_self (List.getElem?_eq_some_iff.mp there).1, there, Option.map_some,
          Option.map_some, used.cancelled]
      · rw [List.getElem?_set_ne own]

theorem Responder.Linked.drained_tearsDown (h : r.Linked) (paired : r.Paired)
    (sound : r.registry.Sound) : Responder.TearsDown r r.drained := by
  refine ⟨rfl, rfl, ?_, Controls.getElem?_cancelEach_once h.handles, fun n => ?_⟩
  · show r.registry.active - r.registry.size = 0
    rw [sound.active, Int.sub_self]
  · show (List.foldl _ _ _)[_]?.map _ = _
    rw [getElem?_cancelChannels paired.handles]
    by_cases on : n ∈ r.registry.inbound.map Entry.handle
    · obtain ⟨e, he, rfl⟩ := List.mem_map.mp on
      obtain ⟨c, hc, _⟩ := paired.channels e he
      rw [if_pos on, if_pos on, hc, Option.map_some, Option.map_some, c.cancel_flags.2.1]
    · rw [if_neg on, if_neg on]

/-- What comes after a teardown undoes none of it, as long as it leaves all operations alone. -/
theorem Responder.TearsDown.worked (h : Responder.TearsDown r r') (kept : r'.KeepsTasks r'')
    (inbound : r''.registry.inbound = []) (steps : r'.registry.Steps r''.registry)
    (sound : r'.registry.Sound)
    (flags : ∀ n : Nat, r''.channels[n]?.map Channel.cancelled = r'.channels[n]?.map Channel.cancelled) :
    Responder.TearsDown r r'' := by
  have outbound : r''.registry.outbound = [] := kept.outbound.trans h.outbound
  refine ⟨outbound, inbound, ?_, fun n => by rw [kept.controls, h.controls n], fun n => ?_⟩
  · rw [(steps.evolves.sound sound).active, Registry.size, outbound, inbound]
    rfl
  · exact (flags n).trans (h.channels n)

theorem Responder.reports_kept (es : List Failure) (r : Responder) :
    (es.foldl Responder.report r).registry = r.registry ∧
      (es.foldl Responder.report r).channels = r.channels := by
  induction es generalizing r with
  | nil => exact ⟨rfl, rfl⟩
  | cons e es ih => exact ih (r.report e)

/-- Reports of the cancellations that have failed change nothing else. -/
theorem Responder.Linked.cancelStreams_tearsDown (h : r.Linked) (paired : r.Paired)
    (sound : r.registry.Sound) : Responder.TearsDown r r.cancelStreams := by
  have moves := r.cancelStreams_aside
  have clear : r.registry.Steps r.drained.registry := .single (.clear _)
  obtain ⟨failures, eq⟩ := r.cancelStreams_eq
  obtain ⟨registry, channels⟩ := Responder.reports_kept failures r.drained
  refine (h.drained_tearsDown paired sound).worked (Responder.AsideMoves.keepsTasks moves) ?_
    (Responder.AsideMoves.registry moves) (clear.evolves.sound sound) fun n => ?_
  · rw [eq, registry]
    rfl
  · rw [eq, channels]

theorem Responder.ChannelMoves.inbound (moves : r.ChannelMoves r') :
    r'.registry.inbound.Sublist r.registry.inbound := by
  induction moves with
  | refl => exact List.Sublist.refl _
  | @tail r1 r2 _ move ih =>
    refine List.Sublist.trans ?_ ih
    obtain rfl | ⟨n, c, step, xs, applies⟩ := move.applies
    · exact List.Sublist.refl _
    · rw [applies.registry]
      split
      · exact Registry.releaseInbound_sublist ..
      · exact List.Sublist.refl _

theorem Responder.dispose_inbound (r : Responder) (w : ω) (app : Application ω)
    (empty : r.registry.inbound = []) : (r.dispose w app).1.registry.inbound = [] := by
  cases going : r.disposed with
  | true => rwa [Responder.dispose, going, if_pos rfl]
  | false =>
    have talked := (app.dispose w).run_moves ({ r with disposed := true }.record .disposed)
    have fewer := Responder.ChannelMoves.inbound talked
    rw [r.dispose_eq w app going]
    exact List.sublist_nil.mp (empty ▸ fewer)

theorem Responder.dispose_cancelled (r : Responder) (w : ω) (app : Application ω) (n : Nat) :
    (r.dispose w app).1.channels[n]?.map Channel.cancelled = r.channels[n]?.map Channel.cancelled := by
  cases going : r.disposed with
  | true => rw [Responder.dispose, going, if_pos rfl]
  | false =>
    have talked := (app.dispose w).run_moves ({ r with disposed := true }.record .disposed)
    rw [r.dispose_eq w app going]
    exact Responder.ChannelMoves.cancelled talked n

def Action.isTeardown : Action ω → Bool
  | .cleanup | .transportStopped _ => true
  | _ => false

/-- The end of the transport and the end of the connection are teardowns, even if the application panics
on the way. -/
theorem Responder.Linked.step_tearsDown {s : Responder × ω} (h : s.1.Linked) (paired : s.1.Paired)
    (sound : s.1.registry.Sound) (settings : Settings) (app : Application ω) {a : Action ω}
    (teardown : a.isTeardown = true) :
    Responder.TearsDown s.1 (Responder.step settings app a s).1 := by
  obtain ⟨r, w⟩ := s
  have paced : r.AsideMove r.beginTurn := .pace r _
  have linked : r.beginTurn.Linked := paced.keepsTasks.linked h
  have begun : r.beginTurn.Paired := paced.paired paired
  have cancelled : Responder.TearsDown r.beginTurn r.beginTurn.cancelStreams :=
    linked.cancelStreams_tearsDown begun sound
  cases a with
  | cleanup =>
    have moves : r.beginTurn.cancelStreams.Moves (fun _ => True)
        (r.beginTurn.cancelStreams.dispose w app).1 := Responder.dispose_moves w app trivial trivial
    have steps : r.beginTurn.registry.Steps r.beginTurn.cancelStreams.registry :=
      (Relation.ReflTransGen.single (Registry.Step.clear _)).trans
        (Responder.AsideMoves.registry r.beginTurn.cancelStreams_aside)
    have disposed := cancelled.worked (r.beginTurn.cancelStreams.dispose_keepsTasks w app)
      (r.beginTurn.cancelStreams.dispose_inbound w app cancelled.inbound) moves.registry
      (steps.evolves.sound sound) (r.beginTurn.cancelStreams.dispose_cancelled w app)
    exact ⟨disposed.outbound, disposed.inbound, disposed.active, disposed.controls, disposed.channels⟩
  | transportStopped result =>
    cases result with
    | ok _ => exact ⟨cancelled.outbound, cancelled.inbound, cancelled.active, cancelled.controls,
        cancelled.channels⟩
    | error e =>
      have told : r.beginTurn.AsideMoves (r.beginTurn.report (.transport e)) := Responder.report_aside _ _
      have cancelled := ((Responder.AsideMoves.keepsTasks told).linked linked).cancelStreams_tearsDown
        (Responder.AsideMoves.paired told begun) sound
      exact ⟨cancelled.outbound, cancelled.inbound, cancelled.active, cancelled.controls,
        cancelled.channels⟩
  | _ => cases teardown

/-- The registrations that the teardowns of a run take out, by token: a list for each, in order. -/
def Responder.teardowns (settings : Settings) (app : Application ω) :
    List (Action ω) → Responder × ω → List (List Nat)
  | [], _ => []
  | a :: as, s =>
    (if a.isTeardown then [s.1.registry.tokens] else []) ++
      Responder.teardowns settings app as (Responder.step settings app a s)

theorem Responder.teardowns_append (settings : Settings) (app : Application ω) (as bs : List (Action ω))
    (s : Responder × ω) :
    Responder.teardowns settings app (as ++ bs) s = Responder.teardowns settings app as s ++
      Responder.teardowns settings app bs (Responder.run settings app as s) := by
  induction as generalizing s with
  | nil => rfl
  | cons a as ih =>
    rw [List.cons_append, Responder.teardowns, ih, Responder.teardowns, List.append_assoc]
    rfl

/-- No registration is taken out by two teardowns, and none that has been taken out is still there. -/
theorem Responder.teardowns_run (settings : Settings) (app : Application ω) (w : ω)
    (as : List (Action ω)) :
    let tokens := (Responder.teardowns settings app as (Responder.start, w)).flatten
    let r := (Responder.run settings app as (Responder.start, w)).1
    tokens.Nodup ∧ ∀ token ∈ tokens, token < r.registry.issued ∧ token ∉ r.registry.tokens := by
  induction as using List.reverseRecOn with
  | nil => exact ⟨List.nodup_nil, fun token there => absurd there List.not_mem_nil⟩
  | append_singleton as a ih =>
    have linked := Responder.linked_start.run settings app as (s := (Responder.start, w))
    have sound := Responder.sound_run settings app w as
    have paired := Responder.paired_run settings app w as
    have evolves := linked.step_evolves settings app a
    have torn := linked.step_tearsDown paired sound settings app (a := a)
    simp only [Responder.run_append, Responder.teardowns_append, List.flatten_append]
    generalize Responder.run settings app as (Responder.start, w) = s at ih linked sound evolves torn ⊢
    obtain ⟨once, gone⟩ := ih
    -- what has gone does not come back, since whatever is new bears a newer token
    have still {token : Nat} (used : token < s.1.registry.issued) (gone : token ∉ s.1.registry.tokens) :
        token < (Responder.step settings app a s).1.registry.issued ∧
          token ∉ (Responder.step settings app a s).1.registry.tokens := by
      refine ⟨Nat.lt_of_lt_of_le used evolves.issued, fun there => ?_⟩
      exact (evolves.tokens token there).elim gone (Nat.not_le.mpr used)
    cases teardown : a.isTeardown with
    | false =>
      have none : (Responder.teardowns settings app [a] s).flatten = [] := by
        simp [Responder.teardowns, teardown]
      rw [none, List.append_nil]
      exact ⟨once, fun token there => still (gone token there).1 (gone token there).2⟩
    | true =>
      have all : (Responder.teardowns settings app [a] s).flatten = s.1.registry.tokens := by
        simp [Responder.teardowns, teardown]
      rw [all]
      refine ⟨List.nodup_append.mpr ⟨once, sound.tokens, ?_⟩, fun token there => ?_⟩
      · rintro token early _ late rfl
        exact (gone token early).2 late
      · rcases List.mem_append.mp there with early | late
        · exact still (gone token early).1 (gone token early).2
        · refine ⟨Nat.lt_of_lt_of_le (sound.issued token late) evolves.issued, ?_⟩
          show token ∉ (Responder.step settings app a s).1.registry.tokens
          rw [(torn teardown).tokens]
          exact List.not_mem_nil

/-- Where nothing is registered there is nothing to cancel. -/
theorem Responder.cancelStreams_idle (outbound : r.registry.outbound = [])
    (inbound : r.registry.inbound = []) : r.cancelStreams = r := by
  obtain ⟨⟨_, _, issued, active⟩, controls, channels, tasks⟩ := r
  cases outbound
  cases inbound
  simp [Responder.cancelStreams, Registry.drain, Entries.cancelAll, Registry.size]

theorem Responder.cleanup_idle (outbound : r.registry.outbound = [])
    (inbound : r.registry.inbound = []) (disposed : r.disposed = true) (shutdown : r.shutdown = true)
    (w : ω) (app : Application ω) : r.cleanup w app = (r, w) := by
  rw [Responder.cleanup_again disposed, Responder.cancelStreams_idle outbound inbound, ← shutdown]

/-- After a cleanup no frame is dispatched any more. -/
theorem Responder.Accounts.receive {s : Responder × ω} (h : s.1.Accounts true) (settings : Settings)
    (app : Application ω) (x : Receipt (Except TransportError Frame)) :
    Responder.step settings app (.receive x) s = ({ s.1.beginTurn with receiving := false }, s.2) := by
  obtain ⟨r, w⟩ := s
  have stopped : r.beginTurn.shutdown = true := h.shutdown
  show r.beginTurn.receive w settings app x = _
  unfold Responder.receive
  cases receiving : r.beginTurn.receiving with
  | true => rw [Bool.not_true, if_neg Bool.false_ne_true, if_pos stopped]
  | false =>
    rw [Bool.not_false, if_pos rfl]
    show (r.beginTurn, w) = ({ r.beginTurn with receiving := false }, w)
    rw [← receiving]

/-- Teardown over runs, whatever the run `as` consists of and however many of its actions are teardowns.
No registration is taken out by two teardowns. A teardown leaves nothing registered and the gauge at zero,
and asks each control to cancel that has been registered, and no other, and cancels each channel that has
been, and no other. The application is disposed of just when there is a first cleanup, even if it panics
then, and the connection is counted out with it. From then on no frame is dispatched, and a cleanup that
follows another at once changes nothing. -/
theorem Responder.teardown_once (settings : Settings) (app : Application ω) (w : ω)
    (as : List (Action ω)) :
    let s := Responder.run settings app as (Responder.start, w)
    let s' := Responder.step settings app .cleanup s
    (Responder.teardowns settings app as (Responder.start, w)).flatten.Nodup ∧
    (∀ a : Action ω, a.isTeardown = true →
      Responder.TearsDown s.1 (Responder.step settings app a s).1) ∧
    s.1.history.count .disposed = (as.any Action.isCleanup).toNat ∧
    s.1.metrics.connections = 1 - (as.any Action.isCleanup).toNat ∧
    (as.any Action.isCleanup = false → s'.2 = ((app.dispose s.2).run
      ({ s.1.beginTurn.cancelStreams with disposed := true }.record .disposed)).2.2) ∧
    (as.any Action.isCleanup = true → s'.2 = s.2 ∧ ∀ x,
      Responder.step settings app (.receive x) s = ({ s.1.beginTurn with receiving := false }, s.2)) ∧
    Responder.step settings app .cleanup s' = (s'.1.beginTurn, s'.2) := by
  intro s s'
  have linked : s.1.Linked := Responder.linked_start.run settings app as
  have torn (a : Action ω) (teardown : a.isTeardown = true) :=
    linked.step_tearsDown (Responder.paired_run settings app w as)
      (Responder.sound_run settings app w as) settings app teardown
  have accounts : s.1.Accounts (as.any Action.isCleanup) := Responder.accounts_run settings app w as
  refine ⟨(Responder.teardowns_run settings app w as).1, torn, accounts.times, accounts.connections,
    fun first => ?_, fun again => ⟨?_, ?_⟩, ?_⟩
  · have going : s.1.beginTurn.cancelStreams.disposed = false :=
      s.1.beginTurn.cancelStreams_retains.disposed.trans (accounts.disposed.trans first)
    exact congrArg Prod.snd (s.1.beginTurn.cancelStreams.dispose_eq s.2 app going)
  · have done : s.1.beginTurn.disposed = true := accounts.disposed.trans again
    have idle : s' = _ := Responder.cleanup_again done s.2 app
    rw [idle]
  · exact Responder.Accounts.receive (again ▸ accounts) settings app
  · have done := accounts.step linked settings app .cleanup
    have gone : s'.1.Accounts true := by rwa [Action.isCleanup, Bool.or_true] at done
    exact Responder.cleanup_idle (r := s'.1.beginTurn) (torn .cleanup rfl).outbound
      (torn .cleanup rfl).inbound gone.disposed gone.shutdown s'.2 app

/-- An application that counts how often it is disposed of, and panics when it is. -/
def balker : Application Nat where
  start _ _ _ w := w
  poll _ w := .answer (.pending, w)
  openStream _ _ w := .answer (none, w)
  openChannel _ _ _ w := .answer (none, w)
  pull _ w := .answer (.pending, w)
  drop _ w := .answer w
  dispose w := .answer (some (.text "not yet"), w + 1)

/-- The transport stops, a request comes in all the same, and then the connection closes twice. A control
of the application's own panics when it is asked to cancel. -/
theorem Responder.balker_teardown_once :
    let stubborn : Control := .custom ⟨0, 0, false, some (.text "no"), none⟩
    let as : List (Action Nat) :=
      [.register (.ofNat 9) stubborn, .receive (.item (.ok (.requestChannel (.ofNat 7) 5 .empty))),
        .transportStopped (.ok ()), .receive (.item (.ok (.requestResponse (.ofNat 5) .empty))), .cleanup,
        .transportStopped (.ok ())]
    let s := Responder.run .standard balker as (Responder.start, 0)
    let s' := Responder.step .standard balker .cleanup s
    Responder.teardowns .standard balker as (Responder.start, 0) = [[0, 2, 1], [3], []] ∧
      s.1.history.count .disposed = 1 ∧ s.1.metrics.connections = 0 ∧ s.2 = 1 ∧
      Responder.TearsDown s.1 s'.1 ∧ s'.2 = s.2 := by
  have once := Responder.teardown_once .standard balker 0
    [.register (.ofNat 9) (.custom ⟨0, 0, false, some (.text "no"), none⟩),
      .receive (.item (.ok (.requestChannel (.ofNat 7) 5 .empty))), .transportStopped (.ok ()),
      .receive (.item (.ok (.requestResponse (.ofNat 5) .empty))), .cleanup, .transportStopped (.ok ())]
  dsimp only at once ⊢
  obtain ⟨_, torn, times, connections, _, again, _⟩ := once
  exact ⟨by decide, times, connections, by decide, torn .cleanup rfl, (again rfl).1⟩

end Multiplexer
