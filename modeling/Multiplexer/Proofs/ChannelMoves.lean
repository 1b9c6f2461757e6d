import Mathlib.Logic.Relation
import Multiplexer.Proofs.ChannelSteps

/-!
Moves of channels: what application code does on its way to an answer is a chain of them. They
leave all operations as they are, and do not depend on how far the tasks have come.
-/

namespace Multiplexer

variable {ρ : Type}

/-- A change that application code makes to a channel that it holds. -/
inductive Responder.ChannelMove : Responder → Responder → Prop where
  | read (r : Responder) (n : Nat) : ChannelMove r (r.readChannel n).1
  | request (r : Responder) (n : Nat) (demand : UInt32) :
    ChannelMove r (r.requestOnChannel n demand)
  | drop (r : Responder) (n : Nat) : ChannelMove r (r.dropChannel n)
  | keep (r : Responder) (n : Nat) : ChannelMove r (r.keepChannel n)

abbrev Responder.ChannelMoves : Responder → Responder → Prop :=
  Relation.ReflTransGen Responder.ChannelMove

theorem Dialogue.run_moves (d : Dialogue ρ) (r : Responder) : r.ChannelMoves (d.run r).1 := by
  induction d generalizing r with
  | answer x => exact .refl
  | read n next ih => exact .head (.read r n) (ih _ _)
  | request n demand next ih => exact .head (.request r n demand) (ih _)
  | drop n next ih => exact .head (.drop r n) (ih _)
  | keep n next ih => exact .head (.keep r n) (ih _)
  | inspect n next ih => exact ih _ _

theorem Responder.dropOwnChannel_moves (r : Responder) (channel : Option Nat) :
    r.ChannelMoves (r.dropOwnChannel channel) := by
  unfold Responder.dropOwnChannel
  split
  · split
    · exact .single (.drop r _)
    · exact .refl
  · exact .refl

theorem Responder.foldl_send (r : Responder) (speaker : Speaker) (fs : List Frame) :
    fs.foldl (fun r f => r.send speaker f) r =
      { r with history := r.history ++ fs.map (Event.sent speaker) } := by
  induction fs generalizing r with
  | nil => simp
  | cons f fs ih =>
    rw [List.foldl_cons, ih]
    simp [Responder.send, Responder.record]

/-- The parts of a responder that a change to a channel touches. -/
theorem Responder.applyStep_eq (r : Responder) (n : Nat) (before : Channel) (step : ChannelStep) :
    r.applyStep n before step =
      { r with
        registry := if step.channel.terminated && !before.terminated then
          (r.registry.releaseInbound before.stream before.token).1 else r.registry
        channels := r.channels.set n step.channel
        history := r.history ++ step.frames.map (Event.sent (.channel n)) } := by
  simp only [Responder.applyStep, Responder.foldl_send]
  split <;> rfl

/-- Channel `n` goes through a change that yields the items `xs`. Nothing else happens, but for the
allowance and the entry of the channel. -/
structure Responder.Changes (n : Nat) (c : Channel) (step : ChannelStep) (xs : List Item)
    (r r' : Responder) : Prop where
  held : r.channels[n]? = some c
  speaks : c.Speaks step xs
  rest : ∃ registry allowance, registry.outbound = r.registry.outbound ∧
    registry.issued = r.registry.issued ∧
    r' = { r with
      registry
      allowance
      channels := r.channels.set n step.channel
      history := r.history ++ step.events n xs }

theorem Responder.channel_of_held {r : Responder} {n : Nat} {c : Channel} (h : r.held? n = some c) :
    r.channels[n]? = some c :=
  (Option.filter_eq_some_iff.mp h).1

/-- Carrying out a change, and noting what it yields. -/
theorem Channel.Speaks.changes {r : Responder} {n : Nat} {c : Channel} {step : ChannelStep}
    {xs : List Item} (speaks : c.Speaks step xs) (held : r.channels[n]? = some c) :
    Responder.Changes n c step xs r { r.applyStep n c step with
      history := (r.applyStep n c step).history ++ xs.map (Event.yielded n) } := by
  have applied := r.applyStep_eq n c step
  refine ⟨held, speaks, (r.applyStep n c step).registry, r.allowance, ?_, ?_, ?_⟩
  · rw [applied]
    dsimp only
    split <;> simp
  · rw [applied]
    dsimp only
    split <;> simp
  · rw [applied]
    simp [ChannelStep.events]

theorem Responder.Changes.paced {r r' : Responder} {n : Nat} {c : Channel} {step : ChannelStep}
    {xs : List Item} {allowance : Allowance}
    (changes : Responder.Changes n c step xs { r with allowance } r') :
    Responder.Changes n c step xs r r' :=
  ⟨changes.held, changes.speaks, changes.rest⟩

theorem Responder.pollChannel_changes {r : Responder} {n : Nat} {c : Channel}
    (held : r.channels[n]? = some c) :
    Responder.Changes n c c.poll.1 c.poll.2.items r (r.pollChannel n c).1 := by
  have spent : ∃ allowance, (if c.isOpen && !c.queue.isEmpty then r.spend else r) =
      { r with allowance } := by
    split
    · exact ⟨_, rfl⟩
    · exact ⟨_, rfl⟩
  obtain ⟨allowance, spent⟩ := spent
  have changes := c.poll_speaks.changes (r := { r with allowance }) held
  have told : Responder.Changes n c c.poll.1 c.poll.2.items { r with allowance }
      (r.pollChannel n c).1 := by
    unfold Responder.pollChannel
    dsimp only
    rw [spent]
    cases h : c.poll.2 <;> simpa [h, Receipt.items, Responder.record] using changes
  exact told.paced

section applies

variable {r r' : Responder} {n : Nat} {c : Channel} {step : ChannelStep}

/-- Channel `n` goes through a change by which it gives up its own entry if it has terminated. -/
structure Responder.Applies (n : Nat) (c : Channel) (step : ChannelStep) (xs : List Item)
    (r r' : Responder) : Prop where
  changes : Responder.Changes n c step xs r r'
  acts : c.Acts step
  registry : r'.registry = if step.channel.terminated && !c.terminated then
    (r.registry.releaseInbound c.stream c.token).1 else r.registry

theorem Channel.Acts.applies (acts : c.Acts step) (speaks : c.Speaks step [])
    (held : r.channels[n]? = some c) : Responder.Applies n c step [] r (r.applyStep n c step) := by
  refine ⟨?_, acts, by rw [r.applyStep_eq n c step]⟩
  have changes := speaks.changes held
  rw [List.map_nil, List.append_nil] at changes
  exact changes

theorem Responder.pollChannel_applies (held : r.channels[n]? = some c) :
    Responder.Applies n c c.poll.1 c.poll.2.items r (r.pollChannel n c).1 := by
  have spent : (if c.isOpen && !c.queue.isEmpty then r.spend else r).registry = r.registry := by
    split <;> rfl
  refine ⟨Responder.pollChannel_changes held, c.poll_acts, ?_⟩
  rw [← spent]
  unfold Responder.pollChannel
  dsimp only
  cases c.poll.2 <;> simp only [Responder.applyStep_eq, Responder.record]

/-- A change to a channel that is held. Payloads are asked for only where that is allowed. -/
inductive Responder.Touch (asking : Prop) : Responder → Responder → Prop where
  | read (r : Responder) (n : Nat) : Touch asking r (r.readChannel n).1
  | request (r : Responder) (may : asking) (n : Nat) (demand : UInt32) :
    Touch asking r (r.requestOnChannel n demand)
  | drop (r : Responder) (n : Nat) : Touch asking r (r.dropChannel n)
  | keep (r : Responder) (n : Nat) : Touch asking r (r.keepChannel n)

theorem Responder.Touch.move {asking : Prop} (h : Responder.Touch asking r r') :
    r.ChannelMove r' := by
  cases h with
  | read n => exact .read r n
  | request may n demand => exact .request r n demand
  | drop n => exact .drop r n
  | keep n => exact .keep r n

theorem Responder.ChannelMove.touch (h : r.ChannelMove r') : Responder.Touch True r r' := by
  cases h with
  | read n => exact .read r n
  | request n demand => exact .request r trivial n demand
  | drop n => exact .drop r n
  | keep n => exact .keep r n

theorem Channel.Use.applies {asking : Prop} (use : c.Use asking step [])
    (held : r.channels[n]? = some c) : Responder.Applies n c step [] r (r.applyStep n c step) :=
  use.acts.applies use.speaks held

/-- A change to channel `n`, which does nothing where nobody holds the channel. -/
inductive Responder.TouchOf (asking : Prop) (n : Nat) : Responder → Responder → Prop where
  | read (r : Responder) : TouchOf asking n r (r.readChannel n).1
  | request (r : Responder) (may : asking) (demand : UInt32) :
    TouchOf asking n r (r.requestOnChannel n demand)
  | drop (r : Responder) : TouchOf asking n r (r.dropChannel n)
  | keep (r : Responder) : TouchOf asking n r (r.keepChannel n)

/-- All that a change to a channel can do to it and to its entry. -/
theorem Responder.TouchOf.uses {asking : Prop} (h : Responder.TouchOf asking n r r') :
    r' = r ∨ ∃ c step xs, r.held? n = some c ∧ c.Use asking step xs ∧
      Responder.Applies n c step xs r r' := by
  cases h with
  | read =>
    unfold Responder.readChannel
    split
    next c held =>
      have there := Responder.channel_of_held held
      right
      split
      next spent =>
        have use : c.Use asking c.requestFirst [] := .open_ ((Bool.and_eq_true _ _).mp spent).1
        have asked := use.applies (r := r.putOff) there
        exact ⟨c, _, _, held, use, asked.changes.paced, asked.acts, asked.registry⟩
      · exact ⟨c, _, _, held, .poll, Responder.pollChannel_applies there⟩
    next => exact .inl rfl
  | request may demand =>
    unfold Responder.requestOnChannel
    split
    next c held =>
      have use : c.Use asking (c.request demand) [] := .request may demand
      exact .inr ⟨c, _, _, held, use, use.applies (Responder.channel_of_held held)⟩
    next => exact .inl rfl
  | drop =>
    unfold Responder.dropChannel
    split
    next c held =>
      have use : c.Use asking c.drop [] := .drop
      exact .inr ⟨c, _, _, held, use, use.applies (Responder.channel_of_held held)⟩
    next => exact .inl rfl
  | keep =>
    unfold Responder.keepChannel
    split
    next c held =>
      have use : c.Use asking ⟨{ c with holder := .application }, []⟩ [] := .keep
      refine .inr ⟨c, _, [], held, use,
        ⟨Responder.channel_of_held held, use.speaks, _, r.allowance, rfl, rfl, ?_⟩, use.acts, by simp⟩
      simp [ChannelStep.events]
    next => exact .inl rfl

theorem Responder.Touch.on {asking : Prop} (h : Responder.Touch asking r r') :
    ∃ n, Responder.TouchOf asking n r r' := by
  cases h with
  | read n => exact ⟨n, .read r⟩
  | request may n demand => exact ⟨n, .request r may demand⟩
  | drop n => exact ⟨n, .drop r⟩
  | keep n => exact ⟨n, .keep r⟩

theorem Responder.Touch.uses {asking : Prop} (h : Responder.Touch asking r r') :
    r' = r ∨ ∃ n c step xs, r.held? n = some c ∧ c.Use asking step xs ∧
      Responder.Applies n c step xs r r' := by
  obtain ⟨n, touch⟩ := h.on
  exact touch.uses.imp_right fun uses => ⟨n, uses⟩

theorem Responder.ChannelMove.applies (h : r.ChannelMove r') :
    r' = r ∨ ∃ n c step xs, Responder.Applies n c step xs r r' := by
  obtain rfl | ⟨n, c, step, xs, _, _, applies⟩ := h.touch.uses
  · exact .inl rfl
  · exact .inr ⟨n, c, step, xs, applies⟩

theorem Responder.ChannelMove.changes (h : r.ChannelMove r') :
    r' = r ∨ ∃ n c step xs, Responder.Changes n c step xs r r' := by
  obtain rfl | ⟨n, c, step, xs, applies⟩ := h.applies
  · exact .inl rfl
  · exact .inr ⟨n, c, step, xs, applies.changes⟩

end applies

theorem Responder.ChannelMove.keepsTasks {r r' : Responder} (h : r.ChannelMove r') :
    r.KeepsTasks r' := by
  obtain rfl | ⟨n, c, step, xs, changes⟩ := h.changes
  · exact .refl r'
  · obtain ⟨registry, allowance, outbound, issued, rfl⟩ := changes.rest
    refine ⟨outbound, Nat.le_of_eq issued.symm, rfl, rfl, rfl, fun m => ?_⟩
    have silent : accountOf m (step.events n xs) = [] :=
      accountOf_eq_nil fun e he => by simp [(ChannelStep.channel_events he).2]
    simp [Responder.account, silent]

theorem Responder.ChannelMoves.keepsTasks {r r' : Responder} (h : r.ChannelMoves r') :
    r.KeepsTasks r' := by
  induction h with
  | refl => exact .refl r
  | tail _ step ih => exact ih.trans step.keepsTasks

/-- An event by which a task speaks: a frame of its own, or a failure that is reported. -/
def Event.isWord : Event → Bool
  | .sent (.task _) _ | .reported _ => true
  | .sent .dispatcher _ | .sent (.channel _) _ | .handlerPanicked _ | .disposed | .disposePanicked _
  | .pulled .. | .ended _ | .yielded .. => false

/-- No task speaks between two states. -/
def Responder.Quiet (r r' : Responder) : Prop :=
  ∃ events, r'.history = r.history ++ events ∧ ∀ e ∈ events, e.isWord = false

theorem Responder.Quiet.refl (r : Responder) : r.Quiet r := ⟨[], by simp, by simp⟩

theorem Responder.Quiet.trans {r r' r'' : Responder} (h : r.Quiet r') (h' : r'.Quiet r'') :
    r.Quiet r'' := by
  obtain ⟨es, eq, quiet⟩ := h
  obtain ⟨es', eq', quiet'⟩ := h'
  refine ⟨es ++ es', by rw [eq', eq, List.append_assoc], fun e he => ?_⟩
  exact (List.mem_append.mp he).elim (quiet e) (quiet' e)

theorem Event.isWord_of_channel {e : Event} {n : Nat} (h : e.channel? = some n) :
    e.isWord = false := by
  unfold Event.channel? at h
  split at h
  · rfl
  · rfl
  all_goals cases h

theorem Responder.ChannelMove.quiet {r r' : Responder} (h : r.ChannelMove r') : r.Quiet r' := by
  obtain rfl | ⟨n, c, step, xs, changes⟩ := h.changes
  · exact .refl r'
  · obtain ⟨registry, allowance, _, _, rfl⟩ := changes.rest
    exact ⟨_, rfl, fun e he => Event.isWord_of_channel (ChannelStep.channel_events he).1⟩

theorem Responder.ChannelMoves.quiet {r r' : Responder} (h : r.ChannelMoves r') : r.Quiet r' := by
  induction h with
  | refl => exact .refl r
  | tail _ step ih => exact ih.trans step.quiet

theorem Responder.applyStep_setWork (r : Responder) (n m : Nat) (work : Work) (before : Channel)
    (step : ChannelStep) :
    (r.setWork n work).applyStep m before step = (r.applyStep m before step).setWork n work := by
  simp only [Responder.applyStep_eq]
  rfl

theorem Responder.pollChannel_setWork (r : Responder) (n m : Nat) (work : Work) (c : Channel) :
    ((r.setWork n work).pollChannel m c).1 = ((r.pollChannel m c).1).setWork n work := by
  have spent : (if c.isOpen && !c.queue.isEmpty then (r.setWork n work).spend
      else r.setWork n work) = (if c.isOpen && !c.queue.isEmpty then r.spend else r).setWork n work := by
    split <;> rfl
  simp only [Responder.pollChannel, spent, Responder.applyStep_setWork]
  split <;> rfl

theorem Responder.readChannel_setWork (r : Responder) (n m : Nat) (work : Work) :
    ((r.setWork n work).readChannel m).1 = ((r.readChannel m).1).setWork n work := by
  simp only [Responder.readChannel]
  rw [show (r.setWork n work).held? m = r.held? m from rfl]
  cases r.held? m with
  | none => rfl
  | some c =>
    dsimp only
    rw [show (r.setWork n work).allowance = r.allowance from rfl]
    split
    · exact Responder.applyStep_setWork r.putOff n m work c _
    · exact Responder.pollChannel_setWork r n m work c

/-- A change to a channel is the same whatever the tasks are. -/
theorem Responder.ChannelMove.setWork {r r' : Responder} (h : r.ChannelMove r') (n : Nat)
    (work : Work) : (r.setWork n work).ChannelMove (r'.setWork n work) := by
  have held (m : Nat) : (r.setWork n work).held? m = r.held? m := rfl
  cases h with
  | read m =>
    rw [← Responder.readChannel_setWork]
    exact .read _ m
  | request m demand =>
    have step : (r.setWork n work).requestOnChannel m demand =
        (r.requestOnChannel m demand).setWork n work := by
      simp only [Responder.requestOnChannel, held, Responder.applyStep_setWork]
      split <;> rfl
    rw [← step]
    exact .request _ m demand
  | drop m =>
    have step : (r.setWork n work).dropChannel m = (r.dropChannel m).setWork n work := by
      simp only [Responder.dropChannel, held, Responder.applyStep_setWork]
      split <;> rfl
    rw [← step]
    exact .drop _ m
  | keep m =>
    have step : (r.setWork n work).keepChannel m = (r.keepChannel m).setWork n work := by
      simp only [Responder.keepChannel, held]
      split <;> rfl
    rw [← step]
    exact .keep _ m

theorem Responder.ChannelMoves.setWork {r r' : Responder} (h : r.ChannelMoves r') (n : Nat)
    (work : Work) : (r.setWork n work).ChannelMoves (r'.setWork n work) :=
  h.lift (fun r => r.setWork n work) fun _ _ step => step.setWork n work

end Multiplexer
