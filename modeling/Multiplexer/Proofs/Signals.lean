import Multiplexer.Proofs.ChannelCourses

/-!
What a channel makes of its signals. As long as it is not cancelled, what it has yielded is what it has been
told but for the signals that still wait, in the same order.
-/

namespace Multiplexer

variable {c c' : Channel} {told : List Signal} {ys : List Item}

/-- The item that a channel yields for a signal. -/
def Signal.item? : Signal → Option Item
  | .next p => some (.ok p)
  | .error e => some (.error e)
  | .complete | .cancel => none

/-- The channel that takes this signal terminates. -/
def Signal.isLast : Signal → Bool
  | .next _ => false
  | .complete | .error _ | .cancel => true

/-- What a read of a channel finds if this is the first signal that waits. -/
def Signal.receipt : Option Signal → Receipt Item
  | none => .pending
  | some (.next p) => .item (.ok p)
  | some (.error e) => .item (.error e)
  | some .complete | some .cancel => .finished

theorem Signal.length_items {ss : List Signal} (going : ∀ s ∈ ss, s.isLast = false) :
    (ss.filterMap Signal.item?).length = ss.length := by
  induction ss with
  | nil => rfl
  | cons s ss ih =>
    have rest := ih fun s' there => going s' (List.mem_cons_of_mem _ there)
    have here := going s List.mem_cons_self
    cases s with
    | next p => simpa [Signal.item?] using rest
    | _ => cases here

/-- Channel `c` has been told these signals and has yielded these items. -/
structure Channel.Follows (told : List Signal) (ys : List Item) (c : Channel) : Prop where
  single : ∀ s ∈ told.dropLast, s.isLast = false
  yields : ys <+: told.filterMap Signal.item?
  /-- What has not been yielded waits. -/
  waits : c.terminated = false → c.cancelled = false →
    ∃ taken, told = taken ++ c.queue ∧ ys = taken.filterMap Signal.item? ∧
      ∀ s ∈ taken, s.isLast = false
  /-- A channel that has come to its end has yielded everything. -/
  ended : c.terminated = true → c.cancelled = false → c.holder ≠ .nobody →
    ys = told.filterMap Signal.item? ∧ ∃ s ∈ told, s.isLast = true

/-- Where a channel is cancelled or dropped there is nothing more to say of its queue. -/
theorem Channel.Follows.close (h : c.Follows told ys)
    (closed : c'.cancelled = true ∨ c'.terminated = true ∧ c'.holder = .nobody) :
    c'.Follows told ys := by
  refine ⟨h.single, h.yields, fun live going => ?_, fun _ going held => ?_⟩
  · rcases closed with cancelled | ⟨terminated, _⟩
    · rw [going] at cancelled
      cases cancelled
    · rw [live] at terminated
      cases terminated
  · rcases closed with cancelled | ⟨_, dropped⟩
    · rw [going] at cancelled
      cases cancelled
    · exact absurd dropped held

theorem Channel.Follows.of_eq (h : c.Follows told ys) (queue : c'.queue = c.queue)
    (terminated : c'.terminated = c.terminated) (cancelled : c'.cancelled = c.cancelled)
    (holder : c'.holder ≠ .nobody → c.holder ≠ .nobody) : c'.Follows told ys := by
  refine ⟨h.single, h.yields, fun live going => ?_, fun stopped going held => ?_⟩
  · rw [queue]
    exact h.waits (terminated.symm.trans live) (cancelled.symm.trans going)
  · exact h.ended (terminated.symm.trans stopped) (cancelled.symm.trans going) (holder held)

theorem Channel.Follows.cancel (h : c.Follows told ys) : c.cancel.Follows told ys :=
  h.close (.inl c.cancel_flags.2.1)

/-- A channel that has not been told its end may be told one thing more. -/
theorem Channel.Follows.push (h : c.Follows told ys) (live : c.terminated = false)
    (going : ∀ s ∈ told, s.isLast = false) (s : Signal) : (c.push s).Follows (told ++ [s]) ys := by
  have pushed : c.push s = { c with queue := c.queue ++ [s] } := if_neg (by simp [live])
  rw [pushed]
  refine ⟨by simpa using going, ?_, fun _ uncancelled => ?_, fun stopped => ?_⟩
  · rw [List.filterMap_append]
    exact h.yields.trans (List.prefix_append _ _)
  · obtain ⟨taken, split, yielded, fine⟩ := h.waits live uncancelled
    exact ⟨taken, by rw [split, List.append_assoc], yielded, fine⟩
  · rw [live] at stopped
    cases stopped

theorem Channel.Follows.queue_eq (h : c.Follows told ys) (live : c.terminated = false)
    (uncancelled : c.cancelled = false) : c.queue = told.drop ys.length := by
  obtain ⟨taken, split, yielded, fine⟩ := h.waits live uncancelled
  have length : ys.length = taken.length := by rw [yielded, Signal.length_items fine]
  rw [split, length, List.drop_left]

theorem Channel.request_queue (c : Channel) (demand : UInt32) :
    (c.request demand).channel.queue = c.queue := by
  unfold Channel.request
  split <;> rfl

theorem Channel.requestFirst_queue (c : Channel) : c.requestFirst.channel.queue = c.queue := by
  unfold Channel.requestFirst
  split
  · rfl
  · exact c.request_queue c.initialDemand

theorem Channel.Follows.requestFirst (h : c.Follows told ys) :
    c.requestFirst.channel.Follows told ys := by
  obtain ⟨terminated, cancelled, holder⟩ := c.requestFirst_flags
  exact h.of_eq c.requestFirst_queue terminated cancelled (holder ▸ id)

theorem Channel.Follows.takeSignal (h : c.Follows told ys) (live : c.terminated = false)
    (uncancelled : c.cancelled = false) :
    c.takeSignal.1.channel.Follows told (ys ++ c.takeSignal.2.items) ∧
      c.takeSignal.2 = Signal.receipt told[ys.length]? := by
  have queue := h.queue_eq live uncancelled
  obtain ⟨taken, split, yielded, fine⟩ := h.waits live uncancelled
  have head : told[ys.length]? = c.queue.head? := by rw [queue, List.head?_drop]
  rw [head]
  -- a last signal is the last one that has been told
  have alone {s : Signal} {rest : List Signal} (first : c.queue = s :: rest) (last : s.isLast = true) :
      rest = [] := by
    by_contra more
    have there : s ∈ told.dropLast := by
      rw [split, first, List.dropLast_append_cons, List.dropLast_cons_of_ne_nil more]
      exact List.mem_append_right _ List.mem_cons_self
    rw [h.single s there] at last
    cases last
  have whole {s : Signal} {rest : List Signal} (first : c.queue = s :: rest)
      (last : s.isLast = true) : told = taken ++ [s] := by
    rw [split, first, alone first last]
  have finish {s : Signal} {rest : List Signal} {c' : Channel} {ys' : List Item}
      (first : c.queue = s :: rest) (last : s.isLast = true) (stopped : c'.terminated = true)
      (all : ys' = told.filterMap Signal.item?) : c'.Follows told ys' := by
    refine ⟨h.single, all ▸ List.prefix_rfl, fun live => ?_, fun _ _ _ => ⟨all, s, ?_, last⟩⟩
    · rw [stopped] at live
      cases live
    · rw [whole first last]
      exact List.mem_append_right _ List.mem_cons_self
  unfold Channel.takeSignal
  split
  next empty =>
    rw [empty]
    refine ⟨?_, rfl⟩
    rw [show ys ++ Receipt.items .pending = ys from List.append_nil ys]
    exact h
  next p rest first =>
    rw [first]
    refine ⟨?_, rfl⟩
    have items : ys ++ Receipt.items (.item (.ok p)) = (taken ++ [Signal.next p]).filterMap Signal.item? := by
      rw [List.filterMap_append, yielded]
      rfl
    have split' : told = (taken ++ [Signal.next p]) ++ rest := by
      rw [split, first, List.append_assoc]
      rfl
    refine ⟨h.single, ?_, fun _ _ => ⟨_, split', items, ?_⟩, fun stopped => ?_⟩
    · rw [items, split']
      exact (List.prefix_append _ _).filterMap _
    · intro s there
      rcases List.mem_append.mp there with there | there
      · exact fine s there
      · obtain rfl := List.mem_singleton.mp there
        rfl
    · rw [live] at stopped
      cases stopped
  next e rest first =>
    rw [first]
    refine ⟨finish first rfl rfl ?_, rfl⟩
    rw [whole first rfl, List.filterMap_append, yielded]
    rfl
  all_goals
    next rest first =>
      rw [first]
      refine ⟨finish first rfl rfl ?_, rfl⟩
      rw [whole first rfl, List.filterMap_append, yielded]
      rfl

/-- A read of a channel that is not cancelled yields the first item that has not been yielded. -/
theorem Channel.Follows.poll (h : c.Follows told ys) :
    c.poll.1.channel.Follows told (ys ++ c.poll.2.items) ∧
      (c.cancelled = false → c.poll.2 =
        if c.terminated = true then .finished else Signal.receipt told[ys.length]?) := by
  have same (ys : List Item) : ys ++ Receipt.items .finished = ys := List.append_nil ys
  unfold Channel.poll
  cases stopped : c.terminated with
  | true =>
    rw [if_pos rfl, same]
    exact ⟨h, fun _ => rfl⟩
  | false =>
    cases cancelled : c.cancelled with
    | true =>
      refine ⟨?_, nofun⟩
      rw [if_neg Bool.false_ne_true, if_pos rfl, same]
      exact h.close (.inl cancelled)
    | false =>
      obtain ⟨terminated, uncancelled, _⟩ := c.requestFirst_flags
      obtain ⟨follows, receipt⟩ := h.requestFirst.takeSignal (terminated.trans stopped)
        (uncancelled.trans cancelled)
      rw [if_neg Bool.false_ne_true, if_neg Bool.false_ne_true]
      exact ⟨follows, fun _ => by rw [if_neg Bool.false_ne_true]; exact receipt⟩

theorem Channel.Follows.use {step : ChannelStep} {xs : List Item} (h : c.Follows told ys)
    (held : c.holder ≠ .nobody) (used : c.Use True step xs) :
    step.channel.Follows told (ys ++ xs) := by
  cases used with
  | poll => exact h.poll.1
  | open_ live =>
    rw [List.append_nil]
    exact h.requestFirst
  | request may demand =>
    obtain ⟨terminated, cancelled, holder⟩ := c.request_flags demand
    rw [List.append_nil]
    exact h.of_eq (c.request_queue demand) terminated cancelled (holder ▸ id)
  | drop =>
    rw [List.append_nil]
    exact h.close (.inr ⟨rfl, rfl⟩)
  | keep =>
    rw [List.append_nil]
    exact h.of_eq rfl rfl rfl fun _ => held

end Multiplexer
