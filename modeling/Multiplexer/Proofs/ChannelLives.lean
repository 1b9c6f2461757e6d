import Multiplexer.Proofs.ChannelCourses

/-!
Lives of channels: what a channel sends in the course of any operations of its holder and of its sink. It
asks for payloads, and has one last word at most, after which it is silent.
-/

namespace Multiplexer

/-- What can be done to a channel. Its holder asks for payloads, reads it, drops it or takes it out of its
response stream; its sink queues a signal or cancels it. -/
inductive ChannelOp where
  | request (n : UInt32)
  /-- A read takes no signal where the turn has no allowance for it. -/
  | read (allowed : Bool)
  | drop
  | keep
  | push (s : Signal)
  | cancel
deriving DecidableEq

/-- What an operation makes of a channel, and what it yields. -/
def Channel.perform (c : Channel) : ChannelOp → ChannelStep × List Item
  | .request n => (c.request n, [])
  | .read allowed =>
    if c.isOpen && !allowed then (c.requestFirst, []) else (c.poll.1, c.poll.2.items)
  | .drop => (c.drop, [])
  | .keep => (⟨{ c with holder := .application }, []⟩, [])
  | .push s => (⟨c.push s, []⟩, [])
  | .cancel => (⟨c.cancel, []⟩, [])

/-- Behind this operation no read asks for the initial demand any more: it asks for payloads itself, or it
is a read that finds the channel open. -/
def Channel.heeds (c : Channel) : ChannelOp → Bool
  | .request n => n ≠ 0 && !c.terminated
  | .read _ => c.isOpen
  | .drop | .keep | .push _ | .cancel => false

/-- A channel with all that it has sent and yielded, and whether an operation of the kind above has been
among those that it has gone through. -/
structure ChannelLife where
  channel : Channel
  heeded : Bool
  frames : List Frame
  items : List Item
deriving DecidableEq

def ChannelLife.begin (stream : StreamId) (token : Nat) (demand : UInt32) : ChannelLife :=
  ⟨.new stream token demand, false, [], []⟩

def ChannelLife.perform (x : ChannelLife) (op : ChannelOp) : ChannelLife :=
  let (step, xs) := x.channel.perform op
  ⟨step.channel, x.heeded || x.channel.heeds op, x.frames ++ step.frames, x.items ++ xs⟩

def ChannelLife.after (x : ChannelLife) (ops : List ChannelOp) : ChannelLife :=
  ops.foldl ChannelLife.perform x

theorem ChannelLife.after_concat (x : ChannelLife) (ops : List ChannelOp) (op : ChannelOp) :
    x.after (ops ++ [op]) = (x.after ops).perform op :=
  List.foldl_concat ..

/-- A demand as it goes out. -/
def wireDemand (n : UInt32) : UInt32 := .ofNat (min n.toNat largestDemand)

/-- The frames that an operation is to send. -/
def ChannelLife.due (x : ChannelLife) : ChannelOp → List Frame
  | .request n =>
    if n ≠ 0 ∧ x.channel.terminated = false then [.requestN x.channel.stream (wireDemand n)] else []
  | .read allowed =>
    (if x.channel.isOpen = true ∧ x.channel.initialDemand ≠ 0 ∧ x.heeded = false then
      [.requestN x.channel.stream (wireDemand x.channel.initialDemand)] else []) ++
    (errorsOf (x.channel.perform (.read allowed)).2).map (inboundAnswer x.channel.stream)
  | .drop => if x.channel.isOpen = true then [.cancel x.channel.stream] else []
  | .keep | .push _ | .cancel => []

/-- Frames that ask for payloads, in the range of the wire. -/
def Frame.Grants (stream : StreamId) (frames : List Frame) : Prop :=
  ∃ demands : List UInt32, frames = demands.map (Frame.requestN stream) ∧
    ∀ d ∈ demands, 1 ≤ d.toNat ∧ d.toNat ≤ largestDemand

/-- The last word of a channel, if it has one: it answers an error of the peer, or cancels. -/
def Frame.LastWord (stream : StreamId) (frames : List Frame) : Prop :=
  frames = [] ∨ (∃ e : HandlerError, frames = [.error stream .applicationError e.message]) ∨
    frames = [.cancel stream]

variable {c : Channel} {x : ChannelLife} {op : ChannelOp} {n : UInt32}

theorem wireDemand_eq (n : UInt32) :
    wireDemand n = if largestDemand ≤ n.toNat then .ofNat largestDemand else n := by
  unfold wireDemand
  split
  next above => rw [Nat.min_eq_right above]
  next below => rw [Nat.min_eq_left (Nat.le_of_not_le below), UInt32.ofNat_toNat]

theorem wireDemand_range (some_ : n ≠ 0) :
    1 ≤ (wireDemand n).toNat ∧ (wireDemand n).toNat ≤ largestDemand := by
  have pos : n.toNat ≠ 0 := fun zero => some_ (UInt32.toNat_inj.mp zero)
  have small : min n.toNat largestDemand < 2 ^ 32 :=
    Nat.lt_of_le_of_lt (Nat.min_le_right ..) (by decide)
  have most : 1 ≤ largestDemand := by decide
  rw [wireDemand, UInt32.toNat_ofNat', Nat.mod_eq_of_lt small]
  omega

theorem Channel.request_frames (c : Channel) (n : UInt32) : (c.request n).frames =
    if n ≠ 0 ∧ c.terminated = false then [.requestN c.stream (wireDemand n)] else [] := by
  unfold Channel.request
  rw [wireDemand_eq]
  by_cases zero : n = 0 <;> cases c.terminated <;> simp [zero]

theorem Channel.requestFirst_frames (live : c.terminated = false) : c.requestFirst.frames =
    if c.initialDemand ≠ 0 ∧ c.requested = false then
      [.requestN c.stream (wireDemand c.initialDemand)] else [] := by
  unfold Channel.requestFirst
  cases c.requested with
  | true => simp
  | false =>
    by_cases zero : c.initialDemand = 0
    · simp [zero]
    · simp [zero, Channel.request_frames, live]

theorem Channel.takeSignal_frames (c : Channel) :
    c.takeSignal.1.frames = (errorsOf c.takeSignal.2.items).map (inboundAnswer c.stream) := by
  unfold Channel.takeSignal
  split <;> rfl

theorem Channel.isOpen_iff : c.isOpen = true ↔ c.terminated = false ∧ c.cancelled = false := by
  simp [Channel.isOpen]

/-- A read of a channel that is not open only finds its end. -/
theorem Channel.poll_closed (closed : c.isOpen = false) : c.poll = (⟨c.terminate, []⟩, .finished) := by
  unfold Channel.poll
  cases terminated : c.terminated with
  | true =>
    have ended : c.terminate = c := by rw [Channel.terminate, ← terminated]
    rw [ended]
    rfl
  | false =>
    have cancelled : c.cancelled = true := by simpa [Channel.isOpen, terminated] using closed
    rw [if_neg Bool.false_ne_true, if_pos cancelled]

theorem Channel.poll_open (open_ : c.isOpen = true) :
    c.poll = (⟨c.requestFirst.channel.takeSignal.1.channel,
      c.requestFirst.frames ++ c.requestFirst.channel.takeSignal.1.frames⟩,
      c.requestFirst.channel.takeSignal.2) := by
  obtain ⟨live, uncancelled⟩ := Channel.isOpen_iff.mp open_
  simp only [Channel.poll, live, uncancelled, Bool.false_eq_true, if_false]

/-- A read sends the first demand, if it is still to be sent, and answers an error that it finds. -/
theorem Channel.read_frames (c : Channel) (allowed : Bool) :
    (c.perform (.read allowed)).1.frames =
      (if c.isOpen = true then c.requestFirst.frames else []) ++
        (errorsOf (c.perform (.read allowed)).2).map (inboundAnswer c.stream) := by
  cases open_ : c.isOpen with
  | false =>
    simp only [Channel.perform, open_, Bool.false_and, Bool.false_eq_true, if_false,
      Channel.poll_closed open_]
    rfl
  | true =>
    have taken := c.requestFirst.channel.takeSignal_frames
    rw [c.requestFirst_speaks.stream] at taken
    cases allowed with
    | false => simp [Channel.perform, open_, errorsOf]
    | true => simp [Channel.perform, Channel.poll_open open_, taken]

theorem Channel.perform_speaks (c : Channel) (op : ChannelOp) :
    c.Speaks (c.perform op).1 (c.perform op).2 := by
  cases op with
  | request n => exact c.request_speaks n
  | read allowed =>
    unfold Channel.perform
    dsimp only
    split
    · exact c.requestFirst_speaks
    · exact c.poll_speaks
  | drop => exact c.drop_speaks
  | keep => exact Channel.quiet_speaks rfl rfl
  | push s => exact Channel.quiet_speaks (c.push_kept s).1 (c.push_kept s).2
  | cancel =>
    obtain ⟨stream, terminated⟩ := Channel.push_kept { c with cancelled := true } .cancel
    exact Channel.quiet_speaks stream terminated

/-- The demand with which a channel has been opened does not change, and payloads have been asked for once
an operation has asked for them. -/
structure Channel.AsksBy (asks : Bool) (c c' : Channel) : Prop where
  demand : c'.initialDemand = c.initialDemand
  requested : c.initialDemand ≠ 0 → c'.requested = (c.requested || asks)

theorem Channel.AsksBy.quiet {c c' : Channel} (demand : c'.initialDemand = c.initialDemand)
    (requested : c'.requested = c.requested) : c.AsksBy false c' :=
  ⟨demand, fun _ => by rw [requested, Bool.or_false]⟩

theorem Channel.push_asksBy (c : Channel) (s : Signal) : c.AsksBy false (c.push s) := by
  unfold Channel.push
  split <;> exact .quiet rfl rfl

theorem Channel.request_asksBy (c : Channel) (n : UInt32) :
    c.AsksBy (n ≠ 0 && !c.terminated) (c.request n).channel := by
  unfold Channel.request
  by_cases idle : n = 0 ∨ c.terminated = true
  · have silent : (decide (n ≠ 0) && !c.terminated) = false := by
      rcases idle with zero | terminated
      · simp [zero]
      · simp [terminated]
    rw [if_pos idle, silent]
    exact .quiet rfl rfl
  · obtain ⟨some_, live⟩ := not_or.mp idle
    rw [if_neg idle]
    exact ⟨rfl, fun _ => by simp [some_, live]⟩

theorem Channel.requestFirst_asksBy (live : c.terminated = false) :
    c.AsksBy true c.requestFirst.channel := by
  have asked := c.request_asksBy c.initialDemand
  unfold Channel.requestFirst
  split
  next unasked => exact ⟨rfl, fun some_ => by rw [unasked.resolve_right some_, Bool.true_or]⟩
  · exact ⟨asked.demand, fun some_ => by rw [asked.requested some_]; simp [live, some_]⟩

theorem Channel.takeSignal_asksBy (c : Channel) : c.AsksBy false c.takeSignal.1.channel := by
  unfold Channel.takeSignal
  split <;> exact .quiet rfl rfl

theorem Channel.poll_asksBy (c : Channel) : c.AsksBy c.isOpen c.poll.1.channel := by
  cases open_ : c.isOpen with
  | false =>
    rw [Channel.poll_closed open_]
    exact .quiet rfl rfl
  | true =>
    have asked := Channel.requestFirst_asksBy (Channel.isOpen_iff.mp open_).1
    have taken := c.requestFirst.channel.takeSignal_asksBy
    rw [Channel.poll_open open_]
    refine ⟨taken.demand.trans asked.demand, fun some_ => ?_⟩
    have demand : c.requestFirst.channel.initialDemand ≠ 0 := by rwa [asked.demand]
    exact (taken.requested demand).trans (by rw [Bool.or_false, asked.requested some_])

theorem Channel.perform_asksBy (c : Channel) (op : ChannelOp) :
    c.AsksBy (c.heeds op) (c.perform op).1.channel := by
  cases op with
  | request n => exact c.request_asksBy n
  | read allowed =>
    unfold Channel.perform
    dsimp only
    split
    next denied =>
      obtain ⟨open_, _⟩ := (Bool.and_eq_true _ _).mp denied
      rw [Channel.heeds, open_]
      exact Channel.requestFirst_asksBy (Channel.isOpen_iff.mp open_).1
    · exact c.poll_asksBy
  | drop => exact .quiet rfl rfl
  | keep => exact .quiet rfl rfl
  | push s => exact c.push_asksBy s
  | cancel =>
    obtain ⟨demand, requested⟩ := Channel.push_asksBy { c with cancelled := true } .cancel
    exact ⟨demand, requested⟩

theorem Frame.Grants.append {stream : StreamId} {fs gs : List Frame} (h : Frame.Grants stream fs)
    (h' : Frame.Grants stream gs) : Frame.Grants stream (fs ++ gs) := by
  obtain ⟨demands, rfl, range⟩ := h
  obtain ⟨more, rfl, range'⟩ := h'
  refine ⟨demands ++ more, List.map_append.symm, fun d there => ?_⟩
  exact (List.mem_append.mp there).elim (range d) (range' d)

theorem Frame.Grants.nil (stream : StreamId) : Frame.Grants stream [] := ⟨[], rfl, by simp⟩

theorem Frame.Grants.one (stream : StreamId) (some_ : n ≠ 0) :
    Frame.Grants stream [.requestN stream (wireDemand n)] :=
  ⟨[wireDemand n], rfl, by simpa using wireDemand_range some_⟩

/-- A change yields no error, or the one with which the channel terminates. -/
theorem Channel.Speaks.errors {step : ChannelStep} {xs : List Item} (speaks : c.Speaks step xs) :
    errorsOf xs = [] ∧ (c.terminated = true → step.channel.terminated = true) ∨
      ∃ e, errorsOf xs = [e] ∧ c.terminated = false ∧ step.channel.terminated = true := by
  have once := speaks.once
  have most := Bool.toNat_le step.channel.terminated
  match errors : errorsOf xs with
  | [] =>
    refine .inl ⟨rfl, fun ended => Bool.toNat_eq_one.mp ?_⟩
    rw [errors, ended] at once
    exact Nat.le_antisymm most once
  | [e] =>
    rw [errors, List.length_singleton] at once
    exact .inr ⟨e, rfl, Bool.toNat_eq_zero.mp (by omega), Bool.toNat_eq_one.mp (by omega)⟩
  | e :: e' :: rest =>
    rw [errors, List.length_cons, List.length_cons] at once
    omega

/-- What is due is silence from a channel that has terminated; else requests for payloads, and then a last
word of a channel that terminates. -/
theorem ChannelLife.due_spec (x : ChannelLife) (op : ChannelOp) :
    (x.channel.terminated = true → x.due op = []) ∧
      ∃ grants last, x.due op = grants ++ last ∧ Frame.Grants x.channel.stream grants ∧
        Frame.LastWord x.channel.stream last ∧
        (last ≠ [] → (x.channel.perform op).1.channel.terminated = true) := by
  have nothing := Frame.Grants.nil x.channel.stream
  cases op with
  | request n =>
    refine ⟨fun ended => by simp [ChannelLife.due, ended], x.due (.request n), [],
      (List.append_nil _).symm, ?_, .inl rfl, fun more => absurd rfl more⟩
    dsimp only [ChannelLife.due]
    split
    next asks => exact .one x.channel.stream asks.1
    · exact nothing
  | read allowed =>
    have errors := (x.channel.perform_speaks (.read allowed)).errors
    refine ⟨fun ended => ?_, _, _, rfl, ?_, ?_, ?_⟩
    · have closed : x.channel.isOpen = false := by simp [Channel.isOpen, ended]
      obtain ⟨none, _⟩ | ⟨e, _, live, _⟩ := errors
      · simp [ChannelLife.due, closed, none]
      · exact absurd (live.symm.trans ended) Bool.false_ne_true
    · split
      next asks => exact .one x.channel.stream asks.2.1
      · exact nothing
    · obtain ⟨none, _⟩ | ⟨e, one, _⟩ := errors
      · exact .inl (by rw [none]; rfl)
      · exact .inr (.inl ⟨e, by rw [one]; rfl⟩)
    · intro answered
      obtain ⟨none, _⟩ | ⟨e, _, _, ends⟩ := errors
      · exact absurd (by rw [none]; rfl) answered
      · exact ends
  | drop =>
    refine ⟨fun ended => by simp [ChannelLife.due, Channel.isOpen, ended], [], x.due .drop, rfl, nothing,
      ?_, fun _ => rfl⟩
    dsimp only [ChannelLife.due]
    split
    · exact .inr (.inr rfl)
    · exact .inl rfl
  | keep | push s | cancel =>
    exact ⟨fun _ => rfl, [], [], rfl, nothing, .inl rfl, fun more => absurd rfl more⟩

/-- A channel that has terminated stays so. -/
theorem Channel.perform_ended (op : ChannelOp) (ended : c.terminated = true) :
    (c.perform op).1.channel.terminated = true := by
  obtain ⟨_, stays⟩ | ⟨_, _, live, _⟩ := (c.perform_speaks op).errors
  · exact stays ended
  · exact absurd (live.symm.trans ended) Bool.false_ne_true

/-- What a channel has sent by now is in order, and it has asked for payloads as it should. -/
structure ChannelLife.Orderly (x : ChannelLife) : Prop where
  asked : x.channel.initialDemand ≠ 0 → x.channel.requested = x.heeded
  frames : ∃ grants last, x.frames = grants ++ last ∧ Frame.Grants x.channel.stream grants ∧
    Frame.LastWord x.channel.stream last
  /-- A channel that can still speak has only asked so far. -/
  going : x.channel.terminated = false → Frame.Grants x.channel.stream x.frames

theorem ChannelLife.orderly_begin (stream : StreamId) (token : Nat) (demand : UInt32) :
    (ChannelLife.begin stream token demand).Orderly :=
  ⟨fun _ => rfl, ⟨[], [], rfl, .nil stream, .inl rfl⟩, fun _ => .nil stream⟩

/-- An operation sends what is due. -/
theorem ChannelLife.Orderly.due (h : x.Orderly) (op : ChannelOp) :
    (x.channel.perform op).1.frames = x.due op := by
  cases op with
  | request n => exact x.channel.request_frames n
  | read allowed =>
    rw [Channel.read_frames, ChannelLife.due]
    cases open_ : x.channel.isOpen with
    | false => simp
    | true =>
      rw [if_pos rfl, Channel.requestFirst_frames (Channel.isOpen_iff.mp open_).1]
      by_cases zero : x.channel.initialDemand = 0
      · simp [zero]
      · simp [zero, h.asked zero]
  | drop =>
    unfold Channel.perform Channel.drop ChannelLife.due Channel.isOpen
    cases x.channel.terminated <;> cases x.channel.cancelled <;> rfl
  | keep | push s | cancel => rfl

theorem ChannelLife.Orderly.perform (h : x.Orderly) (op : ChannelOp) : (x.perform op).Orderly := by
  have asks := x.channel.perform_asksBy op
  have speaks := x.channel.perform_speaks op
  have stream : (x.perform op).channel.stream = x.channel.stream := speaks.stream
  have frames : (x.perform op).frames = x.frames ++ x.due op := by
    rw [← h.due op]
    rfl
  have asked : (x.perform op).channel.initialDemand ≠ 0 →
      (x.perform op).channel.requested = (x.perform op).heeded := by
    intro some_
    have some_ : x.channel.initialDemand ≠ 0 := asks.demand ▸ some_
    exact (asks.requested some_).trans (by rw [h.asked some_]; rfl)
  obtain ⟨silent, grants, last, due, granted, word, ends⟩ := x.due_spec op
  cases terminated : x.channel.terminated with
  | true =>
    have stays : (x.perform op).channel.terminated = true := Channel.perform_ended op terminated
    rw [silent terminated, List.append_nil] at frames
    refine ⟨asked, by rw [frames, stream]; exact h.frames, fun live => ?_⟩
    exact absurd (live.symm.trans stays) Bool.false_ne_true
  | false =>
    have all : Frame.Grants x.channel.stream (x.frames ++ grants) := (h.going terminated).append granted
    rw [due, ← List.append_assoc] at frames
    refine ⟨asked, ⟨_, last, frames, stream ▸ all, stream ▸ word⟩, fun live => ?_⟩
    have none : last = [] := by
      by_contra spoken
      exact Bool.false_ne_true (live.symm.trans (ends spoken))
    rw [frames, none, List.append_nil, stream]
    exact all

theorem ChannelLife.Orderly.after (h : x.Orderly) (ops : List ChannelOp) : (x.after ops).Orderly := by
  induction ops generalizing x with
  | nil => exact h
  | cons op ops ih => exact ih (h.perform op)

theorem ChannelLife.after_kept (x : ChannelLife) (ops : List ChannelOp) :
    (x.after ops).channel.stream = x.channel.stream ∧
      (x.after ops).channel.initialDemand = x.channel.initialDemand := by
  induction ops generalizing x with
  | nil => exact ⟨rfl, rfl⟩
  | cons op ops ih =>
    obtain ⟨stream, demand⟩ := ih (x.perform op)
    exact ⟨stream.trans (x.channel.perform_speaks op).stream,
      demand.trans (x.channel.perform_asksBy op).demand⟩

/-- From its end on a channel is silent. -/
theorem ChannelLife.Orderly.silent (h : x.Orderly) (ended : x.channel.terminated = true)
    (ops : List ChannelOp) :
    (x.after ops).frames = x.frames ∧ (x.after ops).channel.terminated = true := by
  induction ops generalizing x with
  | nil => exact ⟨rfl, ended⟩
  | cons op ops ih =>
    obtain ⟨frames, stays⟩ := ih (h.perform op) (Channel.perform_ended op ended)
    refine ⟨frames.trans ?_, stays⟩
    show x.frames ++ (x.channel.perform op).1.frames = x.frames
    rw [h.due op, (x.due_spec op).1 ended, List.append_nil]

/-- What is done by the holder of a channel is one of the operations. -/
theorem Channel.Use.performed {asking : Prop} {step : ChannelStep} {xs : List Item}
    (use : c.Use asking step xs) : ∃ op, c.perform op = (step, xs) := by
  cases use with
  | poll => exact ⟨.read true, by simp [Channel.perform]⟩
  | open_ live => exact ⟨.read false, by simp [Channel.perform, live]⟩
  | request may demand => exact ⟨.request demand, rfl⟩
  | drop => exact ⟨.drop, rfl⟩
  | keep => exact ⟨.keep, rfl⟩

end Multiplexer
