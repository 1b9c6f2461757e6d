import Multiplexer.Outbound

/-!
Runs of the queue of frames that wait for the transport, whoever of its senders and its receiver does
something with it and in whatever order. What has been delivered and what is queued still are the frames
that have been admitted, in the order in which they were sent.
-/

namespace Multiplexer

/-- Something that one of the senders or the receiver does. -/
inductive Outbound.Operation where
  | send (sender : Nat) (f : Frame)
  | clone (sender : Nat)
  | dropSender (sender : Nat)
  /-- The receiver waits for a frame, or is polled as a stream. -/
  | receive
  /-- The receiver takes a frame if there is one, and does not wait for it. -/
  | tryReceive
  | close
  | dropReceiver
deriving DecidableEq

/-- What an operation answers. -/
inductive Outbound.Answer where
  | sent (admitted : Option Bool)
  | cloned (sender : Nat)
  | received (receipt : Receipt Frame)
  | tried (f : Option Frame)
  | nothing
deriving DecidableEq

def Outbound.perform (q : Outbound) : Outbound.Operation → Outbound × Outbound.Answer
  | .send k f =>
    let (q, admitted) := q.send k f
    (q, .sent admitted)
  | .clone k =>
    let (q, copy) := q.cloneSender k
    (q, .cloned copy)
  | .dropSender k => (q.dropSender k, .nothing)
  | .receive =>
    let (q, receipt) := q.receive
    (q, .received receipt)
  | .tryReceive =>
    match q.pop? with
    | some (f, q) => (q, .tried (some f))
    | none => (q, .tried none)
  | .close => (q.close, .nothing)
  | .dropReceiver => (q.dropReceiver, .nothing)

/-- The queue after a list of operations. -/
def Outbound.after (q : Outbound) (ops : List Outbound.Operation) : Outbound :=
  ops.foldl (fun q op => (q.perform op).1) q

/-- The frame that an operation has sent, if the sender was told that it has been. -/
def Outbound.admits (q : Outbound) (op : Outbound.Operation) : List Frame :=
  match op, (q.perform op).2 with
  | .send _ f, .sent (some true) => [f]
  | _, _ => []

/-- The frame that an answer hands to the receiver. -/
def Outbound.Answer.frame? : Outbound.Answer → Option Frame
  | .received (.item f) | .tried (some f) => some f
  | .received .pending | .received .finished | .tried none | .sent _ | .cloned _ | .nothing => none

/-- The frames that have been sent in a list of operations. -/
def Outbound.admitted (q : Outbound) : List Outbound.Operation → List Frame
  | [] => []
  | op :: ops => q.admits op ++ admitted (q.perform op).1 ops

/-- The frames that have been received in a list of operations. -/
def Outbound.delivered (q : Outbound) : List Outbound.Operation → List Frame
  | [] => []
  | op :: ops => (q.perform op).2.frame?.toList ++ delivered (q.perform op).1 ops

variable {q : Outbound} {op : Outbound.Operation} {ops : List Outbound.Operation}

theorem Outbound.isClosed_eq_false_iff (q : Outbound) :
    q.isClosed = false ↔ q.receiver = .receiving := by
  simp [Outbound.isClosed]

theorem Outbound.push_open (h : q.isClosed = false) (f : Frame) :
    q.push f = ({ q with queue := q.queue ++ [f], accepted := q.accepted + 1 }, true) := by
  simp [Outbound.push, h]

theorem Outbound.push_closed (h : q.isClosed = true) (f : Frame) : q.push f = (q, false) := by
  simp [Outbound.push, h]

/-- A sender that is there is told whether the receiver still takes frames. -/
theorem Outbound.send_answer (q : Outbound) (k : Nat) (f : Frame) :
    (q.send k f).2 = if q.hasSender k then some !q.isClosed else none := by
  unfold Outbound.send
  split
  next =>
    cases closed : q.isClosed with
    | true => simp [Outbound.push_closed closed]
    | false => simp [Outbound.push_open closed]
  next => rfl

theorem Outbound.pop?_cons {f : Frame} {fs : List Frame} (h : q.queue = f :: fs) :
    q.pop? = some (f, { q with queue := fs }) := by
  simp [Outbound.pop?, h]

theorem Outbound.pop?_nil (h : q.queue = []) : q.pop? = none := by
  simp [Outbound.pop?, h]

/-- All that can become of a queue that is not given up by its receiver: a frame comes to its end, or
leaves from its front, or it stays as it is. The frames that come are counted. -/
inductive Outbound.Passes (q : Outbound) (op : Outbound.Operation) : Prop where
  | admits {f : Frame} (going : q.isClosed = false) (sent : q.admits op = [f])
    (quiet : (q.perform op).2.frame? = none) (queue : (q.perform op).1.queue = q.queue ++ [f])
    (counted : (q.perform op).1.accepted = q.accepted + 1)
  | delivers {f : Frame} (idle : q.admits op = []) (taken : (q.perform op).2.frame? = some f)
    (queue : q.queue = f :: (q.perform op).1.queue)
    (counted : (q.perform op).1.accepted = q.accepted)
  | keeps (idle : q.admits op = []) (quiet : (q.perform op).2.frame? = none)
    (queue : (q.perform op).1.queue = q.queue) (counted : (q.perform op).1.accepted = q.accepted)

theorem Outbound.perform_passes (q : Outbound) (h : op ≠ .dropReceiver) : q.Passes op := by
  cases op with
  | send k f =>
    cases there : q.hasSender k with
    | false =>
      have gone : q.perform (.send k f) = (q, .sent none) := by
        simp [Outbound.perform, Outbound.send, there]
      exact .keeps (by simp [Outbound.admits, gone]) rfl (by rw [gone]) (by rw [gone])
    | true =>
      cases closed : q.isClosed with
      | true =>
        have refused : q.perform (.send k f) = (q, .sent (some false)) := by
          simp [Outbound.perform, Outbound.send, there, Outbound.push_closed closed]
        exact .keeps (by simp [Outbound.admits, refused]) rfl (by rw [refused]) (by rw [refused])
      | false =>
        have taken : q.perform (.send k f) =
            ({ q with queue := q.queue ++ [f], accepted := q.accepted + 1 }, .sent (some true)) := by
          simp [Outbound.perform, Outbound.send, there, Outbound.push_open closed]
        have sent : q.admits (.send k f) = [f] := by simp [Outbound.admits, taken]
        exact .admits closed sent rfl (by rw [taken]) (by rw [taken])
  | receive =>
    cases queued : q.queue with
    | nil =>
      have same : (q.perform .receive).1 = q := by
        simp [Outbound.perform, Outbound.receive, Outbound.pop?_nil queued]
      refine .keeps rfl ?_ (by rw [same]) (by rw [same])
      simp only [Outbound.perform, Outbound.receive, Outbound.pop?_nil queued]
      split <;> rfl
    | cons f fs =>
      have taken : q.perform .receive = ({ q with queue := fs }, .received (.item f)) := by
        simp [Outbound.perform, Outbound.receive, Outbound.pop?_cons queued]
      exact .delivers rfl (by rw [taken]; rfl) (by rw [taken, queued]) (by rw [taken])
  | tryReceive =>
    cases queued : q.queue with
    | nil =>
      have same : q.perform .tryReceive = (q, .tried none) := by
        simp [Outbound.perform, Outbound.pop?_nil queued]
      exact .keeps rfl (by rw [same]; rfl) (by rw [same]) (by rw [same])
    | cons f fs =>
      have taken : q.perform .tryReceive = ({ q with queue := fs }, .tried (some f)) := by
        simp [Outbound.perform, Outbound.pop?_cons queued]
      exact .delivers rfl (by rw [taken]; rfl) (by rw [taken, queued]) (by rw [taken])
  | clone k => exact .keeps rfl rfl rfl rfl
  | dropSender k => exact .keeps rfl rfl rfl rfl
  | close => exact .keeps rfl rfl rfl rfl
  | dropReceiver => exact absurd rfl h

/-- One operation takes frames from the front only, and puts them to the end only. -/
theorem Outbound.perform_order (q : Outbound) (h : op ≠ .dropReceiver) :
    (q.perform op).2.frame?.toList ++ (q.perform op).1.queue = q.queue ++ q.admits op := by
  cases q.perform_passes h with
  | admits going sent quiet queue => simp [sent, quiet, queue]
  | delivers idle taken queue => simp [idle, taken, ← queue]
  | keeps idle quiet queue => simp [idle, quiet, queue]

theorem Outbound.perform_accepted (q : Outbound) (op : Outbound.Operation) :
    (q.perform op).1.accepted = q.accepted + (q.admits op).length := by
  by_cases dropped : op = .dropReceiver
  · subst dropped
    rfl
  · cases q.perform_passes dropped with
    | admits going sent quiet queue counted => rw [sent, counted]; rfl
    | delivers idle taken queue counted => rw [idle, counted]; rfl
    | keeps idle quiet queue counted => rw [idle, counted]; rfl

/-- What has been delivered and what is queued still are what was queued at first and what has been sent. -/
theorem Outbound.after_order (q : Outbound) (h : .dropReceiver ∉ ops) :
    q.delivered ops ++ (q.after ops).queue = q.queue ++ q.admitted ops := by
  induction ops generalizing q with
  | nil => exact (List.append_nil _).symm
  | cons op ops ih =>
    have first := q.perform_order (List.ne_of_not_mem_cons h).symm
    have rest := ih (q.perform op).1 (List.not_mem_of_not_mem_cons h)
    show (_ ++ (q.perform op).1.delivered ops) ++ ((q.perform op).1.after ops).queue =
      q.queue ++ (q.admits op ++ (q.perform op).1.admitted ops)
    rw [List.append_assoc, rest, ← List.append_assoc, first, List.append_assoc]

theorem Outbound.after_accepted (q : Outbound) (ops : List Outbound.Operation) :
    (q.after ops).accepted = q.accepted + (q.admitted ops).length := by
  induction ops generalizing q with
  | nil => rfl
  | cons op ops ih =>
    show ((q.perform op).1.after ops).accepted =
      q.accepted + (q.admits op ++ (q.perform op).1.admitted ops).length
    rw [ih, q.perform_accepted op, List.length_append, Nat.add_assoc]

theorem Outbound.perform_isClosed (q : Outbound) (op : Outbound.Operation) :
    (q.perform op).1.isClosed = (q.isClosed || decide (op = .close ∨ op = .dropReceiver)) := by
  cases op with
  | send k f =>
    cases there : q.hasSender k with
    | false => simp [Outbound.perform, Outbound.send, there]
    | true =>
      cases closed : q.isClosed with
      | true => simp [Outbound.perform, Outbound.send, there, Outbound.push_closed closed, closed]
      | false =>
        have going : ({ q with queue := q.queue ++ [f], accepted := q.accepted + 1 } :
          Outbound).isClosed = false := closed
        simp [Outbound.perform, Outbound.send, there, Outbound.push_open closed, going]
  | receive =>
    cases queued : q.queue with
    | nil => simp [Outbound.perform, Outbound.receive, Outbound.pop?_nil queued]
    | cons f fs =>
      simp [Outbound.perform, Outbound.receive, Outbound.pop?_cons queued, Outbound.isClosed]
  | tryReceive =>
    cases queued : q.queue with
    | nil => simp [Outbound.perform, Outbound.pop?_nil queued]
    | cons f fs => simp [Outbound.perform, Outbound.pop?_cons queued, Outbound.isClosed]
  | clone k => simp [Outbound.perform, Outbound.cloneSender, Outbound.isClosed]
  | dropSender k => simp [Outbound.perform, Outbound.dropSender, Outbound.isClosed]
  | close =>
    obtain ⟨queue, senders, receiver, accepted⟩ := q
    cases receiver <;> rfl
  | dropReceiver => simp [Outbound.perform, Outbound.dropReceiver, Outbound.isClosed]

/-- Only the receiver closes a queue, and for good. -/
theorem Outbound.after_isClosed (q : Outbound) (ops : List Outbound.Operation) :
    (q.after ops).isClosed = (q.isClosed || decide (.close ∈ ops ∨ .dropReceiver ∈ ops)) := by
  induction ops generalizing q with
  | nil => simp [Outbound.after]
  | cons op ops ih =>
    show ((q.perform op).1.after ops).isClosed = _
    rw [ih, q.perform_isClosed op, Bool.or_assoc]
    congr 1
    rw [← Bool.decide_or]
    congr 1
    simp only [List.mem_cons, eq_comm, eq_iff_iff]
    grind

/-- Nothing is sent once the receiver has closed. -/
theorem Outbound.admits_closed (h : q.isClosed = true) (other : op ≠ .dropReceiver) : q.admits op = [] := by
  cases q.perform_passes other with
  | admits going => exact absurd (going.symm.trans h) (by decide)
  | delivers idle => exact idle
  | keeps idle => exact idle

theorem Outbound.admitted_closed (h : q.isClosed = true) (kept : .dropReceiver ∉ ops) :
    q.admitted ops = [] := by
  induction ops generalizing q with
  | nil => rfl
  | cons op ops ih =>
    have first := Outbound.admits_closed h (List.ne_of_not_mem_cons kept).symm
    have rest := ih (by rw [q.perform_isClosed op, h]; rfl) (List.not_mem_of_not_mem_cons kept)
    exact List.append_eq_nil_iff.mpr ⟨first, rest⟩

/-- The front of the queue is there to be received, and to be taken, whether or not the receiver has
closed. -/
theorem Outbound.front_received {f : Frame} {fs : List Frame} (h : q.queue = f :: fs) :
    (q.perform .receive).2 = .received (.item f) ∧ (q.perform .tryReceive).2 = .tried (some f) := by
  simp [Outbound.perform, Outbound.receive, Outbound.pop?_cons h]

theorem Outbound.any_sender_eq_false_iff (q : Outbound) :
    q.senders.any id = false ↔ ∀ k, q.hasSender k = false := by
  constructor
  · intro none_there k
    rw [List.any_eq_false] at none_there
    cases at_k : q.senders[k]? with
    | none => simp [Outbound.hasSender, at_k]
    | some b =>
      have gone := none_there b (List.mem_of_getElem? at_k)
      simpa [Outbound.hasSender, at_k] using gone
  · intro all_gone
    rw [List.any_eq_false]
    intro b among
    obtain ⟨k, at_k⟩ := List.mem_iff_getElem?.mp among
    simpa [Outbound.hasSender, at_k] using all_gone k

/-- A receiver learns of the end when nothing is queued and nothing more can come. -/
theorem Outbound.receive_finished_iff (q : Outbound) :
    q.receive.2 = .finished ↔
      q.queue = [] ∧ (q.isClosed = true ∨ ∀ k, q.hasSender k = false) := by
  cases queued : q.queue with
  | nil =>
    rw [← q.any_sender_eq_false_iff]
    cases there : q.senders.any id <;>
      simp [Outbound.receive, Outbound.pop?_nil queued, Outbound.isExhausted, there]
  | cons f fs => simp [Outbound.receive, Outbound.pop?_cons queued]

/-- Whatever the senders and the receiver do to a new queue, and in whatever order: until the receiver is
dropped, what it has been given and what is queued still are the frames whose senders were told that they
are sent, in the order of the sends. A sender is told so just when the receiver has neither closed nor
been dropped, and each frame that is sent, and nothing else, is counted. A receiver that has closed is
still given what is queued and nothing more, and the end is announced just when nothing is queued and
the receiver has closed or no sender is left. -/
theorem Outbound.frames_in_order (ops : List Outbound.Operation) :
    let q := Outbound.new.after ops
    (.dropReceiver ∉ ops → Outbound.new.delivered ops ++ q.queue = Outbound.new.admitted ops) ∧
    (∀ k f, (q.send k f).2 =
      if q.hasSender k then some (decide (.close ∉ ops ∧ .dropReceiver ∉ ops)) else none) ∧
    (∀ op, (q.perform op).1.accepted = q.accepted + (q.admits op).length) ∧
    q.accepted = (Outbound.new.admitted ops).length ∧
    (∀ f rest, q.queue = f :: rest → (q.perform .receive).2 = .received (.item f) ∧
      (q.perform .tryReceive).2 = .tried (some f)) ∧
    (.close ∈ ops → ∀ later, .dropReceiver ∉ later →
      q.delivered later ++ (q.after later).queue = q.queue) ∧
    (q.receive.2 = .finished ↔
      q.queue = [] ∧ (.close ∈ ops ∨ .dropReceiver ∈ ops ∨ ∀ k, q.hasSender k = false)) := by
  intro q
  have closed : q.isClosed = decide (.close ∈ ops ∨ .dropReceiver ∈ ops) :=
    Outbound.new.after_isClosed ops
  refine ⟨Outbound.new.after_order, fun k f => ?_, q.perform_accepted, ?_,
    fun f rest => Outbound.front_received, fun shut later kept => ?_, ?_⟩
  · simp only [q.send_answer, closed, ← decide_not, not_or]
  · exact (Outbound.new.after_accepted ops).trans (Nat.zero_add _)
  · have drained := q.after_order kept
    rwa [Outbound.admitted_closed (by simp [closed, shut]) kept, List.append_nil] at drained
  · rw [q.receive_finished_iff, closed, decide_eq_true_iff, or_assoc]

/-- Two senders take turns, and the receiver closes between them. -/
theorem Outbound.frames_in_order_of_two :
    let first := Frame.cancel (.ofNat 1)
    let second := Frame.complete (.ofNat 3)
    let ops : List Outbound.Operation := [.send 0 first, .clone 0, .send 1 second, .receive, .close]
    .dropReceiver ∉ ops ∧ .close ∈ ops ∧ (Outbound.new.after ops).queue = [second] ∧
    [first] ++ [second] = Outbound.new.admitted ops ∧
    ((Outbound.new.after ops).perform .tryReceive).2 = .tried (some second) ∧
    (Outbound.new.after ops).delivered [.send 0 first, .receive] ++ [] = [second] := by
  intro first second ops
  obtain ⟨order, _, _, _, front, drained, _⟩ := Outbound.frames_in_order ops
  have kept : .dropReceiver ∉ ops := by decide
  have queued : (Outbound.new.after ops).queue = [second] := by decide
  refine ⟨kept, by decide, queued, order kept, (front second [] queued).2, ?_⟩
  exact drained (by decide) [.send 0 first, .receive] (by decide)

end Multiplexer
