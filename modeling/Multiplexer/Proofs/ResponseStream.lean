import Multiplexer.Proofs.StreamRun
import Multiplexer.Proofs.StreamTrace

/-!
Response streams from acceptance to their end: flow control, order, and the frame that answers the
end of the stream.
-/

namespace Multiplexer

variable {ω : Type} {r : Responder} {n : Nat} {stream : StreamId}

theorem creditOfDemand_le (demand : UInt32) : creditOfDemand demand ≤ unbounded := by
  have bound := demand.toNat_lt
  unfold creditOfDemand unbounded UInt64.size
  split <;> omega

theorem Responder.Begun.streaming {control : Control} {token : Nat} {channel : Option Nat}
    {phase : StreamPhase}
    (begun : Responder.Begun n stream control (.stream token channel phase) r)
    (held : phase.inHand = none) : Responder.Streaming n stream r [] := by
  refine ⟨_, begun.there, rfl, rfl, token, channel, phase, rfl, ?_⟩
  rw [begun.account, StreamPhase.pending, held]
  rfl

/-- A response stream begins with the credit that its request brings. -/
theorem Responder.Begun.serves {demand : UInt32} {token : Nat} {channel : Option Nat}
    {phase : StreamPhase}
    (begun : Responder.Begun n stream (.stream false (Demand.new.grant (creditOfDemand demand)))
      (.stream token channel phase) r) (held : phase.inHand = none) :
    Responder.Serves n stream (creditOfDemand demand) r := by
  refine ⟨[], .inl (begun.streaming held), _, by rw [Responder.demand?, begun.control]; rfl, ?_⟩
  have limit := creditOfDemand_le demand
  by_cases nothing : creditOfDemand demand = 0
  · exact .inr (by simp [nothing, Demand.grant, Demand.new, unbounded])
  · rw [Demand.credit_grant _ nothing]
    simp only [Demand.new, List.length_nil]
    omega

theorem Responder.Serves.tail {granted : Nat} (serves : Responder.Serves n stream granted r) :
    ∃ ps tail, StreamTail n stream tail ∧ r.account n = delivered n stream ps ++ tail ∧
      r.Credited n granted ps.length := by
  obtain ⟨ps, state, credited⟩ := serves
  rcases state with ⟨t, _, _, _, _, _, phase, _, account⟩ | ⟨_, last, ends, account⟩
  · exact ⟨ps, _, phase.tail n stream, account, credited⟩
  · exact ⟨ps, last, ends.tail, account, credited⟩

/-- The end of a stream and an error that it ends with are told apart from all other events. -/
theorem mem_account {e : Event} {ps : List Payload} {tail : List Event}
    (own : e.task? = some n) (other : ∀ p, e ≠ .pulled n (.ok p)) (silent : ∀ f, e ≠ .sent (.task n) f)
    (account : r.account n = delivered n stream ps ++ tail) : e ∈ r.history ↔ e ∈ tail := by
  have here : e ∈ r.account n ↔ e ∈ r.history := by simp [Responder.account, accountOf, own]
  rw [← here, account, List.mem_append, or_iff_right]
  simp [delivered, other, silent]

theorem Responder.Serves.completed {granted : Nat} (serves : Responder.Serves n stream granted r)
    (ended : .ended n ∈ r.history) :
    ∃ ps, r.account n =
      delivered n stream ps ++ [.ended n, .sent (.task n) (.complete stream)] := by
  have inside {ps : List Payload} {tail : List Event}
      (account : r.account n = delivered n stream ps ++ tail) : .ended n ∈ tail :=
    (mem_account rfl (by simp) (by simp) account).mp ended
  obtain ⟨ps, state, _⟩ := serves
  rcases state with ⟨t, _, _, _, _, _, phase, _, account⟩ | ⟨_, last, ends, account⟩
  · simpa [StreamPhase.pending] using inside account
  · have here := inside account
    -- of the four ways to end only one has the end of the stream in it
    cases ends with
    | cut phase => simp [StreamPhase.pending] at here
    | completed => exact ⟨ps, account⟩
    | failed _ e own => simp at here
    | remote _ e others => simp at here

/-- A stream that has failed is answered by an ERROR, unless the error is the peer's own. -/
theorem Responder.Serves.failed {granted : Nat} (serves : Responder.Serves n stream granted r)
    {e : HandlerError} (pulled : .pulled n (.error e) ∈ r.history) :
    ∃ ps, r.account n = delivered n stream ps ++ .pulled n (.error e) ::
      if e.isRemote then [] else [.sent (.task n) (.error stream e.code e.message)] := by
  have inside {ps : List Payload} {tail : List Event}
      (account : r.account n = delivered n stream ps ++ tail) : .pulled n (.error e) ∈ tail :=
    (mem_account rfl (by simp) (by simp) account).mp pulled
  obtain ⟨ps, state, _⟩ := serves
  rcases state with ⟨t, _, _, _, _, _, phase, _, account⟩ | ⟨_, last, ends, account⟩
  · simpa [StreamPhase.pending] using inside account
  · have here := inside account
    cases ends with
    | cut phase => simp [StreamPhase.pending] at here
    | completed => simp at here
    | failed _ e' own =>
      obtain rfl : e = e' := by simpa using here
      exact ⟨ps, by simp [account, own]⟩
    | remote _ e' others =>
      obtain rfl : e = e' := by simpa using here
      exact ⟨ps, by simp [account, others]⟩

/-- An accepted request for a response stream or a channel is served from then on, whatever happens. -/
theorem Responder.serves_run {settings : Settings} {app : Application ω} {s : Responder × ω}
    {f : Frame} (h : s.1.Linked) (kind : f.kind = .requestStream ∨ f.kind = .requestChannel)
    (accepted : Responder.Accepts settings app s f) (after : List (Action ω)) :
    Responder.Serves s.1.controls.length f.stream
      (creditOfDemand f.demand + Responder.granted settings app s.1.controls.length after
        (Responder.step settings app (.receive (.item (.ok f))) s))
      (Responder.run settings app after
        (Responder.step settings app (.receive (.item (.ok f))) s)).1 := by
  obtain ⟨token, channel, phase, held, _, begun⟩ := Responder.accepted_stream h kind accepted
  have known := begun.linked.task_lt begun.there
  exact Responder.Serves.run settings app after begun.linked known (begun.serves held)

/-- An application whose response streams produce the items of its world. -/
def supplier : Application (List Item) where
  start _ _ _ items := items
  poll _ items := .answer (.pending, items)
  openStream _ _ items := .answer (none, items)
  openChannel _ _ _ items := .answer (none, items)
  pull _ items := .answer (.ready items.head?, items.tail)
  drop _ items := .answer items
  dispose items := .answer (none, items)

end Multiplexer
