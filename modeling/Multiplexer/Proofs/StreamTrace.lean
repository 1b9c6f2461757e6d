import Multiplexer.Proofs.StreamAccount

/-!
What any moment of a response stream shows, read off its account.
-/

namespace Multiplexer

variable {n : Nat} {stream : StreamId}

/-- What an account may break off with, after some items have been sent. -/
inductive StreamTail (n : Nat) (stream : StreamId) : List Event → Prop where
  | sent : StreamTail n stream []
  | pulled (p : Payload) : StreamTail n stream [.pulled n (.ok p)]
  | ended : StreamTail n stream [.ended n]
  | completed : StreamTail n stream [.ended n, .sent (.task n) (.complete stream)]
  | broken (e : HandlerError) : StreamTail n stream [.pulled n (.error e)]
  | failed (e : HandlerError) :
    StreamTail n stream [.pulled n (.error e), .sent (.task n) (.error stream e.code e.message)]

theorem StreamPhase.tail (n : Nat) (stream : StreamId) (phase : StreamPhase) :
    StreamTail n stream (phase.pending n) := by
  unfold StreamPhase.pending
  cases phase.inHand with
  | none => exact .sent
  | some p => exact .pulled p

theorem StreamLast.tail {cut : Bool} {last : List Event} (h : StreamLast n stream cut last) :
    StreamTail n stream last := by
  cases h with
  | cut phase => exact phase.tail n stream
  | completed => exact .completed
  | failed _ e => exact .failed e
  | remote _ e => exact .broken e

theorem framesOf_delivered (n : Nat) (stream : StreamId) (ps : List Payload) :
    framesOf (.task n) (delivered n stream ps) = ps.map (Frame.next stream) := by
  induction ps with
  | nil => rfl
  | cons p ps ih =>
    show framesOf (.task n) ([_, _] ++ delivered n stream ps) = _
    rw [framesOf_append, ih]
    simp [Event.frameBy?]

theorem itemsOf_delivered (n : Nat) (stream : StreamId) (ps : List Payload) :
    itemsOf n (delivered n stream ps) = ps.map .ok := by
  induction ps with
  | nil => rfl
  | cons p ps ih =>
    show itemsOf n ([_, _] ++ delivered n stream ps) = _
    rw [itemsOf_append, ih]
    simp [Event.itemOf?]

end Multiplexer
