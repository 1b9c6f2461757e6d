import Multiplexer.Proofs.Acceptance

/-!
Withdrawal: the actions that take out whatever operation is registered under a stream. After one
nothing is registered there, and no other action cancels an operation.
-/

namespace Multiplexer

variable {ω : Type} {r r' : Responder} {stream : StreamId}

/-- The action takes out the operation of a stream: a CANCEL frame for it that is dispatched, or the
end of the transport or of the connection. -/
def Action.withdraws (stream : StreamId) (r : Responder) : Action ω → Prop
  | .receive (.item (.ok f)) => r.Listens ∧ f.kind = .cancel ∧ f.stream = stream
  | .cleanup | .transportStopped _ => True
  | _ => False

theorem Responder.cancelStream_free (r : Responder) (stream : StreamId) :
    (r.cancelStream stream).1.registry.outbound? stream = none := by
  cases found : r.registry.outbound? stream with
  | none => simp [Responder.cancelStream, Registry.removeOutbound, found]
  | some n =>
    have erased : (r.cancelStream stream).1.registry.outbound = r.registry.outbound.erase stream := by
      simp [Responder.cancelStream, Registry.removeOutbound, found]
    rw [Registry.outbound?, erased]
    simp [Entries.find?, Entries.erase]

theorem Responder.AsideMoves.outbound? (moves : r.AsideMoves r') (stream : StreamId) :
    r'.registry.outbound? stream = r.registry.outbound? stream := by
  rw [Registry.outbound?, (Responder.AsideMoves.keepsTasks moves).outbound, Registry.outbound?]

/-- Nothing is registered under a stream from which the operation has been withdrawn. -/
theorem Action.withdraws.free {s : Responder × ω} (settings : Settings) (app : Application ω)
    {a : Action ω} (h : a.withdraws stream s.1) :
    (Responder.step settings app a s).1.registry.outbound? stream = none := by
  obtain ⟨r, w⟩ := s
  have empty (r : Responder) : r.cancelStreams.registry.outbound? stream = none :=
    (Responder.AsideMoves.outbound? r.cancelStreams_aside stream).trans rfl
  cases a with
  | receive x =>
    cases x with
    | item x =>
      cases x with
      | error e => exact h.elim
      | ok f =>
        obtain ⟨listens, kind, rfl⟩ := h
        have left := Responder.dispatch_aside settings app f listens
        rw [Responder.AsideMoves.outbound? left]
        simp only [Responder.dispatch, kind]
        exact Responder.cancelStream_free _ f.stream
    | pending => exact h.elim
    | finished => exact h.elim
  | cleanup =>
    have kept := r.beginTurn.cancelStreams.dispose_keepsTasks w app
    have same : (r.beginTurn.cancelStreams.dispose w app).1.registry.outbound? stream =
        r.beginTurn.cancelStreams.registry.outbound? stream := by
      rw [Registry.outbound?, kept.outbound, Registry.outbound?]
    exact same.trans (empty _)
  | transportStopped result => exact empty _
  | _ => exact h.elim

/-- The moves that cancel the operation of a stream, if there is one. -/
def Label.withdraws (stream : StreamId) (l : Label) : Prop := l = .teardown ∨ l = .cancel stream

/-- An action that does not withdraw the operation of a stream consists of moves that do not. -/
theorem Responder.Linked.sparing_moves {s : Responder × ω} (h : s.1.Linked) (settings : Settings)
    (app : Application ω) (a : Action ω) (spares : ¬ a.withdraws stream s.1) :
    s.1.Moves (fun l => ¬ l.withdraws stream) (Responder.step settings app a s).1 := by
  by_cases idle : ∃ x, a = .receive x ∧ ¬ s.1.Listens
  · obtain ⟨x, rfl, deaf⟩ := idle
    have aside : ¬ Label.aside.withdraws stream := by simp [Label.withdraws]
    exact Responder.AsideMoves.moves aside (Responder.step_idle settings app s x deaf)
  · refine (h.step_moves settings app a).mono ?_
    rintro l allow (rfl | rfl)
    · rcases allow with rfl | ⟨result, rfl⟩ <;> exact spares trivial
    · obtain ⟨f, rfl, kind, on⟩ := allow
      exact spares ⟨by simpa using idle, kind, on⟩

end Multiplexer
