import Multiplexer.Proofs.Withdrawal

/-!
How a stream comes to be registered: a stream that is free stays free until a request for it is
accepted, or the application registers a control of its own under it.
-/

namespace Multiplexer

variable {ω : Type} {r r' : Responder} {stream : StreamId}

/-- Frames of this kind ask for an operation under their stream. -/
def FrameKind.opens : FrameKind → Bool
  | .fireAndForget | .requestResponse | .requestStream | .requestChannel => true
  | _ => false

/-- The action may register an operation under a stream. -/
def Action.requests (stream : StreamId) : Action ω → Prop
  | .receive (.item (.ok f)) => f.kind.opens = true ∧ f.stream = stream
  | .register other _ => other = stream
  | _ => False

theorem Registry.outbound?_eq_none_iff {registry : Registry Nat Nat} :
    registry.outbound? stream = none ↔ ∀ e ∈ registry.outbound, e.stream ≠ stream := by
  simp [Registry.outbound?, Entries.find?]

theorem Task.release_free (t : Task) (token : Option Nat) {registry : Registry Nat Nat}
    (free : registry.outbound? stream = none) :
    (t.release token registry).1.outbound? stream = none := by
  have unused := Registry.outbound?_eq_none_iff.mp free
  apply Registry.outbound?_eq_none_iff.mpr
  intro e he
  cases token with
  | none => exact unused e he
  | some token =>
    simp only [Task.release, Registry.releaseOutbound] at he
    split at he
    · exact unused e (Entries.mem_erase.mp he).1
    · exact unused e he

theorem Task.Move.free {t : Task} (move : t.Move r r')
    (free : r.registry.outbound? stream = none) : r'.registry.outbound? stream = none := by
  cases move with
  | waitSingle | pull | next | wait => exact free
  | @finishSingle r1 kind token request work dropped result cancelled =>
    rw [Responder.settleSingle_eq]
    have kept := (Responder.AsideMoves.outbound? dropped stream).trans free
    exact t.release_free token kept
  | @finishStream r1 token channel phase events outcome work ends dropped =>
    rw [Responder.settleStream_eq]
    have kept := (Responder.AsideMoves.outbound? dropped stream).trans free
    exact t.release_free (some token) kept

/-- Only the beginning of an operation and a registration by the application fill the map. -/
theorem Responder.Move.free {l : Label} (move : Responder.Move l r r') (begins : l ≠ .start)
    (foreign : l ≠ .foreign) (free : r.registry.outbound? stream = none) :
    r'.registry.outbound? stream = none := by
  cases move with
  | aside step => exact (Responder.AsideMoves.outbound? (.single step) stream).trans free
  | begin | startPush => exact absurd rfl begins
  | register => exact absurd rfl foreign
  | @cancel _ other n found =>
    -- an entry that is taken out may be that of another stream
    have erased : (r.cancelStream other).1.registry.outbound = r.registry.outbound.erase other := by
      simp [Responder.cancelStream, Registry.removeOutbound, found]
    apply Registry.outbound?_eq_none_iff.mpr
    intro e he
    rw [erased] at he
    exact Registry.outbound?_eq_none_iff.mp free e (Entries.mem_erase.mp he).1
  | @grant _ other n found demand =>
    unfold Responder.grantStream
    split <;> exact free
  | drain => rfl
  | shut empty => exact free
  | dispose => exact free
  | disconnect => exact free
  | task there step => exact step.free free

theorem Responder.Moves.free {allowed : Label → Prop} (moves : r.Moves allowed r')
    (begins : ¬ allowed .start) (foreign : ¬ allowed .foreign)
    (free : r.registry.outbound? stream = none) : r'.registry.outbound? stream = none := by
  refine moves.invariant (P := fun r => r.registry.outbound? stream = none) free ?_
  intro l r r' allow move free
  refine move.free ?_ ?_ free
  · rintro rfl
    exact begins allow
  · rintro rfl
    exact foreign allow

theorem Responder.register_outbound? (r : Responder) {other : StreamId} (control : Control)
    (hne : other ≠ stream) :
    (r.register other control).1.registry.outbound? stream = r.registry.outbound? stream := by
  cases taken : r.registry.outbound.contains other with
  | true => rw [Registry.outbound?, r.register_outbound_taken control taken, Registry.outbound?]
  | false =>
    rw [Registry.outbound?, r.register_outbound control taken, Registry.outbound?]
    simp [Entries.find?, hne]

theorem Responder.Begins.outbound? {other : StreamId} {control : Control} {work : Work}
    (begins : Responder.Begins other control work r r') (hne : other ≠ stream) :
    r'.registry.outbound? stream = r.registry.outbound? stream := by
  obtain ⟨told, moves, rfl⟩ := begins.opened
  exact (Responder.AsideMoves.outbound? moves stream).trans (r.register_outbound? control hne)

theorem Responder.startSingle_outbound? (r : Responder) (kind : SingleRequest) {other : StreamId}
    (p : Payload) (hne : other ≠ stream) :
    (r.startSingle kind other p).registry.outbound? stream = r.registry.outbound? stream := by
  rcases r.startSingle_spec kind other p with refused | begins
  · exact Responder.AsideMoves.outbound? refused stream
  · exact begins.outbound? hne

theorem Responder.driveStream_outbound? {ω : Type} (r : Responder) (w : ω) {other : StreamId}
    (demand : UInt32) (channel : Option Nat) (openIt : Nat → ω → Dialogue (Option Panic × ω))
    (hne : other ≠ stream) :
    (r.driveStream w other demand channel openIt).1.registry.outbound? stream =
      r.registry.outbound? stream := by
  rcases r.driveStream_spec w other demand channel openIt with refused | ⟨phase, _, begins⟩
  · exact Responder.AsideMoves.outbound? refused stream
  · exact begins.outbound? hne

/-- A request touches the map under its own stream only. -/
theorem Responder.requestChannel_outbound? (r : Responder) (w : ω) (settings : Settings)
    (app : Application ω) (f : Frame) (hne : f.stream ≠ stream) :
    (r.requestChannel w settings app f).1.registry.outbound? stream =
      r.registry.outbound? stream := by
  unfold Responder.requestChannel
  split
  · exact Responder.AsideMoves.outbound? (r.violation_aside _) stream
  · split
    next unread => exact Responder.AsideMoves.outbound? (Responder.readRequest_aside unread) stream
    next p _ =>
      split
      next refused =>
        exact Responder.AsideMoves.outbound? (Responder.openInbound_refused refused) stream
      next opened open_ =>
        have step : r.AsideMoves opened := .single (.openInbound open_)
        exact (opened.driveStream_outbound? w f.demand _ _ hne).trans
          (Responder.AsideMoves.outbound? step stream)

/-- A frame that is dispatched leaves a stream free that it does not ask for. -/
theorem Responder.dispatch_free (w : ω) (settings : Settings) (app : Application ω) (f : Frame)
    (other : f.kind.opens = true → f.stream ≠ stream)
    (free : r.registry.outbound? stream = none) :
    (r.dispatch w settings app f).responder.registry.outbound? stream = none := by
  unfold Responder.dispatch
  have counted : Registry.outbound?
      { r with metrics := r.metrics.frameReceived }.registry stream = none := free
  generalize { r with metrics := r.metrics.frameReceived } = r at counted ⊢
  have aside {r' : Responder} (h : r.AsideMoves r') : r'.registry.outbound? stream = none :=
    (Responder.AsideMoves.outbound? h stream).trans counted
  cases kind : f.kind with
  | fireAndForget =>
    have hne := other (by rw [kind]; rfl)
    dsimp only
    unfold Responder.fireAndForget
    split
    · exact (Responder.startSingle_outbound? _ _ _ hne).trans counted
    · exact aside (Responder.report_aside _ _)
  | requestResponse =>
    have hne := other (by rw [kind]; rfl)
    dsimp only
    unfold Responder.requestResponse
    split
    · exact (Responder.startSingle_outbound? _ _ _ hne).trans counted
    next unread => exact aside (Responder.readRequest_aside unread)
  | requestStream =>
    have hne := other (by rw [kind]; rfl)
    dsimp only
    unfold Responder.requestStream
    split
    · exact (Responder.driveStream_outbound? _ _ _ _ _ hne).trans counted
    next unread => exact aside (Responder.readRequest_aside unread)
  | requestChannel =>
    have hne := other (by rw [kind]; rfl)
    exact (Responder.requestChannel_outbound? _ w settings app f hne).trans counted
  | metadataPush =>
    dsimp only
    unfold Responder.metadataPush
    split
    · exact counted
    · exact aside (Responder.report_aside _ _)
  | cancel =>
    have moves : r.Moves (fun l => l = .cancel f.stream) (r.cancelStream f.stream).1 :=
      Responder.cancelStream_moves f.stream rfl
    exact moves.free nofun nofun counted
  | requestN =>
    have moves : r.Moves (fun l => l = .grant f.stream) (r.grantStream f.stream f.demand).1 :=
      Responder.grantStream_moves f.stream f.demand rfl
    exact moves.free nofun nofun counted
  | keepalive => exact aside (Responder.answerKeepalive_aside _ f)
  | next => exact aside (Responder.inboundNext_aside _ settings f)
  | nextComplete => exact aside (Responder.inboundNextComplete_aside _ settings f)
  | complete => exact aside (Responder.inboundEnd_aside _ _ _)
  | error => exact aside (Responder.inboundEnd_aside _ _ _)
  | payload | lease => exact counted
  | setup | reserved | resume | resumeOk | ext | unknown =>
    exact aside (Responder.violation_aside _ _)

/-- No other action registers anything under a stream that is free. -/
theorem Responder.Linked.step_free {s : Responder × ω} (h : s.1.Linked) (settings : Settings)
    (app : Application ω) {a : Action ω} (other : ¬ a.requests stream)
    (free : s.1.registry.outbound? stream = none) :
    (Responder.step settings app a s).1.registry.outbound? stream = none := by
  have moved (begins : ¬ a.permits .start) (foreign : ¬ a.permits .foreign) :
      (Responder.step settings app a s).1.registry.outbound? stream = none :=
    (h.step_moves settings app a).free begins foreign free
  cases a with
  | receive x =>
    cases x with
    | item x =>
      cases x with
      | error e => exact moved (by simp [Action.permits]) (by simp [Action.permits])
      | ok f =>
        by_cases listens : s.1.Listens
        · have left := Responder.dispatch_aside settings app f listens
          rw [Responder.AsideMoves.outbound? left]
          refine Responder.dispatch_free s.2 settings app f ?_ free
          intro opens same
          exact other ⟨opens, same⟩
        · have left := Responder.step_idle settings app s (.item (.ok f)) listens
          exact (Responder.AsideMoves.outbound? left stream).trans free
    | pending => exact moved (by simp [Action.permits]) (by simp [Action.permits])
    | finished => exact moved (by simp [Action.permits]) (by simp [Action.permits])
  | register taken control => exact (s.1.beginTurn.register_outbound? control other).trans free
  | _ => exact moved (by simp [Action.permits]) (by simp [Action.permits])

/-- A stream that is free stays free until an action that asks for it registers it again. -/
theorem Responder.Linked.run_free {s : Responder × ω} (h : s.1.Linked) (settings : Settings)
    (app : Application ω) (as : List (Action ω))
    (free : s.1.registry.outbound? stream = none) :
    (Responder.run settings app as s).1.registry.outbound? stream = none ∨
      ∃ mid a rest, as = mid ++ a :: rest ∧ a.requests stream ∧
        (∀ early, early <+: mid →
          (Responder.run settings app early s).1.registry.outbound? stream = none) ∧
        (Responder.run settings app (mid ++ [a]) s).1.registry.outbound? stream ≠ none := by
  induction as generalizing s with
  | nil => exact .inl free
  | cons a as ih =>
    -- the first action after which the stream is not free is the one that asks for it
    have linked := (h.step_moves settings app a).linked h
    by_cases next : (Responder.step settings app a s).1.registry.outbound? stream = none
    · rcases ih linked next with last | ⟨mid, b, rest, eq, asks, before, after⟩
      · exact .inl last
      · refine .inr ⟨a :: mid, b, rest, by rw [eq]; rfl, asks, ?_, after⟩
        intro early hearly
        cases early with
        | nil => exact free
        | cons c early =>
          obtain ⟨rfl, shorter⟩ := List.cons_prefix_cons.mp hearly
          exact before early shorter
    · have asks : a.requests stream := by
        by_contra other
        exact next (h.step_free settings app other free)
      refine .inr ⟨[], a, as, rfl, asks, ?_, next⟩
      intro early hearly
      obtain rfl := List.prefix_nil.mp hearly
      exact free

end Multiplexer
