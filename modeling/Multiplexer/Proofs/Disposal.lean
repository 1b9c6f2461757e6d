import Multiplexer.Proofs.Undisturbed

/-!
Disposal: the application is disposed of once, at the first cleanup, which also counts the connection out
and stops all work. No other action does any of this.
-/

namespace Multiplexer

variable {ω : Type} {r r' r'' : Responder} {gone : Bool}

/-- The application is not disposed of between two states, nor the connection counted out. -/
structure Responder.Retains (r r' : Responder) : Prop where
  disposed : r'.disposed = r.disposed
  connections : r'.metrics.connections = r.metrics.connections
  times : r'.history.count .disposed = r.history.count .disposed

theorem Responder.Retains.tell {events : List Event} (disposed : r'.disposed = r.disposed)
    (connections : r'.metrics.connections = r.metrics.connections)
    (history : r'.history = r.history ++ events) (going : Event.disposed ∉ events) : r.Retains r' := by
  refine ⟨disposed, connections, ?_⟩
  rw [history, List.count_append, List.count_eq_zero.mpr going, Nat.add_zero]

theorem Responder.Retains.of_eq (disposed : r'.disposed = r.disposed)
    (connections : r'.metrics.connections = r.metrics.connections) (history : r'.history = r.history) :
    r.Retains r' :=
  .tell disposed connections (history.trans (List.append_nil _).symm) List.not_mem_nil

theorem Responder.Retains.trans (h : r.Retains r') (h' : r'.Retains r'') : r.Retains r'' :=
  ⟨h'.disposed.trans h.disposed, h'.connections.trans h.connections, h'.times.trans h.times⟩

theorem Responder.record_retains (r : Responder) {e : Event} (going : e ≠ .disposed) :
    r.Retains (r.record e) :=
  .tell rfl rfl rfl fun there => going (List.mem_singleton.mp there).symm

theorem Responder.send_retains (r : Responder) (speaker : Speaker) (f : Frame) :
    r.Retains (r.send speaker f) :=
  r.record_retains nofun

theorem Responder.report_retains (r : Responder) (e : Failure) : r.Retains (r.report e) := by
  have going : Event.disposed ∉ [Event.reported e] := by simp
  exact .tell rfl rfl rfl going

theorem Responder.ChannelMove.retains (move : r.ChannelMove r') : r.Retains r' := by
  obtain rfl | ⟨n, c, step, xs, changes⟩ := move.changes
  · exact .of_eq rfl rfl rfl
  · obtain ⟨registry, allowance, _, _, rfl⟩ := changes.rest
    refine .tell rfl rfl rfl fun there => ?_
    exact absurd (ChannelStep.channel_events there).1 nofun

theorem Responder.AsideMove.retains (move : r.AsideMove r') : r.Retains r' := by
  cases move with
  | channel step => exact step.retains
  | signal n s =>
    unfold Responder.signal
    split <;> exact .of_eq rfl rfl rfl
  | openInbound opened =>
    unfold Responder.openInbound at opened
    split at opened
    · cases opened
    · split at opened <;> cases opened <;> exact .of_eq rfl rfl rfl
  | record e _ _ _ going _ => exact r.record_retains going
  | count metrics kept => exact .of_eq rfl kept rfl
  | _ => exact .of_eq rfl rfl rfl

theorem Responder.AsideMoves.retains (moves : r.AsideMoves r') : r.Retains r' := by
  induction moves with
  | refl => exact .of_eq rfl rfl rfl
  | tail _ step ih => exact ih.trans step.retains

theorem Responder.settleSingle_retains (r : Responder) (t : Task) (kind : SingleRequest)
    (token : Option Nat) (result : Option Item) : r.Retains (r.settleSingle t kind token result) := by
  have going (released : Bool) : Event.disposed ∉ t.answer kind released result := by
    rcases result with _ | (e | p) <;> cases kind <;> cases released <;>
      simp [Task.answer, answerEvents]
  have either {released : Bool} {r1 r2 : Responder}
      (h1 : r1.metrics.connections = r.metrics.connections)
      (h2 : r2.metrics.connections = r.metrics.connections) :
      (if released then r1 else r2).metrics.connections = r.metrics.connections := by
    cases released
    · exact h2
    · exact h1
  have connections : (r.settleSingle t kind token result).metrics.connections =
      r.metrics.connections := by
    cases token <;> rcases result with _ | (e | p) <;> cases kind <;>
      simp only [Responder.settleSingle] <;> first | rfl | exact either rfl rfl
  have eq := r.settleSingle_eq t kind token result
  refine .tell ?_ connections ?_ (going (t.release token r.registry).2)
  · rw [eq]
  · exact congrArg Responder.history eq

theorem Responder.settleStream_retains (r : Responder) (t : Task) (token : Nat)
    (outcome : StreamOutcome) : r.Retains (r.settleStream t token outcome) := by
  have released : r.Retains (r.release t.stream token).1 := .of_eq rfl rfl rfl
  unfold Responder.settleStream
  dsimp only
  split
  · split
    · exact released.trans (Responder.send_retains _ _ _)
    · exact released.trans (Responder.report_retains _ _)
    · exact (released.trans (Responder.send_retains _ _ _)).trans (Responder.report_retains _ _)
    · exact released
  · exact released

theorem Task.Move.retains {t : Task} (move : t.Move r r') : r.Retains r' := by
  cases move with
  | @finishSingle r1 kind token request work dropped result cancelled =>
    have settled := r1.settleSingle_retains t kind token result
    exact ((Responder.AsideMoves.retains dropped).trans settled).trans (.of_eq rfl rfl rfl)
  | pull work p =>
    have noted := r.record_retains (e := .pulled t.number (.ok p)) nofun
    exact noted.trans (.of_eq rfl rfl rfl)
  | @next _ _ _ p _ d' work held demand taken =>
    have taken : r.Retains (r.setDemand t.number d') := .of_eq rfl rfl rfl
    have sent := taken.trans (Responder.send_retains _ (.task t.number) (.next t.stream p))
    exact sent.trans (.of_eq rfl rfl rfl)
  | @finishStream r1 token channel phase events outcome work ends dropped =>
    have going : Event.disposed ∉ events := by
      generalize r.isCancelled t.number = cancelled at ends
      cases ends <;> simp
    have noted : r.Retains { r with history := r.history ++ events } := .tell rfl rfl rfl going
    have settled := r1.settleStream_retains t token outcome
    exact ((noted.trans (Responder.AsideMoves.retains dropped)).trans settled).trans
      (.of_eq rfl rfl rfl)
  | _ => exact .of_eq rfl rfl rfl

theorem Responder.Move.retains {l : Label} (move : Responder.Move l r r') (going : l ≠ .disposal) :
    r.Retains r' := by
  cases move with
  | aside step => exact step.retains
  | @begin _ _ stream control work begins running plain uncancelled token _ =>
    obtain ⟨told, moves, rfl⟩ := begins.opened
    have registered : r.Retains (r.register stream control).1 := .of_eq rfl rfl rfl
    exact (registered.trans (Responder.AsideMoves.retains moves)).trans (.of_eq rfl rfl rfl)
  | cancel found =>
    unfold Responder.cancelStream
    split <;> exact .of_eq rfl rfl rfl
  | grant found demand =>
    unfold Responder.grantStream
    split <;> exact .of_eq rfl rfl rfl
  | dispose => exact absurd rfl going
  | disconnect => exact absurd rfl going
  | task there step => exact step.retains
  | _ => exact .of_eq rfl rfl rfl

theorem Responder.Moves.retains {allowed : Label → Prop} (moves : r.Moves allowed r')
    (going : ¬ allowed .disposal) : r.Retains r' := by
  induction moves with
  | refl => exact .of_eq rfl rfl rfl
  | tail _ step ih =>
    obtain ⟨l, allow, move⟩ := step
    exact ih.trans (move.retains fun label => going (label ▸ allow))

def Action.isCleanup : Action ω → Bool
  | .cleanup => true
  | _ => false

/-- Whether the application has been disposed of: if it has, that has happened once, the connection has
been counted out, and all work is to stop. -/
structure Responder.Accounts (gone : Bool) (r : Responder) : Prop where
  disposed : r.disposed = gone
  shutdown : r.shutdown = gone
  times : r.history.count .disposed = gone.toNat
  connections : r.metrics.connections = 1 - gone.toNat

theorem Responder.accounts_start : Responder.start.Accounts false := ⟨rfl, rfl, rfl, rfl⟩

theorem Responder.Retains.accounts (h : r.Retains r') (shutdown : r'.shutdown = r.shutdown)
    (accounts : r.Accounts gone) : r'.Accounts gone :=
  ⟨h.disposed.trans accounts.disposed, shutdown.trans accounts.shutdown, h.times.trans accounts.times,
    h.connections.trans accounts.connections⟩

theorem Responder.cancelStreams_retains (r : Responder) : r.Retains r.cancelStreams := by
  have drained : r.Retains r.drained := .of_eq rfl rfl rfl
  exact drained.trans (Responder.AsideMoves.retains r.cancelStreams_aside)

/-- A cleanup of an application that has been disposed of cancels what has been registered since. -/
theorem Responder.cleanup_again (done : r.disposed = true) (w : ω) (app : Application ω) :
    r.cleanup w app = ({ r.cancelStreams with shutdown := true }, w) := by
  have done : r.cancelStreams.disposed = true := r.cancelStreams_retains.disposed.trans done
  rw [Responder.cleanup, Responder.dispose, done, if_pos rfl]

/-- The first cleanup disposes of the application and counts the connection out, and no other does. -/
theorem Responder.Accounts.cleanup (h : r.Accounts gone) (w : ω) (app : Application ω) :
    (r.cleanup w app).1.Accounts true := by
  have cancelled := r.cancelStreams_retains
  cases gone with
  | true =>
    rw [Responder.cleanup_again h.disposed]
    exact ⟨cancelled.disposed.trans h.disposed, rfl, cancelled.times.trans h.times,
      cancelled.connections.trans h.connections⟩
  | false =>
    have going : r.cancelStreams.disposed = false := cancelled.disposed.trans h.disposed
    obtain ⟨told, moves, eq⟩ := r.cancelStreams.dispose_spec w app going
    have talked := Responder.AsideMoves.retains moves
    rw [Responder.cleanup]
    dsimp only
    rw [eq]
    refine ⟨talked.disposed, rfl, ?_, ?_⟩
    · have times : told.history.count .disposed = r.history.count .disposed + 1 := by
        rw [talked.times, ← cancelled.times]
        simp [Responder.record]
      exact times.trans (congrArg (· + 1) h.times)
    · have connections : told.metrics.connections = r.metrics.connections :=
        talked.connections.trans cancelled.connections
      show told.metrics.connections - 1 = _
      rw [connections, h.connections]
      rfl

theorem Responder.Moves.shutdown_eq {allowed : Label → Prop} (moves : r.Moves allowed r')
    (running : ¬ allowed .teardown) : r'.shutdown = r.shutdown := by
  induction moves with
  | refl => rfl
  | tail _ step ih =>
    obtain ⟨l, allow, move⟩ := step
    exact (move.shutdown.2 fun label => running (label ▸ allow)).trans ih

/-- When the transport stops, work does not. -/
theorem Responder.transportStopped_shutdown (r : Responder) (result : Except TransportError Unit) :
    (r.transportStopped result).shutdown = r.shutdown := by
  have cancelled (r : Responder) : r.cancelStreams.shutdown = r.shutdown :=
    (Responder.AsideMoves.keepsTasks r.cancelStreams_aside).shutdown
  cases result with
  | ok _ => exact cancelled r
  | error e => exact cancelled (r.report (.transport e))

theorem Responder.Accounts.step {s : Responder × ω} (h : s.1.Accounts gone) (linked : s.1.Linked)
    (settings : Settings) (app : Application ω) (a : Action ω) :
    (Responder.step settings app a s).1.Accounts (gone || a.isCleanup) := by
  have moves := linked.step_moves settings app a
  have paced : s.1.beginTurn.Accounts gone := ⟨h.disposed, h.shutdown, h.times, h.connections⟩
  cases a with
  | cleanup =>
    show (Responder.step settings app .cleanup s).1.Accounts (gone || true)
    rw [Bool.or_true]
    exact paced.cleanup s.2 app
  | transportStopped result =>
    show (Responder.step settings app (.transportStopped result) s).1.Accounts (gone || false)
    rw [Bool.or_false]
    exact (moves.retains nofun).accounts (s.1.beginTurn.transportStopped_shutdown result) h
  | _ =>
    show Responder.Accounts (gone || false) _
    rw [Bool.or_false]
    refine (moves.retains nofun).accounts (moves.shutdown_eq ?_) h
    rintro (stopped | ⟨_, stopped⟩) <;> cases stopped

theorem Responder.Accounts.run {s : Responder × ω} (h : s.1.Accounts gone) (linked : s.1.Linked)
    (settings : Settings) (app : Application ω) (as : List (Action ω)) :
    (Responder.run settings app as s).1.Accounts (gone || as.any Action.isCleanup) := by
  induction as generalizing s gone with
  | nil => rwa [List.any_nil, Bool.or_false]
  | cons a as ih =>
    have moves := linked.step_moves settings app a
    have accounts := ih (h.step linked settings app a) (moves.linked linked)
    rwa [Bool.or_assoc, ← List.any_cons] at accounts

/-- In any run the application has been disposed of just if there has been a cleanup, and then once. -/
theorem Responder.accounts_run (settings : Settings) (app : Application ω) (w : ω)
    (as : List (Action ω)) :
    (Responder.run settings app as (Responder.start, w)).1.Accounts (as.any Action.isCleanup) :=
  Responder.Accounts.run (s := (Responder.start, w)) Responder.accounts_start Responder.linked_start
    settings app as

end Multiplexer
