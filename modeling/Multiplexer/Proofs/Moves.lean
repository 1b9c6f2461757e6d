import Multiplexer.Proofs.ChannelMoves
import Multiplexer.Proofs.Controls

/-!
Moves: the smallest changes that a responder goes through. Each says all that it does to the
operation it concerns, so that an invariant is kept by a run if it is kept by every move.
-/

namespace Multiplexer

variable {ω : Type}

/-- A frame that the dispatcher sends on its own: it refuses something, or answers a keepalive. -/
inductive Frame.FromDispatcher : Frame → Prop where
  | refusal (stream : StreamId) (code : ErrorCode) (message : String) :
    FromDispatcher (.error stream code message)
  | echo (data : Bytes) : FromDispatcher (.keepalive 0 data false)

/-- A change that concerns no operation: what happens to channels, and what is only noted. -/
inductive Responder.AsideMove : Responder → Responder → Prop where
  | channel {r r' : Responder} (h : r.ChannelMove r') : AsideMove r r'
  | signal (r : Responder) (n : Nat) (s : Signal) : AsideMove r (r.signal n s)
  | cancelChannel (r : Responder) (n : Nat) : AsideMove r (r.cancelChannel n)
  | openInbound {r r' : Responder} {settings : Settings} {f : Frame} {p : Payload}
    (h : r.openInbound settings f p = .ok r') : AsideMove r r'
  | closeInbound (r : Responder) (stream : StreamId) :
    AsideMove r { r with registry := (r.registry.removeInbound stream).1 }
  /-- A registration that is refused uses up a token. -/
  | refuse (r : Responder) :
    AsideMove r { r with registry := { r.registry with issued := r.registry.issued + 1 } }
  | record (r : Responder) (e : Event) (h : e.task? = none) (silent : ∀ n f, e ≠ .sent (.channel n) f)
    (kept : ∀ n x, e ≠ .yielded n x) (going : e ≠ .disposed)
    (own : ∀ f, e = .sent .dispatcher f → f.FromDispatcher) : AsideMove r (r.record e)
  /-- Connections are not counted here. -/
  | count (r : Responder) (metrics : Metrics) (kept : metrics.connections = r.metrics.connections) :
    AsideMove r { r with metrics }
  | pace (r : Responder) (allowance : Allowance) : AsideMove r { r with allowance }
  | stopReceiving (r : Responder) : AsideMove r { r with receiving := false }

abbrev Responder.AsideMoves : Responder → Responder → Prop :=
  Relation.ReflTransGen Responder.AsideMove

/-- A unit of credit is taken. -/
def Demand.Takes (d d' : Demand) : Prop :=
  d.credit ≠ 0 ∧ d'.credit = if d.credit = unbounded then unbounded else d.credit - 1

/-- The item that the driver of a response stream holds. -/
def StreamPhase.inHand : StreamPhase → Option Payload
  | .offering p | .holding p _ => some p
  | .broken _ | .pulling => none

/-- The item that a task has obtained and not sent yet. -/
def Work.inHand : Work → Option Payload
  | .single .. => none
  | .stream _ _ phase => phase.inHand

/-- How the driver of a response stream comes to its end in a phase, cancelled or not: what it
notes of the stream, and the outcome. -/
inductive StreamPhase.Ends (n : Nat) : StreamPhase → Bool → List Event → StreamOutcome → Prop where
  | cancelled (phase : StreamPhase) : Ends n phase true [] .cancelled
  | broken (e : HandlerError) : Ends n (.broken e) false [.pulled n (.error e)] (.failed e)
  | failed (e : HandlerError) : Ends n .pulling false [.pulled n (.error e)] (.failed e)
  | completed : Ends n .pulling false [.ended n] .completed

/-- What a move concerns. -/
inductive Label where
  | aside
  /-- An operation begins. -/
  | start
  /-- The application registers a control of its own. -/
  | foreign
  | grant (stream : StreamId)
  | cancel (stream : StreamId)
  | teardown
  /-- The application is disposed of. -/
  | disposal
  /-- The task with this number has a turn. -/
  | task (n : Nat)

/-- Everything that is registered is taken out and cancelled. -/
def Responder.drained (r : Responder) : Responder :=
  { r with
    registry :=
      { r.registry with outbound := [], inbound := [], active := r.registry.active - r.registry.size }
    controls := r.controls.cancelEach (r.registry.outbound.map Entry.handle)
    channels := (r.registry.inbound.map Entry.handle).foldl (fun cs n => cancelChannelAt n cs)
      r.channels }

def Responder.setDemand (r : Responder) (n : Nat) (demand : Demand) : Responder :=
  { r with controls := r.controls.setDemand n demand }

/-- The token of a registered operation. -/
def Work.token? : Work → Option Nat
  | .single _ token _ => token
  | .stream token _ _ => some token

/-- An operation is registered under a stream that is free, and its task starts once the application
has been told. -/
structure Responder.Begins (stream : StreamId) (control : Control) (work : Work) (r r' : Responder) :
    Prop where
  free : r.registry.outbound.contains stream = false
  opened : ∃ told, (r.register stream control).1.AsideMoves told ∧
    r' = { told with tasks := told.tasks ++ [⟨r.controls.length, stream, work⟩] }

/-- What a turn of task `t` consists of. -/
inductive Task.Move (t : Task) : Responder → Responder → Prop where
  /-- A request is taken on or worked on, without a result. -/
  | waitSingle {r : Responder} {kind : SingleRequest} {token : Option Nat}
    {request : Option Payload} (work : t.work = .single kind token request) :
    Move t r (r.setWork t.number (.single kind token none))
  | finishSingle {r r' : Responder} {kind : SingleRequest} {token : Option Nat}
    {request : Option Payload} (work : t.work = .single kind token request)
    (dropped : r.AsideMoves r') (result : Option Item)
    (cancelled : result = none → r.isCancelled t.number = true) :
    Move t r ((r'.settleSingle t kind token result).removeTask t.number)
  | pull {r : Responder} {token : Nat} {channel : Option Nat}
    (work : t.work = .stream token channel .pulling) (p : Payload) :
    Move t r
      ((r.record (.pulled t.number (.ok p))).setWork t.number (.stream token channel (.offering p)))
  /-- The item in hand is sent for a unit of credit. -/
  | next {r : Responder} {token : Nat} {channel : Option Nat} {phase : StreamPhase} {p : Payload}
    {d d' : Demand} (work : t.work = .stream token channel phase) (held : phase.inHand = some p)
    (demand : r.demand? t.number = some d) (taken : d.Takes d') :
    Move t r
      (((r.setDemand t.number d').send (.task t.number) (.next t.stream p)).setWork t.number
        (.stream token channel .pulling))
  /-- The driver waits, or no longer waits, for credit for the item in hand. -/
  | wait {r : Responder} {token : Nat} {channel : Option Nat} {phase phase' : StreamPhase}
    {d' : Demand} (work : t.work = .stream token channel phase)
    (held : phase'.inHand = phase.inHand)
    (kept : ∀ d, r.demand? t.number = some d → d'.credit = d.credit) :
    Move t r ((r.setDemand t.number d').setWork t.number (.stream token channel phase'))
  | finishStream {r r' : Responder} {token : Nat} {channel : Option Nat} {phase : StreamPhase}
    {events : List Event} {outcome : StreamOutcome} (work : t.work = .stream token channel phase)
    (ends : phase.Ends t.number (r.isCancelled t.number) events outcome)
    (dropped : { r with history := r.history ++ events }.AsideMoves r') :
    Move t r ((r'.settleStream t token outcome).removeTask t.number)

/-- A change to a responder, by what it concerns. -/
inductive Responder.Move : Label → Responder → Responder → Prop where
  | aside {r r' : Responder} (h : r.AsideMove r') : Move .aside r r'
  | begin {r r' : Responder} {stream : StreamId} {control : Control} {work : Work}
    (begins : Responder.Begins stream control work r r') (running : r.shutdown = false)
    (plain : control.isCustom = false) (uncancelled : control.isCancelled = false)
    (token : work.token? = some r.registry.issued) (fresh : work.inHand = none) : Move .start r r'
  /-- A metadata push is not registered. -/
  | startPush {r : Responder} (stream : StreamId) (p : Payload) (running : r.shutdown = false) :
    Move .start r (r.spawn stream (.task false) (.single .metadataPush none (some p)))
  | register {r : Responder} (stream : StreamId) (control : Control) :
    Move .foreign r (r.register stream control).1
  | cancel {r : Responder} {stream : StreamId} {n : Nat}
    (found : r.registry.outbound? stream = some n) : Move (.cancel stream) r (r.cancelStream stream).1
  | grant {r : Responder} {stream : StreamId} {n : Nat}
    (found : r.registry.outbound? stream = some n) (demand : UInt32) :
    Move (.grant stream) r (r.grantStream stream demand).1
  | drain {r : Responder} : Move .teardown r r.drained
  | shut {r : Responder} (empty : r.registry.outbound = []) :
    Move .teardown r { r with shutdown := true }
  | dispose {r : Responder} : Move .disposal r ({ r with disposed := true }.record .disposed)
  | disconnect {r : Responder} : Move .disposal r { r with metrics := r.metrics.connectionClosed }
  | task {r r' : Responder} {t : Task} (there : t ∈ r.tasks) (work : t.Move r r') :
    Move (.task t.number) r r'

theorem Responder.Move.task_inv {n : Nat} {r r' : Responder} (move : Responder.Move (.task n) r r') :
    ∃ t ∈ r.tasks, t.number = n ∧ t.Move r r' := by
  cases move with
  | task there work => exact ⟨_, there, rfl, work⟩

/-- Any number of moves with labels that are allowed. -/
def Responder.Moves (allowed : Label → Prop) : Responder → Responder → Prop :=
  Relation.ReflTransGen fun r r' => ∃ l, allowed l ∧ Responder.Move l r r'

/-- The moves that an action may consist of. -/
def Action.permits (a : Action ω) : Label → Prop
  | .aside => True
  | .start => ∃ f, a = .receive (.item (.ok f))
  | .foreign => ∃ stream control, a = .register stream control
  | .grant stream => ∃ f, a = .receive (.item (.ok f)) ∧ f.kind = .requestN ∧ f.stream = stream
  | .cancel stream => ∃ f, a = .receive (.item (.ok f)) ∧ f.kind = .cancel ∧ f.stream = stream
  | .teardown => a = .cleanup ∨ ∃ result, a = .transportStopped result
  | .disposal => a = .cleanup
  | .task n => ∃ budget, a = .turn n budget

variable {allowed allowed' : Label → Prop} {r r' r'' : Responder}

theorem Responder.Moves.refl (r : Responder) : r.Moves allowed r := Relation.ReflTransGen.refl

theorem Responder.Moves.single {l : Label} (allow : allowed l) (h : Responder.Move l r r') :
    r.Moves allowed r' :=
  Relation.ReflTransGen.single ⟨l, allow, h⟩

theorem Responder.Moves.trans (h : r.Moves allowed r') (h' : r'.Moves allowed r'') :
    r.Moves allowed r'' :=
  Relation.ReflTransGen.trans h h'

theorem Responder.Moves.mono (moves : r.Moves allowed r')
    (allow : ∀ l, allowed l → allowed' l) : r.Moves allowed' r' :=
  Relation.ReflTransGen.mono (fun _ _ ⟨l, ok, move⟩ => ⟨l, allow l ok, move⟩) _ _ moves

theorem Responder.AsideMoves.moves (allow : allowed .aside) (h : r.AsideMoves r') :
    r.Moves allowed r' :=
  Relation.ReflTransGen.mono (fun _ _ step => ⟨.aside, allow, .aside step⟩) _ _ h

theorem Responder.ChannelMoves.aside (h : r.ChannelMoves r') : r.AsideMoves r' :=
  Relation.ReflTransGen.mono (fun _ _ step => .channel step) _ _ h

/-- What every move keeps is kept by any number of moves. -/
theorem Responder.Moves.invariant {P : Responder → Prop} (h : r.Moves allowed r') (start : P r)
    (keep : ∀ {l r r'}, allowed l → Responder.Move l r r' → P r → P r') : P r' := by
  induction h with
  | refl => exact start
  | tail _ step ih =>
    obtain ⟨l, allow, move⟩ := step
    exact keep allow move ih

theorem Responder.disposed_keepsTasks (r : Responder) :
    r.KeepsTasks ({ r with disposed := true }.record .disposed) := by
  refine ⟨rfl, Nat.le_refl _, rfl, rfl, rfl, fun n => ?_⟩
  exact (Responder.record_keepsTasks { r with disposed := true } rfl).account n

theorem Responder.counted_keepsTasks (r : Responder) (metrics : Metrics) :
    r.KeepsTasks { r with metrics } :=
  ⟨rfl, Nat.le_refl _, rfl, rfl, rfl, fun _ => rfl⟩

theorem Responder.AsideMove.keepsTasks (h : r.AsideMove r') : r.KeepsTasks r' := by
  have same {r' : Responder} (outbound : r'.registry.outbound = r.registry.outbound)
      (issued : r.registry.issued ≤ r'.registry.issued) (controls : r'.controls = r.controls)
      (tasks : r'.tasks = r.tasks) (shutdown : r'.shutdown = r.shutdown)
      (history : r'.history = r.history) : r.KeepsTasks r' :=
    ⟨outbound, issued, controls, tasks, shutdown, fun n => congrArg (accountOf n) history⟩
  cases h with
  | channel h => exact h.keepsTasks
  | signal n s =>
    unfold Responder.signal
    split
    · exact same rfl (Nat.le_refl _) rfl rfl rfl rfl
    · exact .refl r
  | cancelChannel n => exact same rfl (Nat.le_refl _) rfl rfl rfl rfl
  | openInbound h =>
    rename_i settings f p
    have outbound := Registry.outbound_registerInbound r.registry f.stream r.channels.length
    have issued := Registry.issued_registerInbound r.registry f.stream r.channels.length
    unfold Responder.openInbound at h
    split at h
    next => cases h
    next registry token hr =>
      rw [hr] at outbound issued
      split at h
      · cases h
        exact same (by simpa using outbound) (by simp at issued ⊢; omega) rfl rfl rfl rfl
      · cases h
        exact same outbound (by simp at issued ⊢; omega) rfl rfl rfl rfl
  | closeInbound stream => exact same (by simp) (by simp) rfl rfl rfl rfl
  | refuse => exact same rfl (Nat.le_succ _) rfl rfl rfl rfl
  | record e h _ _ _ _ => exact Responder.record_keepsTasks r h
  | count metrics kept => exact r.counted_keepsTasks metrics
  | pace allowance => exact same rfl (Nat.le_refl _) rfl rfl rfl rfl
  | stopReceiving => exact same rfl (Nat.le_refl _) rfl rfl rfl rfl

theorem Responder.AsideMoves.keepsTasks (h : r.AsideMoves r') : r.KeepsTasks r' := by
  induction h with
  | refl => exact .refl r
  | tail _ step ih => exact ih.trans step.keepsTasks

end Multiplexer
