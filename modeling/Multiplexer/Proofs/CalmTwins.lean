import Multiplexer.Proofs.CalmDispatch
import Multiplexer.Proofs.StepMoves

/-!
The twin of a run: with the calm twin of the application it is, after every action, in the state of the
original but for the panics.
-/

namespace Multiplexer

variable {ω : Type} {memory : Memory} {r r' : Responder}

/-- The memory knows of each response stream whether its call has panicked and nobody has found out. -/
def Responder.Recalls (memory : Memory) (r : Responder) : Prop :=
  ∀ t ∈ r.tasks, ∀ token channel phase, t.work = .stream token channel phase →
    memory t.number = phase.broken?

theorem Responder.Recalls.of_tasks (h : r.Recalls memory) (tasks : r'.tasks = r.tasks) :
    r'.Recalls memory := by
  unfold Responder.Recalls
  rw [tasks]
  exact h

theorem Responder.Recalls.setWork (h : r.Recalls memory) (n : Nat) {work : Work}
    (known : ∀ token channel phase, work = .stream token channel phase →
      memory n = phase.broken?) : (r.setWork n work).Recalls memory := by
  intro t ht token channel phase eq
  obtain ⟨u, hu, rfl⟩ := List.mem_map.mp ht
  by_cases own : u.number = n
  · rw [if_pos own] at eq ⊢
    rw [show memory u.number = memory n from congrArg memory own]
    exact known token channel phase eq
  · rw [if_neg own] at eq ⊢
    exact h u hu token channel phase eq

theorem Responder.Recalls.removeTask (h : r.Recalls memory) (n : Nat) :
    (r.removeTask n).Recalls memory :=
  fun t ht => h t (List.mem_filter.mp ht).1

theorem Responder.Recalls.addTask (h : r.Recalls memory) {t : Task} (tasks : r'.tasks = r.tasks ++ [t])
    (known : ∀ token channel phase, t.work = .stream token channel phase →
      memory t.number = phase.broken?) : r'.Recalls memory := by
  intro u hu
  rw [tasks] at hu
  rcases List.mem_append.mp hu with old | new
  · exact h u old
  · obtain rfl := List.mem_singleton.mp new
    exact known

/-- What is remembered of a new operation changes nothing for the operations before it. -/
theorem Responder.Recalls.remember (h : r.Recalls memory)
    (known : ∀ t ∈ r.tasks, t.number < r.controls.length) (panic : Option Panic) :
    r.Recalls (memory.remember r.controls.length panic) := by
  intro t ht token channel phase eq
  rw [Memory.remember, Function.update_of_ne (Nat.ne_of_lt (known t ht))]
  exact h t ht token channel phase eq

theorem Task.Drives.keeps {t : Task} {x y : StreamPhase × Responder} (h : t.Drives x y) :
    y.1.broken? = x.1.broken? ∧ y.2.tasks = x.2.tasks := by
  induction h with
  | refl => exact ⟨rfl, rfl⟩
  | tail _ step ih =>
    obtain ⟨whole, tasks⟩ := ih
    cases step with
    | talk phase move => exact ⟨whole, move.keepsTasks.tasks.trans tasks⟩
    | pace phase r allowance => exact ⟨whole, tasks⟩
    | pull r p => exact ⟨whole, tasks⟩
    | next held demand taken => exact ⟨(StreamPhase.broken?_of_inHand held).symm.trans whole, tasks⟩
    | wait held same kept => exact ⟨same.trans whole, tasks⟩

theorem Responder.finishStream_tasks (r : Responder) (w : ω) (app : Application ω) (t : Task)
    (token : Nat) (channel : Option Nat) (outcome : StreamOutcome) :
    (r.finishStream w app t token channel outcome).1.tasks = (r.removeTask t.number).tasks := by
  obtain ⟨left, moves, eq⟩ := r.finishStream_left w app t token channel outcome
  have kept := (Responder.ChannelMoves.keepsTasks moves).tasks
  rw [eq, Responder.settleStream_eq]
  exact congrArg (List.filter _) kept

theorem Responder.notePanic_tasks (r : Responder) (panic : Option String) :
    (r.notePanic panic).tasks = r.tasks := by
  cases panic <;> rfl

theorem Responder.Recalls.turnStream (h : r.Recalls memory) (app : Application ω) (t : Task)
    (token : Nat) (channel : Option Nat) (budget : Nat) (phase : StreamPhase) (w : ω)
    (known : memory t.number = phase.broken?) :
    (Responder.turnStream app t token channel budget phase r w).1.Recalls memory := by
  obtain ⟨y, drives, rests⟩ := Responder.turnStream_spec app t token channel budget phase r w
  obtain ⟨whole, tasks⟩ := Task.Drives.keeps drives
  generalize (Responder.turnStream app t token channel budget phase r w).1 = r' at rests ⊢
  cases rests with
  | waits phase' r1 =>
    refine (h.of_tasks tasks).setWork t.number ?_
    rintro _ _ _ ⟨⟩
    exact known.trans whole.symm
  | @ends _ r1 events outcome w how panic blamed =>
    refine ((h.of_tasks tasks).removeTask t.number).of_tasks ?_
    rw [Responder.finishStream_tasks, Responder.removeTask, Responder.removeTask,
      Responder.notePanic_tasks]

theorem Responder.Labours.keepsTasks {panic : Option String} (h : r.Labours panic r') :
    r.KeepsTasks r' :=
  Responder.AsideMoves.keepsTasks h.aside

theorem Responder.Recalls.turnSingle (h : r.Recalls memory) (app : Application ω) (t : Task)
    (kind : SingleRequest) (token : Option Nat) (request : Option Payload) (w : ω) :
    (r.turnSingle w app t kind token request).1.Recalls memory := by
  obtain ⟨panic, r', labours, _, eq⟩ := r.turnSingle_spec w app t kind token request
  have kept := h.of_tasks (Responder.Labours.keepsTasks labours).tasks
  rw [eq]
  cases r.verdict? w app t kind request with
  | none => exact kept.setWork t.number nofun
  | some result =>
    refine (kept.removeTask t.number).of_tasks ?_
    rw [Responder.concludeSingle, Responder.settleSingle_eq]
    rfl

/-- The twin of a state: it is the same but for the panics in the log, and what has not been found out is
remembered. -/
structure Responder.Twins (s : Responder × ω) (s' : Responder × (ω × Memory)) : Prop where
  state : s'.1 = s.1.calmed
  world : s'.2.1 = s.2
  recalls : s.1.Recalls s'.2.2

theorem Responder.Recalls.twins {s : Responder × ω} (h : s.1.Recalls memory) :
    Responder.Twins s (Responder.calmTwin memory s) :=
  ⟨rfl, rfl, h⟩

theorem Responder.Recalls.turn (h : r.Recalls memory) (w : ω) (app : Application ω) (n budget : Nat) :
    Responder.Twins (r.turn w app n budget) (r.calmed.turn (w, memory) app.calm n budget) := by
  unfold Responder.turn
  rw [Responder.task?_calmed]
  cases found : r.task? n with
  | none => exact h.twins (s := (r, w))
  | some t =>
    have there : t ∈ r.tasks := List.mem_of_find?_eq_some found
    simp only [Option.map_some, Task.calmed_work]
    cases work : t.work with
    | single kind token request =>
      simp only [Work.calmed, Responder.turnSingle_calmed]
      exact (h.turnSingle app t kind token request w).twins
    | stream token channel phase =>
      have known := h t there token channel phase work
      simp only [Work.calmed, Responder.turnStream_calmed app w memory t token channel budget phase r known]
      exact (h.turnStream app t token channel budget phase w known).twins

section dispatch

variable (settings : Settings) (app : Application ω) (w : ω) (f : Frame)

/-- The call that opens a response stream, with the twin: a panic is remembered, and the channel has been
dropped. -/
def Responder.OpensCalmly (memory : Memory) (channel : Option Nat)
    (openIt : Nat → ω → Dialogue (Option Panic × ω))
    (calmly : Nat → ω × Memory → Dialogue (Option Panic × (ω × Memory))) (w : ω) (r : Responder) :
    Prop :=
  ∀ n, (calmly n (w, memory)).run r.calmed =
    let (r', panic, w') := (openIt n w).run r
    ((if panic.isSome then r'.dropOwnChannel channel else r').calmed, none, w',
      memory.remember n panic)

variable {settings app w f}

theorem StreamPhase.broken?_opened (panic : Option Panic) :
    (StreamPhase.opened panic).broken? = panic.map fun p => .panicked p.message := by
  cases panic <;> rfl

theorem Responder.Recalls.drive (h : r.Recalls memory) (n : Nat) (stream : StreamId) (token : Nat)
    (channel : Option Nat) (panic : Option Panic)
    (known : memory n = panic.map fun p => .panicked p.message) :
    Responder.Twins (Responder.drive n stream token channel (r, panic, w))
      (Responder.drive n stream token channel
        ((if panic.isSome then r.dropOwnChannel channel else r).calmed, none, w, memory)) := by
  have tasks : (Responder.drive n stream token channel (r, panic, w)).1.tasks =
      r.tasks ++ [⟨n, stream, .stream token channel (.opened panic)⟩] := by
    have dropped := Responder.ChannelMoves.keepsTasks (r.dropOwnChannel_moves channel)
    simp only [Responder.drive, Responder.notePanic_tasks]
    split
    · rw [dropped.tasks]
    · rfl
  refine ⟨?_, rfl, h.addTask tasks ?_⟩
  · cases panic <;>
      simp [Responder.drive, Responder.calmed, Responder.notePanic, Responder.record, Event.isPanic,
        Task.calmed, Work.calmed, StreamPhase.calmed, StreamPhase.opened]
  · rintro _ _ _ ⟨⟩
    exact known.trans (StreamPhase.broken?_opened panic).symm

theorem Responder.Recalls.driveStream (h : r.Recalls memory)
    (known : ∀ t ∈ r.tasks, t.number < r.controls.length) (stream : StreamId) (demand : UInt32)
    (channel : Option Nat) (openIt : Nat → ω → Dialogue (Option Panic × ω))
    (calmly : Nat → ω × Memory → Dialogue (Option Panic × (ω × Memory)))
    (opens : ∀ r' : Responder, r'.channels = r.channels →
      r'.OpensCalmly memory channel openIt calmly w) :
    Responder.Twins (r.driveStream w stream demand channel openIt)
      (r.calmed.driveStream (w, memory) stream demand channel calmly) := by
  cases taken : r.registry.outbound.contains stream with
  | true =>
    have tasks := (Responder.AsideMoves.keepsTasks ((r.refuse_aside (.duplicateStream stream)).trans
      (Responder.ChannelMoves.aside (Responder.dropOwnChannel_moves _ channel)))).tasks
    rw [r.driveStream_taken w demand channel openIt taken,
      r.calmed.driveStream_taken (w, memory) demand channel calmly taken]
    refine ⟨?_, rfl, h.of_tasks tasks⟩
    rw [← Responder.dropOwnChannel_calmed, ← Responder.violation_calmed]
    rfl
  | false =>
    let control := Control.stream false (Demand.new.grant (creditOfDemand demand))
    have registered : (r.calmed.register stream control).1 = ((r.register stream control).1).calmed := rfl
    have opened := opens (r.register stream control).1 rfl r.controls.length
    have kept := Responder.ChannelMoves.keepsTasks
      ((openIt r.controls.length w).run_moves (r.register stream control).1)
    rw [r.driveStream_free w demand channel openIt taken,
      r.calmed.driveStream_free (w, memory) demand channel calmly taken, registered,
      Responder.calmed_controls, opened]
    generalize (openIt r.controls.length w).run (r.register stream control).1 = answer at kept ⊢
    obtain ⟨r1, panic, w1⟩ := answer
    have recalls : r1.Recalls (memory.remember r.controls.length panic) :=
      (h.remember known panic).of_tasks kept.tasks
    exact recalls.drive r.controls.length stream _ channel panic (Function.update_self ..)

theorem Application.openStream_calm (app : Application ω) (p : Payload) (w : ω) (r : Responder) :
    r.OpensCalmly memory none (fun n w => app.openStream n p w) (fun n w => app.calm.openStream n p w)
      w := by
  intro n
  simp only [Application.calm, Dialogue.run_map, Dialogue.run_calmed]
  obtain ⟨r1, _ | p, w1⟩ := (app.openStream n p w).run r
  · rfl
  · rfl

theorem Application.openChannel_calm (app : Application ω) (stream : StreamId) (m : Nat) (w : ω)
    (r : Responder) (entrusts : Responder.Entrusts m false r) :
    r.OpensCalmly memory (some m) (fun n w => app.openChannel n stream m w)
      (fun n w => app.calm.openChannel n stream m w) w := by
  intro n
  simp only [Application.calm, Dialogue.run_map, Dialogue.run_calmed, Dialogue.run_tidy _ entrusts]

theorem Responder.Recalls.requestStream (h : r.Recalls memory)
    (known : ∀ t ∈ r.tasks, t.number < r.controls.length) :
    Responder.Twins (r.requestStream w settings app f)
      (r.calmed.requestStream (w, memory) settings app.calm f) := by
  unfold Responder.requestStream
  rw [Responder.readRequest_calmed]
  cases read : r.readRequest settings f with
  | ok p =>
    exact h.driveStream known f.stream f.demand none _ _ fun r' _ => app.openStream_calm p w r'
  | error r' =>
    have tasks := (Responder.AsideMoves.keepsTasks (Responder.readRequest_aside read)).tasks
    exact (h.of_tasks tasks).twins (s := (r', w))

theorem Responder.openInbound_entrusts {p : Payload} {opened : Responder}
    (h : r.openInbound settings f p = .ok opened) : 
    Responder.Entrusts r.channels.length false opened := by
  have pushed (c : Channel) (s : Signal) (stream : c.holder = .stream) : (c.push s).holder = .stream :=
    (c.push_flags s).2.2.trans stream
  intro c hc
  unfold Responder.openInbound at h
  split at h
  next => cases h
  next registry token _ =>
    split at h
    · cases h
      rw [List.getElem?_concat_length] at hc
      cases hc
      rw [pushed _ _ (pushed _ _ rfl)]
      exact nofun
    · cases h
      rw [List.getElem?_concat_length] at hc
      cases hc
      rw [pushed _ _ rfl]
      exact nofun

theorem Responder.Recalls.requestChannel (h : r.Recalls memory)
    (known : ∀ t ∈ r.tasks, t.number < r.controls.length) :
    Responder.Twins (r.requestChannel w settings app f)
      (r.calmed.requestChannel (w, memory) settings app.calm f) := by
  have registry : r.calmed.registry = r.registry := rfl
  unfold Responder.requestChannel
  rw [registry]
  split
  next active =>
    have tasks := (Responder.AsideMoves.keepsTasks (r.violation_aside (.duplicateStream f.stream))).tasks
    rw [Responder.violation_calmed]
    exact (h.of_tasks tasks).twins (s := (r.violation (.duplicateStream f.stream), w))
  next free =>
    rw [Responder.readRequest_calmed]
    cases read : r.readRequest settings f with
    | error r' =>
      have tasks := (Responder.AsideMoves.keepsTasks (Responder.readRequest_aside read)).tasks
      exact (h.of_tasks tasks).twins (s := (r', w))
    | ok p =>
      dsimp only [Except.mapError]
      rw [Responder.openInbound_calmed]
      cases opens : r.openInbound settings f p with
      | error r' =>
        have tasks := (Responder.AsideMoves.keepsTasks (Responder.openInbound_refused opens)).tasks
        exact (h.of_tasks tasks).twins (s := (r', w))
      | ok opened =>
        have kept := (Responder.AsideMove.openInbound opens).keepsTasks
        have known' : ∀ t ∈ opened.tasks, t.number < opened.controls.length := by
          rw [kept.tasks, kept.controls]
          exact known
        have entrusts := Responder.openInbound_entrusts opens
        refine (h.of_tasks kept.tasks).driveStream known' f.stream f.demand _ _ _ fun r' same => ?_
        refine app.openChannel_calm f.stream r.channels.length w r' fun c hc => ?_
        exact entrusts c (same ▸ hc)

/-- What dispatching a frame leaves with the twin. -/
structure Dispatched.Twins (d : Dispatched ω) (d' : Dispatched (ω × Memory)) : Prop where
  twins : Responder.Twins (d.responder, d.world) (d'.responder, d'.world)
  panic : d'.panic = d.panic

theorem Responder.Recalls.startSingle (h : r.Recalls memory) (kind : SingleRequest) (stream : StreamId)
    (p : Payload) : (r.startSingle kind stream p).Recalls memory := by
  rcases r.startSingle_spec kind stream p with refused | begins
  · exact h.of_tasks (Responder.AsideMoves.keepsTasks refused).tasks
  · obtain ⟨told, moves, eq⟩ := begins.opened
    have kept := (Responder.AsideMoves.keepsTasks moves).tasks
    rw [eq]
    exact (h.of_tasks kept).addTask rfl nofun

theorem Responder.Recalls.dispatch (h : r.Recalls memory)
    (known : ∀ t ∈ r.tasks, t.number < r.controls.length) :
    Dispatched.Twins (r.dispatch w settings app f)
      (r.calmed.dispatch (w, memory) settings app.calm f) := by
  have counted : { r.calmed with metrics := r.calmed.metrics.frameReceived } =
      ({ r with metrics := r.metrics.frameReceived } : Responder).calmed := rfl
  have begun : Responder.Recalls memory { r with metrics := r.metrics.frameReceived } := h
  have known : ∀ t ∈ ({ r with metrics := r.metrics.frameReceived } : Responder).tasks,
      t.number < ({ r with metrics := r.metrics.frameReceived } : Responder).controls.length := known
  unfold Responder.dispatch
  dsimp only
  rw [counted]
  generalize ({ r with metrics := r.metrics.frameReceived } : Responder) = r at begun known ⊢
  have aside {r' : Responder} (moves : r.AsideMoves r') : r'.Recalls memory :=
    begun.of_tasks (Responder.AsideMoves.keepsTasks moves).tasks
  have same {r' : Responder} {x : Responder} (recalls : r'.Recalls memory) (eq : x = r'.calmed)
      (panic : Option Panic) :
      Dispatched.Twins ⟨r', w, panic⟩ ⟨x, (w, memory), panic⟩ :=
    ⟨⟨eq, rfl, recalls⟩, rfl⟩
  split
  next =>
    refine same ?_ (r.fireAndForget_calmed settings f) none
    unfold Responder.fireAndForget
    split
    · exact begun.startSingle _ _ _
    · exact aside (r.report_aside _)
  next =>
    refine same ?_ (r.requestResponse_calmed settings f) none
    unfold Responder.requestResponse
    split
    · exact begun.startSingle _ _ _
    next unread => exact aside (Responder.readRequest_aside unread)
  next => exact ⟨begun.requestStream known, rfl⟩
  next => exact ⟨begun.requestChannel known, rfl⟩
  next =>
    refine same ?_ (r.metadataPush_calmed settings f) none
    unfold Responder.metadataPush
    split
    · exact begun.addTask rfl nofun
    · exact aside (r.report_aside _)
  next =>
    rw [Responder.cancelStream_calmed]
    refine same (begun.of_tasks ?_) rfl _
    unfold Responder.cancelStream
    split <;> rfl
  next =>
    rw [Responder.grantStream_calmed]
    refine same (begun.of_tasks ?_) rfl _
    unfold Responder.grantStream
    split <;> rfl
  next => exact same (aside (r.answerKeepalive_aside f)) (r.answerKeepalive_calmed f) none
  next => exact same (aside (r.inboundNext_aside settings f)) (r.inboundNext_calmed settings f) none
  next =>
    exact same (aside (r.inboundNextComplete_aside settings f))
      (r.inboundNextComplete_calmed settings f) none
  next => exact same (aside (r.inboundEnd_aside f.stream _)) (r.inboundEnd_calmed f.stream _) none
  next => exact same (aside (r.inboundEnd_aside f.stream _)) (r.inboundEnd_calmed f.stream _) none
  next => exact same begun rfl none
  next => exact same begun rfl none
  next => exact same (aside (r.violation_aside _)) (r.violation_calmed _) none
  all_goals exact same (aside (r.violation_aside _)) (r.violation_calmed _) none

theorem Responder.Recalls.receive (h : r.Recalls memory)
    (known : ∀ t ∈ r.tasks, t.number < r.controls.length)
    (x : Receipt (Except TransportError Frame)) :
    Responder.Twins (r.receive w settings app x)
      (r.calmed.receive (w, memory) settings app.calm x) := by
  have receiving : r.calmed.receiving = r.receiving := rfl
  have shutdown : r.calmed.shutdown = r.shutdown := rfl
  unfold Responder.receive
  rw [receiving, shutdown]
  split
  · exact h.twins (s := (r, w))
  · split
    · exact ⟨rfl, rfl, h⟩
    · split
      · exact h.twins (s := (r, w))
      · exact ⟨rfl, rfl, h⟩
      · rw [Responder.report_calmed]
        exact ⟨rfl, rfl, h⟩
      next f =>
        have dispatched : Dispatched.Twins (r.dispatch w settings app f)
            (r.calmed.dispatch (w, memory) settings app.calm f) := h.dispatch known
        obtain ⟨twins, panic⟩ := dispatched
        dsimp only
        rw [panic]
        cases (r.dispatch w settings app f).panic with
        | none => exact twins
        | some p =>
          have stopped := congrArg (fun r => { r with receiving := false }) twins.state
          exact ⟨stopped, twins.world, twins.recalls⟩

end dispatch

theorem Responder.Recalls.cleanup (h : r.Recalls memory) (w : ω) (app : Application ω) :
    Responder.Twins (r.cleanup w app) (r.calmed.cleanup (w, memory) app.calm) := by
  have tasks : (r.cancelStreams.dispose w app).1.tasks = r.tasks :=
    (r.cancelStreams.dispose_keepsTasks w app).tasks.trans
      (Responder.AsideMoves.keepsTasks r.cancelStreams_aside).tasks
  simp only [Responder.cleanup, Responder.cancelStreams_calmed, Responder.dispose_calmed]
  exact ⟨rfl, rfl, h.of_tasks tasks⟩

/-- The same action for the twin. -/
def Action.calm : Action ω → Action (ω × Memory)
  | .receive x => .receive x
  | .turn n budget => .turn n budget
  | .transportStopped result => .transportStopped result
  | .cleanup => .cleanup
  | .read n => .read n
  | .request n demand => .request n demand
  | .drop n => .drop n
  | .signal n x => .signal n x
  | .cancelChannel n => .cancelChannel n
  | .register stream control => .register stream control
  | .world change => .world fun w => (change w.1, w.2)

theorem Responder.Twins.step {s : Responder × ω} {s' : Responder × (ω × Memory)}
    (h : Responder.Twins s s') (linked : s.1.Linked) (settings : Settings) (app : Application ω)
    (a : Action ω) :
    Responder.Twins (Responder.step settings app a s) (Responder.step settings app.calm a.calm s') := by
  obtain ⟨r, w⟩ := s
  obtain ⟨r', w', memory⟩ := s'
  obtain ⟨state, world, recalls⟩ := h
  obtain rfl : r' = r.calmed := state
  obtain rfl : w' = w := world
  have begun : r.beginTurn.Recalls memory := recalls
  have known : ∀ t ∈ r.beginTurn.tasks, t.number < r.beginTurn.controls.length :=
    fun _ => linked.task_lt
  have paced : r.calmed.beginTurn = r.beginTurn.calmed := rfl
  have moved {r' : Responder} (move : r.beginTurn.ChannelMove r') : r'.Recalls memory :=
    begun.of_tasks move.keepsTasks.tasks
  unfold Responder.step
  dsimp only
  rw [paced]
  cases a with
  | receive x => exact begun.receive known x
  | turn n budget => exact begun.turn _ app n budget
  | transportStopped result =>
    have tasks : (r.beginTurn.transportStopped result).tasks = r.beginTurn.tasks := by
      cases result with
      | ok _ => exact (Responder.AsideMoves.keepsTasks (Responder.cancelStreams_aside _)).tasks
      | error e => exact (Responder.AsideMoves.keepsTasks (Responder.cancelStreams_aside _)).tasks
    exact ⟨r.beginTurn.transportStopped_calmed result, rfl, begun.of_tasks tasks⟩
  | cleanup => exact begun.cleanup _ app
  | read n =>
    exact ⟨congrArg Prod.fst (r.beginTurn.readChannel_calmed n), rfl, moved (.read _ n)⟩
  | request n demand =>
    exact ⟨r.beginTurn.requestOnChannel_calmed n demand, rfl, moved (.request _ n demand)⟩
  | drop n => exact ⟨r.beginTurn.dropChannel_calmed n, rfl, moved (.drop _ n)⟩
  | signal n x =>
    have tasks := (Responder.AsideMove.signal r.beginTurn n x).keepsTasks.tasks
    exact ⟨r.beginTurn.signal_calmed n x, rfl, begun.of_tasks tasks⟩
  | cancelChannel n => exact ⟨rfl, rfl, begun⟩
  | register stream control => exact ⟨rfl, rfl, begun⟩
  | world change => exact ⟨rfl, rfl, begun⟩

theorem Responder.Twins.run {s : Responder × ω} {s' : Responder × (ω × Memory)}
    (h : Responder.Twins s s') (linked : s.1.Linked) (settings : Settings) (app : Application ω)
    (as : List (Action ω)) :
    Responder.Twins (Responder.run settings app as s)
      (Responder.run settings app.calm (as.map Action.calm) s') := by
  induction as generalizing s s' with
  | nil => exact h
  | cons a as ih =>
    exact ih (h.step linked settings app a) ((linked.step_moves settings app a).linked linked)

theorem Responder.twins_start (w : ω) :
    Responder.Twins (Responder.start, w) (Responder.start, w, Memory.none) :=
  ⟨rfl, rfl, fun _ there => absurd there List.not_mem_nil⟩

end Multiplexer
