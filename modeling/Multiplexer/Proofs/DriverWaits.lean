import Multiplexer.Proofs.StepMoves
import Multiplexer.Proofs.Wakeups

/-!
The waiters of response streams. The driver of a response stream starts a waiter only for the item in its
hand and holds on to it until it has its unit or gives up, so that its demand never has more than one.
-/

namespace Multiplexer

variable {ω : Type} {r r' : Responder} {d : Demand} {ws : List Nat}

/-- The waiters of a driver in a phase. -/
def StreamPhase.waiters : StreamPhase → List Nat
  | .holding _ w => [w]
  | .broken _ | .pulling | .offering _ => []

/-- The demand has come about with one waiter at most at any time, and these waiters live now. -/
def Demand.Serves (d : Demand) (ws : List Nat) : Prop :=
  ∃ ops, d = Demand.new.after ops ∧ Demand.LiveWithin 1 ops ∧ Demand.live ops = ws

theorem Demand.serves_new : Demand.new.Serves [] :=
  ⟨[], rfl, fun _ _ => by rw [List.take_nil]; exact Nat.zero_le 1, rfl⟩

theorem Demand.Serves.perform (serves : d.Serves ws) (op : Demand.Operation)
    (few : (op.survivors d ws).length ≤ 1) : (d.perform op).1.Serves (op.survivors d ws) := by
  obtain ⟨ops, rfl, within, rfl⟩ := serves
  have live := Demand.live_concat ops op
  refine ⟨ops ++ [op], (Demand.after_concat ..).symm, ?_, live⟩
  exact Demand.liveWithin_concat_iff.mpr ⟨within, live ▸ few⟩

theorem Demand.Serves.few (serves : d.Serves ws) : ws.length ≤ 1 := by
  obtain ⟨ops, rfl, within, rfl⟩ := serves
  exact within.here

/-- A demand on the wire is granted to the waiters that there are. -/
theorem Demand.Serves.grant (serves : d.Serves ws) (n : UInt32) : (d.grant (creditOfDemand n)).Serves ws :=
  serves.perform (.requestOnWire n) serves.few

/-- A driver that asks acquires a unit and has no waiter left, or it has the one that has asked. -/
theorem Demand.Serves.ask {waiter : Option Nat} (serves : d.Serves waiter.toList) :
    (d.ask waiter).1.Serves (if (d.ask waiter).2 = .ready then [] else [waiter.getD d.started]) := by
  cases waiter with
  | none =>
    have asked := serves.perform .acquire
    simp only [Demand.Operation.survivors, Demand.perform, decide_eq_true_eq, Option.toList_none] at asked
    exact asked (by split <;> simp)
  | some w =>
    have asked := serves.perform (.poll w)
    simp only [Demand.Operation.survivors, Demand.perform, decide_eq_true_eq, Option.toList_some,
      List.erase_cons_head] at asked
    exact asked (by split <;> simp)

/-- The control with this number has a demand that serves these waiters. -/
def Responder.DemandServes (r : Responder) (n : Nat) (ws : List Nat) : Prop :=
  ∃ d, r.demand? n = some d ∧ d.Serves ws

/-- If the task drives a response stream, its demand serves the waiters of its phase. -/
def Responder.Waits (r : Responder) (t : Task) : Prop :=
  ∀ token channel phase, t.work = .stream token channel phase → r.DemandServes t.number phase.waiters

/-- Whomever a demand serves, it goes on serving. -/
def Responder.Minds (r r' : Responder) : Prop := ∀ n ws, r.DemandServes n ws → r'.DemandServes n ws

theorem Responder.Waits.of_minds {t : Task} (waits : r.Waits t) (minds : r.Minds r') : r'.Waits t :=
  fun token channel phase work => minds _ _ (waits token channel phase work)

theorem Responder.minds_of_controls (same : r'.controls = r.controls) : r.Minds r' := by
  rintro n ws ⟨d, demand, serves⟩
  exact ⟨d, by rw [Responder.demand?, same]; exact demand, serves⟩

theorem Responder.cancelStream_minds (r : Responder) (stream : StreamId) :
    r.Minds (r.cancelStream stream).1 := by
  unfold Responder.cancelStream
  split
  next registry m _ =>
    rintro n ws ⟨d, demand, serves⟩
    refine ⟨d, ?_, serves⟩
    rw [← demand]
    simp only [Responder.demand?, Controls.cancel, Controls.getElem?_act]
    split
    · cases r.controls[n]? <;> simp
    · rfl
  · exact fun _ _ serves => serves

theorem Responder.grantStream_minds (r : Responder) (stream : StreamId) (demand : UInt32) :
    r.Minds (r.grantStream stream demand).1 := by
  unfold Responder.grantStream
  split
  next m _ =>
    rintro n ws ⟨d, has, serves⟩
    unfold Responder.demand? at has
    by_cases here : n = m
    · refine ⟨d.grant (creditOfDemand demand), ?_, serves.grant demand⟩
      obtain ⟨c, control, own⟩ := Option.bind_eq_some_iff.mp has
      simp [Responder.demand?, Controls.request, Controls.getElem?_act, here, here ▸ control, own]
    · refine ⟨d, ?_, serves⟩
      simp only [Responder.demand?, Controls.request, Controls.getElem?_act, if_neg here]
      exact has
  · exact fun _ _ serves => serves

theorem Responder.drained_minds (r : Responder) : r.Minds r.drained := by
  rintro n ws ⟨d, has, serves⟩
  obtain ⟨c, control, own⟩ := Option.bind_eq_some_iff.mp has
  obtain ⟨c', control', _, same, _⟩ :=
    Controls.getElem?_cancelEach (r.registry.outbound.map Entry.handle) control
  exact ⟨d, by simp [Responder.demand?, Responder.drained, control', same, own], serves⟩

/-- A new control leaves the others as they are. -/
theorem Responder.minds_of_append {more : List Control} (controls : r'.controls = r.controls ++ more) :
    r.Minds r' := by
  rintro n ws ⟨d, has, serves⟩
  obtain ⟨c, control, own⟩ := Option.bind_eq_some_iff.mp has
  have bound : n < r.controls.length := (List.getElem?_eq_some_iff.mp control).1
  refine ⟨d, ?_, serves⟩
  rw [Responder.demand?, controls, List.getElem?_append_left bound, control]
  exact own

/-- Every driver of a response stream has the waiters of its demand, of which there is one at most. -/
def Responder.Awaits (r : Responder) : Prop := ∀ t ∈ r.tasks, r.Waits t

theorem Responder.Awaits.keep (awaits : r.Awaits) (minds : r.Minds r')
    (tasks : ∀ t ∈ r'.tasks, t ∈ r.tasks ∨ r'.Waits t) : r'.Awaits := by
  intro t there
  rcases tasks t there with old | waits
  · exact (awaits t old).of_minds minds
  · exact waits

theorem Responder.Awaits.kept (awaits : r.Awaits) (kept : r.KeepsTasks r') : r'.Awaits :=
  awaits.keep (Responder.minds_of_controls kept.controls) fun _ there => .inl (kept.tasks ▸ there)

theorem Responder.Awaits.begin {stream : StreamId} {control : Control} {work : Work} (awaits : r.Awaits)
    (begins : Responder.Begins stream control work r r')
    (ready : ∀ token channel phase, work = .stream token channel phase →
      ∃ d, control.demand? = some d ∧ d.Serves phase.waiters) : r'.Awaits := by
  obtain ⟨told, moves, rfl⟩ := begins.opened
  have kept := Responder.AsideMoves.keepsTasks moves
  have controls : told.controls = r.controls ++ [control] := kept.controls
  refine awaits.keep (Responder.minds_of_append controls) fun t there => ?_
  rcases List.mem_append.mp there with old | new
  · exact .inl (kept.tasks ▸ old)
  · obtain rfl := List.mem_singleton.mp new
    refine .inr fun token channel phase drives => ?_
    obtain ⟨d, own, serves⟩ := ready token channel phase drives
    exact ⟨d, by simp [Responder.demand?, controls, own], serves⟩

theorem Responder.Awaits.startSingle (awaits : r.Awaits) (kind : SingleRequest) (stream : StreamId)
    (p : Payload) : (r.startSingle kind stream p).Awaits := by
  rcases r.startSingle_spec kind stream p with refused | begins
  · exact awaits.kept (Responder.AsideMoves.keepsTasks refused)
  · exact awaits.begin begins nofun

theorem Responder.Awaits.driveStream (awaits : r.Awaits) (w : ω) (stream : StreamId) (demand : UInt32)
    (channel : Option Nat) (openIt : Nat → ω → Dialogue (Option Panic × ω)) :
    (r.driveStream w stream demand channel openIt).1.Awaits := by
  rcases r.driveStream_spec w stream demand channel openIt with refused | ⟨phase, fresh, begins⟩
  · exact awaits.kept (Responder.AsideMoves.keepsTasks refused)
  · refine awaits.begin begins ?_
    rintro _ _ _ ⟨⟩
    refine ⟨_, rfl, ?_⟩
    have free : phase.waiters = [] := by
      cases phase with
      | holding p w => cases fresh
      | _ => rfl
    rw [free]
    exact Demand.serves_new.grant demand

theorem Responder.Awaits.aside (awaits : r.Awaits) (moves : r.AsideMoves r') : r'.Awaits :=
  awaits.kept (Responder.AsideMoves.keepsTasks moves)

theorem Responder.Awaits.fireAndForget (awaits : r.Awaits) (settings : Settings) (f : Frame) :
    (r.fireAndForget settings f).Awaits := by
  unfold Responder.fireAndForget
  split
  · exact awaits.startSingle _ _ _
  · exact awaits.aside (r.report_aside _)

theorem Responder.Awaits.requestResponse (awaits : r.Awaits) (settings : Settings) (f : Frame) :
    (r.requestResponse settings f).Awaits := by
  unfold Responder.requestResponse
  split
  · exact awaits.startSingle _ _ _
  next unread => exact awaits.aside (Responder.readRequest_aside unread)

theorem Responder.Awaits.metadataPush (awaits : r.Awaits) (settings : Settings) (f : Frame) :
    (r.metadataPush settings f).Awaits := by
  unfold Responder.metadataPush
  split
  · refine awaits.keep (Responder.minds_of_append rfl) fun t there => ?_
    rcases List.mem_append.mp there with old | new
    · exact .inl old
    · obtain rfl := List.mem_singleton.mp new
      exact .inr nofun
  · exact awaits.aside (r.report_aside _)

theorem Responder.Awaits.requestStream (awaits : r.Awaits) (w : ω) (settings : Settings)
    (app : Application ω) (f : Frame) : (r.requestStream w settings app f).1.Awaits := by
  unfold Responder.requestStream
  split
  · exact awaits.driveStream _ _ _ _ _
  next unread => exact awaits.aside (Responder.readRequest_aside unread)

theorem Responder.Awaits.requestChannel (awaits : r.Awaits) (w : ω) (settings : Settings)
    (app : Application ω) (f : Frame) : (r.requestChannel w settings app f).1.Awaits := by
  unfold Responder.requestChannel
  split
  · exact awaits.aside (r.violation_aside _)
  · split
    next unread => exact awaits.aside (Responder.readRequest_aside unread)
    next =>
      split
      next refused => exact awaits.aside (Responder.openInbound_refused refused)
      next opened => exact (awaits.aside (.single (.openInbound opened))).driveStream _ _ _ _ _

theorem Responder.Awaits.cancelStream (awaits : r.Awaits) (stream : StreamId) :
    (r.cancelStream stream).1.Awaits := by
  refine awaits.keep (r.cancelStream_minds stream) fun t there => .inl ?_
  unfold Responder.cancelStream at there
  split at there <;> exact there

theorem Responder.Awaits.grantStream (awaits : r.Awaits) (stream : StreamId) (demand : UInt32) :
    (r.grantStream stream demand).1.Awaits := by
  refine awaits.keep (r.grantStream_minds stream demand) fun t there => .inl ?_
  unfold Responder.grantStream at there
  split at there <;> exact there

theorem Responder.Awaits.dispatch (awaits : r.Awaits) (w : ω) (settings : Settings) (app : Application ω)
    (f : Frame) : (r.dispatch w settings app f).responder.Awaits := by
  have counted : Responder.Awaits { r with metrics := r.metrics.frameReceived } :=
    awaits.kept (r.counted_keepsTasks _)
  unfold Responder.dispatch
  split
  next => exact counted.fireAndForget settings f
  next => exact counted.requestResponse settings f
  next => exact counted.requestStream w settings app f
  next => exact counted.requestChannel w settings app f
  next => exact counted.metadataPush settings f
  next => exact counted.cancelStream f.stream
  next => exact counted.grantStream f.stream f.demand
  next => exact counted.aside (Responder.answerKeepalive_aside _ f)
  next => exact counted.aside (Responder.inboundNext_aside _ settings f)
  next => exact counted.aside (Responder.inboundNextComplete_aside _ settings f)
  next => exact counted.aside (Responder.inboundEnd_aside _ _ _)
  next => exact counted.aside (Responder.inboundEnd_aside _ _ _)
  next => exact counted
  next => exact counted
  all_goals exact counted.aside (Responder.violation_aside _ _)

/-- Every driver but that of task `n` has the waiters of its demand. -/
def Responder.AwaitsBut (r : Responder) (n : Nat) : Prop := ∀ t ∈ r.tasks, t.number ≠ n → r.Waits t

variable {n : Nat}

theorem Responder.AwaitsBut.keep (awaits : r.AwaitsBut n) (kept : r.KeepsTasks r') : r'.AwaitsBut n :=
  fun t there other =>
    (awaits t (kept.tasks ▸ there) other).of_minds (Responder.minds_of_controls kept.controls)

theorem Responder.AwaitsBut.setDemand (awaits : r.AwaitsBut n) (d : Demand) :
    (r.setDemand n d).AwaitsBut n := by
  intro t there other token channel phase work
  obtain ⟨d', has, serves⟩ := awaits t there other token channel phase work
  refine ⟨d', ?_, serves⟩
  rw [← has]
  simp only [Responder.demand?, Responder.setDemand, Controls.getElem?_setDemand, if_neg other]

theorem Responder.AwaitsBut.removeTask (awaits : r.AwaitsBut n) : (r.removeTask n).Awaits := by
  intro t there
  obtain ⟨old, other⟩ := List.mem_filter.mp there
  exact awaits t old (of_decide_eq_true other)

theorem Responder.AwaitsBut.setWork {work : Work} (awaits : r.AwaitsBut n)
    (ready : ∀ token channel phase, work = .stream token channel phase → r.DemandServes n phase.waiters) :
    (r.setWork n work).Awaits := by
  intro t there
  obtain ⟨u, old, eq⟩ := List.mem_map.mp there
  by_cases own : u.number = n
  · rw [if_pos own] at eq
    rw [← eq]
    rintro token channel phase drives
    show r.DemandServes u.number phase.waiters
    rw [own]
    exact ready token channel phase drives
  · rw [if_neg own] at eq
    rw [← eq]
    exact awaits u old own

theorem Responder.demandServes_setDemand {d' : Demand} (has : r.demand? n = some d) (serves : d'.Serves ws) :
    (r.setDemand n d').DemandServes n ws := by
  obtain ⟨c, control, own⟩ := Option.bind_eq_some_iff.mp has
  refine ⟨d', ?_, serves⟩
  simp [Responder.demand?, Responder.setDemand, Controls.getElem?_setDemand, control,
    Control.demand?_withDemand, own]

variable {t : Task} {token : Nat} {channel : Option Nat}

theorem Responder.AwaitsBut.finishStream (awaits : r.AwaitsBut t.number) (w : ω) (app : Application ω)
    (outcome : StreamOutcome) : (r.finishStream w app t token channel outcome).1.Awaits := by
  obtain ⟨left, moves, eq⟩ := r.finishStream_left w app t token channel outcome
  rw [eq, Responder.settleStream_eq]
  exact Responder.AwaitsBut.removeTask fun u there other =>
    (awaits.keep (Responder.ChannelMoves.keepsTasks moves)) u there other

/-- What has come of a driver that offered the item in its hand: it goes on without a waiter, or has the
waiters of its demand. -/
def Responder.AwaitsOffer (n : Nat) (asked : Responder × Bool) : Prop :=
  if asked.2 then asked.1.AwaitsBut n ∧ asked.1.DemandServes n [] else asked.1.Awaits

theorem Responder.AwaitsBut.offer (awaits : r.AwaitsBut t.number) (waiter : Option Nat)
    (serves : r.DemandServes t.number waiter.toList) (p : Payload) :
    Responder.AwaitsOffer t.number (r.offer t token channel p waiter) := by
  obtain ⟨d, has, serves⟩ := serves
  have asked := serves.ask
  unfold Responder.offer
  rw [Responder.acquire_eq has]
  dsimp only
  have changed := awaits.setDemand (d.ask waiter).1
  cases answer : (d.ask waiter).2 with
  | ready =>
    rw [answer, if_pos rfl] at asked
    exact ⟨changed, Responder.demandServes_setDemand has asked⟩
  | pending =>
    rw [answer, if_neg Acquisition.noConfusion] at asked
    refine changed.setWork ?_
    rintro _ _ _ ⟨⟩
    exact Responder.demandServes_setDemand has asked
  | gone =>
    rw [answer, if_neg Acquisition.noConfusion] at asked
    refine changed.setWork ?_
    rintro _ _ _ ⟨⟩
    exact Responder.demandServes_setDemand has asked

theorem Responder.AwaitsBut.offerFirst (awaits : r.AwaitsBut t.number)
    (serves : r.DemandServes t.number []) (p : Payload) :
    Responder.AwaitsOffer t.number (r.offerFirst t token channel p) := by
  unfold Responder.offerFirst
  split
  · refine Responder.AwaitsBut.setWork (r := r.putOff) (fun u there other => awaits u there other) ?_
    rintro _ _ _ ⟨⟩
    exact serves
  · exact awaits.offer none serves p

/-- A turn of the driver of a response stream, from any phase. -/
theorem Responder.AwaitsBut.turnStream (app : Application ω) (budget : Nat) (phase : StreamPhase) (w : ω)
    (awaits : r.AwaitsBut t.number) (serves : r.DemandServes t.number phase.waiters) :
    (Responder.turnStream app t token channel budget phase r w).1.Awaits := by
  induction budget generalizing phase r w with
  | zero =>
    refine awaits.setWork ?_
    rintro _ _ _ ⟨⟩
    exact serves
  | succ budget ih =>
    -- with credit for the item the driver pulls the next one, and without it waits
    have goOn {asked : Responder × Bool} {r' : Responder} (w : ω)
        (offered : Responder.AwaitsOffer t.number asked) (given : asked = (r', true)) :
        (Responder.turnStream app t token channel budget .pulling r' w).1.Awaits := by
      subst given
      exact ih .pulling w offered.1 offered.2
    have waits {asked : Responder × Bool} {r' : Responder}
        (offered : Responder.AwaitsOffer t.number asked) (later : asked = (r', false)) : r'.Awaits := by
      subst later
      exact offered
    rw [Responder.turnStream.eq_def]
    dsimp only
    split
    next cancelled =>
      cases phase with
      | holding p waiter =>
        obtain ⟨d, eq, _⟩ := r.abandon_spec t.number waiter
        dsimp only
        rw [eq]
        exact (awaits.setDemand d).finishStream w app .cancelled
      | broken e => exact awaits.finishStream w app .cancelled
      | pulling => exact awaits.finishStream w app .cancelled
      | offering p => exact awaits.finishStream w app .cancelled
    next =>
      have noted {r : Responder} (awaits : r.AwaitsBut t.number) (e : Event) :
          (r.record e).AwaitsBut t.number := fun u there other => awaits u there other
      cases phase with
      | broken e => exact (noted awaits _).finishStream w app _
      | offering p =>
        have offered : Responder.AwaitsOffer t.number (r.offerFirst t token channel p) :=
          awaits.offerFirst serves p
        dsimp only
        split
        next given => exact goOn w offered given
        next later => exact waits offered later
      | holding p waiter =>
        have offered : Responder.AwaitsOffer t.number (r.offer t token channel p (some waiter)) :=
          awaits.offer (some waiter) serves p
        dsimp only
        split
        next given => exact goOn w offered given
        next later => exact waits offered later
      | pulling =>
        have kept := Responder.ChannelMoves.keepsTasks ((app.pull t.number w).run_moves r)
        have awaits := awaits.keep kept
        have serves := Responder.minds_of_controls kept.controls _ _ serves
        generalize (app.pull t.number w).run r = answer at awaits serves ⊢
        obtain ⟨r1, poll, w1⟩ := answer
        dsimp only at awaits serves ⊢
        cases poll with
        | pending =>
          refine awaits.setWork ?_
          rintro _ _ _ ⟨⟩
          exact serves
        | panicked p => exact (noted (noted awaits _) _).finishStream w1 app _
        | ready x =>
          rcases x with _ | (e | p)
          · exact (noted awaits _).finishStream w1 app _
          · exact (noted awaits _).finishStream w1 app _
          · dsimp only
            split
            · exact (noted awaits _).finishStream w1 app _
            · have offered : Responder.AwaitsOffer t.number
                  ((r1.record (.pulled t.number (.ok p))).offerFirst t token channel p) :=
                (noted awaits _).offerFirst serves p
              split
              next given => exact goOn w1 offered given
              next later => exact waits offered later

theorem Responder.Awaits.turn (awaits : r.Awaits) (linked : r.Linked) (w : ω) (app : Application ω)
    (n budget : Nat) : (r.turn w app n budget).1.Awaits := by
  unfold Responder.turn
  split
  · exact awaits
  next t found =>
    have there : t ∈ r.tasks := (linked.task?_eq_some_iff.mp found).1
    have others {r' : Responder} (awaits : r'.Awaits) : r'.AwaitsBut t.number := fun u old _ => awaits u old
    split
    next kind token request work =>
      obtain ⟨panic, r1, labours, _, eq⟩ := r.turnSingle_spec w app t kind token request
      rw [eq]
      have awaits := awaits.aside labours.aside
      unfold Responder.concludeSingle
      split
      · exact (others awaits).setWork nofun
      · rw [Responder.settleSingle_eq]
        exact Responder.AwaitsBut.removeTask fun u old _ => awaits u old
    next token channel phase work =>
      exact (others awaits).turnStream app budget phase w (awaits t there token channel phase work)

theorem Responder.Awaits.step {s : Responder × ω} (awaits : s.1.Awaits) (linked : s.1.Linked)
    (settings : Settings) (app : Application ω) (a : Action ω) :
    (Responder.step settings app a s).1.Awaits := by
  obtain ⟨r, w⟩ := s
  have begun : r.AsideMoves r.beginTurn := .single (.pace r _)
  have awaits : r.beginTurn.Awaits := awaits.aside begun
  have aside {r' : Responder} (step : r.beginTurn.AsideMove r') : r'.Awaits := awaits.aside (.single step)
  have drained {r : Responder} (awaits : r.Awaits) : r.cancelStreams.Awaits := by
    have emptied : r.drained.Awaits := awaits.keep r.drained_minds fun _ there => .inl there
    exact emptied.aside r.cancelStreams_aside
  cases a with
  | receive x =>
    dsimp only [Responder.step, Responder.receive]
    have stopped {r : Responder} (awaits : r.Awaits) : Responder.Awaits { r with receiving := false } :=
      awaits.aside (.single (.stopReceiving r))
    split
    · exact awaits
    · split
      · exact stopped awaits
      · split
        · exact awaits
        · exact stopped awaits
        · exact stopped (awaits.aside (Responder.report_aside _ _))
        next f =>
          have dispatched := awaits.dispatch w settings app f
          split
          · exact dispatched
          · exact stopped dispatched
  | turn n budget => exact awaits.turn ((Responder.AsideMoves.keepsTasks begun).linked linked) w app n budget
  | transportStopped result =>
    cases result with
    | ok _ => exact drained awaits
    | error e => exact drained (awaits.aside (Responder.report_aside _ _))
  | cleanup =>
    have disposed := (drained awaits).kept (r.beginTurn.cancelStreams.dispose_keepsTasks w app)
    exact disposed.keep (Responder.minds_of_controls rfl) fun _ there => .inl there
  | read n => exact aside (.channel (.read _ n))
  | request n demand => exact aside (.channel (.request _ n demand))
  | drop n => exact aside (.channel (.drop _ n))
  | signal n s => exact aside (.signal _ n s)
  | cancelChannel n => exact aside (.cancelChannel _ n)
  | register stream control => exact awaits.keep (Responder.minds_of_append rfl) fun _ there => .inl there
  | world change => exact awaits

/-- In every run the driver of each response stream has the waiters of its demand. -/
theorem Responder.awaits_run (settings : Settings) (app : Application ω) (as : List (Action ω)) (w : ω) :
    (Responder.run settings app as (Responder.start, w)).1.Awaits := by
  induction as using List.reverseRecOn with
  | nil => exact fun t there => absurd there List.not_mem_nil
  | append_singleton as a ih =>
    rw [Responder.run_append]
    have linked : (Responder.run settings app as (Responder.start, w)).1.Linked :=
      Responder.linked_start.run settings app as
    exact ih.step linked settings app a

/-- No wakeup is lost, whatever is done with a demand and in whatever order, as long as every grant that is
made while two or more waiters live is of one unit. Where there is credit and a waiter lives, one that lives
is awake, and whichever is awake acquires its unit when it asks. Every waiter takes up room at an address of
its own, and there are no more than `unbounded` of these; beyond that many, waiters that are awake could find
credit without using it up. In particular no wakeup is lost where one waiter at most lives at any time, and
so it is with every response stream that is driven. -/
theorem Demand.no_wakeup_lost :
    (∀ ops, Demand.Gentle ops → Demand.LiveWithin unbounded ops →
      (Demand.new.after ops).Heeds (Demand.live ops)) ∧
    (∀ ops, Demand.LiveWithin 1 ops → (Demand.new.after ops).Heeds (Demand.live ops)) ∧
    (∀ (ω : Type) (settings : Settings) (app : Application ω) (as : List (Action ω)) (w : ω),
      let r := (Responder.run settings app as (Responder.start, w)).1
      ∀ t ∈ r.tasks, ∀ token channel phase, t.work = .stream token channel phase →
        ∃ ops, r.demand? t.number = some (Demand.new.after ops) ∧ Demand.LiveWithin 1 ops ∧
          Demand.live ops = phase.waiters) := by
  have heeds {ops : List Demand.Operation} (gentle : Demand.Gentle ops)
      (room : Demand.LiveWithin unbounded ops) : (Demand.new.after ops).Heeds (Demand.live ops) :=
    (Demand.prompt_after gentle room).heeds (Demand.knows_live ops)
  refine ⟨fun ops => heeds, fun ops alone => heeds alone.gentle (alone.mono (by decide)), ?_⟩
  intro ω settings app as w r t there token channel phase work
  obtain ⟨d, has, ops, rfl, within, live⟩ :=
    Responder.awaits_run settings app as w t there token channel phase work
  exact ⟨ops, has, within, live⟩

/-- A permit is left for a unit that is taken at once. Of three waiters the first is woken for a unit that
somebody else takes, and sleeps again; the second is woken and dropped, and the third acquires the unit. A
waiter that lives alone acquires one of three units at once. -/
theorem Demand.three_waiters_no_wakeup_lost :
    let ops : List Demand.Operation := [.request 1, .tryAcquire, .acquire, .acquire, .acquire, .request 1,
      .tryAcquire, .poll 0, .request 1, .drop 1]
    let alone : List Demand.Operation := [.acquire, .requestOnWire 3, .tryAcquire]
    Demand.Gentle ops ∧ Demand.LiveWithin unbounded ops ∧ Demand.live ops = [0, 2] ∧
      (Demand.new.after ops).woken = [2] ∧ ((Demand.new.after ops).poll 2).2 = .ready ∧
      Demand.LiveWithin 1 alone ∧ Demand.live alone = [0] ∧ ((Demand.new.after alone).poll 0).2 = .ready := by
  intro ops alone
  have gentle : Demand.Gentle ops := by unfold Demand.Gentle; decide
  have room : Demand.LiveWithin unbounded ops := by unfold Demand.LiveWithin; decide
  have single : Demand.LiveWithin 1 alone := by unfold Demand.LiveWithin; decide
  have first := Demand.no_wakeup_lost.1 ops gentle room (by decide) (by decide)
  have last := Demand.no_wakeup_lost.2.1 alone single (by decide) (by decide)
  exact ⟨gentle, room, by decide, by decide, (first.2 2 (by decide)).2.1, single, by decide,
    (last.2 0 (by decide)).2.1⟩

end Multiplexer
