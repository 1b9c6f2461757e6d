import Multiplexer.Proofs.CalmApplication
import Multiplexer.Proofs.Drives

/-!
Turns with the calm twin of an application. They lead to the same state, but for the panics in the log and
for response streams whose call has panicked: the twin has not found out yet.
-/

namespace Multiplexer

variable {ω ρ : Type} {r : Responder}

/-- The phase in which the twin is: it has not found out yet. -/
def StreamPhase.calmed : StreamPhase → StreamPhase
  | .broken _ => .pulling
  | .pulling => .pulling
  | .offering p => .offering p
  | .holding p waiter => .holding p waiter

def Work.calmed : Work → Work
  | .single kind token request => .single kind token request
  | .stream token channel phase => .stream token channel phase.calmed

def Task.calmed (t : Task) : Task := { t with work := t.work.calmed }

/-- A panic in the log. -/
def Event.isPanic : Event → Bool
  | .handlerPanicked _ | .disposePanicked _ => true
  | .sent .. | .reported _ | .disposed | .pulled .. | .ended _ | .yielded .. => false

/-- What is the same with the twin: everything but the panics in the log, and streams whose call has
panicked have not found out yet. -/
def Responder.calmed (r : Responder) : Responder :=
  { r with
    tasks := r.tasks.map Task.calmed
    history := r.history.filter fun e => !e.isPanic }

section fields

variable (r : Responder) (t : Task) (n : Nat)

@[simp] theorem Task.calmed_number : t.calmed.number = t.number := rfl

@[simp] theorem Task.calmed_stream : t.calmed.stream = t.stream := rfl

@[simp] theorem Task.calmed_work : t.calmed.work = t.work.calmed := rfl

@[simp] theorem Responder.calmed_registry : r.calmed.registry = r.registry := rfl

@[simp] theorem Responder.calmed_channels : r.calmed.channels = r.channels := rfl

@[simp] theorem Responder.calmed_controls : r.calmed.controls = r.controls := rfl

@[simp] theorem Responder.calmed_allowance : r.calmed.allowance = r.allowance := rfl

@[simp] theorem Responder.calmed_held? : r.calmed.held? n = r.held? n := rfl

@[simp] theorem Responder.calmed_demand? : r.calmed.demand? n = r.demand? n := rfl

@[simp] theorem Responder.calmed_isCancelled : r.calmed.isCancelled n = r.isCancelled n := rfl

@[simp] theorem Responder.task?_calmed : r.calmed.task? n = (r.task? n).map Task.calmed :=
  List.find?_map ..

end fields

theorem Responder.calmed_note {e : Event} (panic : e.isPanic = true) :
    (r.record e).calmed = r.calmed := by
  simp [Responder.calmed, Responder.record, panic]

theorem Responder.record_calmed {e : Event} (calm : e.isPanic = false) :
    r.calmed.record e = (r.record e).calmed := by
  simp [Responder.calmed, Responder.record, calm]

theorem Responder.send_calmed (r : Responder) (speaker : Speaker) (f : Frame) :
    r.calmed.send speaker f = (r.send speaker f).calmed :=
  Responder.record_calmed rfl

theorem Responder.report_calmed (r : Responder) (e : Failure) :
    r.calmed.report e = (r.report e).calmed :=
  Responder.record_calmed (r := { r with metrics := r.metrics.failed }) rfl

theorem Responder.violation_calmed (r : Responder) (e : ProtocolError) :
    r.calmed.violation e = (r.violation e).calmed := by
  rw [Responder.violation, Responder.send_calmed, Responder.report_calmed]
  rfl

theorem Responder.failTask_calmed (r : Responder) (t : Task) (e : HandlerError) :
    r.calmed.failTask t.calmed e = (r.failTask t e).calmed := by
  rw [Responder.failTask, Responder.send_calmed, Responder.report_calmed]
  rfl

theorem Responder.applyStep_calmed (r : Responder) (n : Nat) (c : Channel) (step : ChannelStep) :
    r.calmed.applyStep n c step = (r.applyStep n c step).calmed := by
  have calm : (step.frames.map (Event.sent (.channel n))).filter (fun e => !e.isPanic) =
      step.frames.map (Event.sent (.channel n)) := by
    rw [List.filter_eq_self]
    intro e he
    obtain ⟨f, _, rfl⟩ := List.mem_map.mp he
    rfl
  simp only [Responder.applyStep_eq, Responder.calmed, List.filter_append, calm]

theorem Responder.pollChannel_calmed (r : Responder) (n : Nat) (c : Channel) :
    r.calmed.pollChannel n c = ((r.pollChannel n c).1.calmed, (r.pollChannel n c).2) := by
  have spent : (if c.isOpen && !c.queue.isEmpty then r.calmed.spend else r.calmed) =
      (if c.isOpen && !c.queue.isEmpty then r.spend else r).calmed := by
    split <;> rfl
  simp only [Responder.pollChannel, spent, Responder.applyStep_calmed]
  split
  · rw [Responder.record_calmed rfl]
  · rfl
  · rfl

theorem Responder.readChannel_calmed (r : Responder) (n : Nat) :
    r.calmed.readChannel n = ((r.readChannel n).1.calmed, (r.readChannel n).2) := by
  unfold Responder.readChannel
  rw [Responder.calmed_held?, Responder.calmed_allowance]
  split
  next c _ =>
    split
    · exact congrArg (·, some Receipt.pending) (r.putOff.applyStep_calmed n c _)
    · rw [Responder.pollChannel_calmed]
  · rfl

theorem Responder.requestOnChannel_calmed (r : Responder) (n : Nat) (demand : UInt32) :
    r.calmed.requestOnChannel n demand = (r.requestOnChannel n demand).calmed := by
  simp only [Responder.requestOnChannel, Responder.calmed_held?]
  split
  · exact r.applyStep_calmed n _ _
  · rfl

theorem Responder.dropChannel_calmed (r : Responder) (n : Nat) :
    r.calmed.dropChannel n = (r.dropChannel n).calmed := by
  simp only [Responder.dropChannel, Responder.calmed_held?]
  split
  · exact r.applyStep_calmed n _ _
  · rfl

theorem Responder.dropOwnChannel_calmed (r : Responder) (channel : Option Nat) :
    r.calmed.dropOwnChannel channel = (r.dropOwnChannel channel).calmed := by
  unfold Responder.dropOwnChannel
  rw [Responder.calmed_channels]
  split
  · split
    · exact r.dropChannel_calmed _
    · rfl
  · rfl

theorem Responder.keepChannel_calmed (r : Responder) (n : Nat) :
    r.calmed.keepChannel n = (r.keepChannel n).calmed := by
  simp only [Responder.keepChannel, Responder.calmed_held?]
  split <;> rfl

/-- Code of the application does not see the difference. -/
theorem Dialogue.run_calmed (d : Dialogue ρ) (r : Responder) :
    d.run r.calmed = ((d.run r).1.calmed, (d.run r).2) := by
  induction d generalizing r with
  | answer x => rfl
  | read n next ih =>
    simp only [Dialogue.run, Responder.readChannel_calmed]
    exact ih _ _
  | request n demand next ih =>
    simp only [Dialogue.run, Responder.requestOnChannel_calmed]
    exact ih _
  | drop n next ih =>
    simp only [Dialogue.run, Responder.dropChannel_calmed]
    exact ih _
  | keep n next ih =>
    simp only [Dialogue.run, Responder.keepChannel_calmed]
    exact ih _
  | inspect n next ih => exact ih _ r

theorem Responder.setWork_calmed (r : Responder) (n : Nat) (work : Work) :
    r.calmed.setWork n work.calmed = (r.setWork n work).calmed := by
  simp only [Responder.setWork, Responder.calmed, List.map_map]
  congr 1
  refine List.map_congr_left fun t _ => ?_
  by_cases own : t.number = n <;> simp [own, Task.calmed]

theorem Responder.removeTask_calmed (r : Responder) (n : Nat) :
    r.calmed.removeTask n = (r.removeTask n).calmed := by
  simp only [Responder.removeTask, Responder.calmed, List.filter_map]
  rfl

theorem Responder.release_calmed (r : Responder) (stream : StreamId) (token : Nat) :
    r.calmed.release stream token =
      ((r.release stream token).1.calmed, (r.release stream token).2) := rfl

theorem Responder.settleSingle_calmed (r : Responder) (t : Task) (kind : SingleRequest)
    (token : Option Nat) (result : Option Item) :
    r.calmed.settleSingle t.calmed kind token result = (r.settleSingle t kind token result).calmed := by
  cases token with
  | none =>
    rcases result with _ | (e | p)
    · cases kind <;> rfl
    · cases kind with
      | requestResponse => rfl
      | fireAndForget => exact r.report_calmed _
      | metadataPush => exact r.report_calmed _
    · cases kind <;> rfl
  | some token =>
    rcases result with _ | (e | p)
    · cases kind <;> rfl
    · cases kind with
      | requestResponse =>
        dsimp only [Responder.settleSingle]
        rw [Task.calmed_stream, Responder.release_calmed]
        split
        · exact Responder.failTask_calmed _ t e
        · rfl
      | fireAndForget => exact Responder.report_calmed (r.release t.stream token).1 _
      | metadataPush => exact Responder.report_calmed (r.release t.stream token).1 _
    · cases kind with
      | requestResponse =>
        dsimp only [Responder.settleSingle]
        rw [Task.calmed_stream, Responder.release_calmed]
        split
        · exact Responder.send_calmed _ _ _
        · rfl
      | fireAndForget => rfl
      | metadataPush => rfl

theorem Responder.settleStream_calmed (r : Responder) (t : Task) (token : Nat)
    (outcome : StreamOutcome) :
    r.calmed.settleStream t.calmed token outcome = (r.settleStream t token outcome).calmed := by
  unfold Responder.settleStream
  rw [Task.calmed_stream, Responder.release_calmed]
  dsimp only
  split
  · cases outcome with
    | completed => exact Responder.send_calmed _ _ _
    | cancelled => rfl
    | failed e =>
      cases e with
      | remote code message => exact Responder.report_calmed _ _
      | _ => exact Responder.failTask_calmed _ t _
  · rfl

section turns

variable (app : Application ω) (w : ω) (memory : Memory)

/-- What a part of a turn leaves with the twin. -/
def Responder.calmTwin (memory : Memory) (s : Responder × ω) : Responder × (ω × Memory) :=
  (s.1.calmed, s.2, memory)

theorem Application.drop_calm (n : Nat) (r : Responder) :
    (app.calm.drop n (w, memory)).run r.calmed =
      Responder.calmTwin memory ((app.drop n w).run r) := by
  simp only [Application.calm, Dialogue.run_map, Dialogue.run_calmed]
  rfl

theorem Application.poll_calm (n : Nat) (r : Responder) :
    (app.calm.poll n (w, memory)).run r.calmed =
      (((app.poll n w).run r).1.calmed, ((app.poll n w).run r).2.1.calm .error,
        ((app.poll n w).run r).2.2, memory) := by
  simp only [Application.calm, Dialogue.run_map, Dialogue.run_calmed]

variable {memory} in
theorem Application.pull_calm {n : Nat} (nothing : memory n = none) (r : Responder) :
    (app.calm.pull n (w, memory)).run r.calmed =
      (((app.pull n w).run r).1.calmed, ((app.pull n w).run r).2.1.calm (fun e => some (.error e)),
        ((app.pull n w).run r).2.2, memory) := by
  simp only [Application.calm, nothing, Dialogue.run_map, Dialogue.run_calmed]

variable {memory} in
theorem Application.pull_remembered {n : Nat} {e : HandlerError} (remembered : memory n = some e)
    (r : Responder) :
    (app.calm.pull n (w, memory)).run r = (r, .ready (some (.error e)), w, memory) := by
  simp only [Application.calm, remembered]
  rfl

theorem Responder.finishSingle_calmed (r : Responder) (t : Task) (kind : SingleRequest)
    (token : Option Nat) (result : Option Item) :
    r.calmed.finishSingle (w, memory) app.calm t.calmed kind token result =
      Responder.calmTwin memory (r.finishSingle w app t kind token result) := by
  simp only [Responder.finishSingle, Task.calmed_number, Application.drop_calm, Responder.calmTwin,
    Responder.settleSingle_calmed, Responder.removeTask_calmed]

theorem Responder.calmed_notePanic (r : Responder) (message : String) :
    (r.record (.handlerPanicked message)).calmed = r.calmed :=
  Responder.calmed_note rfl

theorem Responder.pollSingle_calmed (r : Responder) (t : Task) (kind : SingleRequest)
    (token : Option Nat) :
    r.calmed.pollSingle (w, memory) app.calm t.calmed kind token =
      Responder.calmTwin memory (r.pollSingle w app t kind token) := by
  simp only [Responder.pollSingle, Task.calmed_number, Application.poll_calm]
  generalize (app.poll t.number w).run r = answer
  obtain ⟨r1, poll, w1⟩ := answer
  cases poll with
  | ready x => exact r1.finishSingle_calmed app w1 memory t kind token (some x)
  | panicked p =>
    dsimp only [Poll.calm]
    rw [← r1.calmed_notePanic p.message]
    exact Responder.finishSingle_calmed app w1 memory _ t kind token _
  | pending =>
    dsimp only [Poll.calm]
    rw [Responder.calmed_isCancelled]
    split
    · exact r1.finishSingle_calmed app w1 memory t kind token none
    · exact congrArg (·, w1, memory) (r1.setWork_calmed t.number (.single kind token none))

theorem Responder.turnSingle_calmed (r : Responder) (t : Task) (kind : SingleRequest)
    (token : Option Nat) (request : Option Payload) :
    r.calmed.turnSingle (w, memory) app.calm t.calmed kind token request =
      Responder.calmTwin memory (r.turnSingle w app t kind token request) := by
  cases request with
  | none => exact r.pollSingle_calmed app w memory t kind token
  | some p =>
    dsimp only [Responder.turnSingle]
    rw [Task.calmed_number, Responder.calmed_isCancelled]
    split
    · rw [Responder.settleSingle_calmed, Responder.removeTask_calmed]
      rfl
    · exact r.pollSingle_calmed app _ memory t kind token

theorem Responder.finishStream_calmed (r : Responder) (t : Task) (token : Nat)
    (channel : Option Nat) (outcome : StreamOutcome) :
    r.calmed.finishStream (w, memory) app.calm t.calmed token channel outcome =
      Responder.calmTwin memory (r.finishStream w app t token channel outcome) := by
  simp only [Responder.finishStream, Task.calmed_number, Application.drop_calm, Responder.calmTwin,
    Responder.dropOwnChannel_calmed, Responder.settleStream_calmed, Responder.removeTask_calmed]

theorem Responder.failStream_calmed (r : Responder) (t : Task) (token : Nat)
    (channel : Option Nat) (e : HandlerError) :
    r.calmed.failStream (w, memory) app.calm t.calmed token channel e =
      Responder.calmTwin memory (r.failStream w app t token channel e) := by
  unfold Responder.failStream
  rw [Responder.record_calmed rfl]
  exact Responder.finishStream_calmed app w memory _ t token channel _

theorem Responder.acquire_calmed (r : Responder) (n : Nat) (waiter : Option Nat) :
    r.calmed.acquire n waiter = ((r.acquire n waiter).1.calmed, (r.acquire n waiter).2) := by
  simp only [Responder.acquire, Responder.calmed_demand?]
  cases r.demand? n with
  | none => rfl
  | some d => rfl

theorem Responder.abandon_calmed (r : Responder) (n waiter : Nat) :
    r.calmed.abandon n waiter = (r.abandon n waiter).calmed := by
  simp only [Responder.abandon, Responder.calmed_demand?]
  cases r.demand? n with
  | none => rfl
  | some d => rfl

theorem Responder.offer_calmed (r : Responder) (t : Task) (token : Nat) (channel : Option Nat)
    (p : Payload) (waiter : Option Nat) :
    r.calmed.offer t.calmed token channel p waiter =
      ((r.offer t token channel p waiter).1.calmed, (r.offer t token channel p waiter).2) := by
  simp only [Responder.offer, Task.calmed_number, Responder.acquire_calmed]
  cases (r.acquire t.number waiter).2.2 with
  | ready => exact congrArg (·, true) (Responder.send_calmed _ _ _)
  | pending => exact congrArg (·, false) (Responder.setWork_calmed _ _ (.stream token channel (.holding p _)))
  | gone => exact congrArg (·, false) (Responder.setWork_calmed _ _ (.stream token channel (.holding p _)))

theorem Responder.offerFirst_calmed (r : Responder) (t : Task) (token : Nat) (channel : Option Nat)
    (p : Payload) :
    r.calmed.offerFirst t.calmed token channel p =
      ((r.offerFirst t token channel p).1.calmed, (r.offerFirst t token channel p).2) := by
  unfold Responder.offerFirst
  rw [Responder.calmed_allowance]
  split
  · exact congrArg (·, false) (r.putOff.setWork_calmed t.number (.stream token channel (.offering p)))
  · exact r.offer_calmed t token channel p none

theorem Responder.turnStream_calmed (t : Task) (token : Nat) (channel : Option Nat) (budget : Nat)
    (phase : StreamPhase) (r : Responder) (known : memory t.number = phase.broken?) :
    Responder.turnStream app.calm t.calmed token channel budget phase.calmed r.calmed (w, memory) =
      Responder.calmTwin memory (Responder.turnStream app t token channel budget phase r w) := by
  induction budget generalizing phase r w with
  | zero => exact congrArg (·, w, memory) (r.setWork_calmed t.number (.stream token channel phase))
  | succ budget ih =>
    rw [Responder.turnStream.eq_def, Responder.turnStream.eq_def app]
    dsimp only
    rw [Task.calmed_number, Responder.calmed_isCancelled]
    by_cases stop : r.isCancelled t.number = true
    · rw [if_pos stop, if_pos stop]
      cases phase with
      | holding p waiter =>
        dsimp only [StreamPhase.calmed]
        rw [Responder.abandon_calmed]
        exact Responder.finishStream_calmed app w memory _ t token channel _
      | _ => exact r.finishStream_calmed app w memory t token channel _
    · rw [if_neg stop, if_neg stop]
      cases phase with
      | broken e =>
        dsimp only [StreamPhase.calmed]
        rw [app.pull_remembered w known r.calmed]
        exact r.failStream_calmed app w memory t token channel e
      | offering p =>
        dsimp only [StreamPhase.calmed]
        rw [Responder.offerFirst_calmed]
        generalize r.offerFirst t token channel p = offered
        obtain ⟨r1, _ | _⟩ := offered
        · rfl
        · exact ih w .pulling r1 known
      | holding p waiter =>
        dsimp only [StreamPhase.calmed]
        rw [Responder.offer_calmed]
        generalize r.offer t token channel p (some waiter) = offered
        obtain ⟨r1, _ | _⟩ := offered
        · rfl
        · exact ih w .pulling r1 known
      | pulling =>
        dsimp only [StreamPhase.calmed]
        rw [app.pull_calm w known r]
        generalize (app.pull t.number w).run r = answer
        obtain ⟨r1, poll, w1⟩ := answer
        cases poll with
        | pending => exact congrArg (·, w1, memory) (r1.setWork_calmed t.number (.stream token channel .pulling))
        | panicked p =>
          dsimp only [Poll.calm]
          rw [← r1.calmed_notePanic p.message]
          exact Responder.failStream_calmed app w1 memory _ t token channel _
        | ready x =>
          rcases x with _ | (e | p)
          · dsimp only [Poll.calm]
            rw [Responder.record_calmed rfl]
            exact Responder.finishStream_calmed app w1 memory _ t token channel _
          · exact r1.failStream_calmed app w1 memory t token channel e
          · dsimp only [Poll.calm]
            rw [Responder.record_calmed rfl]
            rw [Responder.calmed_isCancelled, Responder.calmed_allowance]
            split
            · exact Responder.finishStream_calmed app w1 memory _ t token channel _
            · rw [Responder.offerFirst_calmed]
              generalize (r1.record (.pulled t.number (.ok p))).offerFirst t token channel p = offered
              obtain ⟨r2, _ | _⟩ := offered
              · rfl
              · exact ih w1 .pulling r2 known

end turns

end Multiplexer
