import Multiplexer.Proofs.Employment
import Multiplexer.Proofs.StreamScope

/-!
A turn of a task stays on the stream of the task, as long as the code of its operation acts only on
channels of that stream.
-/

namespace Multiplexer

variable {ω : Type} {others may : Nat → Prop} {r r' : Responder} {t : Task}

theorem Frame.stream_ofPayload (stream : StreamId) (kind : FrameKind) (p : Payload) :
    (Frame.ofPayload stream kind p).stream = stream := by
  unfold Frame.ofPayload
  dsimp only
  split <;> rfl

theorem Task.LastWord.on {e : Event} (last : t.LastWord e) : e.isOn t.stream := by
  cases last <;> rfl

theorem Task.answer_on (t : Task) (kind : SingleRequest) (released : Bool) (result : Option Item) :
    ∀ e ∈ t.answer kind released result, e.isOn t.stream := by
  intro e there
  obtain ⟨p, _, rfl⟩ | last := Task.mem_answer there
  · exact Frame.stream_ofPayload ..
  · exact last.on

theorem Task.release_staysOn (t : Task) (token : Option Nat) (r : Responder) :
    Responder.StaysOn t.stream others r { r with registry := (t.release token r.registry).1 } := by
  cases token with
  | none => exact .refl r
  | some token => exact r.performOutbound_staysOn (.release t.stream token) rfl

theorem Responder.settleSingle_staysOn (r : Responder) (t : Task) (kind : SingleRequest)
    (token : Option Nat) (result : Option Item) :
    Responder.StaysOn t.stream others r (r.settleSingle t kind token result) := by
  rw [Responder.settleSingle_eq]
  exact (t.release_staysOn token r).trans
    (.tell rfl rfl rfl rfl rfl rfl (t.answer_on kind _ result))

theorem Responder.settleStream_staysOn (r : Responder) (t : Task) (token : Nat)
    (outcome : StreamOutcome) :
    Responder.StaysOn t.stream others r (r.settleStream t token outcome) := by
  rw [Responder.settleStream_eq]
  refine (t.release_staysOn (some token) r).trans (.tell rfl rfl rfl rfl rfl rfl fun e there => ?_)
  split at there
  · exact (Task.mem_lastWords there).on
  · exact absurd there List.not_mem_nil

/-- The code of operation `n` acts only on channels that it may use, in all worlds that it leads to. -/
structure Application.Confined (app : Application ω) (P : ω → Prop) (n : Nat) (may : Nat → Prop) :
    Prop where
  start : ∀ kind p w, P w → P (app.start kind n p w)
  poll : ∀ w, P w → (app.poll n w).On may fun answer => P answer.2
  pull : ∀ w, P w → (app.pull n w).On may fun answer => P answer.2
  drop : ∀ w, P w → (app.drop n w).On may fun _ => True

/-- The number of task `t` is that of no task on another stream, and the channels are none of another
stream either. -/
structure Task.Works (t : Task) (may : Nat → Prop) (r : Responder) : Prop where
  own : ∀ u ∈ r.tasks, u.number = t.number → u.stream = t.stream
  channels : ∀ m, may m → r.MayUse t.stream m

theorem Task.Works.after (works : t.Works may r) (stays : Responder.StaysOn t.stream others r r') :
    t.Works may r' :=
  ⟨stays.own_tasks works.own, fun m allowed => stays.mayUse (works.channels m allowed)⟩

section turns

variable {P : ω → Prop} {app : Application ω} {w : ω} (confined : app.Confined P t.number may)
  (works : t.Works may r) (fine : P w)

include confined works fine

theorem Responder.finishSingle_staysOn (kind : SingleRequest) (token : Option Nat)
    (result : Option Item) :
    Responder.StaysOn t.stream others r (r.finishSingle w app t kind token result).1 := by
  have dropped : Responder.StaysOn t.stream others r ((app.drop t.number w).run r).1 :=
    ((confined.drop w fine).run works.channels).1
  have settled := dropped.trans (Responder.settleSingle_staysOn _ t kind token result)
  exact settled.trans (Responder.removeTask_staysOn _ (works.after settled).own)

theorem Responder.pollSingle_staysOn (kind : SingleRequest) (token : Option Nat) :
    Responder.StaysOn t.stream others r (r.pollSingle w app t kind token).1 := by
  obtain ⟨polled, fine⟩ : Responder.StaysOn t.stream others r ((app.poll t.number w).run r).1 ∧
      P ((app.poll t.number w).run r).2.2 := (confined.poll w fine).run works.channels
  unfold Responder.pollSingle
  generalize (app.poll t.number w).run r = answer at polled fine ⊢
  obtain ⟨r1, poll, w1⟩ := answer
  have works := works.after polled
  refine polled.trans ?_
  cases poll with
  | ready x => exact Responder.finishSingle_staysOn confined works fine kind token (some x)
  | panicked p =>
    have noted : Responder.StaysOn t.stream others r1 (r1.record (.handlerPanicked p.message)) :=
      r1.record_staysOn trivial
    exact noted.trans (Responder.finishSingle_staysOn confined (works.after noted) fine kind token _)
  | pending =>
    dsimp only
    split
    · exact Responder.finishSingle_staysOn confined works fine kind token none
    · exact r1.setWork_staysOn works.own _

theorem Responder.turnSingle_staysOn (kind : SingleRequest) (token : Option Nat)
    (request : Option Payload) :
    Responder.StaysOn t.stream others r (r.turnSingle w app t kind token request).1 := by
  cases request with
  | none => exact Responder.pollSingle_staysOn confined works fine kind token
  | some p =>
    simp only [Responder.turnSingle]
    split
    · have settled : Responder.StaysOn t.stream others r (r.settleSingle t kind token none) :=
        r.settleSingle_staysOn t kind token none
      exact settled.trans (Responder.removeTask_staysOn _ (works.after settled).own)
    · exact Responder.pollSingle_staysOn confined works (confined.start kind p w fine) kind token

variable {token : Nat} {channel : Option Nat} (own : ∀ m, channel = some m → may m)

include own

theorem Responder.finishStream_staysOn (outcome : StreamOutcome) :
    Responder.StaysOn t.stream others r (r.finishStream w app t token channel outcome).1 := by
  have dropped : Responder.StaysOn t.stream others r ((app.drop t.number w).run r).1 :=
    ((confined.drop w fine).run works.channels).1
  have left := dropped.trans (Responder.dropOwnChannel_staysOn fun m held =>
    (works.after dropped).channels m (own m held))
  have settled := left.trans (Responder.settleStream_staysOn _ t token outcome)
  exact settled.trans (Responder.removeTask_staysOn _ (works.after settled).own)

theorem Responder.failStream_staysOn (e : HandlerError) :
    Responder.StaysOn t.stream others r (r.failStream w app t token channel e).1 := by
  have noted : Responder.StaysOn t.stream others r (r.record (.pulled t.number (.error e))) :=
    r.record_staysOn trivial
  exact noted.trans (Responder.finishStream_staysOn confined (works.after noted) fine own _)

omit confined fine own

variable (spared : ¬ others t.number)

include spared

theorem Responder.offer_staysOn (p : Payload) (waiter : Option Nat) :
    Responder.StaysOn t.stream others r (r.offer t token channel p waiter).1 := by
  obtain ⟨d, eq, _⟩ := r.acquire_spec t.number waiter
  have asked : Responder.StaysOn t.stream others r (r.acquire t.number waiter).1 :=
    eq ▸ r.setDemand_staysOn spared d
  unfold Responder.offer
  generalize r.acquire t.number waiter = answer at asked
  obtain ⟨r1, x, acquisition⟩ := answer
  refine asked.trans ?_
  cases acquisition with
  | ready => exact r1.send_staysOn _ (Frame.stream_ofPayload ..)
  | pending => exact r1.setWork_staysOn (works.after asked).own _
  | gone => exact r1.setWork_staysOn (works.after asked).own _

theorem Responder.offerFirst_staysOn (p : Payload) :
    Responder.StaysOn t.stream others r (r.offerFirst t token channel p).1 := by
  unfold Responder.offerFirst
  split
  · have paced : Responder.StaysOn t.stream others r r.putOff := .of_eq rfl rfl rfl rfl rfl rfl
    exact paced.trans (r.putOff.setWork_staysOn works.own _)
  · exact Responder.offer_staysOn works spared p none

include confined fine own

/-- A turn of the driver of a response stream, from the phase and the state that it has come to. -/
theorem Responder.turnStream_staysOn (budget : Nat) (phase : StreamPhase) :
    Responder.StaysOn t.stream others r
      (Responder.turnStream app t token channel budget phase r w).1 := by
  -- each further item is pulled in another state and world
  induction budget generalizing phase r w with
  | zero => exact r.setWork_staysOn works.own _
  | succ budget ih =>
    -- with credit for the item the driver pulls the next one
    have goOn {r1 r2 : Responder} {asked : Responder × Bool} {w : ω} (works : t.Works may r1) (fine : P w)
        (stays : Responder.StaysOn t.stream others r1 asked.1) (given : asked = (r2, true)) :
        Responder.StaysOn t.stream others r1
          (Responder.turnStream app t token channel budget .pulling r2 w).1 := by
      subst given
      exact stays.trans (ih (works.after stays) fine .pulling)
    have waits {r1 r2 : Responder} {asked : Responder × Bool}
        (stays : Responder.StaysOn t.stream others r1 asked.1) (later : asked = (r2, false)) :
        Responder.StaysOn t.stream others r1 r2 := by
      subst later
      exact stays
    rw [Responder.turnStream.eq_def]
    dsimp only
    split
    · -- the place in the queue for credit is given up first
      cases phase with
      | holding p waiter =>
        obtain ⟨d, eq, _⟩ := r.abandon_spec t.number waiter
        have left : Responder.StaysOn t.stream others r (r.abandon t.number waiter) :=
          eq ▸ r.setDemand_staysOn spared d
        exact left.trans (Responder.finishStream_staysOn confined (works.after left) fine own _)
      | _ => exact Responder.finishStream_staysOn confined works fine own _
    · cases phase with
      | broken e => exact Responder.failStream_staysOn confined works fine own e
      | offering p =>
        have asked : Responder.StaysOn t.stream others r (r.offerFirst t token channel p).1 :=
          Responder.offerFirst_staysOn works spared p
        dsimp only
        split
        next given => exact goOn works fine asked given
        next later => exact waits asked later
      | holding p waiter =>
        have asked : Responder.StaysOn t.stream others r (r.offer t token channel p (some waiter)).1 :=
          Responder.offer_staysOn works spared p (some waiter)
        dsimp only
        split
        next given => exact goOn works fine asked given
        next later => exact waits asked later
      | pulling =>
        obtain ⟨pulled, fine⟩ : Responder.StaysOn t.stream others r ((app.pull t.number w).run r).1 ∧
            P ((app.pull t.number w).run r).2.2 := (confined.pull w fine).run works.channels
        generalize (app.pull t.number w).run r = answer at pulled fine
        obtain ⟨r1, poll, w1⟩ := answer
        have works := works.after pulled
        have note {e : Event} (on : e.isOn t.stream) :
            Responder.StaysOn t.stream others r1 (r1.record e) ∧ t.Works may (r1.record e) := by
          have noted : Responder.StaysOn t.stream others r1 (r1.record e) := r1.record_staysOn on
          exact ⟨noted, works.after noted⟩
        refine pulled.trans ?_
        cases poll with
        | pending => exact r1.setWork_staysOn works.own _
        | panicked p =>
          obtain ⟨noted, works⟩ := note (e := .handlerPanicked p.message) trivial
          exact noted.trans (Responder.failStream_staysOn confined works fine own _)
        | ready x =>
          rcases x with _ | (e | p)
          · obtain ⟨noted, works⟩ := note (e := .ended t.number) trivial
            exact noted.trans (Responder.finishStream_staysOn confined works fine own _)
          · exact Responder.failStream_staysOn confined works fine own e
          · obtain ⟨noted, works⟩ := note (e := .pulled t.number (.ok p)) trivial
            refine noted.trans ?_
            dsimp only
            split
            · exact Responder.finishStream_staysOn confined works fine own _
            · have asked : Responder.StaysOn t.stream others (r1.record (.pulled t.number (.ok p)))
                  ((r1.record (.pulled t.number (.ok p))).offerFirst t token channel p).1 :=
                Responder.offerFirst_staysOn works spared p
              split
              next given => exact goOn works fine asked given
              next later => exact waits asked later

end turns

/-- A turn of a task stays on the stream of the task. -/
theorem Responder.Linked.turn_staysOn {P : ω → Prop} {app : Application ω} {w : ω} (h : r.Linked)
    (there : t ∈ r.tasks) (own : ∀ m, t.work.channel? = some m → may m)
    (channels : ∀ m, may m → r.MayUse t.stream m) (confined : app.Confined P t.number may) (fine : P w)
    (spared : ¬ others t.number) (budget : Nat) :
    Responder.StaysOn t.stream others r (r.turn w app t.number budget).1 := by
  have found : r.task? t.number = some t := h.task?_eq_some_iff.mpr ⟨there, rfl⟩
  have works : t.Works may r :=
    ⟨fun u hu number => congrArg Task.stream (h.eq_of_number hu there number), channels⟩
  simp only [Responder.turn, found]
  split
  next kind token request work =>
    exact Responder.turnSingle_staysOn confined works fine kind token request
  next token channel phase work =>
    rw [work] at own
    exact Responder.turnStream_staysOn confined works fine own spared budget phase

end Multiplexer
