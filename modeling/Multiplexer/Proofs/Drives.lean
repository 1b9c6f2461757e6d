import Multiplexer.Proofs.LinkedMoves

/-!
What a turn of a task consists of. The driver of a response stream goes from phase to phase until it waits
or comes to its end; a request is worked on once. In between application code runs.
-/

namespace Multiplexer

variable {ω : Type} {r r' : Responder}

theorem Demand.takeOrEnqueue_credit (d : Demand) (w : Nat) :
    ((d.takeOrEnqueue w).2 = .ready ∧ d.Takes (d.takeOrEnqueue w).1) ∨
      ((d.takeOrEnqueue w).2 = .pending ∧ (d.takeOrEnqueue w).1.credit = d.credit) := by
  unfold Demand.takeOrEnqueue Demand.take? Demand.Takes
  by_cases none : d.credit = 0
  · simp [none, Demand.enqueue]
  · by_cases full : d.credit = unbounded
    · simp [full, unbounded]
    · simp [none, full]

/-- Asks for credit, on behalf of a waiter if there is one already. -/
def Demand.ask (d : Demand) : Option Nat → Demand × Acquisition
  | some w => d.poll w
  | none => d.acquire

theorem Demand.ask_credit (d : Demand) (waiter : Option Nat) :
    if (d.ask waiter).2 = .ready then d.Takes (d.ask waiter).1
    else (d.ask waiter).1.credit = d.credit := by
  have asked (d' : Demand) (w : Nat) :
      if (d'.takeOrEnqueue w).2 = .ready then d'.Takes (d'.takeOrEnqueue w).1
      else (d'.takeOrEnqueue w).1.credit = d'.credit := by
    rcases d'.takeOrEnqueue_credit w with ⟨ready, takes⟩ | ⟨pending, same⟩
    · rw [if_pos ready]
      exact takes
    · rw [if_neg (by rw [pending]; exact Acquisition.noConfusion)]
      exact same
  cases waiter with
  | none => exact asked { d with started := d.started + 1 } d.started
  | some w =>
    dsimp only [Demand.ask, Demand.poll]
    split
    · exact asked { d with woken := d.woken.erase w } w
    · split
      · rw [if_neg Acquisition.noConfusion]
      · rw [if_neg Acquisition.noConfusion]

theorem Responder.setDemand_eq_self {n : Nat} {d : Demand}
    (h : ∀ d', r.demand? n = some d' → d' = d) : r.setDemand n d = r := by
  have same : r.controls.setDemand n d = r.controls := by
    unfold Controls.setDemand
    split
    next cancelled old hc =>
      have : old = d := h old (by simp [Responder.demand?, hc, Control.demand?])
      obtain ⟨bound, here⟩ := List.getElem?_eq_some_iff.mp hc
      rw [← this, ← here, List.set_getElem_self]
    next => rfl
  rw [Responder.setDemand, same]

theorem Responder.acquire_eq {n : Nat} {d : Demand} (h : r.demand? n = some d)
    (waiter : Option Nat) :
    r.acquire n waiter =
      (r.setDemand n (d.ask waiter).1, waiter.getD d.started, (d.ask waiter).2) := by
  cases waiter <;> simp [Responder.acquire, h, Demand.ask, Responder.setDemand]

theorem Responder.acquire_spec (r : Responder) (n : Nat) (waiter : Option Nat) :
    ∃ d', (r.acquire n waiter).1 = r.setDemand n d' ∧
      if (r.acquire n waiter).2.2 = .ready then ∃ d, r.demand? n = some d ∧ d.Takes d'
      else ∀ d, r.demand? n = some d → d'.credit = d.credit := by
  cases hd : r.demand? n with
  | none =>
    have same : r.setDemand n .new = r := Responder.setDemand_eq_self (by simp [hd])
    exact ⟨.new, by simp [Responder.acquire, hd, same], by simp [Responder.acquire, hd]⟩
  | some d =>
    have asked := d.ask_credit waiter
    rw [Responder.acquire_eq hd]
    refine ⟨_, rfl, ?_⟩
    by_cases ready : (d.ask waiter).2 = .ready
    · rw [if_pos ready] at asked ⊢
      exact ⟨d, rfl, asked⟩
    · rw [if_neg ready] at asked ⊢
      rintro _ ⟨⟩
      exact asked

theorem Responder.abandon_spec (r : Responder) (n waiter : Nat) :
    ∃ d', r.abandon n waiter = r.setDemand n d' ∧
      ∀ d, r.demand? n = some d → d'.credit = d.credit := by
  unfold Responder.abandon
  cases hd : r.demand? n with
  | none => exact ⟨.new, (Responder.setDemand_eq_self (by simp [hd])).symm, by simp⟩
  | some d =>
    refine ⟨d.drop waiter, rfl, ?_⟩
    rintro _ ⟨⟩
    exact Demand.credit_drop d waiter

/-- Notes the panic of application code, if there is one. -/
def Responder.notePanic (r : Responder) : Option String → Responder
  | none => r
  | some message => r.record (.handlerPanicked message)

/-- What application code leaves that a task runs for its result, and for letting go of it: changes to
channels, and in between a panic that is noted. -/
def Responder.Labours (panic : Option String) (r r' : Responder) : Prop :=
  ∃ r1, r.ChannelMoves r1 ∧ (r1.notePanic panic).ChannelMoves r'

/-- The error that the driver of a response stream begins with, if the call has panicked. -/
def StreamPhase.broken? : StreamPhase → Option HandlerError
  | .broken e => some e
  | .pulling | .offering _ | .holding _ _ => none

theorem StreamPhase.broken?_of_inHand {phase : StreamPhase} {p : Payload} (held : phase.inHand = some p) :
    phase.broken? = none := by
  cases phase with
  | broken e => cases held
  | _ => rfl

/-- The driver of a response stream goes on, in its phase or to the next. -/
inductive Task.Drive (t : Task) : StreamPhase × Responder → StreamPhase × Responder → Prop where
  | talk (phase : StreamPhase) {r r' : Responder} (h : r.ChannelMove r') :
    Drive t (phase, r) (phase, r')
  | pace (phase : StreamPhase) (r : Responder) (allowance : Allowance) :
    Drive t (phase, r) (phase, { r with allowance })
  | pull (r : Responder) (p : Payload) :
    Drive t (.pulling, r) (.offering p, r.record (.pulled t.number (.ok p)))
  /-- The item in hand is sent for a unit of credit. -/
  | next {phase : StreamPhase} {r : Responder} {p : Payload} {d d' : Demand}
    (held : phase.inHand = some p) (demand : r.demand? t.number = some d) (taken : d.Takes d') :
    Drive t (phase, r)
      (.pulling, (r.setDemand t.number d').send (.task t.number) (.next t.stream p))
  /-- The driver waits, or no longer waits, for credit for the item in hand. -/
  | wait {phase phase' : StreamPhase} {r : Responder} {d' : Demand}
    (held : phase'.inHand = phase.inHand) (whole : phase'.broken? = phase.broken?)
    (kept : ∀ d, r.demand? t.number = some d → d'.credit = d.credit) :
    Drive t (phase, r) (phase', r.setDemand t.number d')

abbrev Task.Drives (t : Task) : StreamPhase × Responder → StreamPhase × Responder → Prop :=
  Relation.ReflTransGen t.Drive

/-- At its end a response stream drops its channel, and its task is taken out. -/
theorem Responder.finishStream_left (r : Responder) (w : ω) (app : Application ω) (t : Task)
    (token : Nat) (channel : Option Nat) (outcome : StreamOutcome) :
    ∃ left, r.ChannelMoves left ∧ (r.finishStream w app t token channel outcome).1 =
      (left.settleStream t token outcome).removeTask t.number :=
  ⟨_, ((app.drop t.number w).run_moves r).trans (Responder.dropOwnChannel_moves _ channel), rfl⟩

/-- What a turn leaves of the phase and the state that the driver has come to: it waits, or the response
stream has come to its end. A panic counts as the error that the stream ends with. -/
inductive Task.Rests (app : Application ω) (t : Task) (token : Nat) (channel : Option Nat) :
    StreamPhase × Responder → Responder → Prop where
  | waits (phase : StreamPhase) (r : Responder) :
    Rests app t token channel (phase, r) (r.setWork t.number (.stream token channel phase))
  | ends {phase : StreamPhase} {r : Responder} {events : List Event} {outcome : StreamOutcome} (w : ω)
    (how : phase.Ends t.number (r.isCancelled t.number) events outcome) (panic : Option String)
    (blamed : ∀ message, panic = some message → outcome = .failed (.panicked message)) :
    Rests app t token channel (phase, r)
      (Responder.finishStream
        { r.notePanic panic with history := (r.notePanic panic).history ++ events } w app t token
        channel outcome).1

variable {t : Task} {token : Nat} {channel : Option Nat}

theorem Task.Rests.cancelled {phase : StreamPhase} (app : Application ω) (w : ω)
    (h : r.isCancelled t.number = true) :
    t.Rests app token channel (phase, r) (r.finishStream w app t token channel .cancelled).1 := by
  have how : phase.Ends t.number (r.isCancelled t.number) [] .cancelled := by
    rw [h]
    exact .cancelled phase
  have rests : t.Rests app token channel (phase, r)
      (Responder.finishStream { r with history := r.history ++ [] } w app t token channel
        .cancelled).1 := .ends w how none nofun
  simpa using rests

/-- What asking for credit for the item in hand comes to: the driver goes on to pull the next item, or it
waits. -/
def Task.Offered (t : Task) (token : Nat) (channel : Option Nat) (start : StreamPhase × Responder)
    (x : Responder × Bool) : Prop :=
  if x.2 then t.Drives start (.pulling, x.1)
  else ∃ phase r, t.Drives start (phase, r) ∧
    x.1 = r.setWork t.number (.stream token channel phase)

theorem Responder.offer_offered {phase : StreamPhase} {p : Payload} (r : Responder)
    (waiter : Option Nat) (held : phase.inHand = some p) :
    t.Offered token channel (phase, r) (r.offer t token channel p waiter) := by
  obtain ⟨d', eq, taken⟩ := r.acquire_spec t.number waiter
  have whole : none = phase.broken? := (StreamPhase.broken?_of_inHand held).symm
  unfold Task.Offered Responder.offer
  cases ha : (r.acquire t.number waiter).2.2 with
  | ready =>
    obtain ⟨d, hd, takes⟩ := by simpa [ha] using taken
    simp only [ha, eq, if_true]
    exact .single (.next held hd takes)
  | pending =>
    have kept := by simpa [ha] using taken
    simp only [ha, eq]
    exact ⟨.holding p _, _, .single (.wait held.symm whole kept), rfl⟩
  | gone =>
    have kept := by simpa [ha] using taken
    simp only [ha, eq]
    exact ⟨.holding p _, _, .single (.wait held.symm whole kept), rfl⟩

theorem Responder.offerFirst_offered (r : Responder) (p : Payload) :
    t.Offered token channel (.offering p, r) (r.offerFirst t token channel p) := by
  unfold Responder.offerFirst
  split
  · exact ⟨.offering p, r.putOff, .single (.pace _ r _), rfl⟩
  · exact r.offer_offered none rfl

/-- A turn of the driver of a response stream, from the phase it has come to. -/
theorem Responder.turnStream_spec (app : Application ω) (t : Task) (token : Nat)
    (channel : Option Nat) (budget : Nat) (phase : StreamPhase) (r : Responder) (w : ω) :
    ∃ y, t.Drives (phase, r) y ∧
      t.Rests app token channel y (Responder.turnStream app t token channel budget phase r w).1 := by
  -- each further item is pulled from another state, so phase and responder are generalized
  induction budget generalizing phase r w with
  | zero => exact ⟨_, .refl, .waits phase r⟩
  | succ budget ih =>
    have at_once {r' : Responder} {phase : StreamPhase} (rests : t.Rests app token channel (phase, r) r') :
        ∃ y, t.Drives (phase, r) y ∧ t.Rests app token channel y r' := ⟨_, .refl, rests⟩
    -- with credit for the item the driver pulls the next one
    have goOn {start : StreamPhase × Responder} {r' : Responder} (w : ω)
        (h : t.Offered token channel start (r', true)) :
        ∃ y, t.Drives start y ∧ t.Rests app token channel y
          (Responder.turnStream app t token channel budget .pulling r' w).1 := by
      obtain ⟨y, drives, rests⟩ := ih .pulling r' w
      exact ⟨y, Relation.ReflTransGen.trans h drives, rests⟩
    have waits {start : StreamPhase × Responder} {r' : Responder}
        (h : t.Offered token channel start (r', false)) :
        ∃ y, t.Drives start y ∧ t.Rests app token channel y r' := by
      obtain ⟨phase, r, drives, eq⟩ := h
      dsimp only at eq
      exact ⟨_, drives, eq ▸ .waits phase r⟩
    rw [Responder.turnStream.eq_def]
    dsimp only
    by_cases cancelled : r.isCancelled t.number = true
    · rw [if_pos cancelled]
      cases phase with
      | holding p waiter =>
        -- the place in the queue is given up first
        obtain ⟨d', eq, kept⟩ := r.abandon_spec t.number waiter
        dsimp only
        rw [eq]
        have still := (r.setDemand_isCancelled t.number t.number d').trans cancelled
        exact ⟨_, .single (.wait rfl rfl kept), .cancelled app w still⟩
      | broken e => exact at_once (.cancelled app w cancelled)
      | pulling => exact at_once (.cancelled app w cancelled)
      | offering p => exact at_once (.cancelled app w cancelled)
    · rw [if_neg cancelled]
      have running : r.isCancelled t.number = false := by simpa using cancelled
      cases phase with
      | broken e => exact at_once (.ends w (running ▸ .broken e) none nofun)
      | offering p =>
        have asked : t.Offered token channel _ (r.offerFirst t token channel p) :=
          r.offerFirst_offered p
        dsimp only
        split
        next given => exact goOn w (given ▸ asked)
        next later => exact waits (later ▸ asked)
      | holding p waiter =>
        have asked : t.Offered token channel (.holding p waiter, r)
            (r.offer t token channel p (some waiter)) := r.offer_offered (some waiter) rfl
        dsimp only
        split
        next given => exact goOn w (given ▸ asked)
        next later => exact waits (later ▸ asked)
      | pulling =>
        have talked := (app.pull t.number w).run_moves r
        have drives : t.Drives (.pulling, r) (.pulling, ((app.pull t.number w).run r).1) :=
          talked.lift (Prod.mk StreamPhase.pulling) fun _ _ => .talk .pulling
        have running := ((Responder.ChannelMoves.keepsTasks talked).isCancelled t.number).trans running
        generalize (app.pull t.number w).run r = answer at drives running ⊢
        obtain ⟨r1, poll, w1⟩ := answer
        dsimp only at drives running ⊢
        cases poll with
        | pending => exact ⟨_, drives, .waits .pulling r1⟩
        | panicked p =>
          refine ⟨_, drives, .ends w1 (running ▸ .failed _) (some p.message) ?_⟩
          rintro _ ⟨⟩
          rfl
        | ready x =>
          rcases x with _ | (e | p)
          · exact ⟨_, drives, .ends w1 (running ▸ .completed) none nofun⟩
          · exact ⟨_, drives, .ends w1 (running ▸ .failed e) none nofun⟩
          · have pulled := drives.tail (.pull r1 p)
            dsimp only
            split
            next given =>
              exact ⟨_, pulled, .cancelled app w1 ((Bool.and_eq_true _ _).mp given).1⟩
            next =>
              have asked : t.Offered token channel _
                  ((r1.record (.pulled t.number (.ok p))).offerFirst t token channel p) :=
                Responder.offerFirst_offered _ p
              split
              next given =>
                obtain ⟨y, on, rests⟩ := goOn w1 (given ▸ asked)
                exact ⟨y, pulled.trans on, rests⟩
              next later =>
                obtain ⟨y, on, rests⟩ := waits (later ▸ asked)
                exact ⟨y, pulled.trans on, rests⟩

/-- The world in which the application is asked about a request, which it takes on first if it has
not done so yet. -/
def Application.takeOn (app : Application ω) (kind : SingleRequest) (n : Nat)
    (request : Option Payload) (w : ω) : ω :=
  match request with
  | some p => app.start kind n p w
  | none => w

/-- The result in an answer, if there is one. A panic counts as an error. -/
def Poll.result? : Poll Item → Option Item
  | .ready x => some x
  | .panicked p => some (.error (.panicked p.message))
  | .pending => none

/-- What the application has to say when it is asked about a request. -/
def Application.answer? (app : Application ω) (kind : SingleRequest) (n : Nat)
    (request : Option Payload) (r : Responder) (w : ω) : Option Item :=
  ((app.poll n (app.takeOn kind n request w)).run r).2.1.result?

/-- How a turn of a request's task ends the task, if it does: with a result, or without one because
it has been cancelled. -/
def Responder.verdict? (r : Responder) (w : ω) (app : Application ω) (t : Task)
    (kind : SingleRequest) (request : Option Payload) : Option (Option Item) :=
  if request.isSome && r.isCancelled t.number then some none
  else match app.answer? kind t.number request r w with
    | some x => some (some x)
    | none => if r.isCancelled t.number then some none else none

theorem Responder.isCancelled_of_verdict {w : ω} {app : Application ω} {t : Task}
    {kind : SingleRequest} {request : Option Payload}
    (h : r.verdict? w app t kind request = some none) : r.isCancelled t.number = true := by
  unfold Responder.verdict? at h
  split at h
  next both => exact ((Bool.and_eq_true _ _).mp both).2
  next =>
    split at h
    · cases h
    · split at h
      · assumption
      · cases h

theorem Responder.answer_of_verdict {w : ω} {app : Application ω} {t : Task} {kind : SingleRequest}
    {request : Option Payload} {x : Item}
    (h : r.verdict? w app t kind request = some (some x)) :
    app.answer? kind t.number request r w = some x := by
  unfold Responder.verdict? at h
  split at h
  · cases h
  · split at h
    next answered =>
      cases h
      exact answered
    next =>
      split at h <;> cases h

theorem Responder.waiting_of_verdict {w : ω} {app : Application ω} {t : Task} {kind : SingleRequest}
    {request : Option Payload} (h : r.verdict? w app t kind request = none) :
    r.isCancelled t.number = false ∧ app.answer? kind t.number request r w = none := by
  unfold Responder.verdict? at h
  split at h
  · cases h
  · split at h
    · cases h
    next unanswered =>
      split at h
      · cases h
      next running => exact ⟨by simpa using running, unanswered⟩

/-- What a turn of a request's task leaves, after what the application has done on channels. -/
def Responder.concludeSingle (r : Responder) (t : Task) (kind : SingleRequest)
    (token : Option Nat) : Option (Option Item) → Responder
  | none => r.setWork t.number (.single kind token none)
  | some result => (r.settleSingle t kind token result).removeTask t.number

/-- A panic is the error that a verdict passes on. -/
def Responder.Blames (panic : Option String) (verdict : Option (Option Item)) : Prop :=
  ∀ message, panic = some message → verdict = some (some (.error (.panicked message)))

theorem Responder.pollSingle_spec (r : Responder) (w : ω) (app : Application ω) (t : Task)
    (kind : SingleRequest) (token : Option Nat) (request : Option Payload) :
    let verdict := match app.answer? kind t.number request r w with
      | some x => some (some x)
      | none => if r.isCancelled t.number then some none else none
    ∃ panic r', r.Labours panic r' ∧ Responder.Blames panic verdict ∧
      (r.pollSingle (app.takeOn kind t.number request w) app t kind token).1 =
        r'.concludeSingle t kind token verdict := by
  have talked := (app.poll t.number (app.takeOn kind t.number request w)).run_moves r
  have kept := Responder.ChannelMoves.keepsTasks talked
  have calm (verdict : Option (Option Item)) : Responder.Blames none verdict := fun _ => nofun
  unfold Responder.pollSingle Application.answer?
  generalize (app.poll t.number _).run r = answer at talked kept ⊢
  obtain ⟨r1, poll, w1⟩ := answer
  have dropped (r : Responder) := (app.drop t.number w1).run_moves r
  cases poll with
  | ready x => exact ⟨none, _, ⟨r1, talked, dropped r1⟩, calm _, rfl⟩
  | panicked p =>
    refine ⟨some p.message, _, ⟨r1, talked, dropped _⟩, ?_, rfl⟩
    rintro _ ⟨⟩
    rfl
  | pending =>
    have same := kept.isCancelled t.number
    dsimp only [Poll.result?] at same ⊢
    rw [same]
    cases hc : r.isCancelled t.number with
    | true => exact ⟨none, _, ⟨r1, talked, dropped r1⟩, calm _, rfl⟩
    | false => exact ⟨none, r1, ⟨r1, talked, .refl⟩, calm _, rfl⟩

theorem Responder.turnSingle_spec (r : Responder) (w : ω) (app : Application ω) (t : Task)
    (kind : SingleRequest) (token : Option Nat) (request : Option Payload) :
    ∃ panic r', r.Labours panic r' ∧ Responder.Blames panic (r.verdict? w app t kind request) ∧
      (r.turnSingle w app t kind token request).1 =
        r'.concludeSingle t kind token (r.verdict? w app t kind request) := by
  obtain ⟨panic, r', labours, blames, polled⟩ := r.pollSingle_spec w app t kind token request
  cases request with
  | none => exact ⟨panic, r', labours, blames, polled⟩
  | some p =>
    unfold Responder.turnSingle Responder.verdict?
    cases hc : r.isCancelled t.number with
    | true => exact ⟨none, r, ⟨r, .refl, .refl⟩, fun _ => nofun, rfl⟩
    | false =>
      rw [hc] at polled blames
      exact ⟨panic, r', labours, blames, polled⟩

end Multiplexer
