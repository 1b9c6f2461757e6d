import Multiplexer.Proofs.Acceptance
import Multiplexer.Proofs.CalmTwins

/-!
Response streams and the application: what a history tells that a response stream has produced is what the
application has answered when it was asked for the next item, and nothing is left out.
-/

namespace Multiplexer

variable {ω : Type} {r r' : Responder} {n : Nat}

/-- The application, which notes what it answers when a response stream is asked for its next item. -/
def Application.noting (app : Application ω) : Application (ω × List (Poll (Option Item))) where
  start kind n p w := (app.start kind n p w.1, w.2)
  poll n w := (app.poll n w.1).map fun x => (x.1, x.2, w.2)
  openStream n p w := (app.openStream n p w.1).map fun x => (x.1, x.2, w.2)
  openChannel n stream m w := (app.openChannel n stream m w.1).map fun x => (x.1, x.2, w.2)
  pull n w := (app.pull n w.1).map fun x => (x.1, x.2, w.2 ++ [x.1])
  drop n w := (app.drop n w.1).map fun x => (x, w.2)
  dispose w := (app.dispose w.1).map fun x => (x.1, x.2, w.2)

/-- What an answer for the response stream of task `n` is told as. A panic counts as an error. -/
def Poll.event? (n : Nat) : Poll (Option Item) → Option Event
  | .ready (some x) => some (.pulled n x)
  | .ready none => some (.ended n)
  | .panicked p => some (.pulled n (.error (.panicked p.message)))
  | .pending => none

/-- The event is an item or the end of a response stream. -/
def Event.isProduct : Event → Bool
  | .pulled .. | .ended _ => true
  | .sent .. | .reported _ | .handlerPanicked _ | .disposed | .disposePanicked _ | .yielded .. => false

/-- What the response stream of task `n` has produced. -/
def Responder.produced (r : Responder) (n : Nat) : List Event :=
  (r.account n).filter Event.isProduct

theorem Responder.produced_record (r : Responder) (e : Event) (n : Nat) :
    (r.record e).produced n = r.produced n ++ (accountOf n [e]).filter Event.isProduct := by
  rw [Responder.produced, Responder.account_record, List.filter_append, Responder.produced]

theorem Responder.produced_pulled (r : Responder) (n : Nat) (x : Item) :
    (r.record (.pulled n x)).produced n = r.produced n ++ [.pulled n x] := by
  simp [Responder.produced_record, accountOf, Event.task?, Event.isProduct]

theorem Responder.produced_ended (r : Responder) (n : Nat) :
    (r.record (.ended n)).produced n = r.produced n ++ [.ended n] := by
  simp [Responder.produced_record, accountOf, Event.task?, Event.isProduct]

theorem Responder.produced_handlerPanicked (r : Responder) (message : String) (n : Nat) :
    (r.record (.handlerPanicked message)).produced n = r.produced n := by
  simp [Responder.produced_record, accountOf, Event.task?]

theorem Responder.produced_send (r : Responder) (speaker : Speaker) (f : Frame) (n : Nat) :
    (r.send speaker f).produced n = r.produced n := by
  rw [Responder.send, Responder.produced_record, accountOf]
  by_cases own : (Event.sent speaker f).task? = some n <;> simp [own, Event.isProduct]

theorem Responder.ChannelMoves.produced (moves : r.ChannelMoves r') (n : Nat) :
    r'.produced n = r.produced n :=
  congrArg (List.filter Event.isProduct) ((Responder.ChannelMoves.keepsTasks moves).account n)

theorem Task.lastWords_unproduced (t : Task) (released : Bool) (outcome : StreamOutcome) (n : Nat) :
    (accountOf n (if released then t.lastWords outcome else [])).filter Event.isProduct = [] := by
  refine List.filter_eq_nil_iff.mpr fun e there => ?_
  cases released with
  | false => exact absurd there List.not_mem_nil
  | true => cases Task.mem_lastWords (List.mem_filter.mp there).1 <;> exact Bool.false_ne_true

/-- The end of a response stream produces nothing itself. -/
theorem Responder.finishStream_produced (r : Responder) (w : ω) (app : Application ω) (t : Task)
    (token : Nat) (channel : Option Nat) (outcome : StreamOutcome) (n : Nat) :
    (r.finishStream w app t token channel outcome).1.produced n = r.produced n := by
  obtain ⟨left, moves, eq⟩ := r.finishStream_left w app t token channel outcome
  rw [eq, Responder.settleStream_eq, ← Responder.ChannelMoves.produced moves n]
  show (accountOf n (left.history ++ _)).filter Event.isProduct = _
  rw [accountOf_append, List.filter_append, t.lastWords_unproduced _ outcome n, List.append_nil]
  rfl

theorem Responder.offer_produced (r : Responder) (t : Task) (token : Nat) (channel : Option Nat)
    (p : Payload) (waiter : Option Nat) (n : Nat) :
    (r.offer t token channel p waiter).1.produced n = r.produced n := by
  obtain ⟨d, eq, _⟩ := r.acquire_spec t.number waiter
  unfold Responder.offer
  dsimp only
  rw [eq]
  split
  · exact (r.setDemand t.number d).produced_send _ _ n
  · rfl
  · rfl

theorem Responder.offerFirst_produced (r : Responder) (t : Task) (token : Nat) (channel : Option Nat)
    (p : Payload) (n : Nat) : (r.offerFirst t token channel p).1.produced n = r.produced n := by
  unfold Responder.offerFirst
  split
  · rfl
  · exact r.offer_produced t token channel p none n

theorem Responder.abandon_produced (r : Responder) (m waiter n : Nat) :
    (r.abandon m waiter).produced n = r.produced n := by
  obtain ⟨d, eq, _⟩ := r.abandon_spec m waiter
  rw [eq]
  rfl

/-- On the way from `r` to `s` the application that notes its answers does the same as the application, and
what the response stream of task `n` produces is what has been answered. -/
def Responder.Heeds (n : Nat) (r : Responder) (notes : List (Poll (Option Item))) (s : Responder × ω)
    (s' : Responder × ω × List (Poll (Option Item))) : Prop :=
  ∃ answers, s' = (s.1, s.2, notes ++ answers) ∧
    s.1.produced n = r.produced n ++ answers.filterMap (Poll.event? n)

section turns

variable {notes : List (Poll (Option Item))} {s : Responder × ω}
  {s' : Responder × ω × List (Poll (Option Item))}

theorem Responder.Heeds.unasked (same : s.1.produced n = r.produced n) (eq : s' = (s.1, s.2, notes)) :
    Responder.Heeds n r notes s s' :=
  ⟨[], by rw [eq, List.append_nil], by rw [same, List.filterMap_nil, List.append_nil]⟩

/-- What follows an answer comes after it. -/
theorem Responder.Heeds.answer {r1 : Responder} (x : Poll (Option Item))
    (told : r1.produced n = r.produced n ++ (x.event? n).toList)
    (h : Responder.Heeds n r1 (notes ++ [x]) s s') : Responder.Heeds n r notes s s' := by
  obtain ⟨answers, eq, produced⟩ := h
  refine ⟨x :: answers, by rw [eq, List.append_assoc, List.singleton_append], ?_⟩
  rw [produced, told, List.append_assoc, List.filterMap_cons]
  cases x.event? n <;> rfl

theorem Responder.Heeds.of_produced {r1 : Responder} (same : r1.produced n = r.produced n)
    (h : Responder.Heeds n r1 notes s s') : Responder.Heeds n r notes s s' := by
  obtain ⟨answers, eq, produced⟩ := h
  exact ⟨answers, eq, by rw [produced, same]⟩

variable (app : Application ω) (w : ω) (t : Task) (token : Nat) (channel : Option Nat)

theorem Application.pull_noting (n : Nat) (r : Responder) :
    (app.noting.pull n (w, notes)).run r =
      (((app.pull n w).run r).1, ((app.pull n w).run r).2.1, ((app.pull n w).run r).2.2,
        notes ++ [((app.pull n w).run r).2.1]) := by
  simp only [Application.noting, Dialogue.run_map]

theorem Responder.finishStream_noting (r : Responder) (outcome : StreamOutcome) :
    r.finishStream (w, notes) app.noting t token channel outcome =
      ((r.finishStream w app t token channel outcome).1,
        (r.finishStream w app t token channel outcome).2, notes) := by
  simp only [Responder.finishStream, Application.noting, Dialogue.run_map]

theorem Responder.finishStream_heeds (r : Responder) (outcome : StreamOutcome) (n : Nat) :
    Responder.Heeds n r notes (r.finishStream w app t token channel outcome)
      (r.finishStream (w, notes) app.noting t token channel outcome) :=
  .unasked (r.finishStream_produced w app t token channel outcome n)
    (r.finishStream_noting app w t token channel outcome)

/-- In a turn of a response stream whose call has not panicked, the items and the end that it produces are
the answers of the application, one for one. -/
theorem Responder.turnStream_heeds (budget : Nat) (phase : StreamPhase) (r : Responder) (w : ω)
    (notes : List (Poll (Option Item))) (whole : phase.broken? = none) :
    Responder.Heeds t.number r notes (Responder.turnStream app t token channel budget phase r w)
      (Responder.turnStream app.noting t token channel budget phase r (w, notes)) := by
  induction budget generalizing phase r w notes with
  | zero => exact .unasked rfl rfl
  | succ budget ih =>
    rw [Responder.turnStream.eq_def, Responder.turnStream.eq_def app.noting]
    dsimp only
    by_cases cancelled : r.isCancelled t.number = true
    · rw [if_pos cancelled, if_pos cancelled]
      cases phase with
      | broken e => cases whole
      | holding p waiter =>
        exact (Responder.finishStream_heeds app w t token channel _ .cancelled t.number).of_produced
          (r.abandon_produced t.number waiter t.number)
      | pulling => exact r.finishStream_heeds app w t token channel .cancelled t.number
      | offering p => exact r.finishStream_heeds app w t token channel .cancelled t.number
    · rw [if_neg cancelled, if_neg cancelled]
      cases phase with
      | broken e => cases whole
      | offering p =>
        have same := r.offerFirst_produced t token channel p t.number
        dsimp only
        generalize r.offerFirst t token channel p = offered at same ⊢
        obtain ⟨r1, _ | _⟩ := offered
        · exact .unasked same rfl
        · exact (ih .pulling r1 w notes rfl).of_produced same
      | holding p waiter =>
        have same := r.offer_produced t token channel p (some waiter) t.number
        dsimp only
        generalize r.offer t token channel p (some waiter) = offered at same ⊢
        obtain ⟨r1, _ | _⟩ := offered
        · exact .unasked same rfl
        · exact (ih .pulling r1 w notes rfl).of_produced same
      | pulling =>
        have same := Responder.ChannelMoves.produced ((app.pull t.number w).run_moves r) t.number
        dsimp only
        rw [Application.pull_noting]
        generalize (app.pull t.number w).run r = answer at same ⊢
        obtain ⟨r1, poll, w1⟩ := answer
        dsimp only at same ⊢
        -- what is told of the answer comes first, then what it leads to
        refine Responder.Heeds.of_produced same ?_
        cases poll with
        | pending => exact .answer .pending (List.append_nil _).symm (.unasked rfl rfl)
        | panicked p =>
          have noted := r1.produced_handlerPanicked p.message t.number
          refine .answer (.panicked p) ?_ (Responder.finishStream_heeds app w1 t token channel _ _ t.number)
          rw [Responder.produced_pulled, noted]
          rfl
        | ready x =>
          rcases x with _ | (e | p)
          · exact .answer (.ready none) (r1.produced_ended t.number)
              (Responder.finishStream_heeds app w1 t token channel _ _ t.number)
          · exact .answer (.ready (some (.error e))) (r1.produced_pulled t.number (.error e))
              (Responder.finishStream_heeds app w1 t token channel _ _ t.number)
          · refine .answer (.ready (some (.ok p))) (r1.produced_pulled t.number (.ok p)) ?_
            dsimp only
            split
            · exact Responder.finishStream_heeds app w1 t token channel _ _ t.number
            · have same := (r1.record (.pulled t.number (.ok p))).offerFirst_produced t token channel p
                t.number
              generalize (r1.record (.pulled t.number (.ok p))).offerFirst t token channel p = offered
                at same ⊢
              obtain ⟨r2, _ | _⟩ := offered
              · exact .unasked same rfl
              · exact (ih .pulling r2 w1 _ rfl).of_produced same

end turns

/-- What the application answers in an action when the response stream of task `n` is asked for its next
item. -/
def Responder.answeredIn (app : Application ω) (n : Nat) (s : Responder × ω) :
    Action ω → List (Poll (Option Item))
  | .turn m budget =>
    if m = n then (s.1.beginTurn.turn (s.2, []) app.noting n budget).2.2 else []
  | _ => []

/-- What the application answers in the course of a run when the response stream of task `n` is asked for
its next item. -/
def Responder.answered (settings : Settings) (app : Application ω) (n : Nat) :
    List (Action ω) → Responder × ω → List (Poll (Option Item))
  | [], _ => []
  | a :: as, s => Responder.answeredIn app n s a ++
    Responder.answered settings app n as (Responder.step settings app a s)

/-- Task `n`, if it is still there, is a response stream that has this panic of its call to tell, or none. -/
def Responder.Streams (n : Nat) (broken : Option HandlerError) (r : Responder) : Prop :=
  ∀ t ∈ r.tasks, t.number = n →
    ∃ token channel phase, t.work = .stream token channel phase ∧ phase.broken? = broken

theorem StreamPhase.eq_broken {phase : StreamPhase} {e : HandlerError} (h : phase.broken? = some e) :
    phase = .broken e := by
  cases phase with
  | broken d => exact congrArg StreamPhase.broken (Option.some.inj h)
  | _ => cases h

section runs

variable {broken : Option HandlerError} {e : HandlerError} {s : Responder × ω}

theorem Responder.Undisturbed.streams (undisturbed : Responder.Undisturbed n r r')
    (streams : Responder.Streams n broken r) : Responder.Streams n broken r' :=
  fun t there number => streams t ((undisturbed.tasks t number).mp there) number

theorem Responder.Undisturbed.produced (undisturbed : Responder.Undisturbed n r r') :
    r'.produced n = r.produced n :=
  congrArg (List.filter Event.isProduct) undisturbed.account

/-- A turn leaves a response stream a response stream, whose call has panicked or not, or ends it. -/
theorem Responder.turnStream_streams (app : Application ω) (t : Task) (token : Nat) (channel : Option Nat)
    (budget : Nat) (phase : StreamPhase) (r : Responder) (w : ω) :
    Responder.Streams t.number phase.broken?
      (Responder.turnStream app t token channel budget phase r w).1 := by
  obtain ⟨y, drives, rests⟩ := Responder.turnStream_spec app t token channel budget phase r w
  obtain ⟨whole, _⟩ := Task.Drives.keeps drives
  generalize (Responder.turnStream app t token channel budget phase r w).1 = r' at rests ⊢
  intro u there number
  cases rests with
  | waits phase' r1 =>
    obtain ⟨v, _, rfl⟩ := List.mem_map.mp there
    by_cases own : v.number = t.number
    · rw [if_pos own]
      exact ⟨_, _, _, rfl, whole⟩
    · rw [if_neg own] at number
      exact absurd number own
  | ends w how panic blamed =>
    rw [Responder.finishStream_tasks] at there
    exact absurd number (by simpa using (List.mem_filter.mp there).2)

theorem Responder.Streams.driven (streams : Responder.Streams n broken r) :
    r.task? n = none ∨ ∃ t token channel phase, r.task? n = some t ∧ t.number = n ∧
      t.work = .stream token channel phase ∧ phase.broken? = broken := by
  cases found : r.task? n with
  | none => exact .inl rfl
  | some t =>
    have number : t.number = n := by simpa using List.find?_some found
    obtain ⟨token, channel, phase, rest⟩ := streams t (List.mem_of_find?_eq_some found) number
    exact .inr ⟨t, token, channel, phase, rfl, number, rest⟩

theorem Responder.turn_of_gone (gone : r.task? n = none) (w : ω) (app : Application ω) (budget : Nat) :
    r.turn w app n budget = (r, w) := by
  rw [Responder.turn, gone]

theorem Responder.turn_of_stream {t : Task} {token : Nat} {channel : Option Nat} {phase : StreamPhase}
    (found : r.task? n = some t) (work : t.work = .stream token channel phase) (w : ω)
    (app : Application ω) (budget : Nat) :
    r.turn w app n budget = Responder.turnStream app t token channel budget phase r w := by
  simp only [Responder.turn, found, work]

theorem Responder.Streams.turn (streams : Responder.Streams n broken r) (w : ω) (app : Application ω)
    (budget : Nat) : Responder.Streams n broken (r.turn w app n budget).1 := by
  obtain gone | ⟨t, token, channel, phase, found, rfl, work, rfl⟩ := streams.driven
  · rw [Responder.turn_of_gone gone]
    exact streams
  · rw [Responder.turn_of_stream found work]
    exact Responder.turnStream_streams app t token channel budget phase r w

/-- A turn of a response stream whose call has not panicked. -/
theorem Responder.Streams.turn_heeds (streams : Responder.Streams n none r) (w : ω)
    (app : Application ω) (budget : Nat) (notes : List (Poll (Option Item))) :
    Responder.Heeds n r notes (r.turn w app n budget) (r.turn (w, notes) app.noting n budget) := by
  obtain gone | ⟨t, token, channel, phase, found, rfl, work, whole⟩ := streams.driven
  · rw [Responder.turn_of_gone gone, Responder.turn_of_gone gone]
    exact .unasked rfl rfl
  · rw [Responder.turn_of_stream found work, Responder.turn_of_stream found work]
    exact Responder.turnStream_heeds app t token channel budget phase r w notes whole

/-- A response stream whose call has panicked is asked for nothing. It fails with the panic, unless it has
been cancelled. -/
theorem Responder.Streams.turn_broken (streams : Responder.Streams n (some e) r) (w : ω)
    (app : Application ω) (budget : Nat) (notes : List (Poll (Option Item))) :
    (r.turn (w, notes) app.noting n budget).2.2 = notes ∧
      ((r.turn w app n budget).1.produced n = r.produced n ∨
        (r.turn w app n budget).1.produced n = r.produced n ++ [.pulled n (.error e)] ∧
          ∀ t ∈ (r.turn w app n budget).1.tasks, t.number ≠ n) := by
  obtain gone | ⟨t, token, channel, phase, found, rfl, work, whole⟩ := streams.driven
  · rw [Responder.turn_of_gone gone, Responder.turn_of_gone gone]
    exact ⟨rfl, .inl rfl⟩
  · obtain rfl := StreamPhase.eq_broken whole
    rw [Responder.turn_of_stream found work, Responder.turn_of_stream found work]
    cases budget with
    | zero => exact ⟨rfl, .inl rfl⟩
    | succ budget =>
      rw [Responder.turnStream.eq_def, Responder.turnStream.eq_def app]
      dsimp only
      split
      · rw [Responder.finishStream_noting]
        exact ⟨rfl, .inl (r.finishStream_produced w app t token channel .cancelled t.number)⟩
      · unfold Responder.failStream
        rw [Responder.finishStream_noting, Responder.finishStream_produced, Responder.produced_pulled,
          Responder.finishStream_tasks]
        exact ⟨rfl, .inr ⟨rfl, fun u there => by simpa using (List.mem_filter.mp there).2⟩⟩

variable (settings : Settings) (app : Application ω) (a : Action ω)

/-- An action that is no turn of a response stream asks it for nothing. -/
theorem Responder.Linked.step_apart (h : s.1.Linked) (known : n < s.1.controls.length)
    (other : ∀ budget, a ≠ .turn n budget) :
    Responder.answeredIn app n s a = [] ∧
      Responder.Undisturbed n s.1 (Responder.step settings app a s).1 := by
  have idle : ¬ a.permits (.task n) := fun ⟨budget, eq⟩ => other budget eq
  refine ⟨?_, (h.step_moves settings app a).undisturbed h known idle⟩
  unfold Responder.answeredIn
  split
  next m budget => exact if_neg fun eq => other budget (by rw [eq])
  next => rfl

theorem Responder.Streams.step (streams : Responder.Streams n broken s.1) (h : s.1.Linked)
    (known : n < s.1.controls.length) :
    Responder.Streams n broken (Responder.step settings app a s).1 := by
  by_cases turn : ∃ budget, a = .turn n budget
  · obtain ⟨budget, rfl⟩ := turn
    exact Responder.Streams.turn (r := s.1.beginTurn) streams s.2 app budget
  · exact (h.step_apart settings app a known fun budget eq => turn ⟨budget, eq⟩).2.streams streams

/-- What a response stream produces in an action is what the application answers for it. -/
theorem Responder.Streams.step_produced (streams : Responder.Streams n none s.1) (h : s.1.Linked)
    (known : n < s.1.controls.length) :
    (Responder.step settings app a s).1.produced n =
      s.1.produced n ++ (Responder.answeredIn app n s a).filterMap (Poll.event? n) := by
  by_cases turn : ∃ budget, a = .turn n budget
  · obtain ⟨budget, rfl⟩ := turn
    obtain ⟨answers, eq, produced⟩ :=
      Responder.Streams.turn_heeds (r := s.1.beginTurn) streams s.2 app budget []
    have answered : Responder.answeredIn app n s (.turn n budget) = answers := by
      rw [Responder.answeredIn, if_pos rfl, eq, List.nil_append]
    rw [answered]
    exact produced
  · obtain ⟨nothing, undisturbed⟩ :=
      h.step_apart settings app a known fun budget eq => turn ⟨budget, eq⟩
    rw [nothing, undisturbed.produced, List.filterMap_nil, List.append_nil]

/-- A response stream whose call has panicked produces the panic at most, and nothing after it. -/
theorem Responder.Streams.step_broken (streams : Responder.Streams n (some e) s.1) (h : s.1.Linked)
    (known : n < s.1.controls.length) :
    Responder.answeredIn app n s a = [] ∧
      ((Responder.step settings app a s).1.produced n = s.1.produced n ∨
        (Responder.step settings app a s).1.produced n = s.1.produced n ++ [.pulled n (.error e)] ∧
          ∀ t ∈ (Responder.step settings app a s).1.tasks, t.number ≠ n) := by
  by_cases turn : ∃ budget, a = .turn n budget
  · obtain ⟨budget, rfl⟩ := turn
    obtain ⟨nothing, produced⟩ :=
      Responder.Streams.turn_broken (r := s.1.beginTurn) streams s.2 app budget []
    exact ⟨(if_pos rfl).trans nothing, produced⟩
  · obtain ⟨nothing, undisturbed⟩ :=
      h.step_apart settings app a known fun budget eq => turn ⟨budget, eq⟩
    exact ⟨nothing, .inl undisturbed.produced⟩

variable (as : List (Action ω))

/-- What a response stream produces in a run is what the application answers for it. -/
theorem Responder.Streams.run_produced (streams : Responder.Streams n none s.1) (h : s.1.Linked)
    (known : n < s.1.controls.length) :
    (Responder.run settings app as s).1.produced n =
      s.1.produced n ++ (Responder.answered settings app n as s).filterMap (Poll.event? n) := by
  induction as generalizing s with
  | nil => exact (List.append_nil _).symm
  | cons a as ih =>
    have moves := h.step_moves settings app a
    have later := ih (streams.step settings app a h known) (moves.linked h)
      (Nat.lt_of_lt_of_le known moves.length_le)
    rw [Responder.answered, List.filterMap_append, ← List.append_assoc,
      ← streams.step_produced settings app a h known]
    exact later

theorem Responder.Streams.run_unasked (streams : Responder.Streams n (some e) s.1) (h : s.1.Linked)
    (known : n < s.1.controls.length) : Responder.answered settings app n as s = [] := by
  induction as generalizing s with
  | nil => rfl
  | cons a as ih =>
    have moves := h.step_moves settings app a
    have later := ih (streams.step settings app a h known) (moves.linked h)
      (Nat.lt_of_lt_of_le known moves.length_le)
    rw [Responder.answered, (streams.step_broken settings app a h known).1, later]
    rfl

theorem Responder.Streams.run_broken (streams : Responder.Streams n (some e) s.1) (h : s.1.Linked)
    (known : n < s.1.controls.length) :
    ∃ products, (Responder.run settings app as s).1.produced n = s.1.produced n ++ products ∧
      products <+: [.pulled n (.error e)] := by
  induction as generalizing s with
  | nil => exact ⟨[], (List.append_nil _).symm, List.nil_prefix⟩
  | cons a as ih =>
    have moves := h.step_moves settings app a
    have linked := moves.linked h
    have known' := Nat.lt_of_lt_of_le known moves.length_le
    have streams' := streams.step settings app a h known
    obtain ⟨_, same | ⟨failed, gone⟩⟩ := streams.step_broken settings app a h known
    · obtain ⟨products, later, few⟩ := ih streams' linked known'
      exact ⟨products, later.trans (by rw [same]), few⟩
    · -- the stream is gone, and what is gone is asked for nothing and produces what it is asked for
      have vacuous : Responder.Streams n none (Responder.step settings app a s).1 :=
        fun t there number => absurd number (gone t there)
      have later := vacuous.run_produced settings app as linked known'
      rw [streams'.run_unasked settings app as linked known', failed, List.filterMap_nil,
        List.append_nil] at later
      exact ⟨_, later, List.prefix_refl _⟩

/-- A response stream from its acceptance on: its items, the error that it fails with and its end are the
answers of the application, in order and without exception. It is asked for nothing if the call that was to
open it has panicked, and produces at most the error of the panic. -/
theorem Responder.stream_answers (w : ω) (before after : List (Action ω)) (f : Frame)
    (kind : f.kind = .requestStream ∨ f.kind = .requestChannel)
    (accepted : Responder.Accepts settings app
      (Responder.run settings app before (Responder.start, w)) f) :
    let s := Responder.run settings app before (Responder.start, w)
    let n := s.1.controls.length
    let s' := Responder.step settings app (.receive (.item (.ok f))) s
    let r := (Responder.run settings app after s').1
    ∃ token channel phase, ⟨n, f.stream, .stream token channel phase⟩ ∈ s'.1.tasks ∧
      (phase = .pulling ∧ r.produced n =
          (Responder.answered settings app n after s').filterMap (Poll.event? n) ∨
        ∃ e, phase = .broken e ∧ Responder.answered settings app n after s' = [] ∧
          r.produced n <+: [.pulled n (.error e)]) := by
  intro s n s' r
  have linked := Responder.linked_start.run settings app before (s := (Responder.start, w))
  obtain ⟨token, channel, phase, empty, _, begun⟩ := Responder.accepted_stream linked kind accepted
  have known : n < s'.1.controls.length := begun.linked.task_lt begun.there
  have nothing : s'.1.produced n = [] := by rw [Responder.produced, begun.account, List.filter_nil]
  have streams : Responder.Streams n phase.broken? s'.1 := by
    intro t there number
    cases begun.linked.eq_of_number there begun.there number
    exact ⟨token, channel, phase, rfl, rfl⟩
  refine ⟨token, channel, phase, begun.there, ?_⟩
  cases phase with
  | pulling =>
    have produced := streams.run_produced settings app after begun.linked known
    rw [nothing, List.nil_append] at produced
    exact .inl ⟨rfl, produced⟩
  | broken e =>
    obtain ⟨products, produced, few⟩ := streams.run_broken settings app after begun.linked known
    rw [nothing, List.nil_append] at produced
    refine .inr ⟨e, rfl, streams.run_unasked settings app after begun.linked known, ?_⟩
    exact produced ▸ few
  | offering p => cases empty
  | holding p waiter => cases empty

end runs

end Multiplexer
