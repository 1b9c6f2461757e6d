import Multiplexer.Proofs.Ownership
import Multiplexer.Proofs.Panics

/-!
Turns in which code of the application panics, and turns that find out about a call that has panicked: the
operation fails with the panic and is gone. Nothing else is touched.
-/

namespace Multiplexer

variable {ω : Type} {message : String} {r r' r'' : Responder} {t : Task}

/-- Task `t` works: no operation begins or ends, and all that the task says are items. -/
structure Responder.Toils (t : Task) (r r' : Responder) : Prop where
  outbound : r'.registry.outbound = r.registry.outbound
  tasks : r'.tasks = r.tasks
  controls : ∀ m : Nat, m ≠ t.number → r'.controls[m]? = r.controls[m]?
  attends : r.Attends r'
  told : ∃ events, r'.history = r.history ++ events ∧
    ∀ e ∈ events, e.isWord = true → ∃ p, e = .sent (.task t.number) (.next t.stream p)

theorem Responder.Toils.note {events : List Event} (registry : r'.registry = r.registry)
    (tasks : r'.tasks = r.tasks) (channels : r'.channels = r.channels)
    (controls : ∀ m : Nat, m ≠ t.number → r'.controls[m]? = r.controls[m]?)
    (history : r'.history = r.history ++ events)
    (items : ∀ e ∈ events, e.isWord = true → ∃ p, e = .sent (.task t.number) (.next t.stream p)) :
    Responder.Toils t r r' :=
  ⟨by rw [registry], tasks, controls,
    .of_eq (by rw [registry]) (Nat.le_of_eq (by rw [registry])) channels, events, history, items⟩

theorem Responder.Toils.refl (t : Task) (r : Responder) : Responder.Toils t r r :=
  .note rfl rfl rfl (fun _ _ => rfl) (List.append_nil _).symm fun _ there => absurd there List.not_mem_nil

theorem Responder.Toils.trans (h : Responder.Toils t r r') (h' : Responder.Toils t r' r'') :
    Responder.Toils t r r'' := by
  obtain ⟨es, history, items⟩ := h.told
  obtain ⟨es', history', items'⟩ := h'.told
  refine ⟨h'.outbound.trans h.outbound, h'.tasks.trans h.tasks, ?_, h.attends.trans h'.attends, es ++ es',
    by rw [history', history, List.append_assoc], fun e there => ?_⟩
  · exact fun m other => (h'.controls m other).trans (h.controls m other)
  · exact (List.mem_append.mp there).elim (items e) (items' e)

theorem Responder.ChannelMoves.toils (moves : r.ChannelMoves r') (t : Task) : Responder.Toils t r r' := by
  have kept := Responder.ChannelMoves.keepsTasks moves
  obtain ⟨events, history, quiet⟩ := Responder.ChannelMoves.quiet moves
  refine ⟨kept.outbound, kept.tasks, fun m _ => by rw [kept.controls],
    Responder.ChannelMoves.attends moves, events, history, fun e there word => ?_⟩
  rw [quiet e there] at word
  cases word

theorem Responder.Toils.tell {events : List Event} (quiet : ∀ e ∈ events, e.isWord = false) :
    Responder.Toils t r { r with history := r.history ++ events } := by
  refine .note rfl rfl rfl (fun _ _ => rfl) rfl fun e there word => ?_
  rw [quiet e there] at word
  cases word

theorem Responder.notePanic_toils (r : Responder) (panic : Option String) :
    Responder.Toils t r (r.notePanic panic) := by
  cases panic with
  | none => exact .refl t r
  | some message => exact .tell (by simp [Event.isWord])

theorem Responder.Labours.toils {panic : Option String} (h : r.Labours panic r') (t : Task) :
    Responder.Toils t r r' := by
  obtain ⟨r1, talked, dropped⟩ := h
  exact ((Responder.ChannelMoves.toils talked t).trans (r1.notePanic_toils panic)).trans
    (Responder.ChannelMoves.toils dropped t)

theorem Responder.Labours.notes {panic : Option String} (h : r.Labours panic r') :
    Responder.Notes panic.toList r r' := by
  obtain ⟨r1, talked, dropped⟩ := h
  have noted := ((Responder.ChannelMoves.notes talked).trans (r1.notePanic_notes panic)).trans
    (Responder.ChannelMoves.notes dropped)
  simpa using noted

theorem Responder.setDemand_other (r : Responder) {n m : Nat} (d : Demand) (other : m ≠ n) :
    (r.setDemand n d).controls[m]? = r.controls[m]? := by
  rw [Responder.setDemand, Controls.getElem?_setDemand, if_neg other]

theorem Task.Drive.toils {x y : StreamPhase × Responder} (h : t.Drive x y) :
    Responder.Toils t x.2 y.2 ∧ Responder.Notes [] x.2 y.2 := by
  cases h with
  | talk phase move =>
    exact ⟨Responder.ChannelMoves.toils (.single move) t, move.notes⟩
  | pace phase r allowance =>
    refine ⟨?_, .of_eq rfl rfl rfl⟩
    exact .note rfl rfl rfl (fun _ _ => rfl) (List.append_nil _).symm
      fun _ there => absurd there List.not_mem_nil
  | pull r p => exact ⟨.tell (by simp [Event.isWord]), r.record_notes rfl⟩
  | @next phase r p d d' held demand taken =>
    have credited : Responder.Notes [] r (r.setDemand t.number d') := .of_eq rfl rfl rfl
    refine ⟨?_, credited.trans ((r.setDemand t.number d').send_notes (.task t.number) _)⟩
    exact .note rfl rfl rfl (fun m other => r.setDemand_other d' other) rfl
      fun e there _ => ⟨p, List.mem_singleton.mp there⟩
  | @wait phase phase' r d' held whole kept =>
    refine ⟨?_, .of_eq rfl rfl rfl⟩
    exact .note rfl rfl rfl (fun m other => r.setDemand_other d' other) (List.append_nil _).symm
      fun _ there => absurd there List.not_mem_nil

theorem Task.Drives.toils {x y : StreamPhase × Responder} (h : t.Drives x y) :
    Responder.Toils t x.2 y.2 ∧ Responder.Notes [] x.2 y.2 := by
  induction h with
  | refl => exact ⟨.refl t _, .refl _⟩
  | tail _ step ih => exact ⟨ih.1.trans step.toils.1, ih.2.trans step.toils.2⟩

/-- The operation that goes by the number is registered. -/
def Responder.registers (r : Responder) (n : Nat) : Bool :=
  r.registry.outbound.any fun e => e.handle = n

/-- What a task says of a panic: it is reported, and the peer is told if it is owed a response and has not
given it up. -/
def Task.panicWords (t : Task) (registered : Bool) (message : String) : List Event :=
  let e := HandlerError.panicked message
  match t.work with
  | .single .fireAndForget _ _ | .single .metadataPush _ _ => [.reported (.handler t.stream e)]
  | .single .requestResponse _ _ | .stream .. =>
    if registered then
      [.sent (.task t.number) (.error t.stream e.code e.message), .reported (.handler t.stream e)]
    else []

theorem Task.answer_panicked {kind : SingleRequest} {token : Option Nat} {request : Option Payload}
    (work : t.work = .single kind token request) (registered : Bool) (message : String) :
    t.answer kind registered (some (.error (.panicked message))) = t.panicWords registered message := by
  unfold Task.panicWords
  rw [work]
  cases kind <;> rfl

theorem Task.lastWords_panicked {token : Nat} {channel : Option Nat} {phase : StreamPhase}
    (work : t.work = .stream token channel phase) (registered : Bool) (message : String) :
    (if registered then t.lastWords (.failed (.panicked message)) else []) =
      t.panicWords registered message := by
  unfold Task.panicWords
  rw [work]
  rfl

/-- Task `t` fails with a panic: that is the last thing it says, and it is gone. Of all other operations
nothing is touched. -/
structure Responder.Perishes (t : Task) (message : String) (r r' : Responder) : Prop where
  words : ∃ early, r'.history = r.history ++ early ++ t.panicWords (r.registers t.number) message ∧
    ∀ e ∈ early, e.isWord = true → ∃ p, e = .sent (.task t.number) (.next t.stream p)
  tasks : r'.tasks = r.tasks.filter fun u => u.number ≠ t.number
  outbound : ∀ e, e ∈ r'.registry.outbound ↔ e ∈ r.registry.outbound ∧ e.handle ≠ t.number
  controls : ∀ m : Nat, m ≠ t.number → r'.controls[m]? = r.controls[m]?

theorem Task.release_congr (t : Task) (token : Option Nat) {g g' : Registry Nat Nat}
    (same : g'.outbound = g.outbound) :
    (t.release token g').1.outbound = (t.release token g).1.outbound ∧
      (t.release token g').2 = (t.release token g).2 := by
  cases token with
  | none => exact ⟨same, rfl⟩
  | some token =>
    simp only [Task.release, Registry.releaseOutbound, same]
    split
    · exact ⟨rfl, rfl⟩
    · exact ⟨same, rfl⟩

theorem Responder.Linked.mem_release (h : r.Linked) (there : t ∈ r.tasks) (e : Entry Nat) :
    e ∈ (t.release t.work.token? r.registry).1.outbound ↔
      e ∈ r.registry.outbound ∧ e.handle ≠ t.number := by
  refine ⟨h.released there, ?_⟩
  rintro ⟨he, other⟩
  cases held : t.work.token? with
  | none => exact he
  | some token =>
    rw [h.release_eq there held]
    cases cancelled : r.isCancelled t.number with
    | true => exact he
    | false =>
      rw [if_neg Bool.false_ne_true]
      refine Entries.mem_erase.mpr ⟨he, fun same => other ?_⟩
      have own := (h.live t there token held).mp cancelled
      exact congrArg Entry.handle (Entries.eq_of_stream h.streams he own same)

theorem Responder.Linked.release_registered (h : r.Linked) (there : t ∈ r.tasks) :
    (t.release t.work.token? r.registry).2 = r.registers t.number := by
  have none_there (absent : ∀ e ∈ r.registry.outbound, e.handle ≠ t.number) :
      r.registers t.number = false := by simpa [Responder.registers] using absent
  cases held : t.work.token? with
  | none =>
    refine (none_there fun e he same => ?_).symm
    have own := (h.own t there e he (.inr same)).1
    rw [held] at own
    cases own
  | some token =>
    rw [h.release_eq there held]
    cases cancelled : r.isCancelled t.number with
    | true =>
      refine (none_there fun e he same => ?_).symm
      obtain ⟨same_token, eq⟩ := h.own t there e he (.inr same)
      rw [eq] at he
      have live := (h.live t there e.token same_token).mpr he
      exact Bool.false_ne_true (live.symm.trans cancelled)
    | false =>
      have entry := (h.live t there token held).mp cancelled
      symm
      show r.registers t.number = true
      exact List.any_eq_true.mpr ⟨_, entry, by simp⟩

theorem Responder.Toils.perishes {left : Responder} (toils : Responder.Toils t r left)
    (linked : r.Linked) (there : t ∈ r.tasks)
    (registry : r'.registry = (t.release t.work.token? left.registry).1)
    (channels : r'.channels = left.channels) (controls : r'.controls = left.controls)
    (tasks : r'.tasks = left.tasks.filter fun u => u.number ≠ t.number)
    (history : r'.history = left.history ++
      t.panicWords (t.release t.work.token? left.registry).2 message) :
    Responder.Perishes t message r r' ∧ r.Attends r' := by
  obtain ⟨early, told, items⟩ := toils.told
  obtain ⟨outbound, released⟩ := t.release_congr t.work.token? toils.outbound
  have inbound : r'.registry.inbound = left.registry.inbound := by
    rw [registry, Task.release_inbound]
  have issued : r'.registry.issued = left.registry.issued := by
    rw [registry, Task.release_issued]
  have settled : left.Attends r' := .of_eq inbound (Nat.le_of_eq issued.symm) channels
  refine ⟨⟨⟨early, ?_, items⟩, by rw [tasks, toils.tasks], fun e => ?_, fun m other => ?_⟩,
    toils.attends.trans settled⟩
  · rw [history, told, released, linked.release_registered there]
  · rw [registry, outbound]
    exact linked.mem_release there e
  · rw [controls]
    exact toils.controls m other

theorem Task.answer_calm (t : Task) (kind : SingleRequest) (released : Bool) (result : Option Item) :
    panicsOf (t.answer kind released result) = [] := by
  rcases result with _ | (e | p) <;> cases kind <;> cases released <;> rfl

theorem Task.lastWords_calm (t : Task) (released : Bool) (outcome : StreamOutcome) :
    panicsOf (if released then t.lastWords outcome else []) = [] := by
  cases released with
  | false => rfl
  | true =>
    cases outcome with
    | failed e => cases e <;> rfl
    | completed => rfl
    | cancelled => rfl

theorem StreamPhase.Ends.calm {n : Nat} {phase : StreamPhase} {cancelled : Bool} {events : List Event}
    {outcome : StreamOutcome} (ends : phase.Ends n cancelled events outcome) :
    panicsOf events = [] ∧ ∀ e ∈ events, e.isWord = false := by
  cases ends <;> exact ⟨rfl, by simp [Event.isWord]⟩

/-- Between two states no panic is noted but that with which task `t` fails. -/
def Responder.AtMostPerishes (t : Task) (r r' : Responder) : Prop :=
  ∃ panic : Option String, Responder.Notes panic.toList r r' ∧
    ∀ message, panic = some message → Responder.Perishes t message r r' ∧ r.Attends r'

theorem Responder.concludeSingle_notes (r : Responder) (t : Task) (kind : SingleRequest)
    (token : Option Nat) (verdict : Option (Option Item)) :
    Responder.Notes [] r (r.concludeSingle t kind token verdict) := by
  cases verdict with
  | none => exact .of_eq rfl rfl rfl
  | some result =>
    rw [Responder.concludeSingle, Responder.settleSingle_eq]
    exact ⟨rfl, rfl, _, rfl, t.answer_calm kind _ result⟩

theorem Responder.Linked.turnSingle_panics (h : r.Linked) (there : t ∈ r.tasks) (w : ω)
    (app : Application ω) {kind : SingleRequest} {token : Option Nat} {request : Option Payload}
    (work : t.work = .single kind token request) :
    Responder.AtMostPerishes t r (r.turnSingle w app t kind token request).1 := by
  obtain ⟨panic, left, labours, blames, eq⟩ := r.turnSingle_spec w app t kind token request
  have noted : Responder.Notes panic.toList r left := Responder.Labours.notes labours
  rw [eq]
  refine ⟨panic, ?_, ?_⟩
  · simpa using noted.trans (left.concludeSingle_notes t kind token _)
  · rintro message rfl
    have held : t.work.token? = token := by rw [work]; rfl
    rw [blames message rfl, Responder.concludeSingle, Responder.settleSingle_eq]
    refine (Responder.Labours.toils labours t).perishes h there ?_ rfl rfl rfl ?_
    · rw [held]
      rfl
    · rw [held, ← Task.answer_panicked work]
      rfl

theorem Responder.settleStream_notes (r : Responder) (t : Task) (token : Nat)
    (outcome : StreamOutcome) :
    Responder.Notes [] r ((r.settleStream t token outcome).removeTask t.number) := by
  rw [Responder.settleStream_eq]
  exact ⟨rfl, rfl, _, rfl, t.lastWords_calm _ outcome⟩

section streams

variable {token : Nat} {channel : Option Nat} {phase : StreamPhase}

theorem Responder.Toils.perishes_stream {left : Responder} (toils : Responder.Toils t r left)
    (linked : r.Linked) (there : t ∈ r.tasks) (work : t.work = .stream token channel phase) :
    let r' := (left.settleStream t token (.failed (.panicked message))).removeTask t.number
    Responder.Perishes t message r r' ∧ r.Attends r' := by
  dsimp only
  have held : t.work.token? = some token := by rw [work]; rfl
  rw [Responder.settleStream_eq]
  refine toils.perishes linked there ?_ rfl rfl rfl ?_
  · rw [held]
    rfl
  · rw [held, ← Task.lastWords_panicked work]
    rfl

theorem Task.Rests.panics {app : Application ω} {y : StreamPhase × Responder}
    (rests : t.Rests app token channel y r') (toils : Responder.Toils t r y.2)
    (calm : Responder.Notes [] r y.2) (linked : r.Linked) (there : t ∈ r.tasks)
    (work : t.work = .stream token channel phase) : Responder.AtMostPerishes t r r' := by
  cases rests with
  | waits phase' r1 => exact ⟨none, calm.trans (.of_eq rfl rfl rfl), nofun⟩
  | @ends phase' r1 events outcome w how panic blamed =>
    obtain ⟨silent, quiet⟩ := how.calm
    have noted := calm.trans (r1.notePanic_notes panic)
    have told : Responder.Notes [] (r1.notePanic panic)
        { r1.notePanic panic with history := (r1.notePanic panic).history ++ events } :=
      ⟨rfl, rfl, events, rfl, silent⟩
    obtain ⟨left, moves, eq⟩ := Responder.finishStream_left
      { r1.notePanic panic with history := (r1.notePanic panic).history ++ events } w app t token
      channel outcome
    have left_noted := (noted.trans told).trans (Responder.ChannelMoves.notes moves)
    rw [eq]
    refine ⟨panic, ?_, ?_⟩
    · simpa using left_noted.trans (left.settleStream_notes t token outcome)
    · intro message hm
      obtain rfl := blamed message hm
      have worked := (toils.trans (r1.notePanic_toils panic)).trans
        ((Responder.Toils.tell quiet).trans (Responder.ChannelMoves.toils moves t))
      exact worked.perishes_stream linked there work

theorem Responder.Linked.turnStream_panics (h : r.Linked) (there : t ∈ r.tasks) (w : ω)
    (app : Application ω) (budget : Nat) (work : t.work = .stream token channel phase) :
    Responder.AtMostPerishes t r (Responder.turnStream app t token channel budget phase r w).1 := by
  obtain ⟨y, drives, rests⟩ := Responder.turnStream_spec app t token channel budget phase r w
  obtain ⟨toils, calm⟩ := Task.Drives.toils drives
  exact rests.panics toils calm h there work

/-- A turn finds out about a call that has panicked. -/
theorem Responder.Linked.turnStream_broken (h : r.Linked) (there : t ∈ r.tasks) (w : ω)
    (app : Application ω) {budget : Nat} (some_budget : budget ≠ 0)
    (work : t.work = .stream token channel (.broken (.panicked message))) :
    let r' := (Responder.turnStream app t token channel budget (.broken (.panicked message)) r w).1
    Responder.Perishes t message r r' ∧ r.Attends r' := by
  obtain ⟨budget, rfl⟩ := Nat.exists_eq_succ_of_ne_zero some_budget
  have held : t.work.token? = some token := by rw [work]; rfl
  rw [Responder.turnStream.eq_def]
  dsimp only
  by_cases cancelled : r.isCancelled t.number = true
  · rw [if_pos cancelled]
    obtain ⟨left, moves, eq⟩ := r.finishStream_left w app t token channel .cancelled
    have toils := Responder.ChannelMoves.toils moves t
    -- the entry of an operation that has been cancelled is gone
    have unreleased : (t.release (some token) left.registry).2 = false := by
      rw [(t.release_congr (some token) toils.outbound).2, h.release_eq there held, if_pos cancelled]
    rw [eq, Responder.settleStream_eq]
    refine toils.perishes h there ?_ rfl rfl rfl ?_
    · rw [held]
      rfl
    · rw [held, unreleased, ← Task.lastWords_panicked work]
      rfl
  · rw [if_neg cancelled]
    obtain ⟨left, moves, eq⟩ := Responder.finishStream_left
      (r.record (.pulled t.number (.error (.panicked message)))) w app t token channel
      (.failed (.panicked message))
    have told : Responder.Toils t r (r.record (.pulled t.number (.error (.panicked message)))) :=
      .tell (by simp [Event.isWord])
    rw [Responder.failStream, eq]
    exact (told.trans (Responder.ChannelMoves.toils moves t)).perishes_stream h there work

theorem Responder.Linked.turn_broken (h : r.Linked) (there : t ∈ r.tasks) (w : ω)
    (app : Application ω) {budget : Nat} (some_budget : budget ≠ 0)
    (work : t.work = .stream token channel (.broken (.panicked message))) :
    let r' := (r.turn w app t.number budget).1
    Responder.Perishes t message r r' ∧ r.Attends r' := by
  have found : r.task? t.number = some t := h.task?_eq_some_iff.mpr ⟨there, rfl⟩
  simp only [Responder.turn, found, work]
  exact h.turnStream_broken there w app some_budget work

end streams

/-- In a turn no panic is noted but that with which the task fails whose turn it is. -/
theorem Responder.Linked.turn_panics (h : r.Linked) (w : ω) (app : Application ω) (n budget : Nat) :
    Responder.Notes [] r (r.turn w app n budget).1 ∨
      ∃ t ∈ r.tasks, t.number = n ∧ Responder.AtMostPerishes t r (r.turn w app n budget).1 := by
  unfold Responder.turn
  cases found : r.task? n with
  | none => exact .inl (.refl r)
  | some t =>
    obtain ⟨there, number⟩ := h.task?_eq_some_iff.mp found
    refine .inr ⟨t, there, number, ?_⟩
    dsimp only
    split
    next kind token request work => exact h.turnSingle_panics there w app work
    next token channel phase work => exact h.turnStream_panics there w app budget work

end Multiplexer
