import Multiplexer.Proofs.Linked

/-!
Settling: what the end of a task takes out of the registry and what it says. The entry that a
task takes out is its own, and it is there just when the task has not been cancelled.
-/

namespace Multiplexer

variable {r r' : Responder}

/-- What a request-response operation says of its result. -/
def answerEvents (n : Nat) (stream : StreamId) : Item → List Event
  | .ok p => [.sent (.task n) (.nextComplete stream p)]
  | .error e =>
    [.sent (.task n) (.error stream e.code e.message), .reported (.handler stream e)]

/-- What the end of a request's task says. -/
def Task.answer (t : Task) (kind : SingleRequest) (released : Bool) (result : Option Item) :
    List Event :=
  match kind, result with
  | .requestResponse, some x => if released then answerEvents t.number t.stream x else []
  | .fireAndForget, some (.error e) | .metadataPush, some (.error e) =>
    [.reported (.handler t.stream e)]
  | .fireAndForget, some (.ok _) | .metadataPush, some (.ok _) | _, none => []

/-- The failure is the peer's own, which the inbound half of a channel answers. -/
def HandlerError.isRemote : HandlerError → Bool
  | .remote .. => true
  | .application _ | .rejected _ | .canceled _ | .invalid _ | .unsupported _ | .panicked _ => false

/-- What the driver of a response stream says at its end while the entry is its own. -/
def Task.lastWords (t : Task) : StreamOutcome → List Event
  | .completed => [.sent (.task t.number) (.complete t.stream)]
  | .failed e =>
    if e.isRemote then [.reported (.handler t.stream e)]
    else [.sent (.task t.number) (.error t.stream e.code e.message),
      .reported (.handler t.stream e)]
  | .cancelled => []

/-- Task `n` may tell the event: it is its own work, or a report. -/
structure Event.ToldBy (n : Nat) (e : Event) : Prop where
  task : e.task? = some n ∨ e.task? = none
  channel : e.channel? = none

theorem Event.sent_told (n : Nat) (f : Frame) : (Event.sent (.task n) f).ToldBy n := ⟨.inl rfl, rfl⟩

theorem Event.pulled_told (n : Nat) (x : Item) : (Event.pulled n x).ToldBy n := ⟨.inl rfl, rfl⟩

theorem Event.reported_told (n : Nat) (e : Failure) : (Event.reported e).ToldBy n :=
  ⟨.inr rfl, rfl⟩

theorem Event.ToldBy.silent_on {n : Nat} {e : Event} (told : e.ToldBy n) (m : Nat) :
    e.channel? ≠ some m := by
  rw [told.channel]
  simp

/-- What a task tells is no part of the account of another. -/
theorem Event.ToldBy.silent {n m : Nat} {events : List Event} (told : ∀ e ∈ events, e.ToldBy n)
    (other : m ≠ n) : accountOf m events = [] := by
  refine accountOf_eq_nil fun e he => ?_
  rcases (told e he).task with own | nobody
  · rw [own]
    exact fun eq => other (Option.some.inj eq).symm
  · rw [nobody]
    simp

/-- What a task may say at its end, unless it answers a request. -/
inductive Task.LastWord (t : Task) : Event → Prop where
  | completion : LastWord t (.sent (.task t.number) (.complete t.stream))
  | failure (e : HandlerError) :
    LastWord t (.sent (.task t.number) (.error t.stream e.code e.message))
  | report (e : HandlerError) : LastWord t (.reported (.handler t.stream e))

theorem Task.LastWord.told {t : Task} {e : Event} (last : t.LastWord e) : e.ToldBy t.number := by
  cases last with
  | completion => exact Event.sent_told ..
  | failure d => exact Event.sent_told ..
  | report d => exact Event.reported_told ..

/-- The end of a request's task says its result. -/
theorem Task.mem_answer {t : Task} {kind : SingleRequest} {released : Bool} {result : Option Item}
    {e : Event} (he : e ∈ t.answer kind released result) :
    (∃ p, result = some (.ok p) ∧ e = .sent (.task t.number) (.nextComplete t.stream p)) ∨
      t.LastWord e := by
  have report (d : HandlerError) (he : e ∈ [Event.reported (.handler t.stream d)]) : t.LastWord e := by
    obtain rfl := List.mem_singleton.mp he
    exact .report d
  unfold Task.answer at he
  split at he
  next x =>
    split at he
    · cases x with
      | ok p => exact .inl ⟨p, rfl, List.mem_singleton.mp he⟩
      | error d =>
        rcases List.mem_pair.mp he with rfl | rfl
        · exact .inr (.failure d)
        · exact .inr (.report d)
    · exact absurd he List.not_mem_nil
  · exact .inr (report _ he)
  · exact .inr (report _ he)
  all_goals exact absurd he List.not_mem_nil

theorem Task.mem_lastWords {t : Task} {outcome : StreamOutcome} {e : Event}
    (he : e ∈ t.lastWords outcome) : t.LastWord e := by
  cases outcome with
  | completed =>
    obtain rfl := List.mem_singleton.mp he
    exact .completion
  | failed d =>
    dsimp only [Task.lastWords] at he
    split at he
    · obtain rfl := List.mem_singleton.mp he
      exact .report d
    · rcases List.mem_pair.mp he with rfl | rfl
      · exact .failure d
      · exact .report d
  | cancelled => exact absurd he List.not_mem_nil

theorem Task.answer_told (t : Task) (kind : SingleRequest) (released : Bool) (result : Option Item)
    {e : Event} (he : e ∈ t.answer kind released result) : e.ToldBy t.number := by
  obtain ⟨p, _, rfl⟩ | last := Task.mem_answer he
  · exact Event.sent_told ..
  · exact last.told

theorem Task.lastWords_told (t : Task) (released : Bool) (outcome : StreamOutcome) {e : Event}
    (he : e ∈ if released then t.lastWords outcome else []) : e.ToldBy t.number := by
  cases released with
  | false => exact absurd he List.not_mem_nil
  | true => exact (Task.mem_lastWords he).told

theorem StreamPhase.Ends.told {n : Nat} {phase : StreamPhase} {cancelled : Bool}
    {events : List Event} {outcome : StreamOutcome} (ends : phase.Ends n cancelled events outcome)
    {e : Event} (he : e ∈ events) : e.ToldBy n := by
  cases ends with
  | cancelled => exact absurd he List.not_mem_nil
  | broken d =>
    obtain rfl := List.mem_singleton.mp he
    exact Event.pulled_told ..
  | failed d =>
    obtain rfl := List.mem_singleton.mp he
    exact Event.pulled_told ..
  | completed =>
    obtain rfl := List.mem_singleton.mp he
    exact ⟨.inl rfl, rfl⟩

/-- The registry after a task has given up its entry, if it has one, and whether it was there. -/
def Task.release (t : Task) (token : Option Nat) (registry : Registry Nat Nat) :
    Registry Nat Nat × Bool :=
  match token with
  | some token => registry.releaseOutbound t.stream token
  | none => (registry, false)

/-- The parts of a responder that the end of a request's task touches. -/
theorem Responder.settleSingle_eq (r : Responder) (t : Task) (kind : SingleRequest)
    (token : Option Nat) (result : Option Item) :
    r.settleSingle t kind token result =
      { r with
        registry := (t.release token r.registry).1
        metrics := (r.settleSingle t kind token result).metrics
        history := r.history ++ t.answer kind (t.release token r.registry).2 result } := by
  have unregistered : t.release none r.registry = (r.registry, false) := rfl
  have registered (token : Nat) :
      t.release (some token) r.registry = r.registry.releaseOutbound t.stream token := rfl
  rcases result with _ | (e | p)
  · cases token <;> cases kind <;>
      simp [Responder.settleSingle, Responder.release, Task.answer, unregistered, registered]
  · cases token with
    | none =>
      cases kind <;>
        simp [Responder.settleSingle, Task.answer, unregistered, Responder.report, Responder.record]
    | some token =>
      cases kind <;> cases hr : (r.registry.releaseOutbound t.stream token).2 <;>
        simp [Responder.settleSingle, Responder.release, registered, hr, Task.answer, answerEvents,
          Responder.failTask, Responder.report, Responder.send, Responder.record]
  · cases token with
    | none => cases kind <;> simp [Responder.settleSingle, Task.answer, unregistered]
    | some token =>
      cases kind <;> cases hr : (r.registry.releaseOutbound t.stream token).2 <;>
        simp [Responder.settleSingle, Responder.release, registered, hr, Task.answer, answerEvents,
          Responder.send, Responder.record]

theorem Responder.settleStream_eq (r : Responder) (t : Task) (token : Nat)
    (outcome : StreamOutcome) :
    r.settleStream t token outcome =
      { r with
        registry := (t.release (some token) r.registry).1
        metrics := (r.settleStream t token outcome).metrics
        history := r.history ++
          if (t.release (some token) r.registry).2 then t.lastWords outcome else [] } := by
  cases hr : (r.registry.releaseOutbound t.stream token).2 with
  | false => simp [Responder.settleStream, Responder.release, Task.release, hr]
  | true =>
    cases outcome with
    | completed =>
      simp [Responder.settleStream, Responder.release, Task.release, hr, Task.lastWords,
        Responder.send, Responder.record]
    | cancelled =>
      simp [Responder.settleStream, Responder.release, Task.release, hr, Task.lastWords]
    | failed e =>
      cases e <;>
        simp [Responder.settleStream, Responder.release, Task.release, hr, Task.lastWords,
          HandlerError.isRemote, Responder.failTask, Responder.report, Responder.send,
          Responder.record]

theorem Task.release_issued (t : Task) (token : Option Nat) (registry : Registry Nat Nat) :
    (t.release token registry).1.issued = registry.issued := by
  cases token with
  | none => rfl
  | some token =>
    simp only [Task.release, Registry.releaseOutbound]
    split <;> rfl

theorem Responder.Linked.holds_iff (h : r.Linked) {t : Task} {token : Nat} (there : t ∈ r.tasks)
    (htoken : t.work.token? = some token) :
    r.registry.outbound.holds t.stream token = true ↔ r.isCancelled t.number = false := by
  rw [h.live t there token htoken, Entries.holds_iff h.streams]
  constructor
  · rintro ⟨e, he, _, rfl⟩
    rw [← (h.own t there e he (.inl htoken)).2]
    exact he
  · exact fun he => ⟨_, he, rfl, rfl⟩

/-- A task takes out its entry just when it has not been cancelled. -/
theorem Responder.Linked.release_eq (h : r.Linked) {t : Task} {token : Nat} (there : t ∈ r.tasks)
    (htoken : t.work.token? = some token) :
    t.release (some token) r.registry =
      if r.isCancelled t.number then (r.registry, false)
      else ({ r.registry with
        outbound := r.registry.outbound.erase t.stream, active := r.registry.active - 1 }, true) := by
  have own := h.holds_iff there htoken
  simp only [Task.release, Registry.releaseOutbound]
  cases hc : r.isCancelled t.number with
  | true =>
    rw [if_neg (by rw [own, hc]; exact Bool.noConfusion), if_pos rfl]
  | false =>
    rw [if_pos (own.mpr hc), if_neg Bool.noConfusion]

theorem Responder.Linked.retire (h : r.Linked) {t : Task} (there : t ∈ r.tasks)
    (outbound : r'.registry.outbound = (t.release t.work.token? r.registry).1.outbound)
    (issued : r.registry.issued ≤ r'.registry.issued) (controls : r'.controls = r.controls)
    (shutdown : r'.shutdown = r.shutdown)
    (tasks : r'.tasks = r.tasks.filter (fun u => u.number ≠ t.number))
    (fresh : ∀ n, r.controls.length ≤ n → r'.account n = r.account n) : r'.Linked := by
  have cancelled (n : Nat) : r'.isCancelled n = r.isCancelled n := by
    simp only [Responder.isCancelled, shutdown, controls]
  -- only a task that has not been cancelled takes an entry out, and that entry is its own
  have erased : r'.registry.outbound = r.registry.outbound ∨
      ⟨t.stream, t.work.token?.getD 0, t.number⟩ ∈ r.registry.outbound ∧
        r'.registry.outbound = r.registry.outbound.erase t.stream := by
    cases htoken : t.work.token? with
    | none => exact .inl (by rw [outbound, htoken]; rfl)
    | some token =>
      rw [outbound, htoken, h.release_eq there htoken]
      cases hc : r.isCancelled t.number with
      | true => exact .inl rfl
      | false => exact .inr ⟨(h.live t there token htoken).mp hc, rfl⟩
  refine h.shrink ?_ issued (by rw [controls])
    (fun _ c hc plain => ⟨c, controls ▸ hc, plain⟩) ?_ ?_ fresh
  · rcases erased with eq | ⟨_, eq⟩
    · rw [eq]
    · rw [eq]
      exact List.filter_sublist
  · rw [tasks]
    exact List.filter_sublist.map _
  · intro u hu u' hu' eq token htoken
    have other : u.number ≠ t.number := by
      rw [tasks] at hu'
      rw [← (Prod.mk.inj eq).1]
      simpa using (List.mem_filter.mp hu').2
    rw [cancelled, h.live u hu token htoken]
    rcases erased with eq | ⟨own, eq⟩
    · rw [eq]
    · rw [eq, Entries.mem_erase]
      refine ⟨fun he => ⟨he, fun same => other ?_⟩, And.left⟩
      exact congrArg Entry.handle (Entries.eq_of_stream h.streams he own same)

end Multiplexer
