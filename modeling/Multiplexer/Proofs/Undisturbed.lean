import Multiplexer.Proofs.StepMoves

/-!
What a move leaves alone: the task and the account of every other operation, the credit of every
operation that it neither grants to nor works for, and the cancellation of every operation that it
does not cancel.
-/

namespace Multiplexer

variable {r r' r'' : Responder} {n : Nat}

/-- Nobody has worked for operation `n`. -/
structure Responder.Undisturbed (n : Nat) (r r' : Responder) : Prop where
  tasks : ∀ t : Task, t.number = n → (t ∈ r'.tasks ↔ t ∈ r.tasks)
  account : r'.account n = r.account n

theorem Responder.Undisturbed.refl (n : Nat) (r : Responder) : r.Undisturbed n r :=
  ⟨fun _ _ => Iff.rfl, rfl⟩

theorem Responder.Undisturbed.trans (h : Responder.Undisturbed n r r')
    (h' : Responder.Undisturbed n r' r'') : Responder.Undisturbed n r r'' :=
  ⟨fun t ht => (h'.tasks t ht).trans (h.tasks t ht), h'.account.trans h.account⟩

theorem Responder.Undisturbed.frames (h : Responder.Undisturbed n r r') :
    framesOf (.task n) r'.history = framesOf (.task n) r.history := by
  rw [← framesOf_accountOf, ← framesOf_accountOf n r.history]
  exact congrArg _ h.account

theorem Responder.KeepsTasks.undisturbed (h : r.KeepsTasks r') (n : Nat) :
    Responder.Undisturbed n r r' :=
  ⟨fun t _ => by rw [h.tasks], h.account n⟩

theorem Responder.mem_tasks_setWork (r : Responder) {m : Nat} (work : Work) {t : Task}
    (other : t.number ≠ m) : t ∈ (r.setWork m work).tasks ↔ t ∈ r.tasks := by
  constructor
  · intro ht
    obtain ⟨u, hu, eq⟩ := List.mem_map.mp ht
    by_cases number : u.number = m
    · rw [if_pos number] at eq
      exact absurd (eq ▸ number) other
    · rw [if_neg number] at eq
      exact eq ▸ hu
  · exact fun ht => List.mem_map.mpr ⟨t, ht, if_neg other⟩

theorem Responder.mem_tasks_removeTask (r : Responder) {m : Nat} {t : Task} :
    t ∈ (r.removeTask m).tasks ↔ t ∈ r.tasks ∧ t.number ≠ m := by
  simp [Responder.removeTask]

/-- What neither tasks nor history show leaves every operation undisturbed. -/
theorem Responder.Undisturbed.of_eq (tasks : r'.tasks = r.tasks) (history : r'.history = r.history) :
    Responder.Undisturbed n r r' :=
  ⟨fun _ _ => by rw [tasks], congrArg (accountOf n) history⟩

theorem Responder.Undisturbed.spawn {t : Task} (other : n ≠ t.number)
    (tasks : r'.tasks = r.tasks ++ [t]) (history : r'.history = r.history) :
    Responder.Undisturbed n r r' := by
  refine ⟨fun u hu => ?_, congrArg (accountOf n) history⟩
  have hne : u ≠ t := fun eq => other (by rw [← hu, eq])
  rw [tasks, List.mem_append, List.mem_singleton, or_iff_left hne]

theorem Responder.Undisturbed.setWork (h : Responder.Undisturbed n r r') {m : Nat}
    (other : n ≠ m) (work : Work) : Responder.Undisturbed n r (r'.setWork m work) :=
  ⟨fun u hu => (r'.mem_tasks_setWork work (hu ▸ other)).trans (h.tasks u hu), h.account⟩

theorem Responder.Undisturbed.removeTask (h : Responder.Undisturbed n r r') {m : Nat}
    (other : n ≠ m) : Responder.Undisturbed n r (r'.removeTask m) := by
  refine ⟨fun u hu => ?_, h.account⟩
  rw [r'.mem_tasks_removeTask, and_iff_left (hu ▸ other)]
  exact h.tasks u hu

theorem Responder.Undisturbed.tell {m : Nat} {events : List Event} (other : n ≠ m)
    (told : ∀ e ∈ events, e.ToldBy m) (tasks : r'.tasks = r.tasks)
    (history : r'.history = r.history ++ events) : Responder.Undisturbed n r r' := by
  refine ⟨fun _ _ => by rw [tasks], ?_⟩
  rw [Responder.account, history, accountOf_append, Event.ToldBy.silent told other, List.append_nil,
    Responder.account]

theorem Task.Move.undisturbed {t : Task} (move : t.Move r r') (hne : n ≠ t.number) :
    Responder.Undisturbed n r r' := by
  cases move with
  | waitSingle work => exact (Responder.Undisturbed.refl n r).setWork hne _
  | @finishSingle r1 kind token request work dropped result cancelled =>
    have kept := (Responder.AsideMoves.keepsTasks dropped).undisturbed n
    rw [Responder.settleSingle_eq]
    refine Responder.Undisturbed.removeTask ?_ hne
    exact kept.trans (.tell hne (fun _ => t.answer_told kind _ result) rfl rfl)
  | pull work p =>
    have told : Responder.Undisturbed n r (r.record (.pulled t.number (.ok p))) :=
      .tell hne (fun e he => List.mem_singleton.mp he ▸ Event.pulled_told ..) rfl rfl
    exact told.setWork hne _
  | @next token channel phase p d d' work held demand taken =>
    have told : Responder.Undisturbed n r
        ((r.setDemand t.number d').send (.task t.number) (.next t.stream p)) :=
      .tell hne (fun e he => List.mem_singleton.mp he ▸ Event.sent_told ..) rfl rfl
    exact told.setWork hne _
  | @wait token channel phase phase' d' work held kept =>
    have same : Responder.Undisturbed n r (r.setDemand t.number d') := .of_eq rfl rfl
    exact same.setWork hne _
  | @finishStream r1 token channel phase events outcome work ends dropped =>
    have told : Responder.Undisturbed n r { r with history := r.history ++ events } :=
      .tell hne (fun _ => ends.told) rfl rfl
    have kept := told.trans ((Responder.AsideMoves.keepsTasks dropped).undisturbed n)
    rw [Responder.settleStream_eq]
    refine Responder.Undisturbed.removeTask ?_ hne
    exact kept.trans (.tell hne (fun _ => t.lastWords_told _ outcome) rfl rfl)

/-- A move leaves every operation undisturbed whose task is not the one at work. -/
theorem Responder.Move.undisturbed {l : Label} (move : Responder.Move l r r')
    (known : n < r.controls.length) (other : l ≠ .task n) : Responder.Undisturbed n r r' := by
  have new : n ≠ r.controls.length := Nat.ne_of_lt known
  cases move with
  | aside step => exact step.keepsTasks.undisturbed n
  | @begin _ _ stream control work begins running plain uncancelled token _ =>
    obtain ⟨told, moves, rfl⟩ := begins.opened
    have registered : Responder.Undisturbed n r (r.register stream control).1 := .of_eq rfl rfl
    exact (registered.trans ((Responder.AsideMoves.keepsTasks moves).undisturbed n)).trans
      (.spawn new rfl rfl)
  | startPush stream p running => exact .spawn new rfl rfl
  | register stream control => exact .of_eq rfl rfl
  | cancel found =>
    unfold Responder.cancelStream
    split <;> exact .of_eq rfl rfl
  | grant found demand =>
    unfold Responder.grantStream
    split <;> exact .of_eq rfl rfl
  | drain => exact .of_eq rfl rfl
  | shut empty => exact .of_eq rfl rfl
  | dispose => exact r.disposed_keepsTasks.undisturbed n
  | disconnect => exact .of_eq rfl rfl
  | task there step => exact step.undisturbed fun eq => other (by rw [eq])

/-- Nothing is added to the account of an operation but by its own task, also before it begins. -/
theorem Responder.Move.account {l : Label} (move : Responder.Move l r r') (other : l ≠ .task n) :
    r'.account n = r.account n := by
  cases move with
  | aside step => exact step.keepsTasks.account n
  | begin begins running plain uncancelled token _ =>
    obtain ⟨told, moves, rfl⟩ := begins.opened
    exact (Responder.AsideMoves.keepsTasks moves).account n
  | startPush stream p running => rfl
  | register stream control => rfl
  | cancel found =>
    unfold Responder.cancelStream
    split <;> rfl
  | grant found demand =>
    unfold Responder.grantStream
    split <;> rfl
  | drain => rfl
  | shut empty => rfl
  | dispose => exact r.disposed_keepsTasks.account n
  | disconnect => rfl
  | task there step => exact (step.undisturbed fun eq => other (by rw [eq])).account

theorem Responder.Moves.account {allowed : Label → Prop} (moves : r.Moves allowed r')
    (idle : ¬ allowed (.task n)) : r'.account n = r.account n :=
  moves.invariant (P := fun r' => r'.account n = r.account n) rfl fun allow move so_far =>
    (move.account fun label => idle (label ▸ allow)).trans so_far

/-- What a move with label `l` does to the control `c` with number `n`. -/
structure Label.Turns (l : Label) (r : Responder) (n : Nat) (c c' : Control) : Prop where
  cancelled : c.isCancelled = true → c'.isCancelled = true
  spared : l ≠ .teardown → (∀ stream, l = .cancel stream → r.registry.outbound? stream ≠ some n) →
    c'.isCancelled = c.isCancelled
  demand : l ≠ .task n → (∀ stream, l = .grant stream → r.registry.outbound? stream ≠ some n) →
    c'.demand? = c.demand?

theorem Label.Turns.refl (l : Label) (r : Responder) (n : Nat) (c : Control) : l.Turns r n c c :=
  ⟨id, fun _ _ => rfl, fun _ _ => rfl⟩

/-- A turn of a task touches no control but the credit of its own. -/
theorem Task.Move.control {t : Task} (move : t.Move r r') {c : Control}
    (hc : r.controls[n]? = some c) :
    ∃ c', r'.controls[n]? = some c' ∧ c'.isCancelled = c.isCancelled ∧
      (n ≠ t.number → c'.demand? = c.demand?) := by
  have credited (d : Demand) :
      ∃ c', (r.setDemand t.number d).controls[n]? = some c' ∧ c'.isCancelled = c.isCancelled ∧
        (n ≠ t.number → c'.demand? = c.demand?) := by
    simp only [Responder.setDemand, Controls.getElem?_setDemand, hc]
    by_cases hn : n = t.number
    · exact ⟨c.withDemand d, by simp [hn], by simp, fun hne => absurd hn hne⟩
    · exact ⟨c, by simp [hn], rfl, fun _ => rfl⟩
  cases move with
  | waitSingle work => exact ⟨c, hc, rfl, fun _ => rfl⟩
  | finishSingle work dropped result cancelled =>
    rw [Responder.settleSingle_eq]
    exact ⟨c, (Responder.AsideMoves.keepsTasks dropped).controls ▸ hc, rfl, fun _ => rfl⟩
  | pull work p => exact ⟨c, hc, rfl, fun _ => rfl⟩
  | @next _ _ _ _ _ d' work held demand taken => exact credited d'
  | @wait _ _ _ _ d' work held kept => exact credited d'
  | finishStream work ends dropped =>
    rw [Responder.settleStream_eq]
    exact ⟨c, (Responder.AsideMoves.keepsTasks dropped).controls ▸ hc, rfl, fun _ => rfl⟩

theorem Task.Move.shutdown {t : Task} (move : t.Move r r') : r'.shutdown = r.shutdown := by
  cases move with
  | waitSingle work => rfl
  | finishSingle work dropped result cancelled =>
    rw [Responder.settleSingle_eq]
    exact (Responder.AsideMoves.keepsTasks dropped).shutdown
  | pull work p => rfl
  | next work held demand taken => rfl
  | wait work held kept => rfl
  | finishStream work ends dropped =>
    rw [Responder.settleStream_eq]
    exact (Responder.AsideMoves.keepsTasks dropped).shutdown

theorem Responder.Move.control {l : Label} (move : Responder.Move l r r') {c : Control}
    (hc : r.controls[n]? = some c) : ∃ c', r'.controls[n]? = some c' ∧ l.Turns r n c c' := by
  have old {control : Control} : (r.controls ++ [control])[n]? = some c := by
    rw [List.getElem?_append_left (List.getElem?_eq_some_iff.mp hc).1, hc]
  have same {controls : Controls} (h : controls[n]? = some c) :
      ∃ c', controls[n]? = some c' ∧ l.Turns r n c c' := ⟨c, h, .refl l r n c⟩
  cases move with
  | aside step => exact same (step.keepsTasks.controls ▸ hc)
  | begin begins running plain uncancelled token _ =>
    obtain ⟨told, moves, rfl⟩ := begins.opened
    exact same ((Responder.AsideMoves.keepsTasks moves).controls ▸ old)
  | startPush stream p running => exact same old
  | register stream control => exact same old
  | @cancel _ stream m found =>
    have eq : (r.cancelStream stream).1.controls = (r.controls.cancel m).1 := by
      simp [Responder.cancelStream, Registry.removeOutbound, found]
    rw [eq, Controls.cancel, Controls.getElem?_act, hc]
    by_cases hn : n = m
    · refine ⟨c.cancel.1, by simp [hn], Control.isCancelled_cancel_of, fun _ h => ?_, by simp⟩
      exact absurd (hn ▸ found) (h stream rfl)
    · exact ⟨c, by simp [hn], .refl _ r n c⟩
  | @grant _ stream m found demand =>
    have eq : (r.grantStream stream demand).1.controls =
        (r.controls.request m (creditOfDemand demand)).1 := by
      simp [Responder.grantStream, found]
    rw [eq, Controls.request, Controls.getElem?_act, hc]
    by_cases hn : n = m
    · refine ⟨(c.request (creditOfDemand demand)).1, by simp [hn], by simp, fun _ _ => by simp,
        fun _ h => ?_⟩
      exact absurd (hn ▸ found) (h stream rfl)
    · exact ⟨c, by simp [hn], .refl _ r n c⟩
  | drain =>
    obtain ⟨c', hc', _, demand, reached, _⟩ :=
      Controls.getElem?_cancelEach (r.registry.outbound.map Entry.handle) hc
    exact ⟨c', hc', fun h => reached (.inl h), fun h => absurd rfl h, fun _ _ => demand⟩
  | shut empty => exact same hc
  | dispose => exact same hc
  | disconnect => exact same hc
  | task there step =>
    obtain ⟨c', hc', cancelled, demand⟩ := step.control hc
    refine ⟨c', hc', fun h => cancelled.trans h, fun _ _ => cancelled, fun idle _ => demand ?_⟩
    exact fun eq => idle (by rw [eq])

theorem Responder.Move.length_le {l : Label} (move : Responder.Move l r r') :
    r.controls.length ≤ r'.controls.length := by
  by_contra h
  have bound : r'.controls.length < r.controls.length := by omega
  obtain ⟨c', hc', _⟩ := move.control (List.getElem?_eq_getElem bound)
  have := (List.getElem?_eq_some_iff.mp hc').1
  omega

theorem Responder.Moves.length_le {allowed : Label → Prop} (moves : r.Moves allowed r') :
    r.controls.length ≤ r'.controls.length := by
  induction moves with
  | refl => exact Nat.le_refl _
  | tail _ step ih =>
    obtain ⟨l, _, move⟩ := step
    exact Nat.le_trans ih move.length_le

/-- What every move keeps of an operation that has begun is kept by any number of moves. -/
theorem Responder.Moves.keep {allowed : Label → Prop} {P : Responder → Prop}
    (moves : r.Moves allowed r') (h : r.Linked) (known : n < r.controls.length) (start : P r)
    (step : ∀ {l r r'}, allowed l → Responder.Move l r r' → r.Linked → n < r.controls.length →
      P r → P r') : P r' := by
  have kept : r'.Linked ∧ n < r'.controls.length ∧ P r' := by
    induction moves with
    | refl => exact ⟨h, known, start⟩
    | tail _ last ih =>
      obtain ⟨l, allow, move⟩ := last
      obtain ⟨h, known, holds⟩ := ih
      exact ⟨move.linked h, Nat.lt_of_lt_of_le known move.length_le, step allow move h known holds⟩
  exact kept.2.2

theorem Responder.Moves.undisturbed {allowed : Label → Prop} (moves : r.Moves allowed r')
    (h : r.Linked) (known : n < r.controls.length) (idle : ¬ allowed (.task n)) :
    Responder.Undisturbed n r r' := by
  refine moves.keep h known (.refl n r) fun allow move _ known so_far => ?_
  exact so_far.trans (move.undisturbed known fun label => idle (label ▸ allow))

/-- Only the end of a connection makes all work stop. -/
theorem Responder.Move.shutdown {l : Label} (move : Responder.Move l r r') :
    (r.shutdown = true → r'.shutdown = true) ∧ (l ≠ .teardown → r'.shutdown = r.shutdown) := by
  have same {b : Bool} (h : b = r.shutdown) :
      (r.shutdown = true → b = true) ∧ (l ≠ .teardown → b = r.shutdown) :=
    ⟨fun hs => h.trans hs, fun _ => h⟩
  cases move with
  | aside step => exact same step.keepsTasks.shutdown
  | begin begins running plain uncancelled token _ =>
    obtain ⟨told, moves, rfl⟩ := begins.opened
    exact same (Responder.AsideMoves.keepsTasks moves).shutdown
  | startPush stream p running => exact same rfl
  | register stream control => exact same rfl
  | cancel found =>
    unfold Responder.cancelStream
    split <;> exact same rfl
  | grant found demand =>
    unfold Responder.grantStream
    split <;> exact same rfl
  | drain => exact same rfl
  | shut empty => exact ⟨fun _ => rfl, fun h => absurd rfl h⟩
  | dispose => exact same rfl
  | disconnect => exact same rfl
  | task there step => exact same step.shutdown

theorem Responder.Move.isCancelled {l : Label} (move : Responder.Move l r r')
    (h : r.isCancelled n = true) : r'.isCancelled n = true := by
  unfold Responder.isCancelled at h ⊢
  rcases (Bool.or_eq_true _ _).mp h with hs | hc
  · rw [move.shutdown.1 hs, Bool.true_or]
  · cases hn : r.controls[n]? with
    | none => simp [hn] at hc
    | some c =>
      obtain ⟨c', hc', turns⟩ := move.control hn
      have cancelled := turns.cancelled (by simpa [hn] using hc)
      simp [hc', cancelled]

/-- A move cancels no operation but the one that it is to cancel. -/
theorem Responder.Move.isCancelled_eq {l : Label} (move : Responder.Move l r r')
    (known : n < r.controls.length) (running : l ≠ .teardown)
    (other : ∀ stream, l = .cancel stream → r.registry.outbound? stream ≠ some n) :
    r'.isCancelled n = r.isCancelled n := by
  obtain ⟨c', hc', turns⟩ := move.control (List.getElem?_eq_getElem known)
  have spared := turns.spared running other
  simp [Responder.isCancelled, move.shutdown.2 running, hc', spared, known]

/-- A move changes no credit but that which it grants or takes. -/
theorem Responder.Move.demand?_eq {l : Label} (move : Responder.Move l r r')
    (known : n < r.controls.length) (idle : l ≠ .task n)
    (other : ∀ stream, l = .grant stream → r.registry.outbound? stream ≠ some n) :
    r'.demand? n = r.demand? n := by
  obtain ⟨c', hc', turns⟩ := move.control (List.getElem?_eq_getElem known)
  have demand := turns.demand idle other
  simp [Responder.demand?, hc', demand, known]

end Multiplexer
