import Multiplexer.Proofs.Drives

/-!
Turns of tasks as chains of moves. While the driver of a response stream is at work its phase is not
yet recorded with the task, so each chain begins where the phase has been recorded.
-/

namespace Multiplexer

variable {ω : Type} {allowed : Label → Prop} {r r' : Responder}

theorem Responder.mem_setWork {t : Task} (there : t ∈ r.tasks) (work : Work) :
    { t with work } ∈ (r.setWork t.number work).tasks :=
  List.mem_map.mpr ⟨t, there, by simp⟩

@[simp]
theorem Responder.setWork_setWork (r : Responder) (n : Nat) (a b : Work) :
    (r.setWork n a).setWork n b = r.setWork n b := by
  simp only [Responder.setWork, List.map_map]
  congr 1
  refine List.map_congr_left fun u _ => ?_
  by_cases h : u.number = n <;> simp [h]

@[simp]
theorem Responder.removeTask_setWork (r : Responder) (n : Nat) (work : Work) :
    (r.setWork n work).removeTask n = r.removeTask n := by
  simp only [Responder.setWork, Responder.removeTask, List.filter_map]
  congr 1
  have same : ((fun t => decide (t.number ≠ n)) ∘ fun t : Task =>
      if t.number = n then { t with work } else t) = fun t => decide (t.number ≠ n) := by
    funext u
    by_cases h : u.number = n <;> simp [h]
  rw [same]
  conv_rhs => rw [← List.map_id (List.filter _ r.tasks)]
  refine List.map_congr_left fun u hu => ?_
  have other : u.number ≠ n := by simpa using (List.mem_filter.mp hu).2
  simp [other]

theorem Responder.setDemand_setWork (r : Responder) (n m : Nat) (work : Work) (d : Demand) :
    (r.setWork n work).setDemand m d = (r.setDemand m d).setWork n work := rfl

theorem Responder.record_setWork (r : Responder) (n : Nat) (work : Work) (e : Event) :
    (r.setWork n work).record e = (r.record e).setWork n work := rfl

theorem Responder.send_setWork (r : Responder) (n : Nat) (work : Work) (speaker : Speaker)
    (f : Frame) : (r.setWork n work).send speaker f = (r.send speaker f).setWork n work := rfl

theorem Responder.notePanic_setWork (r : Responder) (panic : Option String) (n : Nat) (work : Work) :
    (r.setWork n work).notePanic panic = (r.notePanic panic).setWork n work := by
  cases panic <;> rfl

theorem Responder.settleStream_setWork (r : Responder) (t : Task) (token : Nat)
    (outcome : StreamOutcome) (n : Nat) (work : Work) :
    (r.setWork n work).settleStream { t with work } token outcome =
      (r.settleStream t token outcome).setWork n work := by
  simp only [Responder.settleStream, Responder.release]
  show (if (r.registry.releaseOutbound t.stream token).2 = true then _ else _) =
    Responder.setWork (if (r.registry.releaseOutbound t.stream token).2 = true then _ else _) n work
  split
  · cases outcome with
    | completed => rfl
    | cancelled => rfl
    | failed e => cases e <;> rfl
  · rfl

/-- The end of a response stream, from the phase that the driver has come to. -/
theorem Responder.finishStream_moves {t : Task} {token : Nat} {channel : Option Nat}
    {phase : StreamPhase} {events : List Event} {outcome : StreamOutcome} (w : ω)
    (app : Application ω) (allow : allowed (.task t.number)) (there : t ∈ r.tasks)
    (ends : phase.Ends t.number (r.isCancelled t.number) events outcome) :
    (r.setWork t.number (.stream token channel phase)).Moves allowed
      (Responder.finishStream { r with history := r.history ++ events } w app t token channel
        outcome).1 := by
  have dropped := ((app.drop t.number w).run_moves { r with history := r.history ++ events }).trans
    (Responder.dropOwnChannel_moves _ channel)
  have here := Responder.mem_setWork there (.stream token channel phase)
  have dropped := Responder.ChannelMoves.aside
    (Responder.ChannelMoves.setWork dropped t.number (.stream token channel phase))
  have move := Responder.Move.task here (.finishStream rfl ends dropped)
  refine .single allow ?_
  rw [Responder.settleStream_setWork, Responder.removeTask_setWork] at move
  exact move

theorem Responder.notePanic_aside (r : Responder) (panic : Option String) :
    r.AsideMoves (r.notePanic panic) := by
  cases panic with
  | none => exact .refl
  | some message =>
    exact .single (.record _ (.handlerPanicked message) rfl (fun _ _ => Event.noConfusion)
      (fun _ _ => Event.noConfusion) Event.noConfusion (fun _ => Event.noConfusion))

theorem Responder.Labours.aside {panic : Option String} (h : r.Labours panic r') :
    r.AsideMoves r' := by
  obtain ⟨r1, talked, dropped⟩ := h
  exact ((Responder.ChannelMoves.aside talked).trans (r1.notePanic_aside panic)).trans
    (Responder.ChannelMoves.aside dropped)

theorem Responder.Labours.quiet {panic : Option String} (h : r.Labours panic r') : r.Quiet r' := by
  obtain ⟨r1, talked, dropped⟩ := h
  have noted : r1.Quiet (r1.notePanic panic) := by
    cases panic with
    | none => exact .refl r1
    | some message => exact ⟨_, rfl, by simp [Event.isWord]⟩
  exact ((Responder.ChannelMoves.quiet talked).trans noted).trans
    (Responder.ChannelMoves.quiet dropped)

/-- A step of the driver as moves of its task, whose phase has been recorded before and after. -/
theorem Task.Drive.moves {t : Task} {x y : StreamPhase × Responder} (h : t.Drive x y) (token : Nat)
    (channel : Option Nat) (aside : allowed .aside) (allow : allowed (.task t.number))
    (there : t ∈ x.2.tasks) :
    t ∈ y.2.tasks ∧ (x.2.setWork t.number (.stream token channel x.1)).Moves allowed
      (y.2.setWork t.number (.stream token channel y.1)) := by
  cases h with
  | talk phase step =>
    refine ⟨step.keepsTasks.tasks ▸ there, .single aside (.aside (.channel ?_))⟩
    exact step.setWork t.number (.stream token channel phase)
  | pace phase r allowance => exact ⟨there, .single aside (.aside (.pace _ allowance))⟩
  | pull r p =>
    have here := Responder.mem_setWork there (.stream token channel .pulling)
    have pulled := Responder.Move.task here (.pull rfl p)
    rw [Responder.record_setWork, Responder.setWork_setWork] at pulled
    exact ⟨there, .single allow pulled⟩
  | @next phase r p d d' held demand taken =>
    have here := Responder.mem_setWork there (.stream token channel phase)
    have move := Responder.Move.task here (.next rfl held demand taken)
    rw [Responder.setDemand_setWork, Responder.send_setWork, Responder.setWork_setWork] at move
    exact ⟨there, .single allow move⟩
  | @wait phase phase' r d' held _ kept =>
    have here := Responder.mem_setWork there (.stream token channel phase)
    have move := Responder.Move.task here (.wait rfl held kept)
    rw [Responder.setDemand_setWork, Responder.setWork_setWork] at move
    exact ⟨there, .single allow move⟩

theorem Task.Drives.moves {t : Task} {x y : StreamPhase × Responder} (h : t.Drives x y) (token : Nat)
    (channel : Option Nat) (aside : allowed .aside) (allow : allowed (.task t.number))
    (there : t ∈ x.2.tasks) :
    t ∈ y.2.tasks ∧ (x.2.setWork t.number (.stream token channel x.1)).Moves allowed
      (y.2.setWork t.number (.stream token channel y.1)) := by
  induction h with
  | refl => exact ⟨there, .refl _⟩
  | tail _ step ih =>
    obtain ⟨there, moves⟩ := ih
    obtain ⟨there', move⟩ := step.moves token channel aside allow there
    exact ⟨there', moves.trans move⟩

theorem Responder.turnStream_moves (app : Application ω) {t : Task} {token : Nat}
    {channel : Option Nat} (aside : allowed .aside) (allow : allowed (.task t.number))
    (budget : Nat) (phase : StreamPhase) (w : ω) (there : t ∈ r.tasks) :
    (r.setWork t.number (.stream token channel phase)).Moves allowed
      (Responder.turnStream app t token channel budget phase r w).1 := by
  obtain ⟨y, drives, rests⟩ := Responder.turnStream_spec app t token channel budget phase r w
  obtain ⟨there, moves⟩ := Task.Drives.moves drives token channel aside allow there
  refine moves.trans ?_
  generalize (Responder.turnStream app t token channel budget phase r w).1 = r' at rests ⊢
  cases rests with
  | waits phase r => exact .refl _
  | @ends phase r events outcome w how panic _ =>
    have noted := r.notePanic_aside panic
    have kept := Responder.AsideMoves.keepsTasks noted
    have ends : phase.Ends t.number ((r.notePanic panic).isCancelled t.number) events outcome :=
      (kept.isCancelled t.number).symm ▸ how
    refine (Responder.AsideMoves.moves aside (Responder.notePanic_setWork r panic _ _ ▸
      (r.setWork t.number _).notePanic_aside panic)).trans ?_
    exact Responder.finishStream_moves w app allow (kept.tasks ▸ there) ends

theorem Responder.turnSingle_moves {t : Task} {kind : SingleRequest} {token : Option Nat}
    {request : Option Payload} (w : ω) (app : Application ω) (aside : allowed .aside)
    (allow : allowed (.task t.number)) (there : t ∈ r.tasks)
    (work : t.work = .single kind token request) :
    r.Moves allowed (r.turnSingle w app t kind token request).1 := by
  obtain ⟨panic, r', labours, _, eq⟩ := r.turnSingle_spec w app t kind token request
  have worked := Responder.Labours.aside labours
  rw [eq]
  cases hv : r.verdict? w app t kind request with
  | none =>
    have there : t ∈ r'.tasks := (Responder.AsideMoves.keepsTasks worked).tasks ▸ there
    exact (Responder.AsideMoves.moves aside worked).trans
      (.single allow (.task there (.waitSingle work)))
  | some result =>
    refine .single allow (.task there (.finishSingle work worked result fun none => ?_))
    exact Responder.isCancelled_of_verdict (none ▸ hv)

theorem Responder.Linked.setWork_self (h : r.Linked) {t : Task} (there : t ∈ r.tasks) :
    r.setWork t.number t.work = r := by
  have same : r.tasks.map (fun u => if u.number = t.number then { u with work := t.work } else u) =
      r.tasks := by
    conv_rhs => rw [← List.map_id r.tasks]
    refine List.map_congr_left fun u hu => ?_
    by_cases number : u.number = t.number
    · cases h.eq_of_number hu there number
      simp
    · simp [number]
  rw [Responder.setWork, same]

theorem Responder.Linked.turn_moves (h : r.Linked) (w : ω) (app : Application ω) (n budget : Nat)
    (aside : allowed .aside) (allow : allowed (.task n)) :
    r.Moves allowed (r.turn w app n budget).1 := by
  unfold Responder.turn
  cases ht : r.task? n with
  | none => exact .refl r
  | some t =>
    obtain ⟨there, rfl⟩ := h.task?_eq_some_iff.mp ht
    dsimp only
    split
    next kind token request work =>
      exact Responder.turnSingle_moves w app aside allow there work
    next token channel phase work =>
      have moves : (r.setWork t.number (.stream token channel phase)).Moves allowed
          (Responder.turnStream app t token channel budget phase r w).1 :=
        Responder.turnStream_moves app aside allow budget phase w there
      rw [← work, h.setWork_self there] at moves
      exact moves

end Multiplexer
