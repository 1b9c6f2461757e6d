import Multiplexer.Proofs.Undisturbed

/-!
Turns of tasks that have been cancelled: application code may run, and the task may end, but nothing is
said for it, and no operation loses its entry.
-/

namespace Multiplexer

variable {ω ρ : Type} {asking : Prop} {r r' r'' : Responder} {n : Nat}

/-- Application code asks for payloads only where that is allowed, and answers as it should. -/
def Dialogue.Within (asking : Prop) (Q : ρ → Prop) : Dialogue ρ → Prop
  | .answer x => Q x
  | .read _ next => ∀ reply, (next reply).Within asking Q
  | .request _ _ next => asking ∧ next.Within asking Q
  | .drop _ next => next.Within asking Q
  | .keep _ next => next.Within asking Q
  | .inspect _ next => ∀ reply, (next reply).Within asking Q

/-- What an application does about requests that it has taken on keeps its world as it should be. -/
structure Application.Within (asking : Prop) (P : ω → Prop) (app : Application ω) : Prop where
  poll : ∀ n w, P w → (app.poll n w).Within asking fun answer => P answer.2
  drop : ∀ n w, P w → (app.drop n w).Within asking P

theorem Dialogue.within_all {Q : ρ → Prop} (all : ∀ x, Q x) (d : Dialogue ρ) : d.Within True Q := by
  induction d with
  | answer x => exact all x
  | read n next ih => exact fun reply => ih reply
  | request n demand next ih => exact ⟨trivial, ih⟩
  | drop n next ih => exact ih
  | keep n next ih => exact ih
  | inspect n next ih => exact fun reply => ih reply

/-- Nothing is asked of an application that may do whatever it likes. -/
theorem Application.within_all (app : Application ω) : app.Within True fun _ => True :=
  ⟨fun _ _ _ => Dialogue.within_all (fun _ => trivial) _,
    fun _ _ _ => Dialogue.within_all (fun _ => trivial) _⟩

abbrev Responder.Touches (asking : Prop) : Responder → Responder → Prop :=
  Relation.ReflTransGen (Responder.Touch asking)

theorem Dialogue.Within.run {Q : ρ → Prop} {d : Dialogue ρ} (h : d.Within asking Q) (r : Responder) :
    Responder.Touches asking r (d.run r).1 ∧ Q (d.run r).2 := by
  induction d generalizing r with
  | answer x => exact ⟨.refl, h⟩
  | read n next ih =>
    obtain ⟨touches, fine⟩ := ih (r.readChannel n).2 (h _) (r.readChannel n).1
    exact ⟨.head (.read r n) touches, fine⟩
  | request n demand next ih =>
    obtain ⟨touches, fine⟩ := ih h.2 (r.requestOnChannel n demand)
    exact ⟨.head (.request r h.1 n demand) touches, fine⟩
  | drop n next ih =>
    obtain ⟨touches, fine⟩ := ih h (r.dropChannel n)
    exact ⟨.head (.drop r n) touches, fine⟩
  | keep n next ih =>
    obtain ⟨touches, fine⟩ := ih h (r.keepChannel n)
    exact ⟨.head (.keep r n) touches, fine⟩
  | inspect n next ih => exact ih _ (h _) r

theorem Responder.Touches.moves (touches : Responder.Touches asking r r') : r.ChannelMoves r' :=
  Relation.ReflTransGen.mono (fun _ _ touch => touch.move) _ _ touches

theorem Responder.dropOwnChannel_touches (r : Responder) (channel : Option Nat) :
    Responder.Touches asking r (r.dropOwnChannel channel) := by
  unfold Responder.dropOwnChannel
  split
  · split
    · exact .single (.drop r _)
    · exact .refl
  · exact .refl

/-- Events are noted without a frame, and tasks with number `n` may end. Neither channels nor entries
change. -/
structure Responder.Lapses (n : Nat) (r r' : Responder) : Prop where
  channels : r'.channels = r.channels
  registry : r'.registry = r.registry
  told : ∃ events, r'.history = r.history ++ events ∧ ∀ speaker f, Event.sent speaker f ∉ events
  tasks : ∀ t ∈ r'.tasks, t.number = n → t ∈ r.tasks

/-- What a turn of operation `n` consists of once the operation has been cancelled. -/
inductive Responder.Ebb (asking : Prop) (n : Nat) : Responder → Responder → Prop where
  | touch {r r' : Responder} (h : Responder.Touch asking r r') : Ebb asking n r r'
  | lapse {r r' : Responder} (h : Responder.Lapses n r r') : Ebb asking n r r'

abbrev Responder.Ebbs (asking : Prop) (n : Nat) : Responder → Responder → Prop :=
  Relation.ReflTransGen (Responder.Ebb asking n)

theorem Responder.Touches.ebbs (touches : Responder.Touches asking r r') :
    Responder.Ebbs asking n r r' :=
  Relation.ReflTransGen.mono (fun _ _ touch => .touch touch) _ _ touches

theorem Responder.Ebbs.lapse {events : List Event} (channels : r'.channels = r.channels)
    (registry : r'.registry = r.registry) (history : r'.history = r.history ++ events)
    (silent : ∀ speaker f, Event.sent speaker f ∉ events)
    (tasks : ∀ t ∈ r'.tasks, t.number = n → t ∈ r.tasks) : Responder.Ebbs asking n r r' :=
  .single (.lapse ⟨channels, registry, ⟨events, history, silent⟩, tasks⟩)

theorem Task.answer_unreleased (t : Task) (kind : SingleRequest) (result : Option Item)
    (speaker : Speaker) (f : Frame) : Event.sent speaker f ∉ t.answer kind false result := by
  rcases result with _ | (e | p) <;> cases kind <;> simp [Task.answer]

section turns

variable {t : Task} (h : r.Linked) (there : t ∈ r.tasks) (cancelled : r.isCancelled t.number = true)

include h there cancelled

/-- A task that has been cancelled has no entry to give up. -/
theorem Responder.Linked.release_cancelled :
    t.release t.work.token? r.registry = (r.registry, false) := by
  cases htoken : t.work.token? with
  | none => rfl
  | some token => rw [h.release_eq there htoken, if_pos cancelled]

theorem Responder.Linked.settleSingle_ebbs (kind : SingleRequest) (result : Option Item) :
    Responder.Ebbs asking t.number r
      ((r.settleSingle t kind t.work.token? result).removeTask t.number) := by
  rw [Responder.settleSingle_eq, h.release_cancelled there cancelled]
  refine .lapse rfl rfl rfl (t.answer_unreleased kind result) ?_
  intro u hu number
  exact absurd number ((Responder.mem_tasks_removeTask _).mp hu).2

theorem Responder.Linked.settleStream_ebbs {token : Nat} (htoken : t.work.token? = some token)
    (outcome : StreamOutcome) :
    Responder.Ebbs asking t.number r ((r.settleStream t token outcome).removeTask t.number) := by
  rw [Responder.settleStream_eq, ← htoken, h.release_cancelled there cancelled]
  refine .lapse rfl rfl rfl (fun _ _ => List.not_mem_nil) ?_
  intro u hu number
  exact absurd number ((Responder.mem_tasks_removeTask _).mp hu).2

variable {P : ω → Prop} {app : Application ω} (within : app.Within asking P) {w : ω} (fine : P w)

include within fine

theorem Responder.Linked.finishSingle_ebbs (kind : SingleRequest) (result : Option Item) :
    Responder.Ebbs asking t.number r (r.finishSingle w app t kind t.work.token? result).1 ∧
      P (r.finishSingle w app t kind t.work.token? result).2 := by
  obtain ⟨dropped, fine⟩ := (within.drop t.number w fine).run r
  have kept := Responder.ChannelMoves.keepsTasks dropped.moves
  have cancelled := (kept.isCancelled t.number).trans cancelled
  have ends : Responder.Ebbs asking t.number _ _ :=
    (kept.linked h).settleSingle_ebbs (kept.tasks ▸ there) cancelled kind result
  exact ⟨dropped.ebbs.trans ends, fine⟩

theorem Responder.Linked.finishStream_ebbs {token : Nat} (htoken : t.work.token? = some token)
    (channel : Option Nat) (outcome : StreamOutcome) :
    Responder.Ebbs asking t.number r (r.finishStream w app t token channel outcome).1 ∧
      P (r.finishStream w app t token channel outcome).2 := by
  obtain ⟨dropped, fine⟩ := (within.drop t.number w fine).run r
  have dropped := dropped.trans (Responder.dropOwnChannel_touches _ channel)
  have kept := Responder.ChannelMoves.keepsTasks (Responder.Touches.moves dropped)
  have cancelled := (kept.isCancelled t.number).trans cancelled
  have ends : Responder.Ebbs asking t.number _ _ :=
    (kept.linked h).settleStream_ebbs (kept.tasks ▸ there) cancelled htoken outcome
  exact ⟨(Responder.Touches.ebbs dropped).trans ends, fine⟩

/-- A result that comes too late is dropped. -/
theorem Responder.Linked.pollSingle_ebbs (kind : SingleRequest) :
    Responder.Ebbs asking t.number r (r.pollSingle w app t kind t.work.token?).1 ∧
      P (r.pollSingle w app t kind t.work.token?).2 := by
  obtain ⟨polled, fine⟩ := (within.poll t.number w fine).run r
  have kept := Responder.ChannelMoves.keepsTasks polled.moves
  unfold Responder.pollSingle
  generalize (app.poll t.number w).run r = answer at polled kept fine ⊢
  obtain ⟨r1, poll, w1⟩ := answer
  dsimp only at polled kept fine ⊢
  have linked := kept.linked h
  have there : t ∈ r1.tasks := kept.tasks ▸ there
  have cancelled := (kept.isCancelled t.number).trans cancelled
  have ends (result : Option Item) := linked.finishSingle_ebbs there cancelled within fine kind result
  cases poll with
  | ready x => exact ⟨polled.ebbs.trans (ends (some x)).1, (ends (some x)).2⟩
  | panicked p =>
    have noted : r1.KeepsTasks (r1.record (.handlerPanicked p.message)) :=
      Responder.record_keepsTasks r1 rfl
    have told : Responder.Ebbs asking t.number r1 (r1.record (.handlerPanicked p.message)) :=
      .lapse rfl rfl rfl (by simp) (fun _ hu _ => hu)
    have ends := (noted.linked linked).finishSingle_ebbs there cancelled within fine kind
      (some (.error (.panicked p.message)))
    exact ⟨polled.ebbs.trans (told.trans ends.1), ends.2⟩
  | pending =>
    dsimp only
    rw [if_pos cancelled]
    exact ⟨polled.ebbs.trans (ends none).1, (ends none).2⟩

theorem Responder.Linked.turnSingle_ebbs (kind : SingleRequest) (request : Option Payload) :
    Responder.Ebbs asking t.number r (r.turnSingle w app t kind t.work.token? request).1 ∧
      P (r.turnSingle w app t kind t.work.token? request).2 := by
  unfold Responder.turnSingle
  cases request with
  | none => exact h.pollSingle_ebbs there cancelled within fine kind
  | some p =>
    dsimp only
    rw [if_pos cancelled]
    exact ⟨h.settleSingle_ebbs there cancelled kind none, fine⟩

/-- The driver of a cancelled response stream ends, whatever it has in hand. -/
theorem Responder.Linked.turnStream_ebbs {budget token : Nat} {channel : Option Nat}
    {phase : StreamPhase} (work : t.work = .stream token channel phase) :
    Responder.Ebbs asking t.number r
        (Responder.turnStream app t token channel budget phase r w).1 ∧
      P (Responder.turnStream app t token channel budget phase r w).2 := by
  have htoken : t.work.token? = some token := by rw [work]; rfl
  rw [Responder.turnStream.eq_def]
  cases budget with
  | zero =>
    refine ⟨?_, fine⟩
    show Responder.Ebbs asking t.number r (r.setWork t.number (.stream token channel phase))
    rw [← work, h.setWork_self there]
  | succ budget =>
    dsimp only
    rw [if_pos cancelled]
    cases phase with
    | holding p waiter =>
      -- the place in the queue for credit is given up, and with it the item
      obtain ⟨d, eq, _⟩ := r.abandon_spec t.number waiter
      have left : Responder.Ebbs asking t.number r (r.setDemand t.number d) :=
        .lapse rfl rfl (List.append_nil _).symm (fun _ _ => List.not_mem_nil) (fun _ hu _ => hu)
      have cancelled := (r.setDemand_isCancelled t.number t.number d).trans cancelled
      have ends := (h.setDemand t.number d).finishStream_ebbs there cancelled within fine htoken channel
        .cancelled
      dsimp only
      rw [eq]
      exact ⟨left.trans ends.1, ends.2⟩
    | broken e => exact h.finishStream_ebbs there cancelled within fine htoken channel .cancelled
    | pulling => exact h.finishStream_ebbs there cancelled within fine htoken channel .cancelled
    | offering p => exact h.finishStream_ebbs there cancelled within fine htoken channel .cancelled

end turns

/-- A turn of operation `n`, if it has been cancelled. -/
theorem Responder.Linked.turn_ebbs {P : ω → Prop} {app : Application ω} (h : r.Linked)
    (cancelled : ∀ t ∈ r.tasks, t.number = n → r.isCancelled n = true)
    (within : app.Within asking P) {w : ω} (fine : P w) (budget : Nat) :
    Responder.Ebbs asking n r (r.turn w app n budget).1 ∧ P (r.turn w app n budget).2 := by
  unfold Responder.turn
  cases found : r.task? n with
  | none => exact ⟨.refl, fine⟩
  | some t =>
    obtain ⟨there, rfl⟩ := h.task?_eq_some_iff.mp found
    have cancelled := cancelled t there rfl
    dsimp only
    split
    next kind token request work =>
      have ends := h.turnSingle_ebbs there cancelled within fine kind request
      rwa [work] at ends
    next token channel phase work => exact h.turnStream_ebbs there cancelled within fine work

end Multiplexer
