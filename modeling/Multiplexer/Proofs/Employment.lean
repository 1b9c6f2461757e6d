import Multiplexer.Proofs.Acceptance

/-!
What an operation is from its beginning on: its task stays under one stream, with one token and one
channel, whatever happens.
-/

namespace Multiplexer

variable {r r' : Responder} {n : Nat} {stream : StreamId} {token channel : Option Nat}

/-- The channel that a response stream has been opened with. -/
def Work.channel? : Work → Option Nat
  | .single .. => none
  | .stream _ channel _ => channel

/-- A task that works for operation `n` does so under this stream, with this token and channel. -/
def Responder.Employs (n : Nat) (stream : StreamId) (token channel : Option Nat) (r : Responder) :
    Prop :=
  ∀ t ∈ r.tasks, t.number = n →
    t.stream = stream ∧ t.work.token? = token ∧ t.work.channel? = channel

theorem Responder.Employs.shrink (h : Responder.Employs n stream token channel r)
    (tasks : ∀ t ∈ r'.tasks, t.number = n → t ∈ r.tasks) :
    Responder.Employs n stream token channel r' :=
  fun t ht number => h t (tasks t ht number) number

theorem Responder.Employs.setWork (h : Responder.Employs n stream token channel r) {t : Task}
    {work : Work} (there : t ∈ r.tasks) (sameToken : work.token? = t.work.token?)
    (sameChannel : work.channel? = t.work.channel?) :
    Responder.Employs n stream token channel (r.setWork t.number work) := by
  intro u hu number
  obtain ⟨v, hv, rfl⟩ := List.mem_map.mp hu
  by_cases same : v.number = t.number
  · rw [if_pos same] at number ⊢
    obtain ⟨_, own⟩ := h t there (same.symm.trans number)
    exact ⟨(h v hv number).1, sameToken.trans own.1, sameChannel.trans own.2⟩
  · rw [if_neg same] at number ⊢
    exact h v hv number

theorem Task.Move.employs {t : Task} (move : t.Move r r') (there : t ∈ r.tasks)
    (h : Responder.Employs n stream token channel r) :
    Responder.Employs n stream token channel r' := by
  have left {r1 r2 : Responder} (kept : r1.tasks = r.tasks)
      (tasks : r2.tasks = r1.tasks.filter (fun u => u.number ≠ t.number)) :
      Responder.Employs n stream token channel r2 :=
    h.shrink fun u hu _ => kept ▸ (List.mem_filter.mp (tasks ▸ hu)).1
  cases move with
  | waitSingle work => exact h.setWork there (by rw [work]; rfl) (by rw [work]; rfl)
  | finishSingle work dropped result cancelled =>
    rw [Responder.settleSingle_eq]
    exact left (Responder.AsideMoves.keepsTasks dropped).tasks rfl
  | pull work p =>
    exact Responder.Employs.setWork (r := r.record _) h there (by rw [work]; rfl) (by rw [work]; rfl)
  | @next _ _ _ p _ d' work held demand taken =>
    exact Responder.Employs.setWork (r := (r.setDemand t.number d').send _ _) h there
      (by rw [work]; rfl) (by rw [work]; rfl)
  | @wait _ _ _ _ d' work held kept =>
    exact Responder.Employs.setWork (r := r.setDemand t.number d') h there (by rw [work]; rfl)
      (by rw [work]; rfl)
  | finishStream work ends dropped =>
    rw [Responder.settleStream_eq]
    exact left (Responder.AsideMoves.keepsTasks dropped).tasks rfl

theorem Responder.Move.employs {l : Label} (move : Responder.Move l r r')
    (known : n < r.controls.length) (h : Responder.Employs n stream token channel r) :
    Responder.Employs n stream token channel r' := by
  by_cases own : l = .task n
  · subst own
    obtain ⟨t, there, _, step⟩ := move.task_inv
    exact step.employs there h
  · have undisturbed := move.undisturbed known own
    exact h.shrink fun t ht number => (undisturbed.tasks t number).mp ht

theorem Responder.Moves.employs {allowed : Label → Prop} (moves : r.Moves allowed r')
    (linked : r.Linked) (known : n < r.controls.length)
    (h : Responder.Employs n stream token channel r) :
    Responder.Employs n stream token channel r' :=
  moves.keep linked known h fun _ move _ known h => move.employs known h

/-- The task of an operation that is registered works under its stream and with its token. -/
theorem Responder.Linked.employs {token : Nat} (h : r.Linked)
    (entry : ⟨stream, token, n⟩ ∈ r.registry.outbound) :
    ∃ channel, Responder.Employs n stream (some token) channel r := by
  have own {t : Task} (there : t ∈ r.tasks) (number : t.number = n) :
      t.stream = stream ∧ t.work.token? = some token := by
    obtain ⟨same, eq⟩ := h.own t there _ entry (.inr number.symm)
    exact ⟨(congrArg Entry.stream eq).symm, same⟩
  by_cases works : ∃ t ∈ r.tasks, t.number = n
  · obtain ⟨t, there, number⟩ := works
    refine ⟨t.work.channel?, fun u hu same => ?_⟩
    obtain rfl := h.eq_of_number hu there (same.trans number.symm)
    exact ⟨(own hu same).1, (own hu same).2, rfl⟩
  · exact ⟨none, fun t ht number => absurd ⟨t, ht, number⟩ works⟩

theorem Responder.Begun.employs {control : Control} {work : Work}
    (begun : Responder.Begun n stream control work r) :
    Responder.Employs n stream work.token? work.channel? r := by
  intro t there number
  obtain rfl := begun.linked.eq_of_number there begun.there number
  exact ⟨rfl, rfl, rfl⟩

end Multiplexer
