import Mathlib.Data.List.Induction
import Multiplexer.Proofs.CreditConservation

/-!
Wakeups. A waiter looks at the credit only when it has been woken, and a grant wakes one waiter, however many
units it brings. While two or more waiters live, every grant is to be of one unit: then there are never more
units than woken waiters as long as any waiter sleeps, and wherever there is credit somebody is awake to
take it.
-/

namespace Multiplexer

variable {d d' : Demand} {ws : List Nat}

/-- The waiters that an operation leaves live. A waiter that finds no credit when it is started lives from
then on, until it acquires a unit or is dropped. -/
def Demand.Operation.survivors (d : Demand) (ws : List Nat) : Demand.Operation → List Nat
  | .request _ | .requestOnWire _ | .tryAcquire => ws
  | .acquire => if (d.perform .acquire).2 then ws else ws ++ [d.started]
  | .poll w => if (d.perform (.poll w)).2 then ws.erase w else ws
  | .drop w => ws.erase w

/-- The waiters that live after a list of operations, of those that live before it and those started in it. -/
def Demand.liveAfter (d : Demand) (ws : List Nat) : List Demand.Operation → List Nat
  | [] => ws
  | op :: ops => (d.perform op).1.liveAfter (op.survivors d ws) ops

/-- The waiters that live after a list of operations on a new demand, oldest first. -/
def Demand.live (ops : List Demand.Operation) : List Nat := Demand.new.liveAfter [] ops

/-- Every grant that is made while two or more waiters live is of one unit. -/
def Demand.Gentle (ops : List Demand.Operation) : Prop :=
  ∀ i, (h : i < ops.length) → 2 ≤ (live (ops.take i)).length → ops[i].granted ≤ 1

/-- At no time do more than `n` waiters live. -/
def Demand.LiveWithin (n : Nat) (ops : List Demand.Operation) : Prop :=
  ∀ i, i ≤ ops.length → (live (ops.take i)).length ≤ n

theorem Demand.liveAfter_append (d : Demand) (ws : List Nat) (before later : List Demand.Operation) :
    d.liveAfter ws (before ++ later) = (d.after before).liveAfter (d.liveAfter ws before) later := by
  induction before generalizing d ws with
  | nil => rfl
  | cons op before ih => exact ih (d.perform op).1 (op.survivors d ws)

theorem Demand.live_concat (ops : List Demand.Operation) (op : Demand.Operation) :
    live (ops ++ [op]) = op.survivors (Demand.new.after ops) (live ops) :=
  Demand.new.liveAfter_append [] ops [op]

theorem Demand.after_concat (d : Demand) (ops : List Demand.Operation) (op : Demand.Operation) :
    d.after (ops ++ [op]) = ((d.after ops).perform op).1 :=
  d.after_append ops [op]

theorem Demand.Gentle.init {ops : List Demand.Operation} {op : Demand.Operation}
    (gentle : Demand.Gentle (ops ++ [op])) :
    Demand.Gentle ops ∧ (2 ≤ (live ops).length → op.granted ≤ 1) := by
  constructor
  · intro i h
    have here := gentle i (by rw [List.length_append]; omega)
    rw [List.take_append_of_le_length (Nat.le_of_lt h), List.getElem_append_left h] at here
    exact here
  · have last := gentle ops.length (by rw [List.length_append, List.length_singleton]; omega)
    rw [List.take_left, List.getElem_concat_length rfl] at last
    exact last

theorem Demand.liveWithin_concat_iff {n : Nat} {ops : List Demand.Operation} {op : Demand.Operation} :
    Demand.LiveWithin n (ops ++ [op]) ↔ Demand.LiveWithin n ops ∧ (live (ops ++ [op])).length ≤ n := by
  have early {i : Nat} (h : i ≤ ops.length) : (ops ++ [op]).take i = ops.take i :=
    List.take_append_of_le_length h
  constructor
  · intro within
    refine ⟨fun i h => ?_, ?_⟩
    · have here := within i (by rw [List.length_append]; omega)
      rwa [early h] at here
    · have last := within (ops ++ [op]).length (Nat.le_refl _)
      rwa [List.take_length] at last
  · rintro ⟨within, last⟩ i h
    rw [List.length_append, List.length_singleton] at h
    by_cases before : i ≤ ops.length
    · rw [early before]
      exact within i before
    · rw [List.take_of_length_le (by rw [List.length_append, List.length_singleton]; omega)]
      exact last

theorem Demand.LiveWithin.here {n : Nat} {ops : List Demand.Operation} (within : Demand.LiveWithin n ops) :
    (live ops).length ≤ n := by
  have last := within ops.length (Nat.le_refl _)
  rwa [List.take_length] at last

theorem Demand.LiveWithin.mono {m n : Nat} {ops : List Demand.Operation} (within : Demand.LiveWithin m ops)
    (le : m ≤ n) : Demand.LiveWithin n ops :=
  fun i h => Nat.le_trans (within i h) le

theorem Demand.LiveWithin.gentle {ops : List Demand.Operation} (within : Demand.LiveWithin 1 ops) :
    Demand.Gentle ops := by
  intro i h two
  have one := within i (Nat.le_of_lt h)
  omega

/-- A demand knows each of the waiters that live, once: it has been woken or it sleeps. -/
structure Demand.Knows (d : Demand) (ws : List Nat) : Prop where
  held : ws.Perm (d.woken ++ d.waiting)
  distinct : ws.Nodup
  numbered : ∀ w ∈ ws, w < d.started

/-- As long as a waiter sleeps there are no more units than woken waiters. -/
def Demand.Prompt (d : Demand) : Prop := d.waiting ≠ [] → d.credit ≤ d.woken.length

theorem Demand.wakeOne_perm (d : Demand) :
    (d.wakeOne.woken ++ d.wakeOne.waiting).Perm (d.woken ++ d.waiting) := by
  unfold Demand.wakeOne
  split
  next none => rw [none]
  next w rest first => rw [first, List.append_assoc, List.singleton_append]

@[simp]
theorem Demand.started_wakeOne (d : Demand) : d.wakeOne.started = d.started := by
  unfold Demand.wakeOne
  split <;> rfl

/-- Whoever still sleeps after a wakeup slept behind the waiter that it has gone to. -/
theorem Demand.wakeOne_asleep (asleep : d.wakeOne.waiting ≠ []) :
    d.wakeOne.woken.length = d.woken.length + 1 ∧ 2 ≤ d.waiting.length := by
  unfold Demand.wakeOne at asleep ⊢
  split at asleep
  next none => exact absurd none asleep
  next w rest first =>
    rw [first, List.length_cons, List.length_append, List.length_singleton]
    have more : 0 < rest.length := List.length_pos_iff.mpr asleep
    exact ⟨rfl, by omega⟩

theorem Demand.take?_queues (taken : d.take? = some d') :
    d'.woken = d.woken ∧ d'.waiting = d.waiting ∧ d'.started = d.started := by
  unfold Demand.take? at taken
  split at taken
  · cases taken
  · split at taken <;> cases taken <;> exact ⟨rfl, rfl, rfl⟩

/-- A waiter that asks acquires a unit or goes to sleep. -/
theorem Demand.takeOrEnqueue_cases (d : Demand) (w : Nat) :
    (∃ d', d.takeOrEnqueue w = (d', .ready) ∧ d.Takes d' ∧ d'.woken = d.woken ∧ d'.waiting = d.waiting ∧
        d'.started = d.started) ∨
      (d.takeOrEnqueue w = (d.enqueue w, .pending) ∧ d.credit = 0) := by
  cases taken : d.take? with
  | some d' =>
    exact .inl ⟨d', by rw [Demand.takeOrEnqueue, taken], Demand.take?_takes taken, Demand.take?_queues taken⟩
  | none =>
    have empty : ¬ d.credit ≠ 0 := by rw [← d.isSome_take?_iff, taken]; exact Bool.noConfusion
    exact .inr ⟨by rw [Demand.takeOrEnqueue, taken], Decidable.not_not.mp empty⟩

theorem Demand.Knows.move (knows : d.Knows ws)
    (moved : (d'.woken ++ d'.waiting).Perm (d.woken ++ d.waiting)) (later : d.started ≤ d'.started) :
    d'.Knows ws :=
  ⟨knows.held.trans moved.symm, knows.distinct, fun w live => Nat.lt_of_lt_of_le (knows.numbered w live) later⟩

theorem Demand.Knows.erase {w : Nat} (knows : d.Knows ws)
    (left : (d'.woken ++ d'.waiting).Perm ((d.woken ++ d.waiting).erase w)) (same : d'.started = d.started) :
    d'.Knows (ws.erase w) where
  held := (knows.held.erase w).trans left.symm
  distinct := knows.distinct.erase w
  numbered := by
    intro w' live
    rw [same]
    exact knows.numbered w' (List.mem_of_mem_erase live)

theorem Demand.Knows.grant (knows : d.Knows ws) (n : Nat) : (d.grant n).Knows ws := by
  unfold Demand.grant
  split
  · exact knows
  · exact knows.move (Demand.wakeOne_perm _) (Nat.le_of_eq (Eq.symm (Demand.started_wakeOne _)))

theorem Demand.Knows.acquire (knows : d.Knows ws) :
    d.acquire.1.Knows (Demand.Operation.acquire.survivors d ws) := by
  have asked := Demand.takeOrEnqueue_cases { d with started := d.started + 1 } d.started
  rcases asked with ⟨d', ready, _, woken, waiting, started⟩ | ⟨pending, _⟩
  · have acquired : d.acquire = (d', .ready) := ready
    simp only [Demand.Operation.survivors, Demand.perform, acquired, decide_true, if_true]
    exact knows.move (by rw [woken, waiting]) (by rw [started]; exact Nat.le_succ _)
  · have asleep : d.acquire = (Demand.enqueue { d with started := d.started + 1 } d.started, .pending) :=
      pending
    have new : d.started ∉ ws := fun live => Nat.lt_irrefl _ (knows.numbered _ live)
    simp only [Demand.Operation.survivors, Demand.perform, asleep, reduceCtorEq, decide_false,
      Bool.false_eq_true, if_false]
    refine ⟨?_, List.nodup_append.mpr ⟨knows.distinct, List.nodup_singleton _, ?_⟩, ?_⟩
    · show (ws ++ [d.started]).Perm (d.woken ++ (d.waiting ++ [d.started]))
      rw [← List.append_assoc]
      exact knows.held.append_right _
    · rintro w live _ started rfl
      rw [List.mem_singleton.mp started] at live
      exact new live
    · intro w live
      show w < d.started + 1
      rcases List.mem_append.mp live with live | started
      · exact Nat.lt_succ_of_lt (knows.numbered w live)
      · exact Nat.lt_succ_of_le (Nat.le_of_eq (List.mem_singleton.mp started))

theorem Demand.Knows.poll (knows : d.Knows ws) (w : Nat) :
    (d.poll w).1.Knows ((Demand.Operation.poll w).survivors d ws) := by
  by_cases woken : w ∈ d.woken
  · have polled : d.poll w = Demand.takeOrEnqueue { d with woken := d.woken.erase w } w := if_pos woken
    rcases Demand.takeOrEnqueue_cases { d with woken := d.woken.erase w } w with
      ⟨d', ready, _, woken', waiting, started⟩ | ⟨pending, _⟩
    · simp only [Demand.Operation.survivors, Demand.perform, polled, ready, decide_true, if_true]
      refine knows.erase ?_ started
      rw [woken', waiting, List.erase_append_left _ woken]
    · simp only [Demand.Operation.survivors, Demand.perform, polled, pending, reduceCtorEq, decide_false,
        Bool.false_eq_true, if_false]
      refine knows.move ?_ (Nat.le_refl _)
      have back : (d.woken.erase w ++ [w]).Perm d.woken :=
        List.perm_append_comm.trans (List.perm_cons_erase woken).symm
      show (d.woken.erase w ++ (d.waiting ++ [w])).Perm (d.woken ++ d.waiting)
      have front : (d.waiting ++ [w]).Perm ([w] ++ d.waiting) := List.perm_append_comm
      refine (front.append_left _).trans ?_
      rw [← List.append_assoc]
      exact back.append_right _
  · have idle : (d.poll w).1 = d ∧ (d.poll w).2 ≠ .ready := by
      unfold Demand.poll
      rw [if_neg woken]
      split <;> exact ⟨rfl, Acquisition.noConfusion⟩
    simp only [Demand.Operation.survivors, Demand.perform, idle, decide_false, Bool.false_eq_true, if_false]
    exact knows

theorem Demand.Knows.drop (knows : d.Knows ws) (w : Nat) : (d.drop w).Knows (ws.erase w) := by
  unfold Demand.drop
  split
  next woken =>
    refine knows.erase ?_ (Demand.started_wakeOne _)
    rw [List.erase_append_left _ woken]
    exact Demand.wakeOne_perm _
  next asleep =>
    refine knows.erase ?_ rfl
    rw [List.erase_append_right _ asleep]

/-- No operation makes a demand forget a waiter that lives, or keep one that does not. -/
theorem Demand.Knows.perform (knows : d.Knows ws) (op : Demand.Operation) :
    (d.perform op).1.Knows (op.survivors d ws) := by
  cases op with
  | request n => exact knows.grant n.toNat
  | requestOnWire n => exact knows.grant (creditOfDemand n)
  | tryAcquire =>
    show (d.take?.getD d).Knows ws
    cases taken : d.take? with
    | none => exact knows
    | some d' =>
      obtain ⟨woken, waiting, started⟩ := Demand.take?_queues taken
      exact knows.move (by rw [Option.getD_some, woken, waiting]) (Nat.le_of_eq started.symm)
  | acquire => exact knows.acquire
  | poll w => exact knows.poll w
  | drop w => exact knows.drop w

theorem Demand.Prompt.grant {n : Nat} (prompt : d.Prompt)
    (gentle : 2 ≤ (d.woken ++ d.waiting).length → n ≤ 1) : (d.grant n).Prompt := by
  unfold Demand.grant
  split
  · exact prompt
  · intro asleep
    obtain ⟨longer, two⟩ := Demand.wakeOne_asleep asleep
    dsimp only at two
    rw [List.length_append] at gentle
    have one : n ≤ 1 := gentle (Nat.le_trans two (Nat.le_add_left ..))
    have before : d.credit ≤ d.woken.length := prompt (List.ne_nil_of_length_pos (by omega))
    rw [Demand.credit_wakeOne, longer]
    show min (d.credit + n) unbounded ≤ d.woken.length + 1
    omega

/-- Where there is room for one waiter more, the credit is not without limit as long as a waiter sleeps. -/
theorem Demand.Prompt.below (prompt : d.Prompt) (room : (d.woken ++ d.waiting).length ≤ unbounded)
    (asleep : d.waiting ≠ []) : d.credit < unbounded := by
  have some : 0 < d.waiting.length := List.length_pos_iff.mpr asleep
  have few : d.credit ≤ d.woken.length := prompt asleep
  rw [List.length_append] at room
  omega

theorem Demand.Takes.credit_le {n : Nat} (takes : d.Takes d') (below : d.credit < unbounded)
    (few : d.credit ≤ n + 1) : d'.credit ≤ n := by
  rw [takes.2, if_neg (Nat.ne_of_lt below)]
  omega

theorem Demand.prompt_takeOrEnqueue (w : Nat)
    (few : d.waiting ≠ [] → d.credit < unbounded ∧ d.credit ≤ d.woken.length + 1) :
    (d.takeOrEnqueue w).1.Prompt := by
  intro asleep
  rcases d.takeOrEnqueue_cases w with ⟨d', ready, takes, woken, waiting, _⟩ | ⟨pending, none⟩
  · rw [ready] at asleep ⊢
    rw [waiting] at asleep
    rw [woken]
    exact takes.credit_le (few asleep).1 (few asleep).2
  · rw [pending]
    show d.credit ≤ d.woken.length
    omega

theorem Demand.Prompt.poll (prompt : d.Prompt) (room : (d.woken ++ d.waiting).length ≤ unbounded) (w : Nat) :
    (d.poll w).1.Prompt := by
  unfold Demand.poll
  split
  next woken =>
    refine Demand.prompt_takeOrEnqueue w fun asleep => ⟨prompt.below room asleep, ?_⟩
    have one : (d.woken.erase w).length + 1 = d.woken.length := by
      rw [List.length_erase_of_mem woken]
      exact Nat.sub_add_cancel (List.length_pos_of_mem woken)
    have few : d.credit ≤ d.woken.length := prompt asleep
    show d.credit ≤ (d.woken.erase w).length + 1
    omega
  · split <;> exact prompt

/-- The wakeup of a waiter that is dropped goes to one that sleeps, if there is one. -/
theorem Demand.Prompt.drop (prompt : d.Prompt) (w : Nat) : (d.drop w).Prompt := by
  unfold Demand.drop
  split
  next woken =>
    intro asleep
    obtain ⟨longer, two⟩ := Demand.wakeOne_asleep asleep
    dsimp only at two
    have few : d.credit ≤ d.woken.length := prompt (List.ne_nil_of_length_pos (by omega))
    rw [Demand.credit_wakeOne, longer, List.length_erase_of_mem woken]
    show d.credit ≤ d.woken.length - 1 + 1
    omega
  · intro asleep
    have before : d.waiting ≠ [] := fun none => asleep (by rw [none]; rfl)
    exact prompt before

/-- One operation keeps a demand prompt, if it grants no more than one unit where two waiters live. -/
theorem Demand.Prompt.perform (prompt : d.Prompt) (room : (d.woken ++ d.waiting).length ≤ unbounded)
    {op : Demand.Operation} (gentle : 2 ≤ (d.woken ++ d.waiting).length → op.granted ≤ 1) :
    (d.perform op).1.Prompt := by
  cases op with
  | request n => exact prompt.grant gentle
  | requestOnWire n => exact prompt.grant gentle
  | tryAcquire =>
    show (d.take?.getD d).Prompt
    cases taken : d.take? with
    | none => exact prompt
    | some d' =>
      obtain ⟨woken, waiting, _⟩ := Demand.take?_queues taken
      intro asleep
      rw [Option.getD_some, waiting] at asleep
      rw [Option.getD_some, woken]
      have few : d.credit ≤ d.woken.length := prompt asleep
      exact (Demand.take?_takes taken).credit_le (prompt.below room asleep) (by omega)
  | acquire =>
    refine Demand.prompt_takeOrEnqueue d.started fun asleep => ⟨prompt.below room asleep, ?_⟩
    exact Nat.le_succ_of_le (prompt asleep)
  | poll w => exact prompt.poll room w
  | drop w => exact prompt.drop w

/-- Whatever has been done with a new demand, it knows the waiters that live. -/
theorem Demand.knows_live (ops : List Demand.Operation) : (Demand.new.after ops).Knows (live ops) := by
  induction ops using List.reverseRecOn with
  | nil => exact ⟨.nil, .nil, fun w none => absurd none List.not_mem_nil⟩
  | append_singleton ops op ih =>
    rw [Demand.after_concat, Demand.live_concat]
    exact ih.perform op

theorem Demand.prompt_after {ops : List Demand.Operation} (gentle : Demand.Gentle ops)
    (room : Demand.LiveWithin unbounded ops) : (Demand.new.after ops).Prompt := by
  induction ops using List.reverseRecOn with
  | nil => exact fun asleep => absurd rfl asleep
  | append_singleton ops op ih =>
    have early : Demand.LiveWithin unbounded ops := (Demand.liveWithin_concat_iff.mp room).1
    have held : (live ops).length = _ := (Demand.knows_live ops).held.length_eq
    have small : (live ops).length ≤ unbounded := early.here
    have one : 2 ≤ (live ops).length → op.granted ≤ 1 := gentle.init.2
    rw [held] at small one
    rw [Demand.after_concat]
    exact (ih gentle.init.1 early).perform small one

/-- Where there is credit and a waiter lives, one that lives is awake, and whichever is awake acquires its
unit when it asks, and is done. -/
def Demand.Heeds (d : Demand) (ws : List Nat) : Prop :=
  d.credit ≠ 0 → ws ≠ [] → (∃ w ∈ ws, w ∈ d.woken) ∧
    ∀ w ∈ d.woken, w ∈ ws ∧ (d.poll w).2 = .ready ∧ w ∉ (Demand.Operation.poll w).survivors d ws

theorem Demand.Prompt.heeds (prompt : d.Prompt) (knows : d.Knows ws) : d.Heeds ws := by
  intro credit live
  have known {w : Nat} (woken : w ∈ d.woken) : w ∈ ws :=
    knows.held.mem_iff.mpr (List.mem_append_left _ woken)
  refine ⟨?_, fun w woken => ?_⟩
  · have awake : d.woken ≠ [] := by
      intro none
      have held := knows.held
      rw [none, List.nil_append] at held
      have asleep : d.waiting ≠ [] := fun none => live (held.trans (.of_eq none)).eq_nil
      have few : d.credit ≤ d.woken.length := prompt asleep
      rw [none, List.length_nil] at few
      omega
    obtain ⟨w, woken⟩ := List.exists_mem_of_ne_nil _ awake
    exact ⟨w, known woken, woken⟩
  · have ready : (d.poll w).2 = .ready := by
      rw [Demand.poll, if_pos woken]
      exact (Demand.takeOrEnqueue_ready_iff _ w).mpr credit
    refine ⟨known woken, ready, ?_⟩
    simp only [Demand.Operation.survivors, Demand.perform, ready, decide_true, if_true]
    exact knows.distinct.not_mem_erase

end Multiplexer
