import Multiplexer.Proofs.Drives

/-!
Credit as an account. Whatever is done with a demand and in whatever order, what is left of its credit and
what has been acquired make up what has been granted, until a grant reaches the limit. From then on the
credit stays where it is.
-/

namespace Multiplexer

/-- Something that is done with a demand. -/
inductive Demand.Operation where
  | request (n : UInt64)
  /-- A grant by a demand on the wire. -/
  | requestOnWire (n : UInt32)
  /-- Takes a unit if there is one, and does not wait for it. -/
  | tryAcquire
  /-- Starts a waiter. -/
  | acquire
  | poll (waiter : Nat)
  | drop (waiter : Nat)
deriving DecidableEq

/-- The units that an operation grants. -/
def Demand.Operation.granted : Demand.Operation → Nat
  | .request n => n.toNat
  | .requestOnWire n => creditOfDemand n
  | .tryAcquire | .acquire | .poll _ | .drop _ => 0

/-- The operation attempts to acquire a unit. A waiter does so when it is started and when it has been
woken; one that is still waiting does not look at the credit. -/
def Demand.Operation.attempts (d : Demand) : Demand.Operation → Bool
  | .tryAcquire | .acquire => true
  | .poll w => w ∈ d.woken
  | .request _ | .requestOnWire _ | .drop _ => false

/-- What an operation leaves of a demand, and whether a unit has been acquired. -/
def Demand.perform (d : Demand) : Demand.Operation → Demand × Bool
  | .request n => (d.grant n.toNat, false)
  | .requestOnWire n => (d.grant (creditOfDemand n), false)
  | .tryAcquire => (d.take?.getD d, d.take?.isSome)
  | .acquire => (d.acquire.1, d.acquire.2 = .ready)
  | .poll w => ((d.poll w).1, (d.poll w).2 = .ready)
  | .drop w => (d.drop w, false)

/-- The demand after a list of operations. -/
def Demand.after (d : Demand) (ops : List Demand.Operation) : Demand :=
  ops.foldl (fun d op => (d.perform op).1) d

/-- The units acquired in a list of operations. -/
def Demand.acquired (d : Demand) : List Demand.Operation → Nat
  | [] => 0
  | op :: ops => (d.perform op).2.toNat + acquired (d.perform op).1 ops

/-- The units granted in a list of operations. -/
def Demand.granted : List Demand.Operation → Nat
  | [] => 0
  | op :: ops => op.granted + granted ops

/-- One of the operations has brought the credit to the limit. -/
def Demand.Filled (d : Demand) (ops : List Demand.Operation) : Prop :=
  ∃ before op later, ops = before ++ op :: later ∧
    unbounded ≤ (d.after before).credit + op.granted

variable {d : Demand} {op : Demand.Operation} {ops : List Demand.Operation}

theorem Demand.isSome_take?_iff (d : Demand) : d.take?.isSome = true ↔ d.credit ≠ 0 := by
  unfold Demand.take?
  by_cases none : d.credit = 0
  · simp [none]
  · by_cases full : d.credit = unbounded
    · simp [full, unbounded]
    · simp [none, full]

theorem Demand.takeOrEnqueue_ready_iff (d : Demand) (w : Nat) :
    (d.takeOrEnqueue w).2 = .ready ↔ d.credit ≠ 0 := by
  rw [← d.isSome_take?_iff, Demand.takeOrEnqueue]
  cases d.take? <;> simp

/-- An attempt succeeds just when there is credit, and nothing else acquires a unit. -/
theorem Demand.perform_acquires_iff (d : Demand) (op : Demand.Operation) :
    (d.perform op).2 = true ↔ op.attempts d = true ∧ d.credit ≠ 0 := by
  cases op with
  | request n => simp [Demand.perform, Demand.Operation.attempts]
  | requestOnWire n => simp [Demand.perform, Demand.Operation.attempts]
  | tryAcquire => simp [Demand.perform, Demand.Operation.attempts, Demand.isSome_take?_iff]
  | acquire =>
    have asked : d.acquire.2 = .ready ↔ d.credit ≠ 0 :=
      Demand.takeOrEnqueue_ready_iff { d with started := d.started + 1 } d.started
    simpa [Demand.perform, Demand.Operation.attempts] using asked
  | poll w =>
    by_cases woken : w ∈ d.woken
    · have asked := Demand.takeOrEnqueue_ready_iff { d with woken := d.woken.erase w } w
      simpa [Demand.perform, Demand.Operation.attempts, Demand.poll, woken] using asked
    · simp only [Demand.perform, Demand.Operation.attempts, Demand.poll, woken, if_false]
      split <;> simp
  | drop w => simp [Demand.perform, Demand.Operation.attempts]

theorem Demand.take?_takes {d' : Demand} (taken : d.take? = some d') : d.Takes d' := by
  unfold Demand.take? at taken
  split at taken
  · cases taken
  next some =>
    split at taken
    next full =>
      cases taken
      exact ⟨some, by rw [if_pos full, full]⟩
    next below =>
      cases taken
      exact ⟨some, (if_neg below).symm⟩

/-- An operation that acquires a unit takes it off the credit and grants none. -/
theorem Demand.takes_of_acquired (h : (d.perform op).2 = true) :
    op.granted = 0 ∧ d.Takes (d.perform op).1 := by
  cases op with
  | request n => cases h
  | requestOnWire n => cases h
  | tryAcquire =>
    obtain ⟨d', taken⟩ := Option.isSome_iff_exists.mp h
    refine ⟨rfl, ?_⟩
    simpa [Demand.perform, taken] using Demand.take?_takes taken
  | acquire =>
    have ready : (d.ask none).2 = .ready := of_decide_eq_true h
    have asked := d.ask_credit none
    rw [if_pos ready] at asked
    exact ⟨rfl, asked⟩
  | poll w =>
    have ready : (d.ask (some w)).2 = .ready := of_decide_eq_true h
    have asked := d.ask_credit (some w)
    rw [if_pos ready] at asked
    exact ⟨rfl, asked⟩
  | drop w => cases h

/-- An operation that acquires nothing leaves the credit and adds what it grants. -/
theorem Demand.credit_of_unacquired (bounded : d.credit ≤ unbounded) (h : (d.perform op).2 = false) :
    (d.perform op).1.credit = min (d.credit + op.granted) unbounded := by
  have kept : min (d.credit + 0) unbounded = d.credit := by omega
  have grants (n : Nat) : (d.grant n).credit = min (d.credit + n) unbounded := by
    by_cases none : n = 0
    · rw [none, kept, Demand.grant, if_pos rfl]
    · exact d.credit_grant none
  cases op with
  | request n => exact grants n.toNat
  | requestOnWire n => exact grants (creditOfDemand n)
  | tryAcquire =>
    have none : d.take? = none := by simpa [Demand.perform] using h
    simpa [Demand.perform, none, Demand.Operation.granted] using kept.symm
  | acquire =>
    have pending : ¬ (d.ask none).2 = .ready := of_decide_eq_false h
    have asked := d.ask_credit none
    rw [if_neg pending] at asked
    exact asked.trans kept.symm
  | poll w =>
    have pending : ¬ (d.ask (some w)).2 = .ready := of_decide_eq_false h
    have asked := d.ask_credit (some w)
    rw [if_neg pending] at asked
    exact asked.trans kept.symm
  | drop w => exact (d.credit_drop w).trans kept.symm

theorem Demand.credit_perform_le (bounded : d.credit ≤ unbounded) (op : Demand.Operation) :
    (d.perform op).1.credit ≤ unbounded := by
  cases h : (d.perform op).2 with
  | true =>
    obtain ⟨_, _, credit⟩ := Demand.takes_of_acquired h
    rw [credit]
    split <;> omega
  | false =>
    rw [Demand.credit_of_unacquired bounded h]
    exact Nat.min_le_right ..

/-- An operation whose grant would exceed the limit brings the credit there. The limit itself is kept by
every operation. -/
theorem Demand.credit_perform_full (bounded : d.credit ≤ unbounded)
    (full : unbounded ≤ d.credit + op.granted) : (d.perform op).1.credit = unbounded := by
  cases h : (d.perform op).2 with
  | true =>
    obtain ⟨none, _, credit⟩ := Demand.takes_of_acquired h
    rw [credit, if_pos (by omega)]
  | false =>
    rw [Demand.credit_of_unacquired bounded h]
    omega

/-- Below the limit an operation moves units from the grants to the credit or from there to those who
acquire them. -/
theorem Demand.credit_perform_below (below : d.credit + op.granted < unbounded) :
    (d.perform op).1.credit + (d.perform op).2.toNat = d.credit + op.granted := by
  cases h : (d.perform op).2 with
  | true =>
    obtain ⟨none, some, credit⟩ := Demand.takes_of_acquired h
    rw [if_neg (by omega)] at credit
    rw [credit, Bool.toNat_true]
    omega
  | false =>
    rw [Demand.credit_of_unacquired (by omega) h, Bool.toNat_false]
    omega

theorem Demand.after_append (d : Demand) (before later : List Demand.Operation) :
    d.after (before ++ later) = (d.after before).after later :=
  List.foldl_append ..

theorem Demand.credit_after_le (bounded : d.credit ≤ unbounded) (ops : List Demand.Operation) :
    (d.after ops).credit ≤ unbounded := by
  induction ops generalizing d with
  | nil => exact bounded
  | cons op ops ih => exact ih (Demand.credit_perform_le bounded op)

theorem Demand.credit_after_full (full : d.credit = unbounded) (ops : List Demand.Operation) :
    (d.after ops).credit = unbounded := by
  induction ops generalizing d with
  | nil => exact full
  | cons op ops ih => exact ih (Demand.credit_perform_full (by omega) (by omega))

theorem Demand.Filled.credit (bounded : d.credit ≤ unbounded) (filled : d.Filled ops) :
    (d.after ops).credit = unbounded := by
  obtain ⟨before, op, later, rfl, full⟩ := filled
  rw [Demand.after_append]
  exact Demand.credit_after_full (Demand.credit_perform_full (Demand.credit_after_le bounded before) full) later

theorem Demand.Filled.cons (filled : (d.perform op).1.Filled ops) : d.Filled (op :: ops) := by
  obtain ⟨before, last, later, rfl, full⟩ := filled
  exact ⟨op :: before, last, later, rfl, full⟩

/-- What is left and what has been acquired make up what there has been at first and what has been granted. -/
theorem Demand.credit_after (below : ¬ d.Filled ops) :
    (d.after ops).credit + d.acquired ops = d.credit + granted ops := by
  induction ops generalizing d with
  | nil => rfl
  | cons op ops ih =>
    have here : d.credit + op.granted < unbounded := by
      by_contra full
      exact below ⟨[], op, ops, rfl, Nat.le_of_not_lt full⟩
    have step := Demand.credit_perform_below here
    have rest : ((d.perform op).1.after ops).credit + (d.perform op).1.acquired ops =
        (d.perform op).1.credit + granted ops := ih fun filled => below filled.cons
    have all : granted (op :: ops) = op.granted + granted ops := rfl
    show ((d.perform op).1.after ops).credit +
      ((d.perform op).2.toNat + (d.perform op).1.acquired ops) = d.credit + granted (op :: ops)
    omega

/-- Credit is conserved, whatever is done with a demand and in whatever order. Until a grant reaches the
limit, the credit and the units acquired make up all that has been granted; from then on the credit stays
at the limit for good, and every attempt succeeds without using it up. At all times an attempt succeeds
just when there is credit, and whatever neither grants nor acquires leaves the credit alone: a waiter that
goes on waiting, and one that is dropped, whether it waits, has been woken or has finished. -/
theorem Demand.credit_conserved (ops : List Demand.Operation) :
    let d := Demand.new.after ops
    (¬ Demand.new.Filled ops → d.credit + Demand.new.acquired ops = Demand.granted ops) ∧
    (Demand.new.Filled ops → ∀ later, (d.after later).credit = unbounded ∧
      ∀ op : Demand.Operation, op.attempts (d.after later) = true →
        ((d.after later).perform op).2 = true ∧
          ((d.after later).perform op).1.credit = unbounded) ∧
    (∀ op : Demand.Operation, (d.perform op).2 = true ↔ op.attempts d = true ∧ d.credit ≠ 0) ∧
    (∀ op : Demand.Operation, op.granted = 0 → (d.perform op).2 = false →
      (d.perform op).1.credit = d.credit) ∧
    (∀ waiter, (d.drop waiter).credit = d.credit) := by
  intro d
  have bounded : d.credit ≤ unbounded := Demand.credit_after_le (Nat.zero_le _) ops
  refine ⟨fun below => ?_, fun filled later => ?_, d.perform_acquires_iff, fun op none idle => ?_,
    d.credit_drop⟩
  · have account : d.credit + Demand.new.acquired ops = 0 + Demand.granted ops :=
      Demand.credit_after below
    rw [account, Nat.zero_add]
  · have full : d.credit = unbounded := filled.credit (Nat.zero_le _)
    have still : (d.after later).credit = unbounded := Demand.credit_after_full full later
    refine ⟨still, fun op attempts => ⟨?_, Demand.credit_perform_full (by omega) (by omega)⟩⟩
    refine ((d.after later).perform_acquires_iff op).mpr ⟨attempts, ?_⟩
    rw [still, unbounded]
    decide
  · rw [Demand.credit_of_unacquired bounded idle, none]
    omega

/-- Two waiters and a grant of five units: one waiter is woken and dropped, which wakes the other. A grant
by the largest demand then reaches the limit, and so does one that makes up for what is missing. -/
theorem Demand.two_waiters_credit_conserved :
    let ops : List Demand.Operation := [.acquire, .acquire, .request 5, .drop 0, .poll 1, .tryAcquire]
    let filling := ops ++ [.requestOnWire 0x7FFFFFFF]
    let topping := ops ++ [.request (.ofNat (unbounded - 3))]
    ¬ Demand.new.Filled ops ∧ (Demand.new.after ops).credit = 3 ∧ Demand.new.acquired ops = 2 ∧
      Demand.granted ops = 5 ∧ Demand.new.Filled filling ∧ Demand.new.Filled topping ∧
      ((Demand.new.after filling).after [.acquire, .tryAcquire]).credit = unbounded ∧
      ((Demand.new.after topping).perform .tryAcquire).2 = true := by
  intro ops filling topping
  have first := Demand.credit_conserved ops
  have below : ¬ Demand.new.Filled ops := fun filled => absurd (first.2.1 filled []).1 (by decide)
  have filled : Demand.new.Filled filling := ⟨ops, _, [], rfl, by decide⟩
  have filled' : Demand.new.Filled topping := ⟨ops, _, [], rfl, by decide⟩
  have last := (Demand.credit_conserved filling).2.1 filled [.acquire, .tryAcquire]
  have last' := (Demand.credit_conserved topping).2.1 filled' []
  have account := first.1 below
  have acquired : Demand.new.acquired ops = 2 := by decide
  have granted : Demand.granted ops = 5 := by decide
  exact ⟨below, by omega, acquired, granted, filled, filled', last.1, (last'.2 .tryAcquire rfl).1⟩

end Multiplexer
