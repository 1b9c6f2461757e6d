/-!
Demand: the credit that a peer has granted to a response stream, and the waiters for it. Each
grant wakes one waiter, the one that has waited longest, or leaves a permit for the next one to
wait. Only a woken waiter looks at the credit again. Credit that has reached `unbounded` stays
there and is no longer used up.
-/

namespace Multiplexer

/-- Credit without limit. -/
def unbounded : Nat := UInt64.size - 1

/-- The largest demand that a frame can express; it and anything above it mean no limit. -/
def largestDemand : Nat := 0x7FFFFFFF

/-- The credit that a demand on the wire grants. -/
def creditOfDemand (n : UInt32) : Nat :=
  if largestDemand ≤ n.toNat then unbounded else n.toNat

/-- Credit and the waiters for it: those not yet woken, longest waiting first, those woken, and
the permit that a grant leaves when nobody waits. -/
structure Demand where
  credit : Nat
  waiting : List Nat
  woken : List Nat
  permit : Bool
  started : Nat
deriving DecidableEq

def Demand.new : Demand := ⟨0, [], [], false, 0⟩

/-- What a waiter learns when it asks. -/
inductive Acquisition where
  | ready
  | pending
  /-- The waiter has finished or was dropped before. -/
  | gone
deriving DecidableEq

/-- Wakes the waiter that has waited longest, or leaves a permit. -/
def Demand.wakeOne (d : Demand) : Demand :=
  match d.waiting with
  | [] => { d with permit := true }
  | w :: ws => { d with waiting := ws, woken := d.woken ++ [w] }

/-- Adds credit and wakes one waiter. Nothing granted wakes nobody. -/
def Demand.grant (d : Demand) (n : Nat) : Demand :=
  if n = 0 then d else { d with credit := min (d.credit + n) unbounded }.wakeOne

/-- Takes one unit of credit, if there is any. -/
def Demand.take? (d : Demand) : Option Demand :=
  if d.credit = 0 then none
  else if d.credit = unbounded then some d
  else some { d with credit := d.credit - 1 }

/-- Puts a waiter that found no credit at the end of the queue. A permit left by a grant is used
up by the look that found none. -/
def Demand.enqueue (d : Demand) (w : Nat) : Demand :=
  { d with permit := false, waiting := d.waiting ++ [w] }

/-- Takes a unit of credit for a waiter or puts it into the queue. -/
def Demand.takeOrEnqueue (d : Demand) (w : Nat) : Demand × Acquisition :=
  match d.take? with
  | some d => (d, .ready)
  | none => (d.enqueue w, .pending)

/-- Starts a waiter, which is numbered by those started before it. -/
def Demand.acquire (d : Demand) : Demand × Acquisition :=
  { d with started := d.started + 1 }.takeOrEnqueue d.started

/-- Asks again on behalf of a waiter. -/
def Demand.poll (d : Demand) (w : Nat) : Demand × Acquisition :=
  if w ∈ d.woken then { d with woken := d.woken.erase w }.takeOrEnqueue w
  else if w ∈ d.waiting then (d, .pending)
  else (d, .gone)

/-- Gives up on behalf of a waiter. One that was woken passes its wake on. -/
def Demand.drop (d : Demand) (w : Nat) : Demand :=
  if w ∈ d.woken then { d with woken := d.woken.erase w }.wakeOne
  else { d with waiting := d.waiting.erase w }

def Demand.isUnbounded (d : Demand) : Bool := d.credit == unbounded

@[simp]
theorem Demand.credit_wakeOne (d : Demand) : d.wakeOne.credit = d.credit := by
  unfold Demand.wakeOne
  split <;> rfl

theorem Demand.credit_grant (d : Demand) {n : Nat} (h : n ≠ 0) :
    (d.grant n).credit = min (d.credit + n) unbounded := by
  simp [Demand.grant, h]

@[simp]
theorem Demand.credit_drop (d : Demand) (w : Nat) : (d.drop w).credit = d.credit := by
  unfold Demand.drop
  split <;> simp

end Multiplexer
