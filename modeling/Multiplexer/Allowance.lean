/-!
Allowances: how much a task may take out of queues before it lets the other tasks go on. A task
that wants more than its allowance is put off, and has a new allowance when it comes back.
-/

namespace Multiplexer

/-- The items that a task may take out of queues in one turn. -/
def turnAllowance : Nat := 128

/-- What is left of an allowance, and whether more has been wanted when nothing was left. -/
structure Allowance where
  left : Nat
  exceeded : Bool
deriving DecidableEq

/-- The allowance at the beginning of a turn. -/
def Allowance.full : Allowance := ⟨turnAllowance, false⟩

def Allowance.isSpent (a : Allowance) : Bool := a.left == 0

/-- Takes one item. -/
def Allowance.spend (a : Allowance) : Allowance := { a with left := a.left - 1 }

/-- Wants one item more than there may be. -/
def Allowance.exceed (a : Allowance) : Allowance := { a with exceeded := true }

end Multiplexer
