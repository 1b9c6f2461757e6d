import Multiplexer.Server.Duration

/-!
Back-off: how long a server waits after it has failed to accept a connection. The wait doubles
with each failure in a row, up to a limit.
-/

namespace Multiplexer

/-- The first wait and the longest one. -/
structure Backoff where
  initial : Duration
  limit : Duration
deriving DecidableEq

/-- Ten milliseconds at first, and at most a second. -/
def Backoff.standard : Backoff := ⟨.ofMilliseconds 10, .ofMilliseconds 1000⟩

/-- The shortest wait. -/
def shortestDelay : Duration := .ofMilliseconds 1

/-- Makes both waits at least the shortest one and puts them in order. -/
def Backoff.normalized (b : Backoff) : Backoff :=
  let initial := b.initial.max shortestDelay
  let limit := b.limit.max shortestDelay
  ⟨initial.min limit, initial.max limit⟩

/-- The wait after another failure. -/
def Backoff.next (b : Backoff) (current : Duration) : Duration :=
  current.double.min b.limit

/-- The waits after `failures` more failures in a row. -/
def Backoff.delays (b : Backoff) : Nat → Duration → List Duration
  | 0, _ => []
  | failures + 1, current => b.next current :: b.delays failures (b.next current)

end Multiplexer
