/-!
Durations: spans of time in whole nanoseconds, up to a largest one.
-/

namespace Multiplexer

/-- The nanoseconds of a second. -/
def nanosecondsPerSecond : Nat := 1000000000

/-- The nanoseconds of the longest duration: `UInt64.size - 1` seconds and all nanoseconds but one of
another second. -/
def longestDuration : Nat := (UInt64.size - 1) * nanosecondsPerSecond + 999999999

/-- A span of time. -/
structure Duration where
  nanoseconds : Nat
  nanoseconds_le : nanoseconds ≤ longestDuration
deriving DecidableEq

/-- The duration of some nanoseconds, or the longest one. -/
def Duration.ofNanoseconds (n : Nat) : Duration :=
  ⟨min n longestDuration, Nat.min_le_right _ _⟩

/-- The duration of some seconds and nanoseconds. -/
def Duration.ofParts (seconds nanoseconds : Nat) : Duration :=
  .ofNanoseconds (seconds * nanosecondsPerSecond + nanoseconds)

def Duration.ofMilliseconds (n : Nat) : Duration := .ofNanoseconds (n * 1000000)

/-- The whole seconds of a duration. -/
def Duration.seconds (d : Duration) : Nat := d.nanoseconds / nanosecondsPerSecond

/-- The nanoseconds beyond the whole seconds of a duration. -/
def Duration.fraction (d : Duration) : Nat := d.nanoseconds % nanosecondsPerSecond

def Duration.max (a b : Duration) : Duration := if a.nanoseconds ≤ b.nanoseconds then b else a

def Duration.min (a b : Duration) : Duration := if a.nanoseconds ≤ b.nanoseconds then a else b

/-- Twice a duration, or the longest one. -/
def Duration.double (d : Duration) : Duration := .ofNanoseconds (2 * d.nanoseconds)

end Multiplexer
