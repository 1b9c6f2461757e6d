import Mathlib.Algebra.Group.Nat.Defs
import Mathlib.Data.List.Induction
import Mathlib.Logic.Function.Iterate
import Multiplexer.Server.Backoff

/-!
The waits of a server that fails to accept connections. Doubled again and again under a limit, a wait is the
first one times a power of two or the limit, as if durations had no end.
-/

namespace Multiplexer

/-! ### Durations by seconds and nanoseconds -/

/-- Doubles a number of seconds and the nanoseconds beyond them, with a carry. Beyond the last second that
there is, the result is the longest duration. -/
def doubleParts (seconds nanoseconds : Nat) : Nat × Nat :=
  let carry := 2 * nanoseconds / nanosecondsPerSecond
  if 2 * seconds + carry < UInt64.size then
    (2 * seconds + carry, 2 * nanoseconds % nanosecondsPerSecond)
  else (UInt64.size - 1, nanosecondsPerSecond - 1)

theorem nanosecondsPerSecond_eq : nanosecondsPerSecond = 1000000000 := rfl

theorem longestDuration_eq : longestDuration = 18446744073709551615999999999 := rfl

theorem size_of_seconds : UInt64.size = 18446744073709551616 := rfl

theorem Duration.nanoseconds_eq (d : Duration) :
    d.nanoseconds = nanosecondsPerSecond * d.seconds + d.fraction :=
  (Nat.div_add_mod ..).symm

theorem Duration.fraction_lt (d : Duration) : d.fraction < nanosecondsPerSecond :=
  Nat.mod_lt _ (by simp [nanosecondsPerSecond])

theorem Duration.seconds_lt (d : Duration) : d.seconds < UInt64.size := by
  have bound := d.nanoseconds_le
  have parts := d.nanoseconds_eq
  rw [longestDuration_eq] at bound
  rw [nanosecondsPerSecond_eq] at parts
  rw [size_of_seconds]
  omega

theorem Duration.double_parts (d : Duration) :
    (d.double.seconds, d.double.fraction) = doubleParts d.seconds d.fraction := by
  have parts := d.nanoseconds_eq
  have below := d.fraction_lt
  have doubled : d.double.nanoseconds = Min.min (2 * d.nanoseconds) longestDuration := rfl
  rw [nanosecondsPerSecond_eq] at parts below
  rw [Duration.seconds, Duration.fraction, doubled, doubleParts, parts, nanosecondsPerSecond_eq,
    size_of_seconds, longestDuration_eq]
  split <;> refine Prod.ext ?_ ?_ <;> dsimp only <;> omega

@[simp]
theorem Duration.nanoseconds_min (a b : Duration) :
    (a.min b).nanoseconds = Min.min a.nanoseconds b.nanoseconds := by
  unfold Duration.min
  split <;> omega

@[simp]
theorem Duration.nanoseconds_max (a b : Duration) :
    (a.max b).nanoseconds = Max.max a.nanoseconds b.nanoseconds := by
  unfold Duration.max
  split <;> omega

theorem Duration.ext_nanoseconds {a b : Duration} (same : a.nanoseconds = b.nanoseconds) : a = b := by
  cases a
  cases b
  cases same
  rfl

/-! ### The two delays of a configuration -/

/-- Both delays are at least the shortest one, and the first is no longer than the limit. -/
structure Backoff.Ordered (b : Backoff) : Prop where
  shortest : shortestDelay.nanoseconds ≤ b.initial.nanoseconds
  ascending : b.initial.nanoseconds ≤ b.limit.nanoseconds

theorem Backoff.ordered_normalized (b : Backoff) : b.normalized.Ordered := by
  constructor <;> simp only [Backoff.normalized, Duration.nanoseconds_min, Duration.nanoseconds_max] <;>
    omega

/-- There is nothing to do where the delays are in order. -/
theorem Backoff.Ordered.normalized_eq {b : Backoff} (h : b.Ordered) : b.normalized = b := by
  obtain ⟨initial, limit⟩ := b
  obtain ⟨shortest, ascending⟩ := h
  dsimp only at shortest ascending
  refine congr (congrArg Backoff.mk (Duration.ext_nanoseconds ?_)) (Duration.ext_nanoseconds ?_) <;>
    simp only [Duration.nanoseconds_min, Duration.nanoseconds_max] <;> omega

/-! ### The waits after failures in a row -/

/-- The limit keeps the doubling away from the longest duration, or the longest duration is the limit. -/
theorem Backoff.nanoseconds_next (b : Backoff) (current : Duration) :
    (b.next current).nanoseconds = min (2 * current.nanoseconds) b.limit.nanoseconds := by
  have doubled : current.double.nanoseconds = min (2 * current.nanoseconds) longestDuration := rfl
  have bound := b.limit.nanoseconds_le
  rw [Backoff.next, Duration.nanoseconds_min, doubled]
  omega

theorem Backoff.Ordered.nanoseconds_iterate {b : Backoff} (h : b.Ordered) (k : Nat) :
    (b.next^[k] b.initial).nanoseconds = min (b.initial.nanoseconds * 2 ^ k) b.limit.nanoseconds := by
  induction k with
  | zero =>
    have ascending := h.ascending
    rw [Function.iterate_zero, id_eq, Nat.pow_zero]
    omega
  | succ k ih =>
    have power : b.initial.nanoseconds * 2 ^ (k + 1) = 2 * (b.initial.nanoseconds * 2 ^ k) := by
      rw [Nat.pow_succ, ← Nat.mul_assoc, Nat.mul_comm]
    rw [Function.iterate_succ_apply', Backoff.nanoseconds_next, ih, power]
    omega

theorem Backoff.Ordered.iterate_le_next {b : Backoff} (h : b.Ordered) (k : Nat) :
    (b.next^[k] b.initial).nanoseconds ≤ (b.next^[k + 1] b.initial).nanoseconds := by
  have here := h.nanoseconds_iterate k
  rw [Function.iterate_succ_apply', Backoff.nanoseconds_next]
  omega

theorem Backoff.Ordered.shortest_le_iterate {b : Backoff} (h : b.Ordered) (k : Nat) :
    shortestDelay.nanoseconds ≤ (b.next^[k] b.initial).nanoseconds := by
  induction k with
  | zero => exact h.shortest
  | succ k ih => exact Nat.le_trans ih (h.iterate_le_next k)

theorem Backoff.delays_eq (b : Backoff) (failures : Nat) (current : Duration) :
    b.delays failures current = (List.range failures).map fun k => b.next^[k + 1] current := by
  induction failures generalizing current with
  | zero => rfl
  | succ failures ih =>
    rw [Backoff.delays, ih, List.range_succ_eq_map, List.map_cons, List.map_map]
    rfl

/-- The wait that the next failure costs once an attempt has come to its end. A connection that has been
accepted sets it back. -/
def Backoff.after (b : Backoff) (current : Duration) (accepted : Bool) : Duration :=
  if accepted then b.initial else b.next current

/-- The wait that the next failure costs a server after these attempts to accept a connection. -/
def Backoff.waitAfter (b : Backoff) (attempts : List Bool) : Duration :=
  attempts.foldl b.after b.initial

/-- The failures in a row with which the attempts end. -/
def failuresInARow (attempts : List Bool) : Nat := (attempts.reverse.takeWhile (!·)).length

theorem Backoff.waitAfter_eq (b : Backoff) (attempts : List Bool) :
    b.waitAfter attempts = b.next^[failuresInARow attempts] b.initial := by
  -- the last attempt decides, so the induction is from the end
  induction attempts using List.reverseRecOn with
  | nil => rfl
  | append_singleton attempts accepted ih =>
    have last : b.waitAfter (attempts ++ [accepted]) = b.after (b.waitAfter attempts) accepted :=
      List.foldl_append ..
    rw [last, ih, Backoff.after]
    cases accepted with
    | true =>
      have none : failuresInARow (attempts ++ [true]) = 0 := by simp [failuresInARow]
      rw [none, if_pos rfl, Function.iterate_zero, id_eq]
    | false =>
      have more : failuresInARow (attempts ++ [false]) = failuresInARow attempts + 1 := by
        simp [failuresInARow]
      rw [more, if_neg Bool.false_ne_true, Function.iterate_succ_apply']

/-- What a server waits for, whatever delays it has been given. They are put in order and made at least the
shortest delay, which changes nothing more when it is done again. After `k` failures in a row the next one
costs the first delay times `2 ^ k` in exact nanoseconds, or the limit if that is shorter; a connection that is
accepted in between sets the count back. No wait is shorter than the one before it or than the shortest delay,
or longer than the limit. The doubling in seconds and nanoseconds that ends at the longest duration comes
to the same. -/
theorem Backoff.waits_closed_form (given : Backoff) :
    let b := given.normalized
    let raised (d : Duration) := max d.nanoseconds shortestDelay.nanoseconds
    shortestDelay.nanoseconds = 1000000 ∧ b.Ordered ∧ b.normalized = b ∧
      b.initial.nanoseconds = min (raised given.initial) (raised given.limit) ∧
      b.limit.nanoseconds = max (raised given.initial) (raised given.limit) ∧
      (∀ attempts, b.waitAfter attempts = b.next^[failuresInARow attempts] b.initial) ∧
      (∀ n, b.delays n b.initial = (List.range n).map fun k => b.next^[k + 1] b.initial) ∧
      ∀ k, let wait := b.next^[k] b.initial
        wait.nanoseconds = min (b.initial.nanoseconds * 2 ^ k) b.limit.nanoseconds ∧
        wait.nanoseconds ≤ (b.next wait).nanoseconds ∧ wait.nanoseconds ≤ b.limit.nanoseconds ∧
        shortestDelay.nanoseconds ≤ wait.nanoseconds ∧ wait.seconds < UInt64.size ∧
        (wait.double.seconds, wait.double.fraction) = doubleParts wait.seconds wait.fraction := by
  intro b raised
  have ordered : b.Ordered := given.ordered_normalized
  refine ⟨rfl, ordered, ordered.normalized_eq, ?_, ?_, b.waitAfter_eq,
    fun n => b.delays_eq n b.initial, fun k => ?_⟩
  · show (given.normalized).initial.nanoseconds = _
    rw [Backoff.normalized, Duration.nanoseconds_min, Duration.nanoseconds_max, Duration.nanoseconds_max]
  · show (given.normalized).limit.nanoseconds = _
    rw [Backoff.normalized, Duration.nanoseconds_max, Duration.nanoseconds_max, Duration.nanoseconds_max]
  · intro wait
    have closed : wait.nanoseconds = min (b.initial.nanoseconds * 2 ^ k) b.limit.nanoseconds :=
      ordered.nanoseconds_iterate k
    have rises : wait.nanoseconds ≤ (b.next wait).nanoseconds := by
      have later := ordered.iterate_le_next k
      rwa [Function.iterate_succ_apply'] at later
    exact ⟨closed, rises, closed ▸ Nat.min_le_right .., ordered.shortest_le_iterate k, wait.seconds_lt,
      wait.double_parts⟩

example : (Backoff.standard.waitAfter [false, true, false, false]).nanoseconds = 40000000 := by decide

end Multiplexer
