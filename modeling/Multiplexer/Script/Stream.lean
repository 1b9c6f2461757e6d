import Multiplexer.Application
import Multiplexer.Script.Basic

/-!
Scripts that produce a response stream, and read a channel if the request has opened one.
-/

namespace Multiplexer

/-- A response stream that a script is producing: its name, the payload of the request, its
channel as long as it has one, how many numbers it has yielded, and the events not yet recorded.
Without a script the stream has a single error. -/
structure StreamJob where
  name : Option String
  request : Payload
  channel : Option Nat
  counted : Nat
  events : List ScriptEvent
  steps : List StreamStep

/-- How far one call has brought a job. -/
abbrev StreamJob.Progress := Poll (Option Item) × StreamJob

def StreamJob.note (job : StreamJob) (e : ScriptEvent) : StreamJob :=
  { job with events := job.events ++ [e] }

/-- Yields a payload that the script itself has produced. -/
def StreamJob.produce (job : StreamJob) (p : Payload) (rest : List StreamStep) :
    StreamJob.Progress :=
  (.ready (some (.ok p)), { job.note (.produced p) with steps := rest })

/-- Reads the channel: goes on with an item or past the end, or stops where it is. A channel that
is gone is at its end. -/
def StreamJob.read (job : StreamJob) (here : List StreamStep)
    (onItem : Item → StreamJob → Dialogue StreamJob.Progress)
    (onEnd : StreamJob → Dialogue StreamJob.Progress) : Dialogue StreamJob.Progress :=
  match job.channel with
  | none => onEnd (job.note (.received none))
  | some c => .read c fun
    | some (.item x) => onItem x (job.note (.received (some x)))
    | some .pending => .answer (.pending, { job with steps := here })
    | some .finished | none => onEnd (job.note (.received none))

/-- Reads up to `n` items of the channel and goes on after them, or past the end. -/
def StreamJob.skip (rest : List StreamStep) (after : StreamJob → Dialogue StreamJob.Progress) :
    Nat → StreamJob → Dialogue StreamJob.Progress
  | 0, job => after job
  | n + 1, job =>
    job.read (.take (n + 1) :: rest) (fun _ job => StreamJob.skip rest after n job) after

/-- Yields an item of the channel and goes on with `rest`. -/
def StreamJob.pass (rest : List StreamStep) (x : Item) (job : StreamJob) :
    Dialogue StreamJob.Progress :=
  .answer (.ready (some x), { job with steps := rest })

/-- Runs steps until the script yields an item, ends or has to wait. -/
def StreamJob.run (gates : List String) : List StreamStep → StreamJob →
    Dialogue StreamJob.Progress
  | [], job => .answer (.ready none, { job.note .finished with steps := [] })
  | .wait gate :: rest, job =>
    if gate ∈ gates then StreamJob.run gates rest job
    else .answer (.pending, { job with steps := .wait gate :: rest })
  | .pend :: rest, job => .answer (.pending, { job with steps := .pend :: rest })
  | .panic p :: rest, job => .answer (.panicked p, { job with steps := rest })
  | .fail e :: rest, job => .answer (.ready (some (.error e)), { job with steps := rest })
  | .next p :: rest, job => .answer (job.produce p rest)
  | .echo :: rest, job => .answer (job.produce job.request rest)
  | .count n :: rest, job =>
    if job.counted < n then
      .answer ({ job with counted := job.counted + 1 }.produce (.ofText (toString job.counted))
        (.count n :: rest))
    else StreamJob.run gates rest job
  | .relay :: rest, job =>
    job.read (.relay :: rest) (StreamJob.pass rest) (fun job => StreamJob.run gates rest job)
  | .relayAll :: rest, job =>
    job.read (.relayAll :: rest) (StreamJob.pass (.relayAll :: rest))
      (fun job => StreamJob.run gates rest job)
  | .recover p :: rest, job =>
    job.read (.recover p :: rest)
      (fun x => StreamJob.pass (.recover p :: rest) (match x with
        | .ok q => .ok q
        | .error _ => .ok p))
      (fun job => StreamJob.run gates rest job)
  | .pull n due :: rest, job =>
    let reading := job.read (.pull n false :: rest) (StreamJob.pass (.pull n true :: rest))
      (fun job => StreamJob.run gates rest job)
    match due, job.channel with
    | true, some c => .request c n reading
    | _, _ => reading
  | .take n :: rest, job => StreamJob.skip rest (fun job => StreamJob.run gates rest job) n job
  | .request n :: rest, job =>
    match job.channel with
    | some c => .request c n (StreamJob.run gates rest job)
    | none => StreamJob.run gates rest job
  | .drop :: rest, job =>
    match job.channel with
    | some c => .drop c (StreamJob.run gates rest { job with channel := none })
    | none => StreamJob.run gates rest job
  | .inspect :: rest, job =>
    match job.channel with
    | some c => .inspect c fun state => StreamJob.run gates rest (job.note (.inspected state))
    | none => StreamJob.run gates rest (job.note (.inspected none))

/-- The gate at which the job waits after a run. -/
def StreamJob.gate? (job : StreamJob) : Poll (Option Item) → Option String
  | .pending => match job.steps with
    | .wait gate :: _ => some gate
    | _ => none
  | _ => none

/-- Running the job would bring it further, given which channels have something to read. -/
def StreamJob.isAwake (gates : List String) (readable : Nat → Bool) (job : StreamJob) : Bool :=
  match job.steps with
  | .wait gate :: _ => gate ∈ gates
  | .pend :: _ => false
  | .relay :: _ | .relayAll :: _ | .recover _ :: _ | .pull _ false :: _ | .take (_ + 1) :: _ =>
    match job.channel with
    | some c => readable c
    | none => true
  | _ => true

end Multiplexer
