import Multiplexer.Application
import Multiplexer.Script.Basic

/-!
Scripts that answer with a single result.
-/

namespace Multiplexer

/-- A request that a script is answering: the script's name, the steps that are left, and the
result so far. Without a script the request is answered by the result at once. -/
structure SingleJob where
  name : Option String
  steps : List SingleStep
  result : Item

/-- Runs steps until the result is final or the script has to wait. -/
def SingleJob.run (gates : List String) (job : SingleJob) : List SingleStep → Item →
    Poll Item × SingleJob
  | [], result => (.ready result, { job with steps := [], result })
  | .wait gate :: rest, result =>
    if gate ∈ gates then job.run gates rest result
    else (.pending, { job with steps := .wait gate :: rest, result })
  | .pend :: rest, result => (.pending, { job with steps := .pend :: rest, result })
  | .panic p :: rest, result => (.panicked p, { job with steps := rest, result })
  | .fail e :: rest, _ => job.run gates rest (.error e)
  | .succeed p :: rest, _ => job.run gates rest (.ok p)

/-- The gate at which the job waits after a run. -/
def SingleJob.gate? (job : SingleJob) : Poll Item → Option String
  | .pending => match job.steps with
    | .wait gate :: _ => some gate
    | _ => none
  | _ => none

/-- Running the job would bring it further. -/
def SingleJob.isAwake (gates : List String) (job : SingleJob) : Bool :=
  match job.steps with
  | .wait gate :: _ => gate ∈ gates
  | .pend :: _ => false
  | _ => true

end Multiplexer
