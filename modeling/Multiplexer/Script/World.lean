import Multiplexer.Script.Single
import Multiplexer.Script.Stream

/-!
The world of a scripted application: its scripts, the gates that are open, the requests that are
being answered, and the record of what has happened.
-/

namespace Multiplexer

/-- Jobs by the number of their task. -/
abbrev Jobs (α : Type) := List (Nat × α)

def Jobs.find? {α : Type} (jobs : Jobs α) (n : Nat) : Option α := List.lookup n jobs

def Jobs.erase {α : Type} (jobs : Jobs α) (n : Nat) : Jobs α := List.filter (fun j => j.1 ≠ n) jobs

def Jobs.set {α : Type} (jobs : Jobs α) (n : Nat) (job : α) : Jobs α :=
  (n, job) :: Jobs.erase jobs n

/-- The world of a scripted application. -/
structure ScriptWorld where
  scripts : Scripts
  gates : List String
  /-- Names that requests have been called by so far, without their numbers. -/
  calls : List String
  singles : Jobs SingleJob
  streams : Jobs StreamJob
  /-- The tasks whose scripts wait at gates, in the order in which they came there. -/
  waiting : List (Nat × String)
  /-- The channel that has been put aside. -/
  stash : Option Nat
  record : Record

def ScriptWorld.new (scripts : Scripts) : ScriptWorld := ⟨scripts, [], [], [], [], [], none, []⟩

def ScriptWorld.openGate (gate : String) (w : ScriptWorld) : ScriptWorld :=
  { w with gates := gate :: w.gates }

/-- Task `n` waits at a gate from now on, unless it already does, or at none. -/
def ScriptWorld.waitAt (n : Nat) (gate : Option String) (w : ScriptWorld) : ScriptWorld :=
  let others := w.waiting.filter (fun x => x.1 ≠ n)
  match gate with
  | some gate => if (n, gate) ∈ w.waiting then w else { w with waiting := others ++ [(n, gate)] }
  | none => { w with waiting := others }

/-- The tasks at gates that have opened, in the order in which they came there. -/
def ScriptWorld.released (w : ScriptWorld) : List Nat :=
  (w.waiting.filter (fun x => x.2 ∈ w.gates)).map Prod.fst

def ScriptWorld.note (w : ScriptWorld) (name : Option String) (events : List ScriptEvent) :
    ScriptWorld :=
  match name with
  | some name => { w with record := w.record ++ events.map (fun e => (name, e)) }
  | none => w

/-- Names a call by its interaction and key, and by how many earlier calls had the same. -/
def ScriptWorld.nameCall (w : ScriptWorld) (interaction key : String) : String × ScriptWorld :=
  let call := s!"{interaction}:{key}"
  (s!"{call}#{w.calls.count call}", { w with calls := call :: w.calls })

/-- The scripts of one kind of single request, its name, and how it is called when it is not
implemented. -/
def Scripts.forSingle (s : Scripts) :
    SingleRequest → ScriptTable (List SingleStep) × String × String
  | .fireAndForget => (s.fireAndForget, "fire_and_forget", "fire-and-forget")
  | .requestResponse => (s.requestResponse, "request_response", "request-response")
  | .metadataPush => (s.metadataPush, "metadata_push", "metadata-push")

/-- The key by which the script of a single request is found. -/
def singleKey (kind : SingleRequest) (p : Payload) : String :=
  match kind with
  | .metadataPush => (p.metadata.getD []).toText
  | .fireAndForget | .requestResponse => p.text

/-- Takes on a request with a single result. -/
def ScriptWorld.startSingle (kind : SingleRequest) (n : Nat) (p : Payload) (w : ScriptWorld) :
    ScriptWorld :=
  let (table, interaction, description) := w.scripts.forSingle kind
  let key := singleKey kind p
  match table.find? key with
  | none =>
    { w with singles := w.singles.set n ⟨none, [], .error (.unsupported description)⟩ }
  | some steps =>
    let (name, w) := w.nameCall interaction key
    let w := w.note name [.start p]
    { w with singles := w.singles.set n ⟨name, steps, .ok p⟩ }

/-- Works on a request with a single result. -/
def ScriptWorld.pollSingle (n : Nat) (w : ScriptWorld) : Poll Item × ScriptWorld :=
  match w.singles.find? n with
  | none => (.pending, w)
  | some job =>
    let (poll, job) := job.run w.gates job.steps job.result
    let w := w.waitAt n (job.gate? poll)
    match poll with
    | .ready x =>
      (.ready x, { w.note job.name [.finished] with singles := w.singles.erase n })
    | poll => (poll, { w with singles := w.singles.set n job })

/-- Runs the steps of a call up to its end or its panic. -/
def ScriptWorld.call (name : String) : List CallStep → Option Nat → ScriptWorld →
    Dialogue (Option Panic × Option Nat × ScriptWorld)
  | [], channel, w => .answer (none, channel, w)
  | .panic p :: _, channel, w => .answer (some p, channel, w.note name [.dropped])
  | .request n :: rest, some c, w => .request c n (ScriptWorld.call name rest (some c) w)
  | .drop :: rest, some c, w => .drop c (ScriptWorld.call name rest none w)
  | .stash :: rest, some c, w =>
    let kept := Dialogue.keep c (ScriptWorld.call name rest none { w with stash := some c })
    match w.stash with
    | some old => .drop old kept
    | none => kept
  | .stash :: rest, none, w =>
    let kept := ScriptWorld.call name rest none { w with stash := none }
    match w.stash with
    | some old => .drop old kept
    | none => kept
  | .request _ :: rest, none, w | .drop :: rest, none, w => ScriptWorld.call name rest none w

/-- Continues a dialogue with a function of its answer. -/
def Dialogue.andThen {ρ τ : Type} (next : ρ → Dialogue τ) : Dialogue ρ → Dialogue τ
  | .answer x => next x
  | .read c k => .read c (fun reply => (k reply).andThen next)
  | .request c n k => .request c n (k.andThen next)
  | .drop c k => .drop c (k.andThen next)
  | .keep c k => .keep c (k.andThen next)
  | .inspect c k => .inspect c (fun reply => (k reply).andThen next)

/-- Opens the response stream of a script. -/
def ScriptWorld.openScript (n : Nat) (name : String) (start : Option Payload) (request : Payload)
    (channel : Option Nat) (script : StreamScript) (w : ScriptWorld) :
    Dialogue (Option Panic × ScriptWorld) :=
  (ScriptWorld.call name script.call channel (w.note name [.start start])).andThen
    fun (panic, channel, w) =>
      match panic with
      | some p => .answer (some p, w)
      | none =>
        let job := StreamJob.mk name request channel 0 [] script.steps
        .answer (none, { w with streams := w.streams.set n job })

/-- A response stream that has nothing but the error of a missing handler. -/
def unsupportedStream (description : String) : StreamJob :=
  ⟨none, .empty, none, 0, [], [.fail (.unsupported description)]⟩

def ScriptWorld.openStream (n : Nat) (p : Payload) (w : ScriptWorld) :
    Dialogue (Option Panic × ScriptWorld) :=
  match w.scripts.requestStream.find? p.text with
  | none =>
    .answer (none, { w with streams := w.streams.set n (unsupportedStream "request-stream") })
  | some script =>
    let (name, w) := w.nameCall "request_stream" p.text
    w.openScript n name p p none script

def ScriptWorld.openChannel (n : Nat) (stream : StreamId) (c : Nat) (w : ScriptWorld) :
    Dialogue (Option Panic × ScriptWorld) :=
  let key := toString stream.value
  match w.scripts.requestChannel.find? key with
  | none =>
    .drop c (.answer (none,
      { w with streams := w.streams.set n (unsupportedStream "request-channel") }))
  | some script =>
    let (name, w) := w.nameCall "request_channel" key
    w.openScript n name none .empty (some c) script

/-- Asks the response stream of a script for its next item. -/
def ScriptWorld.pull (n : Nat) (w : ScriptWorld) : Dialogue (Poll (Option Item) × ScriptWorld) :=
  match w.streams.find? n with
  | none => .answer (.pending, w)
  | some job =>
    (StreamJob.run w.gates job.steps job).andThen fun (poll, job) =>
      let w := (w.note job.name job.events).waitAt n (job.gate? poll)
      match poll with
      | .ready none => .answer (.ready none, { w with streams := w.streams.erase n })
      | poll => .answer (poll, { w with streams := w.streams.set n { job with events := [] } })

/-- Drops what is left of a script. -/
def ScriptWorld.drop (n : Nat) (w : ScriptWorld) : ScriptWorld :=
  let w := w.waitAt n none
  let w := match w.singles.find? n with
    | some job => { w.note job.name [.dropped] with singles := w.singles.erase n }
    | none => w
  match w.streams.find? n with
  | some job => { w.note job.name [.dropped] with streams := w.streams.erase n }
  | none => w

def ScriptWorld.dispose (w : ScriptWorld) : Option Panic × ScriptWorld :=
  (w.scripts.dispose, w.note (some "dispose") [.disposed])

/-- Running task `n` would bring its script further. -/
def ScriptWorld.isAwake (readable : Nat → Bool) (n : Nat) (w : ScriptWorld) : Bool :=
  match w.singles.find? n, w.streams.find? n with
  | some job, _ => job.isAwake w.gates
  | none, some job => job.isAwake w.gates readable
  | none, none => false

/-- The application that follows the scripts of its world. -/
def scriptedApplication : Application ScriptWorld where
  start := ScriptWorld.startSingle
  poll n w := .answer (w.pollSingle n)
  openStream := ScriptWorld.openStream
  openChannel := ScriptWorld.openChannel
  pull := ScriptWorld.pull
  drop n w := .answer (w.drop n)
  dispose w := .answer w.dispose

end Multiplexer
