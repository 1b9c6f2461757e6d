import Multiplexer.Responder.Channels

/-!
The dispatcher: what each frame from the peer does. Requests are refused or become tasks; all
other frames act on streams that are active and are ignored where there is none.
-/

namespace Multiplexer

variable {ω : Type}

/-- The outcome of dispatching a frame. A panic of a control that the application brought along
is not caught. -/
structure Dispatched (ω : Type) where
  responder : Responder
  world : ω
  panic : Option Panic

/-- Reads the payload of a request. One that cannot be read is answered and reported. -/
def Responder.readRequest (r : Responder) (settings : Settings) (f : Frame) :
    Except Responder Payload :=
  match settings.reader f with
  | .ok p => .ok p
  | .error e =>
    let failure := Failure.decode f.stream e
    .error ((r.send .dispatcher (.error f.stream failure.code failure.message)).report failure)

/-- Registers an operation without flow control and starts its task. -/
def Responder.startSingle (r : Responder) (kind : SingleRequest) (stream : StreamId)
    (p : Payload) : Responder :=
  match r.registry.registerOutbound stream r.controls.length with
  | (registry, .ok token) =>
    { r with registry }.spawn stream (.task false) (.single kind (some token) (some p))
  | (registry, .error e) => { r with registry }.violation e

def Responder.fireAndForget (r : Responder) (settings : Settings) (f : Frame) : Responder :=
  match settings.reader f with
  | .ok p => r.startSingle .fireAndForget f.stream p
  | .error e => r.report (.decode f.stream e)

def Responder.requestResponse (r : Responder) (settings : Settings) (f : Frame) : Responder :=
  match r.readRequest settings f with
  | .ok p => r.startSingle .requestResponse f.stream p
  | .error r => r

/-- Starts the task of a metadata push, which is not registered. -/
def Responder.metadataPush (r : Responder) (settings : Settings) (f : Frame) : Responder :=
  match settings.reader f with
  | .ok p => r.spawn f.stream (.task false) (.single .metadataPush none (some p))
  | .error e => r.report (.decode f.stream e)

/-- Registers a response stream, grants its initial credit, lets the application open it, and
starts the task that drives it. -/
def Responder.driveStream (r : Responder) (w : ω) (stream : StreamId) (demand : UInt32)
    (channel : Option Nat) (openIt : Nat → ω → Dialogue (Option Panic × ω)) : Responder × ω :=
  let n := r.controls.length
  match r.registry.registerOutbound stream n with
  | (registry, .error e) => (({ r with registry }.violation e).dropOwnChannel channel, w)
  | (registry, .ok token) =>
    let control := Control.stream false (Demand.new.grant (creditOfDemand demand))
    let (r, panic, w) := (openIt n w).run { r with registry, controls := r.controls ++ [control] }
    match panic with
    | none => ({ r with tasks := r.tasks ++ [⟨n, stream, .stream token channel .pulling⟩] }, w)
    | some p =>
      let r := (r.dropOwnChannel channel).record (.handlerPanicked p.message)
      let phase := StreamPhase.broken (.panicked p.message)
      ({ r with tasks := r.tasks ++ [⟨n, stream, .stream token channel phase⟩] }, w)

def Responder.requestStream (r : Responder) (w : ω) (settings : Settings) (app : Application ω)
    (f : Frame) : Responder × ω :=
  match r.readRequest settings f with
  | .ok p => r.driveStream w f.stream f.demand none (fun n w => app.openStream n p w)
  | .error r => (r, w)

/-- Opens a channel: its first payload is queued at once, and its end too if the request
completes the peer's half. -/
def Responder.openInbound (r : Responder) (settings : Settings) (f : Frame) (p : Payload) :
    Except Responder Responder :=
  match r.registry.registerInbound f.stream r.channels.length with
  | (registry, .error e) => .error ({ r with registry }.violation e)
  | (registry, .ok token) =>
    if f.isComplete then
      let channel := ((Channel.new f.stream token 0).push (.next p)).push .complete
      .ok { r with
        registry := (registry.releaseInbound f.stream token).1
        channels := r.channels ++ [channel] }
    else
      let channel := (Channel.new f.stream token settings.initialDemand).push (.next p)
      .ok { r with registry, channels := r.channels ++ [channel] }

def Responder.requestChannel (r : Responder) (w : ω) (settings : Settings) (app : Application ω)
    (f : Frame) : Responder × ω :=
  if r.registry.outbound.contains f.stream || r.registry.inbound.contains f.stream then
    (r.violation (.duplicateStream f.stream), w)
  else
    match r.readRequest settings f with
    | .error r => (r, w)
    | .ok p =>
      match r.openInbound settings f p with
      | .error r => (r, w)
      | .ok opened =>
        opened.driveStream w f.stream f.demand (some r.channels.length)
          (fun n w => app.openChannel n f.stream r.channels.length w)

/-- Takes out the operation of a stream and cancels it. -/
def Responder.cancelStream (r : Responder) (stream : StreamId) : Responder × Option Panic :=
  match r.registry.removeOutbound stream with
  | (registry, some n) =>
    let (controls, panic) := r.controls.cancel n
    ({ r with registry, controls }, panic)
  | (_, none) => (r, none)

/-- Grants credit to the operation of a stream. -/
def Responder.grantStream (r : Responder) (stream : StreamId) (demand : UInt32) :
    Responder × Option Panic :=
  match r.registry.outbound? stream with
  | some n =>
    let (controls, panic) := r.controls.request n (creditOfDemand demand)
    ({ r with controls }, panic)
  | none => (r, none)

def Responder.answerKeepalive (r : Responder) (f : Frame) : Responder :=
  if f.wantsResponse then r.send .dispatcher (.keepalive 0 f.data false) else r

/-- Delivers a payload to a channel, or reports that it cannot be read. -/
def Responder.deliver (r : Responder) (settings : Settings) (n : Nat) (f : Frame) : Responder :=
  match settings.reader f with
  | .ok p => r.signal n (.next p)
  | .error e => r.report (.decode f.stream e)

def Responder.inboundNext (r : Responder) (settings : Settings) (f : Frame) : Responder :=
  match r.registry.inbound? f.stream with
  | some n => r.deliver settings n f
  | none => r

def Responder.inboundNextComplete (r : Responder) (settings : Settings) (f : Frame) : Responder :=
  match r.registry.removeInbound f.stream with
  | (registry, some n) => ({ r with registry }.deliver settings n f).signal n .complete
  | (_, none) => r

/-- Ends the peer's half of a channel with a signal. -/
def Responder.inboundEnd (r : Responder) (stream : StreamId) (s : Signal) : Responder :=
  match r.registry.removeInbound stream with
  | (registry, some n) => { r with registry }.signal n s
  | (_, none) => r

/-- Dispatches one frame from the peer. -/
def Responder.dispatch (r : Responder) (w : ω) (settings : Settings) (app : Application ω)
    (f : Frame) : Dispatched ω :=
  let r := { r with metrics := r.metrics.frameReceived }
  match f.kind with
  | .fireAndForget => ⟨r.fireAndForget settings f, w, none⟩
  | .requestResponse => ⟨r.requestResponse settings f, w, none⟩
  | .requestStream =>
    let (r, w) := r.requestStream w settings app f
    ⟨r, w, none⟩
  | .requestChannel =>
    let (r, w) := r.requestChannel w settings app f
    ⟨r, w, none⟩
  | .metadataPush => ⟨r.metadataPush settings f, w, none⟩
  | .cancel =>
    let (r, panic) := r.cancelStream f.stream
    ⟨r, w, panic⟩
  | .requestN =>
    let (r, panic) := r.grantStream f.stream f.demand
    ⟨r, w, panic⟩
  | .keepalive => ⟨r.answerKeepalive f, w, none⟩
  | .next => ⟨r.inboundNext settings f, w, none⟩
  | .nextComplete => ⟨r.inboundNextComplete settings f, w, none⟩
  | .complete => ⟨r.inboundEnd f.stream .complete, w, none⟩
  | .error => ⟨r.inboundEnd f.stream (.error (.remote f.errorCode f.message)), w, none⟩
  | .payload | .lease => ⟨r, w, none⟩
  | .setup => ⟨r.violation (.unexpectedSetup f.stream), w, none⟩
  | .reserved | .resume | .resumeOk | .ext | .unknown _ =>
    ⟨r.violation (.unexpectedFrame f.stream f.kind), w, none⟩

end Multiplexer
