import Multiplexer.Server.Basic
import Multiplexer.Session.Steps

/-!
A server at work: it accepts connections from a network and serves each with a session of its own.
All sessions follow the same scripts, share their gates and number their calls together.
-/

namespace Multiplexer

/-- Whether a client finds a way to the server. -/
inductive Network where
  | connected
  /-- There is no route between any two sockets. -/
  | isolated
deriving DecidableEq

/-- An error of the operating system. -/
structure SystemError where
  code : Nat
  kind : String
  message : String
deriving DecidableEq

def SystemError.networkUnreachable : SystemError :=
  ⟨101, "NetworkUnreachable", "Network is unreachable"⟩

/-- An error of the operating system with its parts. -/
def SystemError.text (e : SystemError) : String :=
  s!"Os \x7b code: {e.code}, kind: {e.kind}, message: \"{e.message}\" \x7d"

/-- The way to a server, and what goes wrong on it. -/
def Network.connect : Network → Except SystemError Unit
  | .connected => .ok ()
  | .isolated => .error .networkUnreachable

/-- A connection to a server from both sides: the session that serves it, and what the client
reads, as long as the client is there. -/
structure Client where
  session : Session
  reader : FrameReader
  inbox : List Frame
  present : Bool

/-- A running server. The world is what its sessions share. -/
structure Server where
  settings : ServerSettings
  world : ScriptWorld
  clients : List Client
  log : List String

/-- A server that has been started. Nobody to tell that it is ready is worth a warning. -/
def Server.start (settings : ServerSettings) (scripts : Scripts) (readyListener : Bool) : Server :=
  let log := if readyListener then []
    else ["WARN Failed to send readiness signal: receiver dropped"]
  ⟨settings, .new scripts, [], log⟩

/-- Only one server can listen at an address. -/
def Server.bindAgain (_ : Server) : Except ServerError Unit :=
  .error (.bind "Address already in use (os error 98)")

/-- A session with what the sessions of a server share. -/
def Session.joinWorld (s : Session) (shared : ScriptWorld) : Session :=
  { s with world := { s.world with
      gates := shared.gates, calls := shared.calls, record := shared.record } }

/-- Lets the session of a client run until it has to wait, and the client read what it has
written. -/
def Client.quiesce (c : Client) (shared : ScriptWorld) : Client × ScriptWorld × List String :=
  let session := (c.session.joinWorld shared).quiesce
  let shared := { shared with calls := session.world.calls, record := session.world.record }
  let (session, seen) := session.observe
  let (reader, frames) := c.reader.readAll seen.written
  ({ c with session, reader, inbox := c.inbox ++ frames }, shared,
    seen.alarms.filterMap (Event.logLine? false))

/-- Lets every session run until it has to wait. -/
def Server.quiesce (s : Server) : Server :=
  let (clients, world, log) := s.clients.foldl (fun (clients, world, log) c =>
    let (c, world, lines) := c.quiesce world
    (clients ++ [c], world, log ++ lines)) ([], s.world, s.log)
  { s with clients, world, log }

/-- A client connects. -/
def Server.accept (s : Server) : Server :=
  let link := Link.framed (.new s.settings.frameLimit)
  let client := Client.mk (.start .standard s.world.scripts link) (.new longestBody) [] true
  Server.quiesce { s with clients := s.clients ++ [client] }

/-- Acts on the connection of client `k`. -/
def Server.onConnection (s : Server) (k : Nat) (change : FramedConnection → FramedConnection) :
    Server :=
  match s.clients[k]? with
  | some c =>
    let client := { c with session := c.session.onFramed change }
    Server.quiesce { s with clients := s.clients.set k client }
  | none => s

/-- The socket of client `k` is dropped. -/
def Server.hangUp (s : Server) (k : Nat) : Server :=
  match s.clients[k]? with
  | some c =>
    let s := { s with clients := s.clients.set k { c with present := false } }
    s.onConnection k (fun c => c.endInput.failWrites "Broken pipe (os error 32)")
  | none => s

def Server.openGate (s : Server) (gate : String) : Server :=
  Server.quiesce { s with world := s.world.openGate gate }

/-- Client `k` reads up to `n` frames, and says whether the server had closed before. -/
def Server.read (s : Server) (k n : Nat) : Server × List Frame × Bool :=
  match s.clients[k]? with
  | some c =>
    ({ s with clients := s.clients.set k { c with inbox := c.inbox.drop n } }, c.inbox.take n,
      c.inbox.length < n && c.session.link.isClosed)
  | none => (s, [], false)

/-- Ends the service of every connection. -/
def Server.shutDown (s : Server) : Server :=
  let clients := s.clients.map fun c => { c with session := c.session.disconnect }
  Server.quiesce { s with clients }

/-- The counts of a server, over all its connections. -/
def Server.metrics (s : Server) : Metrics :=
  s.clients.foldl (fun m c => m.add c.session.metrics) .zero

end Multiplexer
