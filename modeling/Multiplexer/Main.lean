import Multiplexer.CommandLine.Options
import Multiplexer.Script.Echo
import Multiplexer.Session.Steps

/-!
The echo server as a program. Whoever listens at the address of the server starts the program for
each connection, with the connection as its standard input and output.
-/

namespace Multiplexer

/-- The bytes that are read at once. -/
def chunkSize : USize := 4096

/-- Writes out what there is to be seen of a session, and returns the session without it. -/
def showSession (output log : IO.FS.Stream) (s : Session) : IO Session := do
  let (s, seen) := s.quiesce.observe
  output.write ⟨seen.written.toArray⟩
  output.flush
  for line in seen.alarms.filterMap (Event.logLine? false) do
    log.putStrLn line
  return s

/-- Serves a connection until it has closed. -/
partial def serveConnection (input output log : IO.FS.Stream) (s : Session) : IO Unit := do
  let s ← showSession output log s
  if s.link.isClosed then
    return
  let chunk ← input.read chunkSize
  let change : FramedConnection → FramedConnection :=
    if chunk.isEmpty then .endInput else .feed chunk.toList
  serveConnection input output log (s.onFramed change)

end Multiplexer

open Multiplexer in
def main (args : List String) : IO UInt32 := do
  match Options.parse args with
  | .ok _ =>
    let session := Session.start .standard .echo (.framed (.new longestBody))
    serveConnection (← IO.getStdin) (← IO.getStdout) (← IO.getStderr) session
    return 0
  | .error .helpWanted =>
    IO.println usageText
    return 0
  | .error .versionWanted =>
    IO.println versionText
    return 0
  | .error e =>
    IO.eprintln s!"error: {e.message}"
    return 2
