import Multiplexer.Failure.Basic
import Multiplexer.Failure.Panic
import Multiplexer.Payload

/-!
Scripts: request handlers written down as lists of steps. Scripts wait for gates, which are opened
from outside, and leave a record of what happens to them.
-/

namespace Multiplexer

/-- A step of a script that answers a request with a single result. -/
inductive SingleStep where
  /-- Waits until a gate is open. -/
  | wait (gate : String)
  /-- Goes no further. -/
  | pend
  | panic (p : Panic)
  /-- Makes an error the result. -/
  | fail (e : HandlerError)
  /-- Makes a payload the result. -/
  | succeed (p : Payload)
deriving DecidableEq

/-- A step of a script that produces a response stream. -/
inductive StreamStep where
  | wait (gate : String)
  | pend
  | panic (p : Panic)
  /-- Yields an error. -/
  | fail (e : HandlerError)
  /-- Yields a payload. -/
  | next (p : Payload)
  /-- Yields the payload of the request. -/
  | echo
  /-- Yields numbers until `n` of them have been yielded by such steps. -/
  | count (n : Nat)
  /-- Yields one item of the channel. -/
  | relay
  /-- Yields every item of the channel. -/
  | relayAll
  /-- Yields every item of the channel, with a payload in place of errors. -/
  | recover (p : Payload)
  /-- Yields every item of the channel and asks for `n` more before each read but the first. -/
  | pull (n : UInt32) (due : Bool)
  /-- Reads up to `n` items of the channel. -/
  | take (n : Nat)
  /-- Asks for `n` more payloads. -/
  | request (n : UInt32)
  /-- Drops the channel. -/
  | drop
  /-- Records whether the channel has terminated. -/
  | inspect
deriving DecidableEq

/-- A step inside the call that opens a response stream. -/
inductive CallStep where
  | panic (p : Panic)
  | request (n : UInt32)
  | drop
  /-- Puts the channel aside, where it outlives the stream. -/
  | stash
deriving DecidableEq

/-- The script of a response stream: what its call does, and then the stream itself. -/
structure StreamScript where
  call : List CallStep
  steps : List StreamStep

/-- The scripts of one kind of request by key. -/
abbrev ScriptTable (α : Type) := List (String × α)

/-- The key of the script that serves a request with no script of its own. -/
def anyKey : String := "*"

def ScriptTable.find? {α : Type} (t : ScriptTable α) (key : String) : Option α :=
  match List.lookup key t with
  | some script => some script
  | none => List.lookup anyKey t

/-- The scripts of an application, and the panic with which it meets its disposal. -/
structure Scripts where
  fireAndForget : ScriptTable (List SingleStep)
  requestResponse : ScriptTable (List SingleStep)
  metadataPush : ScriptTable (List SingleStep)
  requestStream : ScriptTable StreamScript
  requestChannel : ScriptTable StreamScript
  dispose : Option Panic

/-- Something that a script leaves in the record. -/
inductive ScriptEvent where
  /-- The script starts, with the payload of the request if it has one. -/
  | start (p : Option Payload)
  | finished
  /-- The script is dropped before its end. -/
  | dropped
  | produced (p : Payload)
  /-- A read of the channel has an outcome, which is `none` at the end of the channel. -/
  | received (item : Option (Except HandlerError Payload))
  | inspected (channel : Option (StreamId × Bool))
  | disposed

/-- A record of events, each with the name of the script. -/
abbrev Record := List (String × ScriptEvent)

end Multiplexer
