/-!
The counts that a server keeps of its connections, streams, failures and frames.
-/

namespace Multiplexer

/-- Two gauges, which rise and fall, and four counters, which only rise. -/
structure Metrics where
  connections : Int
  streams : Int
  failures : Nat
  connectionPanics : Nat
  framesIn : Nat
  framesOut : Nat
deriving DecidableEq

def Metrics.zero : Metrics := ⟨0, 0, 0, 0, 0, 0⟩

def Metrics.connectionOpened (m : Metrics) : Metrics := { m with connections := m.connections + 1 }

def Metrics.connectionClosed (m : Metrics) : Metrics := { m with connections := m.connections - 1 }

def Metrics.streamOpened (m : Metrics) : Metrics := { m with streams := m.streams + 1 }

def Metrics.streamClosed (m : Metrics) : Metrics := { m with streams := m.streams - 1 }

def Metrics.failed (m : Metrics) : Metrics := { m with failures := m.failures + 1 }

def Metrics.connectionPanicked (m : Metrics) : Metrics :=
  { m with connectionPanics := m.connectionPanics + 1 }

def Metrics.frameReceived (m : Metrics) : Metrics := { m with framesIn := m.framesIn + 1 }

def Metrics.frameSent (m : Metrics) : Metrics := { m with framesOut := m.framesOut + 1 }

/-- The counts of two parts of a server together. -/
def Metrics.add (a b : Metrics) : Metrics :=
  ⟨a.connections + b.connections, a.streams + b.streams, a.failures + b.failures,
    a.connectionPanics + b.connectionPanics, a.framesIn + b.framesIn, a.framesOut + b.framesOut⟩

end Multiplexer
