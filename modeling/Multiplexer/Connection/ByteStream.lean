import Multiplexer.Bytes

/-!
The two ends of a byte stream as a connection sees them: the bytes that have arrived and how they
end, and the bytes that the peer is ready to take.
-/

namespace Multiplexer

/-- The bytes that have arrived and not been read, and what follows them. -/
structure ByteSource where
  unread : Bytes
  ended : Bool
  failure : Option String
deriving DecidableEq

def ByteSource.empty : ByteSource := ⟨[], false, none⟩

def ByteSource.feed (s : ByteSource) (bs : Bytes) : ByteSource :=
  { s with unread := s.unread ++ bs }

/-- The bytes that the peer has taken and how many more it is ready to take, all of them where
there is no number. -/
structure ByteSink where
  taken : Bytes
  capacity : Option Nat
  failure : Option String
deriving DecidableEq

def ByteSink.empty : ByteSink := ⟨[], none, none⟩

/-- How far a write has got. -/
inductive WriteProgress where
  | done
  | blocked
  | failed (message : String)
deriving DecidableEq

/-- Writes as many bytes as the peer takes, and returns the others. -/
def ByteSink.write (s : ByteSink) (bs : Bytes) : ByteSink × Bytes × WriteProgress :=
  match bs, s.failure, s.capacity with
  | [], _, _ => (s, [], .done)
  | bs, some message, _ => (s, bs, .failed message)
  | bs, none, none => ({ s with taken := s.taken ++ bs }, [], .done)
  | bs, none, some n =>
    ({ s with taken := s.taken ++ bs.take n, capacity := some (n - bs.length) }, bs.drop n,
      if n < bs.length then .blocked else .done)

end Multiplexer
