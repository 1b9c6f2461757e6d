/-!
Stream identifiers: 31-bit numbers, of which zero names the connection itself.
-/

namespace Multiplexer

/-- The identifier of a stream. -/
structure StreamId where
  value : Nat
  value_lt : value < 0x80000000 := by omega
deriving DecidableEq

/-- The identifier that the lowest 31 bits of a number give. -/
def StreamId.ofNat (n : Nat) : StreamId :=
  ⟨n % 0x80000000, Nat.mod_lt _ (by omega)⟩

/-- The identifier of the connection itself. -/
def StreamId.connection : StreamId := ⟨0, by omega⟩

def StreamId.isConnection (id : StreamId) : Bool := id.value == 0

def StreamId.text (id : StreamId) : String := s!"StreamId({id.value})"

instance : Inhabited StreamId := ⟨StreamId.connection⟩

@[ext]
theorem StreamId.ext {a b : StreamId} (h : a.value = b.value) : a = b := by
  cases a; cases b; cases h; rfl

theorem StreamId.ofNat_value (id : StreamId) : StreamId.ofNat id.value = id :=
  StreamId.ext (Nat.mod_eq_of_lt id.value_lt)

@[simp]
theorem StreamId.value_ofNat (n : Nat) : (StreamId.ofNat n).value = n % 0x80000000 := rfl

end Multiplexer
