/-!
The flag bits of a frame. Five of the ten have a meaning, which for two of them depends on the
kind of the frame.
-/

namespace Multiplexer

/-- The ten flag bits of a frame. -/
structure Flags where
  bits : BitVec 10
deriving DecidableEq

/-- The flags in the lowest ten bits of a number. -/
def Flags.ofNat (n : Nat) : Flags := ⟨BitVec.ofNat 10 n⟩

def Flags.toNat (flags : Flags) : Nat := flags.bits.toNat

def Flags.none : Flags := ⟨0⟩

/-- The frame may be ignored by a receiver that does not know its kind. -/
def Flags.ignore : Flags := ⟨0x200⟩

/-- The frame carries metadata. -/
def Flags.metadata : Flags := ⟨0x100⟩

/-- The payload goes on in another frame. -/
def Flags.follows : Flags := ⟨0x080⟩

/-- A keepalive frame asks for an answer. -/
def Flags.respond : Flags := ⟨0x080⟩

/-- The sender's half of the stream ends with this frame. -/
def Flags.complete : Flags := ⟨0x040⟩

/-- The frame carries an item of the stream. -/
def Flags.next : Flags := ⟨0x020⟩

/-- All flags of `b` are set in `a`. -/
def Flags.contains (a b : Flags) : Bool := a.bits &&& b.bits == b.bits

/-- The flags of `a` and those of `b`. -/
def Flags.insert (a b : Flags) : Flags := ⟨a.bits ||| b.bits⟩

/-- The flags of `a` that are not in `b`. -/
def Flags.erase (a b : Flags) : Flags := ⟨a.bits &&& ~~~b.bits⟩

instance : Inhabited Flags := ⟨Flags.none⟩

@[simp]
theorem Flags.toNat_ofNat (n : Nat) : (Flags.ofNat n).toNat = n % 1024 := by
  simp [Flags.ofNat, Flags.toNat]

theorem Flags.toNat_lt (flags : Flags) : flags.toNat < 1024 := flags.bits.isLt

@[simp]
theorem Flags.ofNat_toNat (flags : Flags) : Flags.ofNat flags.toNat = flags := by
  simp [Flags.ofNat, Flags.toNat]

end Multiplexer
