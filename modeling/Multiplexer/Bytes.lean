/-!
Byte strings, and numbers written in them most significant byte first. The main statements are
that a number comes back from its bytes (`Bytes.toNat_ofNat`) and that bytes come back from
their number (`Bytes.ofNat_toNat`).
-/

namespace Multiplexer

abbrev Bytes := List UInt8

/-- How many byte strings of a width there are. -/
def Bytes.capacity : Nat → Nat
  | 0 => 1
  | width + 1 => Bytes.capacity width * 256

/-- The number that a byte string writes, most significant byte first. -/
def Bytes.toNat : Bytes → Nat
  | [] => 0
  | b :: bs => b.toNat * Bytes.capacity bs.length + Bytes.toNat bs

/-- The lowest `width` bytes of a number, most significant first. -/
def Bytes.ofNat : Nat → Nat → Bytes
  | 0, _ => []
  | width + 1, n => UInt8.ofNat (n / Bytes.capacity width) :: Bytes.ofNat width n

/-- The bytes of a text in UTF-8. -/
def Bytes.ofText (text : String) : Bytes :=
  text.toUTF8.toList

@[simp]
theorem Bytes.length_ofNat (width n : Nat) : (Bytes.ofNat width n).length = width := by
  induction width with
  | zero => rfl
  | succ width ih => simp [Bytes.ofNat, ih]

theorem Bytes.capacity_pos (width : Nat) : 0 < Bytes.capacity width := by
  induction width with
  | zero => decide
  | succ width ih => exact Nat.mul_pos ih (by decide)

theorem Bytes.toNat_lt (bs : Bytes) : bs.toNat < Bytes.capacity bs.length := by
  induction bs with
  | nil => decide
  | cons b bs ih =>
    have hb := b.toNat_lt
    have hm : b.toNat * Bytes.capacity bs.length ≤ 255 * Bytes.capacity bs.length :=
      Nat.mul_le_mul_right _ (by omega)
    simp only [Bytes.toNat, Bytes.capacity, List.length_cons]
    omega

/-- Writing a number in some bytes keeps it modulo the number of such byte strings. -/
theorem Bytes.toNat_ofNat (width n : Nat) :
    (Bytes.ofNat width n).toNat = n % Bytes.capacity width := by
  induction width with
  | zero => exact (Nat.mod_one n).symm
  | succ width ih =>
    have hm : n % Bytes.capacity (width + 1) = n % Bytes.capacity width +
        Bytes.capacity width * (n / Bytes.capacity width % 256) := Nat.mod_mul
    simp only [Bytes.ofNat, Bytes.toNat, Bytes.length_ofNat, ih, UInt8.toNat_ofNat', Nat.reducePow]
    rw [hm, Nat.mul_comm, Nat.add_comm]

theorem Bytes.ofNat_add_mul (width n k : Nat) :
    Bytes.ofNat width (n + k * Bytes.capacity width) = Bytes.ofNat width n := by
  induction width generalizing k with
  | zero => rfl
  | succ width ih =>
    have hs : n + k * Bytes.capacity (width + 1) = n + (k * 256) * Bytes.capacity width := by
      simp [Bytes.capacity, Nat.mul_assoc, Nat.mul_comm]
    have hp := Bytes.capacity_pos width
    simp only [Bytes.ofNat, hs, ih, Nat.add_mul_div_right _ _ hp, List.cons.injEq, and_true]
    apply UInt8.toNat_inj.mp
    simp [UInt8.toNat_ofNat']

/-- A byte string is the writing of its own number in its own width. -/
theorem Bytes.ofNat_toNat (bs : Bytes) : Bytes.ofNat bs.length bs.toNat = bs := by
  induction bs with
  | nil => rfl
  | cons b bs ih =>
    have hp := Bytes.capacity_pos bs.length
    have hlt := Bytes.toNat_lt bs
    have hd : (b.toNat * Bytes.capacity bs.length + Bytes.toNat bs) / Bytes.capacity bs.length =
        b.toNat := by
      rw [Nat.add_comm, Nat.add_mul_div_right _ _ hp, Nat.div_eq_of_lt hlt, Nat.zero_add]
    simp only [List.length_cons, Bytes.toNat, Bytes.ofNat, hd, UInt8.ofNat_toNat]
    rw [Nat.add_comm, Bytes.ofNat_add_mul, ih]

end Multiplexer
