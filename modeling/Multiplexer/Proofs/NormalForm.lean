import Mathlib.Algebra.Group.Nat.Defs
import Multiplexer.Proofs.BodyGrammar

/-!
The normal form of a body: what is written for the frame that it holds. All else that a body tells is
kept by decoding, since two bodies hold the same frame only if they have the same normal form.
-/

namespace Multiplexer

variable {b b' rest : Bytes} {f g : Frame}

/-- The body without the reserved bit of the stream and the bytes that a reader passes over, and with
the flag of its metadata if it is a push. -/
def Bytes.normal (b : Bytes) : Bytes :=
  match b with
  | b₀ :: b₁ :: b₂ :: b₃ :: b₄ :: b₅ :: rest =>
    (b₀ &&& 0x7F) :: b₁ :: b₂ :: b₃ :: (if b.kind = .metadataPush then b₄ ||| 0x01 else b₄) :: b₅ ::
      b.kind.layout.kept rest
  | short => short

/-- A grant keeps the flag that nothing reads, but not the byte behind it. -/
example : Bytes.normal [0x80, 0, 0, 1, 0x22, 0, 0, 0, 0, 5, 9] =
    [0, 0, 0, 1, 0x22, 0, 0, 0, 0, 5] := by decide

section bits

variable {k r s : Nat}

theorem or_of_low (hr : r < 2 ^ k) (hs : s < 2 ^ k) (a : Nat) :
    (2 ^ k * a + r) ||| s = 2 ^ k * a + (r ||| s) := by
  rw [Nat.two_pow_add_eq_or_of_lt hr, Nat.two_pow_add_eq_or_of_lt (Nat.or_lt_two_pow hr hs),
    Nat.or_assoc]

theorem or_of_high (hr : r < 2 ^ k) (a c : Nat) :
    (2 ^ k * a + r) ||| 2 ^ k * c = 2 ^ k * (a ||| c) + r := by
  have above : 2 ^ k * (a ||| c) = 2 ^ k * a ||| 2 ^ k * c := by
    simp only [Nat.mul_comm (2 ^ k), ← Nat.shiftLeft_eq, Nat.shiftLeft_or_distrib]
  rw [Nat.two_pow_add_eq_or_of_lt hr, Nat.two_pow_add_eq_or_of_lt hr, above, Nat.or_assoc,
    Nat.or_comm r, ← Nat.or_assoc]

end bits

/-- A stream is written without the reserved bit in front of it. -/
theorem Bytes.ofNat_stream (b₀ b₁ b₂ b₃ : UInt8) :
    Bytes.ofNat 4 (StreamId.ofNat (Bytes.toNat [b₀, b₁, b₂, b₃])).value =
      [b₀ &&& 0x7F, b₁, b₂, b₃] := by
  have low : (b₀ &&& 0x7F).toNat = b₀.toNat % 128 :=
    (UInt8.toNat_and b₀ 0x7F).trans (Nat.and_two_pow_sub_one_eq_mod b₀.toNat 7)
  have value : (StreamId.ofNat (Bytes.toNat [b₀, b₁, b₂, b₃])).value =
      Bytes.toNat [b₀ &&& 0x7F, b₁, b₂, b₃] := by
    have := b₁.toNat_lt
    have := b₂.toNat_lt
    have := b₃.toNat_lt
    simp only [StreamId.value_ofNat, Bytes.toNat, low, List.length_cons, List.length_nil,
      Bytes.capacity]
    omega
  rw [value]
  exact Bytes.ofNat_toNat [b₀ &&& 0x7F, b₁, b₂, b₃]

/-- Behind the header only a push is given a flag. -/
theorem Frame.readFields_kept (h : g.readFields rest = .ok f) : f.stream = g.stream ∧
    f.kind = g.kind ∧
    f.flags = if g.kind = .metadataPush then g.flags.insert .metadata else g.flags := by
  have payload {g : Frame} {rest : Bytes} (read : g.readPayload rest = .ok f) :
      f.stream = g.stream ∧ f.kind = g.kind ∧ f.flags = g.flags := by
    obtain ⟨-, rfl⟩ | ⟨metadata, data, -, -, -, rfl⟩ := Frame.readPayload_ok read
    all_goals exact ⟨rfl, rfl, rfl⟩
  have plain (layout : g.kind.layout ≠ .metadata) : g.kind ≠ .metadataPush := by
    rintro push
    rw [push] at layout
    exact layout rfl
  cases layout : g.kind.layout <;> simp only [Frame.readFields, layout] at h
  case metadata =>
    cases h
    have push : g.kind = .metadataPush := by
      cases kind : g.kind with
      | metadataPush => rfl
      | _ =>
        rw [kind] at layout
        cases layout
    rw [if_pos push]
    exact ⟨rfl, rfl, rfl⟩
  all_goals rw [if_neg (plain (by rw [layout]; decide))]
  case demandAndPayload =>
    obtain ⟨demand, rest, -, rfl, read⟩ := Bytes.field_bind_ok h
    exact payload (g := g.withDemand (.ofNat demand.toNat)) read
  case payload => exact payload h
  case demand | error | position =>
    obtain ⟨field, rest, -, rfl, read⟩ := Bytes.field_bind_ok h
    cases read
    exact ⟨rfl, rfl, rfl⟩
  case empty | data =>
    cases h
    exact ⟨rfl, rfl, rfl⟩

theorem Bytes.toNat_pair (b₄ b₅ : UInt8) : Bytes.toNat [b₄, b₅] = 2 ^ 8 * b₄.toNat + b₅.toNat := by
  simp only [Bytes.toNat, Bytes.capacity, List.length_cons, List.length_nil]
  omega

theorem Flags.toNat_insert_metadata (flags : Flags) :
    (flags.insert .metadata).toNat = flags.toNat ||| 2 ^ 8 :=
  BitVec.toNat_or flags.bits _

/-- The flag of the metadata is the lowest bit of the first byte of its word. -/
theorem Bytes.toNat_flagged (b₄ b₅ : UInt8) :
    Bytes.toNat [b₄ ||| 0x01, b₅] = Bytes.toNat [b₄, b₅] ||| 2 ^ 8 := by
  rw [Bytes.toNat_pair, Bytes.toNat_pair, UInt8.toNat_or]
  exact (or_of_high b₅.toNat_lt b₄.toNat 1).symm

/-- The header of a frame that has been read, as it is written again. -/
theorem Frame.header_of_read (b₀ b₁ b₂ b₃ b₄ b₅ : UInt8)
    (h : (Frame.ofHeader [b₀, b₁, b₂, b₃, b₄, b₅]).readFields rest = .ok f) :
    f.header =
      [b₀ &&& 0x7F, b₁, b₂, b₃, if f.kind = .metadataPush then b₄ ||| 0x01 else b₄, b₅] := by
  obtain ⟨stream, kind, flags⟩ := Frame.readFields_kept h
  rw [← kind] at flags
  have low : (Frame.ofHeader [b₀, b₁, b₂, b₃, b₄, b₅]).flags.toNat = Bytes.toNat [b₄, b₅] % 1024 :=
    Flags.toNat_ofNat _
  have code : f.kind.code.toNat % 64 = Bytes.toNat [b₄, b₅] / 1024 := by
    have := b₄.toNat_lt
    have := b₅.toNat_lt
    rw [kind]
    show (FrameKind.ofCode (.ofNat (Bytes.toNat [b₄, b₅] / 1024)) _).code.toNat % 64 = _
    rw [FrameKind.code_ofCode, UInt8.toNat_ofNat', Bytes.toNat_pair]
    omega
  have word : f.headerWord =
      Bytes.toNat [if f.kind = .metadataPush then b₄ ||| 0x01 else b₄, b₅] := by
    rw [Frame.headerWord, code, flags]
    split
    · have merged := or_of_low (k := 10) (Nat.mod_lt (Bytes.toNat [b₄, b₅]) (by decide))
        (by decide : 2 ^ 8 < 2 ^ 10) (Bytes.toNat [b₄, b₅] / 1024)
      rw [Flags.toNat_insert_metadata, low, Bytes.toNat_flagged, Nat.mul_comm]
      exact merged.symm.trans (congrArg (· ||| 2 ^ 8) (Nat.div_add_mod _ 1024))
    · rw [low]
      exact Nat.div_add_mod' _ 1024
  have front := Bytes.ofNat_stream b₀ b₁ b₂ b₃
  have back := Bytes.ofNat_toNat [if f.kind = .metadataPush then b₄ ||| 0x01 else b₄, b₅]
  rw [Frame.header, stream, word]
  exact (congrArg (· ++ _) front).trans (congrArg (_ ++ ·) back)

/-- A body that has been read is written again in its normal form. -/
theorem Frame.encode_of_read (h : Frame.decode b = .ok f) : f.encode = .ok b.normal := by
  obtain ⟨header, rest, six, rfl, read⟩ := Frame.decode_ok h
  have written := Frame.writeFields_of_read read
  obtain ⟨-, kind, -⟩ := Frame.readFields_kept read
  match header, six with
  | [b₀, b₁, b₂, b₃, b₄, b₅], _ =>
    have same : f.kind = Bytes.kind (b₀ :: b₁ :: b₂ :: b₃ :: b₄ :: b₅ :: rest) := kind
    have header := Frame.header_of_read b₀ b₁ b₂ b₃ b₄ b₅ read
    rw [same] at header
    rw [Frame.encode, written, header]
    rfl

theorem Frame.decode_normal (h : Frame.decode b = .ok f) : Frame.decode b.normal = .ok f := by
  obtain ⟨again, encoded, decoded⟩ := Frame.decode_encode (Frame.canonical_of_decode h)
  cases (Frame.encode_of_read h).symm.trans encoded
  exact decoded

/-- The number of an error is on the wire what its code says. -/
theorem Frame.errorCode_of_read (h : Frame.decode b = .ok f) (error : f.kind = .error) :
    b.behindHeader.take 4 = Bytes.ofNat 4 f.errorCode.toUInt32.toNat := by
  obtain ⟨header, rest, six, rfl, read⟩ := Frame.decode_ok h
  obtain ⟨-, kind, -⟩ := Frame.readFields_kept read
  have behind : Bytes.behindHeader (header ++ rest) = rest := List.drop_left' six
  have written := Frame.writeFields_of_read read
  have layout : f.kind.layout = .error := by rw [error]; rfl
  have kept : (Frame.ofHeader header).kind.layout.kept rest = rest := by
    rw [← kind, layout]; rfl
  rw [Frame.writeFields, layout] at written
  have fields : Bytes.ofNat 4 f.code.toNat ++ f.data = rest :=
    (Except.ok.inj written).trans kept
  rw [behind, ← fields, List.take_left' (Bytes.length_ofNat 4 _), Frame.errorCode,
    ErrorCode.toUInt32_ofUInt32]

/-- What is read from a body is written in its normal form, which is no longer, holds the same frame and
is its own normal form; bodies with the same frame are those with the same normal form. The number of
an error is never changed by its name. -/
theorem Frame.encode_normal (h : Frame.decode b = .ok f) :
    f.encode = .ok b.normal ∧ b.normal.length ≤ b.length ∧ Frame.decode b.normal = .ok f ∧
      b.normal.normal = b.normal ∧
      (∀ b' f', Frame.decode b' = .ok f' → (f' = f ↔ b'.normal = b.normal)) ∧
      (f.kind = .error → b.behindHeader.take 4 = Bytes.ofNat 4 f.errorCode.toUInt32.toNat) := by
  have encoded := Frame.encode_of_read h
  have decoded := Frame.decode_normal h
  obtain ⟨again, encoded', shorter⟩ := Frame.encode_of_decode h
  cases encoded.symm.trans encoded'
  refine ⟨encoded, shorter, decoded,
    Except.ok.inj ((Frame.encode_of_read decoded).symm.trans encoded), fun b' f' h' => ⟨?_, ?_⟩,
    Frame.errorCode_of_read h⟩
  · rintro rfl
    exact Except.ok.inj ((Frame.encode_of_read h').symm.trans encoded)
  · intro same
    have decoded' := Frame.decode_normal h'
    rw [same] at decoded'
    exact Except.ok.inj (decoded'.symm.trans decoded)

/-- A push whose stream has the reserved bit and whose metadata has not been announced. -/
theorem Frame.encode_normal_push :
    Frame.decode [0x80, 0, 0, 0, 0x30, 0, 7] = .ok (Frame.metadataPush [7]) ∧
      (Frame.metadataPush [7]).encode = .ok [0, 0, 0, 0, 0x31, 0, 7] ∧
      Frame.decode [0, 0, 0, 0, 0x31, 0, 7] = .ok (Frame.metadataPush [7]) := by
  have decoded : Frame.decode [0x80, 0, 0, 0, 0x30, 0, 7] = .ok (Frame.metadataPush [7]) := by cbv
  have normal : Bytes.normal [0x80, 0, 0, 0, 0x30, 0, 7] = [0, 0, 0, 0, 0x31, 0, 7] := by cbv
  obtain ⟨encoded, -, again, -⟩ := Frame.encode_normal decoded
  rw [normal] at encoded again
  exact ⟨decoded, encoded, again⟩

end Multiplexer
