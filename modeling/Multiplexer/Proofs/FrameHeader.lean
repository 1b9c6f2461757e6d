import Multiplexer.Codec.Body

/-!
The header of a body: stream and flags come back from it, and of the kind what its code and the flags
tell. A field of fixed size comes off the front of the bytes that begin with it.
-/

namespace Multiplexer

/-- The kind that a header tells of a frame: its code keeps six bits. -/
def Frame.kindOnWire (f : Frame) : FrameKind :=
  FrameKind.ofCode (.ofNat (f.kind.code.toNat % 64)) f.flags

theorem Flags.insert_eq_self {a b : Flags} (h : a.contains b = true) : a.insert b = a := by
  have both : a.bits &&& b.bits = b.bits := by simpa [Flags.contains] using h
  have same : a.bits ||| b.bits = a.bits := by
    apply BitVec.eq_of_getLsbD_eq
    intro i hi
    have bit := congrArg (fun x => x.getLsbD i) both
    simp only [BitVec.getLsbD_and, BitVec.getLsbD_or] at bit ⊢
    cases ha : a.bits.getLsbD i <;> cases hb : b.bits.getLsbD i <;> simp_all
  rw [Flags.insert, same]

theorem Flags.contains_insert (a b : Flags) : (a.insert b).contains b = true := by
  have both : (a.bits ||| b.bits) &&& b.bits = b.bits := by
    apply BitVec.eq_of_getLsbD_eq
    intro i hi
    simp only [BitVec.getLsbD_and, BitVec.getLsbD_or]
    cases a.bits.getLsbD i <;> cases b.bits.getLsbD i <;> rfl
  simpa [Flags.contains, Flags.insert] using both

theorem FrameKind.ownFlags_plain (kind : FrameKind) : kind.ownFlags.contains .metadata = false := by
  unfold FrameKind.ownFlags
  split <;> decide

/-- Metadata is announced where there is some, even if it is empty. -/
theorem Frame.announcesMetadata_ofPayload (stream : StreamId) (kind : FrameKind) (p : Payload) :
    (Frame.ofPayload stream kind p).announcesMetadata = p.metadata.isSome := by
  obtain ⟨data, metadata⟩ := p
  cases metadata with
  | none => exact kind.ownFlags_plain
  | some bytes => exact Flags.contains_insert kind.ownFlags .metadata

/-- A code is kept by the kind that is made of it. -/
theorem FrameKind.code_ofCode (code : UInt8) (flags : Flags) :
    (FrameKind.ofCode code flags).code = code := by
  have variant : (FrameKind.payloadVariant flags).code = FrameKind.payloadCode := by
    unfold FrameKind.payloadVariant
    split <;> rfl
  unfold FrameKind.ofCode
  split
  case h_11 h => exact variant.trans (UInt8.toNat_inj.mp h.symm)
  case h_17 => rfl
  all_goals
    rename_i h
    exact UInt8.toNat_inj.mp h.symm

theorem Frame.length_header (f : Frame) : f.header.length = 6 := by
  simp [Frame.header]

theorem Frame.headerWord_lt (f : Frame) : f.headerWord < 65536 := by
  have code := Nat.mod_lt f.kind.code.toNat (show 0 < 64 by omega)
  have flags := f.flags.toNat_lt
  unfold Frame.headerWord
  omega

/-- What a reader takes from the header of a frame. -/
theorem Frame.ofHeader_header (f : Frame) :
    Frame.ofHeader f.header = (Frame.new f.stream f.kindOnWire).withFlags f.flags := by
  have stream : Bytes.toNat (f.header.take 4) = f.stream.value := by
    have fits : f.stream.value < Bytes.capacity 4 :=
      Nat.lt_trans f.stream.value_lt (by decide)
    have front : f.header.take 4 = Bytes.ofNat 4 f.stream.value :=
      List.take_left' (Bytes.length_ofNat 4 _)
    rw [front, Bytes.toNat_ofNat, Nat.mod_eq_of_lt fits]
  have word : Bytes.toNat (f.header.drop 4) = f.headerWord := by
    have back : f.header.drop 4 = Bytes.ofNat 2 f.headerWord :=
      List.drop_left' (Bytes.length_ofNat 4 _)
    rw [back, Bytes.toNat_ofNat]
    exact Nat.mod_eq_of_lt f.headerWord_lt
  have flags : Flags.ofNat f.headerWord = f.flags := by
    have low : f.headerWord % 1024 = f.flags.toNat := by
      have small := f.flags.toNat_lt
      unfold Frame.headerWord
      omega
    rw [← Flags.ofNat_toNat (Flags.ofNat f.headerWord), Flags.toNat_ofNat, low, Flags.ofNat_toNat]
  have code : f.headerWord / 1024 = f.kind.code.toNat % 64 := by
    have small := f.flags.toNat_lt
    unfold Frame.headerWord
    omega
  simp only [Frame.ofHeader, stream, word, flags, code, StreamId.ofNat_value]
  rfl

/-- A kind that has been read from a header is the one that its header would tell. -/
theorem Frame.kindOnWire_ofHeader {header : Bytes} (h : header.length = 6) :
    (Frame.ofHeader header).kindOnWire = (Frame.ofHeader header).kind := by
  have word : Bytes.toNat (header.drop 4) < 65536 := by
    have bound := Bytes.toNat_lt (header.drop 4)
    have two : (header.drop 4).length = 2 := by simp [h]
    rw [two] at bound
    exact bound
  have code : (Frame.ofHeader header).kind.code.toNat % 64 = Bytes.toNat (header.drop 4) / 1024 := by
    show (FrameKind.ofCode _ _).code.toNat % 64 = _
    rw [FrameKind.code_ofCode, UInt8.toNat_ofNat']
    omega
  rw [Frame.kindOnWire, code]
  rfl

theorem Bytes.ofNat_word {word : Bytes} (h : word.length = 4) :
    Bytes.ofNat 4 (UInt32.ofNat word.toNat).toNat = word := by
  have bound := Bytes.toNat_lt word
  rw [h] at bound
  have same : word.toNat % 2 ^ 32 = word.toNat := Nat.mod_eq_of_lt bound
  rw [UInt32.toNat_ofNat', same, ← h, Bytes.ofNat_toNat]

theorem Bytes.ofNat_long {long : Bytes} (h : long.length = 8) :
    Bytes.ofNat 8 (UInt64.ofNat long.toNat).toNat = long := by
  have bound := Bytes.toNat_lt long
  rw [h] at bound
  have same : long.toNat % 2 ^ 64 = long.toNat := Nat.mod_eq_of_lt bound
  rw [UInt64.toNat_ofNat', same, ← h, Bytes.ofNat_toNat]

theorem Bytes.word_ofNat (n : UInt32) : UInt32.ofNat (Bytes.ofNat 4 n.toNat).toNat = n := by
  have bound : n.toNat < Bytes.capacity 4 := n.toNat_lt
  rw [Bytes.toNat_ofNat, Nat.mod_eq_of_lt bound, UInt32.ofNat_toNat]

theorem Bytes.long_ofNat (n : UInt64) : UInt64.ofNat (Bytes.ofNat 8 n.toNat).toNat = n := by
  have bound : n.toNat < Bytes.capacity 8 := n.toNat_lt
  rw [Bytes.toNat_ofNat, Nat.mod_eq_of_lt bound, UInt64.ofNat_toNat]

/-- A field that is there comes off the front. -/
theorem Bytes.field_bind {α : Type} {a : Bytes} {n : Nat} (h : a.length = n) (b : Bytes)
    (kind : Option FrameKind) (next : Bytes × Bytes → Except CodecError α) :
    (a ++ b).field kind n >>= next = next (a, b) := by
  have enough : ¬ (a ++ b).length < n := by
    rw [List.length_append]
    omega
  rw [Bytes.field, if_neg enough, List.splitAt_eq, List.take_left' h, List.drop_left' h]
  rfl

theorem Bytes.field_bind_ok {α : Type} {bs : Bytes} {n : Nat} {kind : Option FrameKind}
    {next : Bytes × Bytes → Except CodecError α} {x : α}
    (h : bs.field kind n >>= next = .ok x) :
    ∃ a b, a.length = n ∧ bs = a ++ b ∧ next (a, b) = .ok x := by
  unfold Bytes.field at h
  split at h
  · cases h
  next enough =>
    rw [List.splitAt_eq] at h
    refine ⟨bs.take n, bs.drop n, ?_, (List.take_append_drop n bs).symm, h⟩
    rw [List.length_take]
    omega

theorem Frame.decode_append {header : Bytes} (h : header.length = 6) (rest : Bytes) :
    Frame.decode (header ++ rest) = (Frame.ofHeader header).readFields rest :=
  Bytes.field_bind h rest none _

theorem Frame.decode_ok {body : Bytes} {f : Frame} (h : Frame.decode body = .ok f) :
    ∃ header rest, header.length = 6 ∧ body = header ++ rest ∧
      (Frame.ofHeader header).readFields rest = .ok f :=
  Bytes.field_bind_ok h

end Multiplexer
