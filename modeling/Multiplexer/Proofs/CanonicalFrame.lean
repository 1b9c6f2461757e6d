import Multiplexer.Proofs.FrameHeader

/-!
Canonical frames: those that come back from their own body. They are the frames that are read from
bodies, and only they.
-/

namespace Multiplexer

variable {f g : Frame} {rest : Bytes}

@[simp]
def BodyLayout.hasDemand : BodyLayout → Bool
  | .demandAndPayload | .demand => true
  | .payload | .error | .position | .metadata | .empty | .data => false

@[simp]
def BodyLayout.hasPayload : BodyLayout → Bool
  | .demandAndPayload | .payload => true
  | .demand | .error | .position | .metadata | .empty | .data => false

@[simp]
def BodyLayout.hasData : BodyLayout → Bool
  | .demandAndPayload | .payload | .error | .position | .data => true
  | .demand | .metadata | .empty => false

/-- The bytes behind a header that a reader makes use of. -/
def BodyLayout.kept : BodyLayout → Bytes → Bytes
  | .demand, rest => rest.take 4
  | .empty, _ => []
  | .demandAndPayload, rest | .payload, rest | .error, rest | .position, rest | .metadata, rest
  | .data, rest => rest

theorem BodyLayout.length_kept (layout : BodyLayout) (rest : Bytes) :
    (layout.kept rest).length ≤ rest.length := by
  cases layout with
  | demand => exact List.length_take_le' 4 rest
  | empty => exact Nat.zero_le _
  | _ => exact Nat.le_refl _

/-- Flags and code tell the kind, and there is nothing in the frame that a body of its kind has no
place for. -/
structure Frame.Canonical (f : Frame) : Prop where
  kind : f.kindOnWire = f.kind
  payload : f.kind.layout.hasPayload = true →
    f.announcesMetadata = f.metadata.isSome ∧ (f.metadata.getD []).length ≤ metadataLimit
  push : f.kind.layout = .metadata → f.announcesMetadata = true ∧ f.metadata.isSome = true
  plain : f.kind.layout.hasPayload = false → f.kind.layout ≠ .metadata → f.metadata = none
  data : f.kind.layout.hasData = false → f.data = []
  demand : f.kind.layout.hasDemand = false → f.demand = 0
  code : f.kind.layout ≠ .error → f.code = 0
  position : f.kind.layout ≠ .position → f.position = 0

theorem Frame.canonical_iff (f : Frame) : f.Canonical ↔
    f.kindOnWire = f.kind ∧
    (f.kind.layout.hasPayload = true →
      f.announcesMetadata = f.metadata.isSome ∧ (f.metadata.getD []).length ≤ metadataLimit) ∧
    (f.kind.layout = .metadata → f.announcesMetadata = true ∧ f.metadata.isSome = true) ∧
    (f.kind.layout.hasPayload = false → f.kind.layout ≠ .metadata → f.metadata = none) ∧
    (f.kind.layout.hasData = false → f.data = []) ∧
    (f.kind.layout.hasDemand = false → f.demand = 0) ∧
    (f.kind.layout ≠ .error → f.code = 0) ∧ (f.kind.layout ≠ .position → f.position = 0) :=
  ⟨fun ⟨a, b, c, d, e, f, g, h⟩ => ⟨a, b, c, d, e, f, g, h⟩,
    fun ⟨a, b, c, d, e, f, g, h⟩ => ⟨a, b, c, d, e, f, g, h⟩⟩

instance (f : Frame) : Decidable f.Canonical := decidable_of_iff' _ f.canonical_iff

theorem Frame.withMetadata_some (h : g.announcesMetadata = true) (metadata : Bytes) :
    g.withMetadata (some metadata) = { g with metadata := some metadata } := by
  have flags : g.flags.insert .metadata = g.flags := Flags.insert_eq_self h
  simp [Frame.withMetadata, flags]

theorem Frame.readPayload_silent (h : g.announcesMetadata = false) (rest : Bytes) :
    g.readPayload rest = .ok (g.withData rest) := by
  rw [Frame.readPayload, if_neg (by simp [h])]

theorem Frame.readPayload_announced {length : Bytes} (h : g.announcesMetadata = true)
    (three : length.length = 3) (tail : Bytes) :
    g.readPayload (length ++ tail) =
      if tail.length < length.toNat then .error (.metadataTooLong length.toNat tail.length)
      else .ok { g with
        metadata := some (tail.take length.toNat), data := tail.drop length.toNat } := by
  rw [Frame.readPayload, if_pos h, Bytes.field_bind three]
  simp only [List.splitAt_eq, Frame.withMetadata_some h]
  rfl

/-- All that a reader can take for a payload. -/
theorem Frame.readPayload_ok (h : g.readPayload rest = .ok f) :
    g.announcesMetadata = false ∧ f = g.withData rest ∨
      ∃ metadata data, g.announcesMetadata = true ∧ metadata.length ≤ metadataLimit ∧
        rest = Bytes.ofNat 3 metadata.length ++ (metadata ++ data) ∧
        f = { g with metadata := some metadata, data } := by
  cases flag : g.announcesMetadata with
  | false =>
    rw [Frame.readPayload_silent flag rest] at h
    exact .inl ⟨rfl, (Except.ok.inj h).symm⟩
  | true =>
    right
    have read := h
    rw [Frame.readPayload, if_pos flag] at read
    obtain ⟨length, tail, three, rfl, -⟩ := Bytes.field_bind_ok read
    rw [Frame.readPayload_announced flag three tail] at h
    split at h
    · cases h
    next enough =>
      have taken : (tail.take length.toNat).length = length.toNat := by
        rw [List.length_take]
        omega
      have bound := Bytes.toNat_lt length
      have limit : length.toNat ≤ metadataLimit := by
        rw [three] at bound
        exact Nat.le_of_lt_succ bound
      refine ⟨tail.take length.toNat, tail.drop length.toNat, rfl, by omega, ?_,
        (Except.ok.inj h).symm⟩
      rw [taken, List.take_append_drop, ← three, Bytes.ofNat_toNat]

/-- The metadata of a payload that has been read is announced, and its length fits its field. -/
theorem Frame.announced_of_read (blank : g.metadata = none) (h : g.readPayload rest = .ok f) :
    f.announcesMetadata = f.metadata.isSome ∧ (f.metadata.getD []).length ≤ metadataLimit ∧
      ∃ metadata data, f = { g with metadata, data } := by
  obtain ⟨flag, rfl⟩ | ⟨metadata, data, flag, short, -, rfl⟩ := Frame.readPayload_ok h
  · have absent : (g.withData rest).metadata = none := blank
    rw [absent]
    exact ⟨flag, Nat.zero_le _, g.metadata, rest, rfl⟩
  · exact ⟨flag, short, some metadata, data, rfl⟩

theorem Frame.writePayload_of_read (none : g.metadata = none) (h : g.readPayload rest = .ok f) :
    f.kind = g.kind ∧ f.demand = g.demand ∧ f.writePayload = .ok rest := by
  obtain ⟨_, rfl⟩ | ⟨metadata, data, _, short, rfl, rfl⟩ := Frame.readPayload_ok h
  · exact ⟨rfl, rfl, by simp [Frame.writePayload, Frame.withData, none]⟩
  · have fits : ¬ metadataLimit < metadata.length := by omega
    exact ⟨rfl, rfl, by simp [Frame.writePayload, fits]⟩

/-- A payload whose metadata is announced is read back. -/
theorem Frame.readPayload_of_write (flag : f.announcesMetadata = f.metadata.isSome)
    (short : (f.metadata.getD []).length ≤ metadataLimit) :
    ∃ bytes, f.writePayload = .ok bytes ∧
      Frame.readPayload { f with metadata := none, data := [] } bytes = .ok f := by
  cases hm : f.metadata with
  | none =>
    have silent : f.announcesMetadata = false := by rw [flag, hm]; rfl
    refine ⟨f.data, by rw [Frame.writePayload, hm], ?_⟩
    have read := Frame.readPayload_silent (g := { f with metadata := none, data := [] }) silent
      f.data
    rw [read, Frame.withData, ← hm]
  | some metadata =>
    have told : f.announcesMetadata = true := by rw [flag, hm]; rfl
    rw [hm] at short
    have fits : ¬ metadataLimit < metadata.length := Nat.not_lt.mpr short
    have length : (Bytes.ofNat 3 metadata.length).toNat = metadata.length := by
      rw [Bytes.toNat_ofNat]
      exact Nat.mod_eq_of_lt (Nat.lt_succ_of_le short)
    have enough : ¬ (metadata ++ f.data).length < metadata.length := by simp
    refine ⟨Bytes.ofNat 3 metadata.length ++ (metadata ++ f.data), ?_, ?_⟩
    · simp only [Frame.writePayload, hm, if_neg fits]
    · have read := Frame.readPayload_announced (g := { f with metadata := none, data := [] })
        told (Bytes.length_ofNat 3 metadata.length) (metadata ++ f.data)
      rw [read, length, if_neg enough, List.take_left, List.drop_left, ← hm]

section fields

variable {stream : StreamId} {kind : FrameKind} {flags : Flags}

/-- What a reader makes of the fields behind a header is canonical. -/
theorem Frame.canonical_of_readFields
    (told : FrameKind.ofCode (.ofNat (kind.code.toNat % 64)) flags = kind)
    (h : Frame.readFields ⟨stream, kind, flags, 0, 0, 0, none, []⟩ rest = .ok f) :
    f.Canonical := by
  cases layout : kind.layout <;> simp only [Frame.readFields, layout] at h
  case demandAndPayload =>
    obtain ⟨demand, rest, -, rfl, read⟩ := Bytes.field_bind_ok h
    obtain ⟨flag, short, metadata, data, rfl⟩ := Frame.announced_of_read rfl read
    constructor
    case kind => exact told
    case payload => exact fun _ => ⟨flag, short⟩
    all_goals simp [Frame.withDemand, layout]
  case payload =>
    obtain ⟨flag, short, metadata, data, rfl⟩ := Frame.announced_of_read rfl h
    constructor
    case kind => exact told
    case payload => exact fun _ => ⟨flag, short⟩
    all_goals simp [layout]
  case demand =>
    obtain ⟨demand, rest, -, rfl, read⟩ := Bytes.field_bind_ok h
    cases read
    constructor
    case kind => exact told
    all_goals simp [Frame.withDemand, layout]
  case error =>
    obtain ⟨code, rest, -, rfl, read⟩ := Bytes.field_bind_ok h
    cases read
    constructor
    case kind => exact told
    all_goals simp [Frame.withCode, Frame.withData, layout]
  case position =>
    obtain ⟨position, rest, -, rfl, read⟩ := Bytes.field_bind_ok h
    cases read
    constructor
    case kind => exact told
    all_goals simp [Frame.withPosition, Frame.withData, layout]
  case metadata =>
    -- only a push is given its flag by the reader, and its code alone tells the kind
    cases h
    have push : kind = .metadataPush := by
      cases kind with
      | metadataPush => rfl
      | _ => cases layout
    subst push
    constructor
    case kind => rfl
    case push => exact fun _ => ⟨Flags.contains_insert flags .metadata, rfl⟩
    all_goals simp [Frame.withMetadata, layout]
  case empty =>
    cases h
    constructor
    case kind => exact told
    all_goals simp [layout]
  case data =>
    cases h
    constructor
    case kind => exact told
    all_goals simp [Frame.withData, layout]

/-- A frame that has been read writes the bytes that its reader made use of. -/
theorem Frame.writeFields_of_read
    (h : Frame.readFields ⟨stream, kind, flags, 0, 0, 0, none, []⟩ rest = .ok f) :
    f.writeFields = .ok (kind.layout.kept rest) := by
  cases layout : kind.layout <;> simp only [Frame.readFields, layout] at h
  case demandAndPayload =>
    obtain ⟨demand, rest, four, rfl, read⟩ := Bytes.field_bind_ok h
    obtain ⟨same, granted, written⟩ := Frame.writePayload_of_read rfl read
    simp only [Frame.writeFields, same, granted, written, layout, Frame.withDemand]
    exact congrArg (fun word => Except.ok (word ++ rest)) (Bytes.ofNat_word four)
  case payload =>
    obtain ⟨same, -, written⟩ := Frame.writePayload_of_read rfl h
    simp only [Frame.writeFields, same, layout]
    exact written
  case demand =>
    obtain ⟨demand, rest, four, rfl, read⟩ := Bytes.field_bind_ok h
    cases read
    simp only [Frame.writeFields, Frame.withDemand, layout, Bytes.ofNat_word four,
      BodyLayout.kept, List.take_left' four]
  case error =>
    obtain ⟨code, rest, four, rfl, read⟩ := Bytes.field_bind_ok h
    cases read
    simp only [Frame.writeFields, Frame.withCode, Frame.withData, layout, Bytes.ofNat_word four,
      BodyLayout.kept]
  case position =>
    obtain ⟨position, rest, eight, rfl, read⟩ := Bytes.field_bind_ok h
    cases read
    simp only [Frame.writeFields, Frame.withPosition, Frame.withData, layout,
      Bytes.ofNat_long eight, BodyLayout.kept]
  case metadata =>
    cases h
    simp only [Frame.writeFields, Frame.withMetadata, layout, BodyLayout.kept, Option.getD_some]
  case empty =>
    cases h
    simp only [Frame.writeFields, layout, BodyLayout.kept]
  case data =>
    cases h
    simp only [Frame.writeFields, Frame.withData, layout, BodyLayout.kept]

end fields

/-- The fields of a canonical frame are read back behind its header. -/
theorem Frame.readFields_of_write (h : f.Canonical) : ∃ fields, f.writeFields = .ok fields ∧
    Frame.readFields ⟨f.stream, f.kind, f.flags, 0, 0, 0, none, []⟩ fields = .ok f := by
  obtain ⟨stream, kind, flags, demand, code, position, metadata, data⟩ := f
  obtain ⟨-, payload, push, plain, noData, noDemand, noCode, noPosition⟩ := h
  -- whatever the layout has no place for is as blank as in the frame that the reader begins with
  cases layout : kind.layout <;>
    simp [layout] at payload push plain noData noDemand noCode noPosition
  case demandAndPayload =>
    subst noCode noPosition
    obtain ⟨bytes, written, read⟩ := Frame.readPayload_of_write payload.1 payload.2
    refine ⟨Bytes.ofNat 4 demand.toNat ++ bytes, ?_, ?_⟩
    · simp only [Frame.writeFields, layout, written]
      rfl
    · simp only [Frame.readFields, layout]
      rw [Bytes.field_bind (Bytes.length_ofNat 4 _), Bytes.word_ofNat]
      exact read
  case payload =>
    subst noCode noPosition noDemand
    obtain ⟨bytes, written, read⟩ := Frame.readPayload_of_write payload.1 payload.2
    refine ⟨bytes, ?_, ?_⟩
    · simp only [Frame.writeFields, layout, written]
    · simp only [Frame.readFields, layout]
      exact read
  case demand =>
    subst noCode noPosition noData plain
    refine ⟨Bytes.ofNat 4 demand.toNat ++ [], ?_, ?_⟩
    · simp only [Frame.writeFields, layout, List.append_nil]
    · simp only [Frame.readFields, layout]
      rw [Bytes.field_bind (Bytes.length_ofNat 4 _), Bytes.word_ofNat]
      rfl
  case error =>
    subst noPosition noDemand plain
    refine ⟨Bytes.ofNat 4 code.toNat ++ data, ?_, ?_⟩
    · simp only [Frame.writeFields, layout]
    · simp only [Frame.readFields, layout]
      rw [Bytes.field_bind (Bytes.length_ofNat 4 _), Bytes.word_ofNat]
      rfl
  case position =>
    subst noCode noDemand plain
    refine ⟨Bytes.ofNat 8 position.toNat ++ data, ?_, ?_⟩
    · simp only [Frame.writeFields, layout]
    · simp only [Frame.readFields, layout]
      rw [Bytes.field_bind (Bytes.length_ofNat 8 _), Bytes.long_ofNat]
      rfl
  case metadata =>
    subst noCode noPosition noDemand noData
    obtain ⟨told, present⟩ := push
    obtain ⟨bytes, rfl⟩ := Option.isSome_iff_exists.mp present
    refine ⟨bytes, ?_, ?_⟩
    · simp only [Frame.writeFields, layout, Option.getD_some]
    · simp only [Frame.readFields, layout]
      exact congrArg Except.ok
        (Frame.withMetadata_some (g := ⟨stream, kind, flags, 0, 0, 0, none, []⟩) told bytes)
  case empty =>
    subst noCode noPosition noDemand noData plain
    refine ⟨[], ?_, ?_⟩
    · simp only [Frame.writeFields, layout]
    · simp only [Frame.readFields, layout]
  case data =>
    subst noCode noPosition noDemand plain
    refine ⟨data, ?_, ?_⟩
    · simp only [Frame.writeFields, layout]
    · simp only [Frame.readFields, layout]
      rfl

/-- A frame comes back from its own body if it is canonical. -/
theorem Frame.decode_encode (h : f.Canonical) :
    ∃ body, f.encode = .ok body ∧ Frame.decode body = .ok f := by
  obtain ⟨fields, written, read⟩ := Frame.readFields_of_write h
  refine ⟨f.header ++ fields, by rw [Frame.encode, written]; rfl, ?_⟩
  rw [Frame.decode_append f.length_header, Frame.ofHeader_header, h.kind]
  exact read

/-- Every frame that is read from a body is canonical. -/
theorem Frame.canonical_of_decode {body : Bytes} (h : Frame.decode body = .ok f) :
    f.Canonical := by
  obtain ⟨header, rest, six, rfl, read⟩ := Frame.decode_ok h
  exact Frame.canonical_of_readFields (Frame.kindOnWire_ofHeader six) read

/-- A frame that has been read can be written again, in no more bytes. -/
theorem Frame.encode_of_decode {body : Bytes} (h : Frame.decode body = .ok f) :
    ∃ again, f.encode = .ok again ∧ again.length ≤ body.length := by
  obtain ⟨header, rest, six, rfl, read⟩ := Frame.decode_ok h
  have written := Frame.writeFields_of_read read
  refine ⟨_, by rw [Frame.encode, written]; rfl, ?_⟩
  rw [List.length_append, List.length_append, Frame.length_header, six]
  exact Nat.add_le_add_left (BodyLayout.length_kept _ rest) 6

/-- Encoding and decoding are inverse exactly on the canonical frames, and decoding gives no other. -/
theorem Frame.roundtrip_iff_canonical :
    (∀ f : Frame, (∃ body, f.encode = .ok body ∧ Frame.decode body = .ok f) ↔ f.Canonical) ∧
      ∀ body f, Frame.decode body = .ok f → f.Canonical := by
  refine ⟨fun f => ⟨?_, Frame.decode_encode⟩, fun body f => Frame.canonical_of_decode⟩
  rintro ⟨body, -, decoded⟩
  exact Frame.canonical_of_decode decoded

/-- A request for a stream: five items, one byte of metadata, two bytes of data. -/
def Frame.sample : Frame := ⟨.ofNat 1, .requestStream, .metadata, 5, 0, 0, some [7], [8, 9]⟩

theorem Frame.sample_canonical :
    Frame.decode [0, 0, 0, 1, 0x19, 0, 0, 0, 0, 5, 0, 0, 1, 7, 8, 9] = .ok Frame.sample ∧
      Frame.sample.Canonical := by
  have decoded :
      Frame.decode [0, 0, 0, 1, 0x19, 0, 0, 0, 0, 5, 0, 0, 1, 7, 8, 9] = .ok Frame.sample := by cbv
  exact ⟨decoded, Frame.roundtrip_iff_canonical.2 _ _ decoded⟩

end Multiplexer
