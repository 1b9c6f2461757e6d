import Multiplexer.Proofs.CanonicalFrame

/-!
The grammar of bodies: which byte strings are read as a frame, and which check the others fail first. Each
read has its check in front of it, so that none goes beyond the end of a body.
-/

namespace Multiplexer

variable {b rest : Bytes} {f g : Frame} {e : CodecError}

/-- The number that holds the code and the flags of a body. -/
def Bytes.headerWord (b : Bytes) : Nat := Bytes.toNat ((b.drop 4).take 2)

def Bytes.flags (b : Bytes) : Flags := .ofNat b.headerWord

/-- The kind that code and flags of a body give. -/
def Bytes.kind (b : Bytes) : FrameKind := .ofCode (.ofNat (b.headerWord / 1024)) b.flags

/-- The width of the field of fixed size behind the header. -/
def FrameKind.fixedWidth : FrameKind → Nat
  | .requestStream | .requestChannel | .requestN | .error => 4
  | .keepalive => 8
  | _ => 0

/-- Frames of this kind may hold metadata behind its length. -/
def FrameKind.prefixesMetadata : FrameKind → Bool
  | .requestResponse | .fireAndForget | .requestStream | .requestChannel | .payload | .next
  | .complete | .nextComplete => true
  | _ => false

/-- The length of metadata follows the header and the fixed field. -/
def Bytes.tellsLength (b : Bytes) : Bool := b.kind.prefixesMetadata && b.flags.contains .metadata

def Bytes.behindHeader (b : Bytes) : Bytes := b.drop 6

def Bytes.behindFixed (b : Bytes) : Bytes := b.behindHeader.drop b.kind.fixedWidth

/-- The length of the metadata, for a body that tells it. -/
def Bytes.metadataLength (b : Bytes) : Nat := Bytes.toNat (b.behindFixed.take 3)

def Bytes.behindLength (b : Bytes) : Bytes := b.behindFixed.drop 3

/-- Everything that the header and the length of the metadata ask for is there. -/
structure Bytes.IsBody (b : Bytes) : Prop where
  header : 6 ≤ b.length
  fixed : b.kind.fixedWidth ≤ b.behindHeader.length
  length : b.tellsLength = true → 3 ≤ b.behindFixed.length
  metadata : b.tellsLength = true → b.metadataLength ≤ b.behindLength.length

/-- The first check that a body fails, by what is left of it and what is asked for. -/
inductive Bytes.Fails (b : Bytes) : CodecError → Prop where
  | header (short : b.length < 6) : Fails b (.truncated none b.length 6)
  | fixed (header : 6 ≤ b.length) (short : b.behindHeader.length < b.kind.fixedWidth) :
    Fails b (.truncated (some b.kind) b.behindHeader.length b.kind.fixedWidth)
  | length (header : 6 ≤ b.length) (fixed : b.kind.fixedWidth ≤ b.behindHeader.length)
    (told : b.tellsLength = true) (short : b.behindFixed.length < 3) :
    Fails b (.truncated (some b.kind) b.behindFixed.length 3)
  | metadata (header : 6 ≤ b.length) (fixed : b.kind.fixedWidth ≤ b.behindHeader.length)
    (told : b.tellsLength = true) (length : 3 ≤ b.behindFixed.length)
    (long : b.behindLength.length < b.metadataLength) :
    Fails b (.metadataTooLong b.metadataLength b.behindLength.length)

theorem Bytes.isBody_or_fails (b : Bytes) : b.IsBody ∨ ∃ e, b.Fails e := by
  by_cases header : 6 ≤ b.length
  · by_cases fixed : b.kind.fixedWidth ≤ b.behindHeader.length
    · by_cases told : b.tellsLength = true
      · by_cases length : 3 ≤ b.behindFixed.length
        · by_cases metadata : b.metadataLength ≤ b.behindLength.length
          · exact .inl ⟨header, fixed, fun _ => length, fun _ => metadata⟩
          · exact .inr ⟨_, .metadata header fixed told length (Nat.lt_of_not_le metadata)⟩
        · exact .inr ⟨_, .length header fixed told (Nat.lt_of_not_le length)⟩
      · exact .inl ⟨header, fixed, fun yes => absurd yes told, fun yes => absurd yes told⟩
    · exact .inr ⟨_, .fixed header (Nat.lt_of_not_le fixed)⟩
  · exact .inr ⟨_, .header (Nat.lt_of_not_le header)⟩

theorem FrameKind.fixedWidth_eq (kind : FrameKind) : kind.fixedWidth =
    match kind.layout with
    | .demandAndPayload | .demand | .error => 4
    | .position => 8
    | .payload | .metadata | .empty | .data => 0 := by
  cases kind <;> rfl

theorem FrameKind.prefixesMetadata_eq (kind : FrameKind) :
    kind.prefixesMetadata = kind.layout.hasPayload := by
  cases kind <;> rfl

theorem Bytes.field_bind_short {α : Type} {n : Nat} {bs : Bytes} (short : bs.length < n)
    (kind : Option FrameKind) (next : Bytes × Bytes → Except CodecError α) :
    bs.field kind n >>= next = .error (.truncated kind bs.length n) := by
  rw [Bytes.field, if_pos short]
  rfl

theorem Bytes.field_bind_enough {α : Type} {n : Nat} {bs : Bytes} (enough : n ≤ bs.length)
    (kind : Option FrameKind) (next : Bytes × Bytes → Except CodecError α) :
    bs.field kind n >>= next = next (bs.take n, bs.drop n) := by
  have read := Bytes.field_bind (List.length_take_of_le enough) (bs.drop n) kind next
  rwa [List.take_append_drop] at read

theorem Frame.readFields_short (short : rest.length < g.kind.fixedWidth) :
    g.readFields rest = .error (.truncated (some g.kind) rest.length g.kind.fixedWidth) := by
  have width := g.kind.fixedWidth_eq
  unfold Frame.readFields
  cases layout : g.kind.layout <;> simp only [layout] at width <;> rw [width] at short ⊢
  case demandAndPayload | demand | error | position => exact Bytes.field_bind_short short _ _
  case payload | metadata | empty | data => exact absurd short (Nat.not_lt_zero _)

/-- Behind a fixed field that is there comes a payload. -/
theorem Frame.readFields_payload (prefixes : g.kind.prefixesMetadata = true)
    (enough : g.kind.fixedWidth ≤ rest.length) : ∃ g' : Frame, g'.kind = g.kind ∧
      g'.flags = g.flags ∧ g.readFields rest = g'.readPayload (rest.drop g.kind.fixedWidth) := by
  have width := g.kind.fixedWidth_eq
  rw [g.kind.prefixesMetadata_eq] at prefixes
  unfold Frame.readFields
  cases layout : g.kind.layout <;> simp only [layout] at width <;> rw [width] at enough ⊢
  case demandAndPayload =>
    exact ⟨g.withDemand (.ofNat (Bytes.toNat (rest.take 4))), rfl, rfl,
      Bytes.field_bind_enough enough _ _⟩
  case payload => exact ⟨g, rfl, rfl, rfl⟩
  all_goals
    rw [layout] at prefixes
    cases prefixes

/-- Behind a fixed field that is there nothing fails in a frame without a payload. -/
theorem Frame.readFields_plain (plain : g.kind.prefixesMetadata = false)
    (enough : g.kind.fixedWidth ≤ rest.length) : ∃ f, g.readFields rest = .ok f := by
  have width := g.kind.fixedWidth_eq
  rw [g.kind.prefixesMetadata_eq] at plain
  unfold Frame.readFields
  cases layout : g.kind.layout <;> simp only [layout] at width <;> rw [width] at enough
  case demandAndPayload | payload =>
    rw [layout] at plain
    cases plain
  case demand | error | position => exact ⟨_, Bytes.field_bind_enough enough _ _⟩
  case metadata | empty | data => exact ⟨_, rfl⟩

theorem Frame.readPayload_short (told : g.announcesMetadata = true) (short : rest.length < 3) :
    g.readPayload rest = .error (.truncated (some g.kind) rest.length 3) := by
  rw [Frame.readPayload, if_pos told]
  exact Bytes.field_bind_short short _ _

theorem Frame.readPayload_enough (told : g.announcesMetadata = true) (enough : 3 ≤ rest.length) :
    g.readPayload rest =
      let length := Bytes.toNat (rest.take 3)
      let tail := rest.drop 3
      if tail.length < length then .error (.metadataTooLong length tail.length)
      else .ok { g with metadata := some (tail.take length), data := tail.drop length } := by
  have read := Frame.readPayload_announced told (List.length_take_of_le enough) (rest.drop 3)
  rwa [List.take_append_drop] at read

theorem Frame.decode_short (short : b.length < 6) :
    Frame.decode b = .error (.truncated none b.length 6) :=
  Bytes.field_bind_short short _ _

/-- A body with a header is read into a frame of its kind and flags. -/
theorem Frame.decode_header (header : 6 ≤ b.length) : ∃ g : Frame, g.kind = b.kind ∧
    g.flags = b.flags ∧ Frame.decode b = g.readFields b.behindHeader := by
  refine ⟨Frame.ofHeader (b.take 6), ?_, ?_, Bytes.field_bind_enough header _ _⟩
  all_goals
    simp only [Frame.ofHeader, Frame.new, Frame.withFlags, Bytes.kind, Bytes.flags,
      Bytes.headerWord, List.drop_take]

theorem Bytes.IsBody.decode (h : b.IsBody) : ∃ f, Frame.decode b = .ok f := by
  obtain ⟨g, kind, flags, decoded⟩ := Frame.decode_header h.header
  have fixed : g.kind.fixedWidth ≤ b.behindHeader.length := kind ▸ h.fixed
  rw [decoded]
  cases prefixes : g.kind.prefixesMetadata with
  | false => exact Frame.readFields_plain prefixes fixed
  | true =>
    obtain ⟨g', _, flags', read⟩ := Frame.readFields_payload prefixes fixed
    rw [read, kind, ← Bytes.behindFixed]
    cases told : g'.announcesMetadata with
    | false => exact ⟨_, Frame.readPayload_silent told _⟩
    | true =>
      have tells : b.tellsLength = true := by
        rw [Bytes.tellsLength, ← kind, prefixes, ← flags, ← flags']
        exact told
      rw [Frame.readPayload_enough told (h.length tells)]
      exact ⟨_, if_neg (Nat.not_lt.mpr (h.metadata tells))⟩

theorem Bytes.Fails.decode (h : b.Fails e) : Frame.decode b = .error e := by
  -- a body that has its fixed field and tells the length of its metadata
  have payload (header : 6 ≤ b.length) (fixed : b.kind.fixedWidth ≤ b.behindHeader.length)
      (told : b.tellsLength = true) : ∃ g : Frame, g.kind = b.kind ∧
        g.announcesMetadata = true ∧ Frame.decode b = g.readPayload b.behindFixed := by
    obtain ⟨g, kind, flags, decoded⟩ := Frame.decode_header header
    obtain ⟨prefixes, flag⟩ := (Bool.and_eq_true _ _).mp told
    rw [← kind] at prefixes fixed
    obtain ⟨g', kind', flags', read⟩ := Frame.readFields_payload prefixes fixed
    rw [kind] at kind' read
    refine ⟨g', kind', ?_, decoded.trans read⟩
    rw [Frame.announcesMetadata, flags', flags, flag]
  cases h with
  | header short => exact Frame.decode_short short
  | fixed header short =>
    obtain ⟨g, kind, _, decoded⟩ := Frame.decode_header header
    rw [decoded, ← kind]
    exact Frame.readFields_short (kind ▸ short)
  | length header fixed told short =>
    obtain ⟨g, kind, flag, decoded⟩ := payload header fixed told
    rw [decoded, ← kind]
    exact Frame.readPayload_short flag short
  | metadata header fixed told length long =>
    obtain ⟨g, _, flag, decoded⟩ := payload header fixed told
    rw [decoded, Frame.readPayload_enough flag length]
    exact if_pos long

/-- Reading that has no outcome at all where a cut goes beyond the end. -/
abbrev Cutting := ExceptT CodecError Option

/-- Cuts off the first `n` bytes, which have to be there. -/
def Bytes.cut (bs : Bytes) (n : Nat) : Cutting (Bytes × Bytes) :=
  if n ≤ bs.length then pure (bs.take n, bs.drop n) else ExceptT.mk none

/-- Goes on if at least `needed` bytes are left. -/
def Bytes.ensure (bs : Bytes) (kind : Option FrameKind) (needed : Nat) : Cutting Unit :=
  if bs.length < needed then throw (.truncated kind bs.length needed) else pure ()

def Frame.cutPayload (f : Frame) (rest : Bytes) : Cutting Frame := do
  if f.announcesMetadata then
    rest.ensure (some f.kind) 3
    let (length, rest) ← rest.cut 3
    if rest.length < length.toNat then throw (.metadataTooLong length.toNat rest.length)
    let (metadata, data) ← rest.cut length.toNat
    return (f.withMetadata (some metadata)).withData data
  else return f.withData rest

def Frame.cutFields (f : Frame) (rest : Bytes) : Cutting Frame :=
  match f.kind.layout with
  | .demandAndPayload => do
    rest.ensure (some f.kind) 4
    let (demand, rest) ← rest.cut 4
    (f.withDemand (.ofNat demand.toNat)).cutPayload rest
  | .payload => f.cutPayload rest
  | .demand => do
    rest.ensure (some f.kind) 4
    let (demand, _) ← rest.cut 4
    return f.withDemand (.ofNat demand.toNat)
  | .error => do
    rest.ensure (some f.kind) 4
    let (code, rest) ← rest.cut 4
    return (f.withCode (.ofNat code.toNat)).withData rest
  | .position => do
    rest.ensure (some f.kind) 8
    let (position, rest) ← rest.cut 8
    return (f.withPosition (.ofNat position.toNat)).withData rest
  | .metadata => return f.withMetadata (some rest)
  | .empty => return f
  | .data => return f.withData rest

/-- The reader of a body with its checks and its cuts apart. -/
def Frame.cutBody (body : Bytes) : Cutting Frame := do
  body.ensure none 6
  let (stream, rest) ← body.cut 4
  let (word, rest) ← rest.cut 2
  (Frame.ofHeader (stream ++ word)).cutFields rest

theorem Bytes.cut_enough {n : Nat} {bs : Bytes} (enough : n ≤ bs.length) :
    bs.cut n = pure (bs.take n, bs.drop n) :=
  if_pos enough

/-- Behind its check a cut reads the field that it is about. -/
theorem Bytes.ensure_cut {α : Type} (bs : Bytes) (kind : Option FrameKind) (n : Nat)
    {next : Bytes × Bytes → Cutting α} {read : Bytes × Bytes → Except CodecError α}
    (same : ∀ x, (next x).run = some (read x)) :
    (do bs.ensure kind n; next (← bs.cut n)).run = some (bs.field kind n >>= read) := by
  by_cases enough : n ≤ bs.length
  · rw [Bytes.field_bind_enough enough, ← same, Bytes.ensure, if_neg (Nat.not_lt.mpr enough),
      Bytes.cut_enough enough]
    rfl
  · have short := Nat.lt_of_not_le enough
    rw [Bytes.field_bind_short short, Bytes.ensure, if_pos short]
    rfl

theorem Frame.run_cutPayload (f : Frame) (rest : Bytes) :
    (f.cutPayload rest).run = some (f.readPayload rest) := by
  unfold Frame.cutPayload Frame.readPayload
  split
  · refine Bytes.ensure_cut rest (some f.kind) 3 fun ⟨length, tail⟩ => ?_
    dsimp only
    split
    · rfl
    next enough =>
      rw [Bytes.cut_enough (Nat.le_of_not_lt enough), List.splitAt_eq]
      rfl
  · rfl

theorem Frame.run_cutFields (f : Frame) (rest : Bytes) :
    (f.cutFields rest).run = some (f.readFields rest) := by
  unfold Frame.cutFields Frame.readFields
  cases f.kind.layout with
  | demandAndPayload => exact Bytes.ensure_cut rest _ 4 fun x => Frame.run_cutPayload _ x.2
  | payload => exact Frame.run_cutPayload f rest
  | demand => exact Bytes.ensure_cut rest _ 4 fun _ => rfl
  | error => exact Bytes.ensure_cut rest _ 4 fun _ => rfl
  | position => exact Bytes.ensure_cut rest _ 8 fun _ => rfl
  | metadata | empty | data => rfl

/-- No cut of the reader goes beyond the end: its outcome is always that of decoding. -/
theorem Frame.run_cutBody (b : Bytes) : (Frame.cutBody b).run = some (Frame.decode b) := by
  by_cases header : 6 ≤ b.length
  · have word : 2 ≤ (b.drop 4).length := by
      rw [List.length_drop]
      omega
    have decoded : Frame.decode b = (Frame.ofHeader (b.take 6)).readFields (b.drop 6) :=
      Bytes.field_bind_enough header none _
    have halves : b.take 4 ++ (b.drop 4).take 2 = b.take 6 := List.take_add.symm
    have read := Frame.run_cutFields (Frame.ofHeader (b.take 6)) (b.drop 6)
    rw [decoded, ← read, Frame.cutBody, Bytes.ensure, if_neg (Nat.not_lt.mpr header),
      Bytes.cut_enough (Nat.le_trans (by decide) header)]
    simp only [pure_bind, Bytes.cut_enough word, halves, List.drop_drop]
  · have short := Nat.lt_of_not_le header
    rw [Frame.decode_short short, Frame.cutBody, Bytes.ensure, if_pos short]
    rfl

/-- Exactly the bodies of the grammar are decoded, the error of any other is that of the first check
that it fails, and nothing is read beyond the end of either. -/
theorem Frame.decode_grammar (b : Bytes) :
    ((∃ f, Frame.decode b = .ok f) ↔ b.IsBody) ∧
      (∀ e, Frame.decode b = .error e ↔ b.Fails e) ∧
      (Frame.cutBody b).run = some (Frame.decode b) := by
  refine ⟨⟨?_, Bytes.IsBody.decode⟩, fun e => ⟨?_, Bytes.Fails.decode⟩, Frame.run_cutBody b⟩
  · rintro ⟨f, decoded⟩
    obtain body | ⟨e, fails⟩ := b.isBody_or_fails
    · exact body
    · rw [fails.decode] at decoded
      cases decoded
  · intro failed
    obtain body | ⟨e', fails⟩ := b.isBody_or_fails
    · obtain ⟨f, decoded⟩ := body.decode
      rw [failed] at decoded
      cases decoded
    · cases fails.decode.symm.trans failed
      exact fails

end Multiplexer
