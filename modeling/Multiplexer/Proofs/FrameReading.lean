import Multiplexer.Codec.Framing

/-!
One attempt to read a frame from a buffer: all that it can do, what bytes that come later change about
it, and what the attempts that have gone before leave of the state.
-/

namespace Multiplexer

/-- The frame or the failure that an attempt has come to, if it has come to one. -/
def Reading.outcome (reading : Reading) : Option (Except CodecError Frame) :=
  match reading.result with
  | .ok none => none
  | .ok (some f) => some (.ok f)
  | .error e => some (.error e)

/-- Nothing can be read behind a length above the limit. -/
def isFatal {α : Type} : Except CodecError α → Bool
  | .error e => decide (e = .lengthAboveLimit)
  | .ok _ => false

section fatal

variable {α β : Type}

theorem isFatal_bind {x : Except CodecError α} {next : α → Except CodecError β}
    (first : isFatal x = false) (second : ∀ a, isFatal (next a) = false) :
    isFatal (x >>= next) = false := by
  cases x with
  | error e => exact first
  | ok a => exact second a

theorem isFatal_field (bs : Bytes) (kind : Option FrameKind) (needed : Nat) :
    isFatal (bs.field kind needed) = false := by
  unfold Bytes.field
  split <;> rfl

theorem isFatal_readPayload (f : Frame) (rest : Bytes) : isFatal (f.readPayload rest) = false := by
  unfold Frame.readPayload
  split
  next =>
    refine isFatal_bind (isFatal_field _ _ _) ?_
    rintro ⟨length, rest⟩
    dsimp only
    split <;> rfl
  next => rfl

theorem isFatal_readFields (f : Frame) (rest : Bytes) : isFatal (f.readFields rest) = false := by
  unfold Frame.readFields
  split
  case h_1 => exact isFatal_bind (isFatal_field _ _ _) fun _ => isFatal_readPayload _ _
  case h_2 => exact isFatal_readPayload _ _
  case h_3 | h_4 | h_5 => exact isFatal_bind (isFatal_field _ _ _) fun _ => rfl
  case h_6 | h_7 | h_8 => rfl

/-- A body that cannot be decoded does not spoil what stands behind it. -/
theorem isFatal_decode (body : Bytes) : isFatal (Frame.decode body) = false :=
  isFatal_bind (isFatal_field _ _ _) fun _ => isFatal_readFields _ _

end fatal

/-- A body has been taken off a buffer and is decoded. -/
def Framing.taken (framing : Framing) (body rest : Bytes) : Reading :=
  ⟨{ framing with announced := none }, rest, (Frame.decode body).map some⟩

theorem Framing.outcome_taken (framing : Framing) (body rest : Bytes) :
    (framing.taken body rest).outcome = some (Frame.decode body) := by
  show Reading.outcome ⟨_, _, (Frame.decode body).map some⟩ = _
  cases Frame.decode body <;> rfl

/-- All that an attempt to read a frame can do. -/
inductive Framing.Reads (framing : Framing) : Bytes → Reading → Prop
  | short {buffer : Bytes} (free : framing.announced = none) (short : buffer.length < prefixWidth) :
      Reads framing buffer ⟨framing, buffer, .ok none⟩
  | above {length rest : Bytes} (free : framing.announced = none)
      (three : length.length = prefixWidth) (above : framing.limit < length.toNat) :
      Reads framing (length ++ rest) ⟨framing, length ++ rest, .error .lengthAboveLimit⟩
  | opened {length rest : Bytes} (free : framing.announced = none)
      (three : length.length = prefixWidth) (within : length.toNat ≤ framing.limit)
      (short : rest.length < length.toNat) :
      Reads framing (length ++ rest)
        ⟨{ framing with announced := some length.toNat }, rest, .ok none⟩
  | record {length body rest : Bytes} (free : framing.announced = none)
      (three : length.length = prefixWidth) (within : length.toNat ≤ framing.limit)
      (whole : body.length = length.toNat) :
      Reads framing (length ++ (body ++ rest)) (framing.taken body rest)
  | waits {buffer : Bytes} {n : Nat} (announced : framing.announced = some n)
      (short : buffer.length < n) : Reads framing buffer ⟨framing, buffer, .ok none⟩
  | body {body rest : Bytes} (announced : framing.announced = some body.length) :
      Reads framing (body ++ rest) (framing.taken body rest)

variable {framing : Framing} {buffer body rest : Bytes} {reading : Reading} {limit n : Nat}
  {result : Except CodecError Frame}

theorem Framing.readBody_short (h : buffer.length < n) :
    framing.readBody n buffer = ⟨{ framing with announced := some n }, buffer, .ok none⟩ := by
  rw [Framing.readBody, if_pos h]

theorem Framing.readBody_whole (h : body.length = n) :
    framing.readBody n (body ++ rest) = framing.taken body rest := by
  have enough : ¬ (body ++ rest).length < n := by
    rw [List.length_append]
    omega
  rw [Framing.readBody, if_neg enough, List.take_left' h, List.drop_left' h, Framing.taken]

theorem Framing.read_prefix {length : Bytes} (free : framing.announced = none)
    (three : length.length = prefixWidth) (within : length.toNat ≤ framing.limit) :
    framing.read (length ++ rest) = framing.readBody length.toNat rest := by
  have enough : ¬ (length ++ rest).length < prefixWidth := by
    rw [List.length_append]
    omega
  simp only [Framing.read, free, if_neg enough, List.take_left' three, List.drop_left' three,
    if_neg (Nat.not_lt.mpr within)]

theorem Framing.Reads.eq (h : framing.Reads buffer reading) : framing.read buffer = reading := by
  cases h with
  | short free short => simp only [Framing.read, free, if_pos short]
  | @above length rest free three above =>
    have enough : ¬ (length ++ rest).length < prefixWidth := by
      rw [List.length_append]
      omega
    simp only [Framing.read, free, if_neg enough, List.take_left' three, if_pos above]
  | opened free three within short =>
    rw [Framing.read_prefix free three within, Framing.readBody_short short]
  | record free three within whole =>
    rw [Framing.read_prefix free three within, Framing.readBody_whole whole]
  | waits announced short =>
    simp only [Framing.read, announced, Framing.readBody_short short]
    rw [← announced]
  | body announced => simp only [Framing.read, announced, Framing.readBody_whole rfl]

theorem Framing.reads_read (framing : Framing) (buffer : Bytes) :
    framing.Reads buffer (framing.read buffer) := by
  suffices reads : ∃ reading, framing.Reads buffer reading by
    obtain ⟨reading, reads⟩ := reads
    exact reads.eq ▸ reads
  cases free : framing.announced with
  | none =>
    by_cases short : buffer.length < prefixWidth
    · exact ⟨_, .short free short⟩
    have three : (buffer.take prefixWidth).length = prefixWidth := by
      rw [List.length_take]
      omega
    -- the buffer is cut where the attempt cuts it, so that each case is one of the constructors
    rw [← List.take_append_drop prefixWidth buffer]
    generalize buffer.take prefixWidth = length at three
    generalize buffer.drop prefixWidth = rest
    by_cases above : framing.limit < Bytes.toNat length
    · exact ⟨_, .above free three above⟩
    by_cases short : rest.length < Bytes.toNat length
    · exact ⟨_, .opened free three (Nat.not_lt.mp above) short⟩
    have whole : (rest.take (Bytes.toNat length)).length = Bytes.toNat length := by
      rw [List.length_take]
      omega
    rw [← List.take_append_drop (Bytes.toNat length) rest]
    exact ⟨_, .record free three (Nat.not_lt.mp above) whole⟩
  | some n =>
    by_cases short : buffer.length < n
    · exact ⟨_, .waits free short⟩
    have whole : (buffer.take n).length = n := by
      rw [List.length_take]
      omega
    rw [← List.take_append_drop n buffer]
    refine ⟨_, .body ?_⟩
    rw [whole, free]

/-- An attempt that comes to something does so as well when there are more bytes. -/
theorem Framing.Reads.append (h : framing.Reads buffer reading)
    (done : reading.outcome = some result) (more : Bytes) :
    framing.Reads (buffer ++ more) { reading with buffer := reading.buffer ++ more } := by
  cases h with
  | short | opened | waits => cases done
  | above free three above =>
    simp only [List.append_assoc]
    exact .above free three above
  | record free three within whole =>
    simp only [List.append_assoc]
    exact .record free three within whole
  | body announced =>
    rw [List.append_assoc]
    exact .body announced

/-- An attempt that comes to nothing is taken up again when there are more bytes. -/
theorem Framing.Reads.resume (h : framing.Reads buffer reading) (idle : reading.outcome = none)
    (more : Bytes) :
    reading.framing.read (reading.buffer ++ more) = framing.read (buffer ++ more) := by
  cases h with
  | short | waits => rfl
  | above => cases idle
  | record | body =>
    rw [Framing.outcome_taken] at idle
    cases idle
  | opened free three within short =>
    rw [List.append_assoc, Framing.read_prefix free three within]
    rfl

/-- The bytes that there are to read, those of a prefix that has been taken off among them. -/
def Framing.unread (framing : Framing) (buffer : Bytes) : Nat :=
  buffer.length + prefixWidth * framing.announced.isSome.toNat

/-- Whatever an attempt comes to stands behind a prefix of its own. -/
theorem Framing.Reads.unread_le (h : framing.Reads buffer reading)
    (done : reading.outcome = some result) :
    prefixWidth ≤ framing.unread buffer ∧ (isFatal result = false →
      reading.framing.unread reading.buffer + prefixWidth ≤ framing.unread buffer) := by
  have width : prefixWidth = 3 := rfl
  cases h with
  | short | opened | waits => cases done
  | above free three =>
    cases done
    refine ⟨?_, nofun⟩
    simp only [Framing.unread, List.length_append]
    omega
  | record free three =>
    simp only [Framing.unread, Framing.taken, free, Option.isSome_none, Bool.toNat_false,
      List.length_append]
    omega
  | body announced =>
    simp only [Framing.unread, Framing.taken, announced, Option.isSome_none, Option.isSome_some,
      Bool.toNat_false, Bool.toNat_true, List.length_append]
    omega

theorem Framing.Reads.unread_lt (h : framing.Reads buffer reading)
    (done : reading.outcome = some result) (goes : isFatal result = false) :
    reading.framing.unread reading.buffer < framing.unread buffer := by
  have less := (h.unread_le done).2 goes
  have width : prefixWidth = 3 := rfl
  omega

/-- The states of a reader with this limit, whatever it has been given to read. -/
inductive Framing.Reached (limit : Nat) : Framing → Prop
  | new : Reached limit (.new limit)
  | read {framing : Framing} (h : Reached limit framing) (buffer : Bytes) :
      Reached limit (framing.read buffer).framing

/-- The limit is the one that was given. A body that is awaited is within it and not empty. -/
structure Framing.Awaits (limit : Nat) (framing : Framing) : Prop where
  limit : framing.limit = (Framing.new limit).limit
  pos : ∀ n, framing.announced = some n → 0 < n
  within : ∀ n, framing.announced = some n → n ≤ framing.limit

theorem Framing.Awaits.free (same : framing.limit = (Framing.new limit).limit)
    (free : framing.announced = none) : framing.Awaits limit := by
  refine ⟨same, ?_, ?_⟩ <;> intro n announced <;> rw [free] at announced <;> cases announced

theorem Framing.Reads.awaits (h : framing.Reads buffer reading)
    (awaits : framing.Awaits limit) : reading.framing.Awaits limit := by
  cases h with
  | short | above | waits => exact awaits
  | record | body => exact .free awaits.limit rfl
  | opened _ _ within short =>
    refine ⟨awaits.limit, ?_, ?_⟩
    · rintro n ⟨⟩
      exact Nat.zero_lt_of_lt short
    · rintro n ⟨⟩
      exact within

theorem Framing.Reached.awaits (h : Framing.Reached limit framing) : framing.Awaits limit := by
  induction h with
  | new => exact .free rfl rfl
  | @read framing h buffer ih => exact (framing.reads_read buffer).awaits ih

/-- Everything but a length above the limit comes of a body within it. -/
theorem Framing.Reads.decoded (h : framing.Reads buffer reading) (awaits : framing.Awaits limit)
    (done : reading.outcome = some result) (goes : isFatal result = false) :
    ∃ body, body.length ≤ (Framing.new limit).limit ∧ Frame.decode body = result := by
  cases h with
  | short | opened | waits => cases done
  | above =>
    cases done
    cases goes
  | @record length body rest _ _ within whole =>
    rw [Framing.outcome_taken] at done
    exact ⟨body, awaits.limit ▸ whole ▸ within, Option.some.inj done⟩
  | @body body rest announced =>
    rw [Framing.outcome_taken] at done
    exact ⟨body, awaits.limit ▸ awaits.within _ announced, Option.some.inj done⟩

/-- A reader takes bytes off for everything that it comes to. An empty body is no exception, because
its prefix is never taken off without it. -/
theorem Framing.Reads.length_lt (h : framing.Reads buffer reading) (awaits : framing.Awaits limit)
    (done : reading.outcome = some result) (goes : isFatal result = false) :
    reading.buffer.length < buffer.length := by
  cases h with
  | short | opened | waits => cases done
  | above =>
    cases done
    cases goes
  | record free three =>
    have width : prefixWidth = 3 := rfl
    simp only [Framing.taken, List.length_append]
    omega
  | body announced =>
    have pos := awaits.pos _ announced
    simp only [Framing.taken, List.length_append]
    omega

end Multiplexer
