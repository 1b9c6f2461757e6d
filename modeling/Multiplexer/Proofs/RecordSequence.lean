import Multiplexer.Proofs.ChunkedDecoding

/-!
A byte stream as records: those in front that hold frames, and a tail behind them. The tail ends the
stream in an error if its first record is malformed or it stops inside of it. A reader comes to the frames
and then to the error, if there is one.
-/

namespace Multiplexer

/-- Bytes with a record in front that makes reading fail. -/
inductive Framing.Malformed (limit : Nat) : Bytes → CodecError → Prop
  | undecodable {body : Bytes} {e : CodecError} (within : body.length ≤ (Framing.new limit).limit)
      (failed : Frame.decode body = .error e) (rest : Bytes) : Malformed limit (body.record ++ rest) e
  | above {length : Bytes} (three : length.length = prefixWidth)
      (above : (Framing.new limit).limit < length.toNat) (rest : Bytes) :
      Malformed limit (length ++ rest) .lengthAboveLimit

/-- Bytes that end inside of a record. A prefix with nothing behind it does not count. -/
inductive Framing.Cut (limit : Nat) : Bytes → Prop
  | inPrefix {begun : Bytes} (begins : begun ≠ []) (short : begun.length < prefixWidth) : Cut limit begun
  | inBody {length begun : Bytes} (three : length.length = prefixWidth)
      (within : length.toNat ≤ (Framing.new limit).limit) (begins : begun ≠ [])
      (short : begun.length < length.toNat) : Cut limit (length ++ begun)

/-- The error, if there is one, in which bytes end that have no whole record in front. -/
inductive Framing.Ends (limit : Nat) : Bytes → Option CodecError → Prop
  | boundary : Ends limit [] none
  | opened {length : Bytes} (three : length.length = prefixWidth) (pos : 0 < length.toNat)
      (within : length.toNat ≤ (Framing.new limit).limit) : Ends limit length none
  | malformed {tail : Bytes} {e : CodecError} (h : Malformed limit tail e) : Ends limit tail (some e)
  | cut {tail : Bytes} (h : Cut limit tail) : Ends limit tail (some .bytesRemaining)

/-- Bytes as the records of some frames and a tail behind them. -/
inductive Framing.Splits (limit : Nat) : Bytes → List Frame → Bytes → Prop
  | tail (tail : Bytes) : Splits limit tail [] tail
  | record {body rest tail : Bytes} {f : Frame} {fs : List Frame}
      (within : body.length ≤ (Framing.new limit).limit) (decoded : Frame.decode body = .ok f)
      (behind : Splits limit rest fs tail) : Splits limit (body.record ++ rest) (f :: fs) tail

/-- The items that a reader has still to come to when no bytes are added any more. -/
inductive Framing.Yields : Framing → Bytes → List (Except CodecError Frame) → Prop
  | frame {framing : Framing} {buffer : Bytes} {f : Frame} {items : List (Except CodecError Frame)}
      (read : (framing.readLast buffer).result = .ok (some f))
      (behind : Yields (framing.readLast buffer).framing (framing.readLast buffer).buffer items) :
      Yields framing buffer (.ok f :: items)
  | error {framing : Framing} {buffer : Bytes} {e : CodecError}
      (read : (framing.readLast buffer).result = .error e) : Yields framing buffer [.error e]
  | finished {framing : Framing} {buffer : Bytes}
      (read : (framing.readLast buffer).result = .ok none) : Yields framing buffer []

variable {framing : Framing} {buffer body rest tail : Bytes} {reading : Reading} {limit : Nat}
  {items : List (Except CodecError Frame)} {f : Frame} {fs : List Frame} {e : CodecError}
  {error : Option CodecError}

/-! ### Reading on to the end -/

/-- An attempt that comes to something does so as well when the bytes have ended. -/
theorem Framing.Reads.last {result : Except CodecError Frame} (h : framing.Reads buffer reading)
    (done : reading.outcome = some result) (more : Bytes) :
    framing.readLast (buffer ++ more) = { reading with buffer := reading.buffer ++ more } := by
  have same := (h.append done more).eq
  have comes : reading.result ≠ .ok none := by
    intro idle
    rw [Reading.outcome, idle] at done
    cases done
  simp only [Framing.readLast, same]

theorem Framing.Yields.congr {other : Framing} {bytes : Bytes} (h : framing.Yields buffer items)
    (same : other.read bytes = framing.read buffer) : other.Yields bytes items := by
  have last : other.readLast bytes = framing.readLast buffer := by
    simp only [Framing.readLast, same]
  cases h with
  | frame read behind => exact .frame (last ▸ read) (last ▸ behind)
  | error read => exact .error (last ▸ read)
  | finished read => exact .finished (last ▸ read)

/-- The frame that an attempt comes to is the next item, whatever is behind it. -/
theorem Framing.Yields.of_frame {more : Bytes} (h : framing.Yields (buffer ++ more) items)
    (reads : framing.Reads buffer reading) (result : reading.result = .ok (some f)) :
    ∃ others, items = .ok f :: others ∧ reading.framing.Yields (reading.buffer ++ more) others := by
  have last := reads.last (by rw [Reading.outcome, result]) more
  cases h with
  | frame read behind =>
    rw [last] at read behind
    cases result.symm.trans read
    exact ⟨_, rfl, behind⟩
  | error read => cases result.symm.trans (last ▸ read)
  | finished read => cases result.symm.trans (last ▸ read)

/-- The error that an attempt comes to is the last item, whatever is behind it. -/
theorem Framing.Yields.of_error {more : Bytes} (h : framing.Yields (buffer ++ more) items)
    (reads : framing.Reads buffer reading) (result : reading.result = .error e) :
    items = [.error e] := by
  have last := reads.last (by rw [Reading.outcome, result]) more
  cases h with
  | frame read => cases result.symm.trans (last ▸ read)
  | error read =>
    cases result.symm.trans (last ▸ read)
    rfl
  | finished read => cases result.symm.trans (last ▸ read)

/-- An attempt that comes to nothing changes nothing about what is still to come. -/
theorem Framing.Yields.of_idle {more : Bytes} (h : framing.Yields (buffer ++ more) items)
    (reads : framing.Reads buffer reading) (result : reading.result = .ok none) :
    reading.framing.Yields (reading.buffer ++ more) items :=
  h.congr (reads.resume (by simp [Reading.outcome, result]) more)

/-! ### The records of a byte stream -/

theorem Bytes.record_of_prefix {length : Bytes} (three : length.length = prefixWidth)
    (whole : body.length = length.toNat) : body.record = length ++ body := by
  rw [Bytes.record, whole, ← three, Bytes.ofNat_toNat]

/-- Every byte stream is some records and a tail with no whole record in front. -/
theorem Framing.splits (limit : Nat) (bytes : Bytes) :
    ∃ fs tail error, Framing.Splits limit bytes fs tail ∧ Framing.Ends limit tail error := by
  have reads := (Framing.new limit).reads_read bytes
  generalize (Framing.new limit).read bytes = reading at reads
  cases reads with
  | short free short =>
    by_cases empty : bytes = []
    · exact ⟨[], [], none, empty ▸ .tail _, .boundary⟩
    · exact ⟨[], bytes, _, .tail _, .cut (.inPrefix empty short)⟩
  | above free three above => exact ⟨[], _, _, .tail _, .malformed (.above three above _)⟩
  | @opened length rest free three within short =>
    by_cases empty : rest = []
    · subst empty
      rw [List.append_nil]
      exact ⟨[], length, none, .tail _, .opened three short within⟩
    · exact ⟨[], _, _, .tail _, .cut (.inBody three within empty short)⟩
  | @record length body rest free three within whole =>
    have same := Bytes.record_of_prefix three whole
    rw [← whole] at within
    rw [← List.append_assoc, ← same]
    cases decoded : Frame.decode body with
    | error e => exact ⟨[], _, _, .tail _, .malformed (.undecodable within decoded rest)⟩
    | ok f =>
      obtain ⟨fs, tail, error, split, ends⟩ := Framing.splits limit rest
      exact ⟨f :: fs, tail, error, .record within decoded split, ends⟩
  | waits announced => cases announced
  | body announced => cases announced
termination_by bytes.length
decreasing_by
  simp only [List.length_append]
  have width : prefixWidth = 3 := rfl
  omega

theorem Framing.Malformed.yields (h : Framing.Malformed limit tail e) :
    (Framing.new limit).Yields tail [.error e] := by
  cases h with
  | @undecodable body e within failed rest =>
    have reads := Framing.reads_record rfl within (Framing.limit_new limit) rest
    have last := reads.last (Framing.outcome_taken _ _ _) []
    rw [List.append_nil] at last
    exact .error (by rw [last, Framing.taken, failed]; rfl)
  | @above length three above rest =>
    have reads : (Framing.new limit).Reads (length ++ rest) _ := .above rfl three above
    have last := reads.last rfl []
    rw [List.append_nil] at last
    exact .error (by rw [last])

/-- The end of a byte stream as a reader sees it. -/
theorem Framing.Ends.yields (h : Framing.Ends limit tail error) :
    (Framing.new limit).Yields tail (error.map Except.error).toList := by
  have idle {buffer : Bytes} {reading : Reading} (reads : (Framing.new limit).Reads buffer reading)
      (result : reading.result = .ok none) : (Framing.new limit).readLast buffer =
        if reading.buffer.isEmpty then reading
        else { reading with result := .error .bytesRemaining } := by
    simp only [Framing.readLast, reads.eq, result]
  cases h with
  | boundary => exact .finished (by rw [idle (.short rfl (by decide)) rfl]; rfl)
  | opened three pos within =>
    have reads : (Framing.new limit).Reads (tail ++ []) _ := .opened rfl three within pos
    rw [List.append_nil] at reads
    exact .finished (by rw [idle reads rfl]; rfl)
  | malformed h => exact h.yields
  | cut h =>
    cases h with
    | inPrefix begins short =>
      have left : tail.isEmpty = false := by simpa using begins
      exact .error (by rw [idle (.short rfl short) rfl, left]; rfl)
    | @inBody length begun three within begins short =>
      have left : begun.isEmpty = false := by simpa using begins
      exact .error (by rw [idle (.opened rfl three within short) rfl, left]; rfl)

theorem Framing.Splits.yields {bytes : Bytes} (h : Framing.Splits limit bytes fs tail)
    (ends : Framing.Ends limit tail error) :
    (Framing.new limit).Yields bytes (fs.map Except.ok ++ (error.map Except.error).toList) := by
  induction h with
  | tail tail => exact ends.yields
  | @record body rest tail f fs within decoded behind ih =>
    have reads : (Framing.new limit).Reads (body.record ++ rest) _ :=
      Framing.reads_record rfl within (Framing.limit_new limit) rest
    have last := reads.last (Framing.outcome_taken _ _ _) []
    rw [List.append_nil, List.append_nil] at last
    refine .frame (f := f) (by rw [last, Framing.taken, decoded]; rfl) ?_
    rw [last]
    exact ih ends

/-- A tail with no whole record in front has none that holds a frame. -/
theorem Framing.Ends.ne_record (h : Framing.Ends limit tail error)
    (within : body.length ≤ (Framing.new limit).limit) (decoded : Frame.decode body = .ok f)
    (rest : Bytes) : tail ≠ body.record ++ rest := by
  rintro rfl
  have reads : (Framing.new limit).Reads (body.record ++ rest) _ :=
    Framing.reads_record rfl within (Framing.limit_new limit) rest
  have yields := h.yields
  rw [← List.append_nil (body.record ++ rest)] at yields
  obtain ⟨others, first, -⟩ := yields.of_frame (f := f) reads (by rw [Framing.taken, decoded]; rfl)
  cases error <;> cases first

theorem Framing.Ends.eq_none_iff (h : Framing.Ends limit tail error)
    (formed : ∀ e, ¬ Framing.Malformed limit tail e) :
    error = none ↔ tail = [] ∨
      ∃ n, 0 < n ∧ n ≤ (Framing.new limit).limit ∧ tail = Bytes.ofNat prefixWidth n := by
  constructor
  · rintro rfl
    cases h with
    | boundary => exact .inl rfl
    | opened three pos within =>
      exact .inr ⟨Bytes.toNat tail, pos, within, by rw [← three, Bytes.ofNat_toNat]⟩
  · intro ends
    have width : prefixWidth = 3 := rfl
    have length : tail.length = 0 ∨ tail.length = prefixWidth := by
      obtain rfl | ⟨n, -, -, rfl⟩ := ends
      · exact .inl rfl
      · exact .inr (Bytes.length_ofNat _ _)
    cases h with
    | boundary | opened => rfl
    | malformed h => exact absurd h (formed _)
    | cut h =>
      -- bytes that are cut off are neither none nor just a prefix
      cases h with
      | inPrefix begins short =>
        have pos := List.length_pos_iff.mpr begins
        omega
      | @inBody length begun three within begins short =>
        have pos := List.length_pos_iff.mpr begins
        rw [List.length_append] at length
        omega

end Multiplexer
