import Multiplexer.Proofs.FrameReading

/-!
Reading a byte stream that comes in chunks. After each chunk frames are read until there is none or a
length is above the limit. What is read does not depend on where the chunks are cut.
-/

namespace Multiplexer

/-- What has been read of a byte stream, the state and the bytes that are left, and whether reading
has stopped for good. -/
structure Decoding where
  results : List (Except CodecError Frame)
  framing : Framing
  buffer : Bytes
  stopped : Bool

def Decoding.after (d : Decoding) (results : List (Except CodecError Frame)) : Decoding :=
  { d with results := results ++ d.results }

/-- Reads frames from a buffer until there is none. -/
def Framing.drain (framing : Framing) (buffer : Bytes) : Decoding :=
  let reading := framing.read buffer
  match _ : reading.outcome with
  | none => ⟨[], reading.framing, reading.buffer, false⟩
  | some result =>
    if _ : isFatal result = false then
      (reading.framing.drain reading.buffer).after [result]
    else ⟨[result], reading.framing, reading.buffer, true⟩
termination_by framing.unread buffer
decreasing_by exact (framing.reads_read buffer).unread_lt ‹_› ‹_›

/-- Bytes come in, and frames are read until there is none, unless reading has stopped. -/
def Decoding.feed (d : Decoding) (chunk : Bytes) : Decoding :=
  if d.stopped then { d with buffer := d.buffer ++ chunk }
  else (d.framing.drain (d.buffer ++ chunk)).after d.results

/-- A byte stream that comes in chunks. -/
def Framing.decodeChunks (framing : Framing) (chunks : List Bytes) : Decoding :=
  chunks.foldl Decoding.feed ⟨[], framing, [], false⟩

variable {framing : Framing} {buffer body : Bytes} {reading : Reading} {limit : Nat}
  {result : Except CodecError Frame}

theorem Framing.drain_idle (h : framing.Reads buffer reading) (idle : reading.outcome = none) :
    framing.drain buffer = ⟨[], reading.framing, reading.buffer, false⟩ := by
  rw [← h.eq] at idle ⊢
  rw [Framing.drain]
  split
  next => rfl
  next done =>
    rw [idle] at done
    cases done

theorem Framing.drain_result (h : framing.Reads buffer reading)
    (done : reading.outcome = some result) :
    framing.drain buffer =
      if isFatal result then ⟨[result], reading.framing, reading.buffer, true⟩
      else (reading.framing.drain reading.buffer).after [result] := by
  rw [← h.eq] at done ⊢
  rw [Framing.drain]
  split
  next idle =>
    rw [idle] at done
    cases done
  next other =>
    rw [done] at other
    cases other
    cases isFatal result <;> simp

/-- What is drained depends on the first attempt alone. -/
theorem Framing.drain_congr {other : Framing} {bytes : Bytes}
    (h : other.read bytes = framing.read buffer) : other.drain bytes = framing.drain buffer := by
  have reads := framing.reads_read buffer
  have also : other.Reads bytes (framing.read buffer) := h ▸ other.reads_read bytes
  cases done : (framing.read buffer).outcome with
  | none => rw [Framing.drain_idle reads done, Framing.drain_idle also done]
  | some result => rw [Framing.drain_result reads done, Framing.drain_result also done]

theorem Decoding.feed_after (d : Decoding) (results : List (Except CodecError Frame))
    (chunk : Bytes) : (d.after results).feed chunk = (d.feed chunk).after results := by
  obtain ⟨_, _, _, stopped⟩ := d
  cases stopped <;> simp [Decoding.feed, Decoding.after]

/-- Bytes behind a buffer may as well come when the buffer has been drained. -/
theorem Framing.drain_append (framing : Framing) (buffer more : Bytes) :
    framing.drain (buffer ++ more) = (framing.drain buffer).feed more := by
  have reads := framing.reads_read buffer
  cases done : (framing.read buffer).outcome with
  | none =>
    -- the state may have changed, but reading on from it is reading all the bytes
    rw [Framing.drain_idle reads done]
    exact (Framing.drain_congr (reads.resume done more)).symm
  | some result =>
    rw [Framing.drain_result (reads.append done more) done, Framing.drain_result reads done]
    cases goes : isFatal result with
    | true => rfl
    | false =>
      have less := reads.unread_lt done goes
      simp only [Bool.false_eq_true, if_false]
      rw [Framing.drain_append, Decoding.feed_after]
termination_by framing.unread buffer

theorem Decoding.feed_append (d : Decoding) (a b : Bytes) :
    d.feed (a ++ b) = (d.feed a).feed b := by
  cases stopped : d.stopped with
  | true => simp [Decoding.feed, stopped]
  | false =>
    have fed (chunk : Bytes) :
        d.feed chunk = (d.framing.drain (d.buffer ++ chunk)).after d.results := by
      simp [Decoding.feed, stopped]
    rw [fed, fed, Decoding.feed_after, ← Framing.drain_append, List.append_assoc]

/-- The chunks behind the first one are as good as part of it. -/
theorem Decoding.foldl_feed (d : Decoding) (chunk : Bytes) (chunks : List Bytes) :
    chunks.foldl Decoding.feed (d.feed chunk) = d.feed (chunk ++ chunks.flatten) := by
  induction chunks generalizing chunk with
  | nil => rw [List.flatten_nil, List.append_nil, List.foldl_nil]
  | cons next chunks ih =>
    rw [List.foldl_cons, ← Decoding.feed_append, ih, List.flatten_cons, List.append_assoc]

theorem Framing.drain_nil (limit : Nat) :
    (Framing.new limit).drain [] = ⟨[], .new limit, [], false⟩ := by
  have short : (Framing.new limit).Reads [] _ := .short rfl (by decide)
  exact Framing.drain_idle short rfl

theorem Framing.decodeChunks_eq_drain (limit : Nat) (chunks : List Bytes) :
    (Framing.new limit).decodeChunks chunks = (Framing.new limit).drain chunks.flatten := by
  cases chunks with
  | nil => exact (Framing.drain_nil limit).symm
  | cons chunk chunks => exact Decoding.foldl_feed _ chunk chunks

theorem Framing.decodeChunks_singleton (limit : Nat) (bytes : Bytes) :
    (Framing.new limit).decodeChunks [bytes] = (Framing.new limit).drain bytes := by
  rw [Framing.decodeChunks_eq_drain, List.flatten_singleton]

theorem Framing.Reached.drain {framing : Framing} (h : Framing.Reached limit framing)
    (buffer : Bytes) : Framing.Reached limit (framing.drain buffer).framing := by
  have reads := framing.reads_read buffer
  have next := h.read buffer
  cases done : (framing.read buffer).outcome with
  | none =>
    rw [Framing.drain_idle reads done]
    exact next
  | some result =>
    rw [Framing.drain_result reads done]
    cases goes : isFatal result with
    | true => exact next
    | false =>
      have less := reads.unread_lt done goes
      exact next.drain _
termination_by framing.unread buffer

/-- Every result has a prefix of its own in the bytes. -/
theorem Framing.length_drain (framing : Framing) (buffer : Bytes) :
    prefixWidth * (framing.drain buffer).results.length ≤ framing.unread buffer := by
  have reads := framing.reads_read buffer
  cases done : (framing.read buffer).outcome with
  | none =>
    rw [Framing.drain_idle reads done]
    exact Nat.zero_le _
  | some result =>
    obtain ⟨first, others⟩ := reads.unread_le done
    rw [Framing.drain_result reads done]
    cases goes : isFatal result with
    | true => exact first
    | false =>
      have less := reads.unread_lt done goes
      have rest := Framing.length_drain (framing.read buffer).framing (framing.read buffer).buffer
      have one := others goes
      simp only [Bool.false_eq_true, if_false, Decoding.after, List.singleton_append,
        List.length_cons, Nat.mul_succ]
      omega
termination_by framing.unread buffer

/-- Every result is the reading of a body within the limit, or says that there is none. -/
theorem Framing.mem_drain {framing : Framing} (awaits : framing.Awaits limit) (buffer : Bytes)
    (h : result ∈ (framing.drain buffer).results) (goes : isFatal result = false) :
    ∃ body, body.length ≤ (Framing.new limit).limit ∧ Frame.decode body = result := by
  have reads := framing.reads_read buffer
  cases done : (framing.read buffer).outcome with
  | none =>
    rw [Framing.drain_idle reads done] at h
    cases h
  | some first =>
    rw [Framing.drain_result reads done] at h
    cases fatal : isFatal first with
    | true =>
      rw [fatal, if_pos rfl] at h
      obtain rfl := List.mem_singleton.mp h
      rw [fatal] at goes
      cases goes
    | false =>
      have less := reads.unread_lt done fatal
      rw [fatal] at h
      obtain rfl | later := List.mem_cons.mp h
      · exact reads.decoded awaits done goes
      · exact Framing.mem_drain (reads.awaits awaits) _ later goes
termination_by framing.unread buffer

/-- A body behind its length. -/
def Bytes.record (body : Bytes) : Bytes := Bytes.ofNat prefixWidth body.length ++ body

theorem Framing.limit_new (limit : Nat) : (Framing.new limit).limit ≤ longestBody :=
  Nat.min_le_right _ _

theorem Framing.reads_record (free : framing.announced = none)
    (within : body.length ≤ framing.limit) (small : framing.limit ≤ longestBody) (rest : Bytes) :
    framing.Reads (body.record ++ rest) (framing.taken body rest) := by
  have three : (Bytes.ofNat prefixWidth body.length).length = prefixWidth := Bytes.length_ofNat _ _
  have fits : body.length < Bytes.capacity prefixWidth :=
    Nat.lt_succ_of_le (Nat.le_trans within small)
  have length : (Bytes.ofNat prefixWidth body.length).toNat = body.length := by
    rw [Bytes.toNat_ofNat, Nat.mod_eq_of_lt fits]
  rw [Bytes.record, List.append_assoc]
  exact .record free three (by rw [length]; exact within) length.symm

theorem Framing.drain_record (free : framing.announced = none)
    (within : body.length ≤ framing.limit) (small : framing.limit ≤ longestBody) (rest : Bytes) :
    framing.drain (body.record ++ rest) = (framing.drain rest).after [Frame.decode body] := by
  have same : (framing.taken body rest).framing = framing := by
    obtain ⟨limit, announced⟩ := framing
    subst free
    rfl
  rw [Framing.drain_result (Framing.reads_record free within small rest)
    (Framing.outcome_taken _ _ _), isFatal_decode, same]
  rfl

/-- Between two records a reader is in its first state, and goes on from there. -/
theorem Framing.drain_between {before : Bytes}
    (going : ((Framing.new limit).drain before).stopped = false)
    (free : ((Framing.new limit).drain before).framing.announced = none)
    (empty : ((Framing.new limit).drain before).buffer = []) (after : Bytes) :
    (Framing.new limit).drain (before ++ after) =
      ((Framing.new limit).drain after).after ((Framing.new limit).drain before).results := by
  have start : Framing.Reached limit (.new limit) := .new
  have reached := start.drain before
  have same : ((Framing.new limit).drain before).framing = .new limit := by
    have awaits := reached.awaits.limit
    cases h : ((Framing.new limit).drain before).framing
    rw [h] at free awaits
    cases free
    cases awaits
    rfl
  rw [Framing.drain_append, Decoding.feed, going, same, empty]
  rfl

/-- What is read of a byte stream does not depend on where it is cut into chunks, and neither do the
state and the bytes that are left. A record between two others is read for itself, whether or not its
body can be decoded. Whatever a reader comes to has taken bytes off, so that reading ends. -/
theorem Framing.chunks_irrelevant (limit : Nat) :
    (∀ chunks, (Framing.new limit).decodeChunks chunks =
      (Framing.new limit).decodeChunks [chunks.flatten]) ∧
    (∀ before body after, body.length ≤ (Framing.new limit).limit →
      let d := (Framing.new limit).decodeChunks [before]
      d.stopped = false → d.framing.announced = none → d.buffer = [] →
        (Framing.new limit).decodeChunks [before ++ after] =
          ((Framing.new limit).decodeChunks [after]).after d.results ∧
        (Framing.new limit).decodeChunks [before ++ (body.record ++ after)] =
          ((Framing.new limit).decodeChunks [after]).after (d.results ++ [Frame.decode body])) ∧
    (∀ framing buffer result, Framing.Reached limit framing →
      (framing.read buffer).outcome = some result → isFatal result = false →
        (framing.read buffer).buffer.length < buffer.length) ∧
    ∀ chunks, prefixWidth * ((Framing.new limit).decodeChunks chunks).results.length ≤
      chunks.flatten.length := by
  simp only [Framing.decodeChunks_singleton]
  refine ⟨Framing.decodeChunks_eq_drain limit, ?_, ?_, ?_⟩
  · intro before body after within going free empty
    refine ⟨Framing.drain_between going free empty after, ?_⟩
    rw [Framing.drain_between going free empty,
      Framing.drain_record rfl within (Framing.limit_new limit)]
    simp only [Decoding.after, List.append_assoc]
  · intro framing buffer result reached done goes
    exact (framing.reads_read buffer).length_lt reached.awaits done goes
  · intro chunks
    rw [Framing.decodeChunks_eq_drain]
    exact Framing.length_drain (.new limit) chunks.flatten

/-- A grant of eight items to stream 1. -/
def grantBody : Bytes := [0, 0, 0, 1, 0x20, 0, 0, 0, 0, 8]

/-- The grant with cuts in its prefix and in its body, and a body too short for a header between two of
them. -/
theorem Framing.grant_cut_and_spoiled :
    (Framing.new 64).decodeChunks [[0, 0], [10, 0, 0, 0, 1, 0x20], [0, 0, 0, 0, 8]] =
        (Framing.new 64).decodeChunks [grantBody.record] ∧
      (Framing.new 64).decodeChunks
          [grantBody.record ++ (Bytes.record [7] ++ grantBody.record)] =
        ((Framing.new 64).decodeChunks [grantBody.record]).after
          (((Framing.new 64).decodeChunks [grantBody.record]).results ++
            [Frame.decode [7]]) ∧
      ((Framing.new 64).read [0, 0, 1, 7]).buffer.length < 4 := by
  have going : ((Framing.new 64).decodeChunks [grantBody.record]).stopped = false := by cbv
  have free : ((Framing.new 64).decodeChunks [grantBody.record]).framing.announced = none := by cbv
  have empty : ((Framing.new 64).decodeChunks [grantBody.record]).buffer = [] := by cbv
  have short : ((Framing.new 64).read [0, 0, 1, 7]).outcome =
      some (.error (.truncated none 1 6)) := by cbv
  exact ⟨(Framing.chunks_irrelevant 64).1 [[0, 0], [10, 0, 0, 0, 1, 0x20], [0, 0, 0, 0, 8]],
    ((Framing.chunks_irrelevant 64).2.1 grantBody.record [7] grantBody.record (by decide)
      going free empty).2,
    (Framing.chunks_irrelevant 64).2.2.1 _ [0, 0, 1, 7] _ .new short (by decide)⟩

end Multiplexer
