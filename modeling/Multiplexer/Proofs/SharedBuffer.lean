import Multiplexer.Proofs.CanonicalFrame
import Multiplexer.Proofs.ChunkedDecoding

/-!
Frames that are appended to one buffer. A call appends a whole record or leaves the buffer as it is,
and a reader with the same limit finds the frames whose calls have succeeded.
-/

namespace Multiplexer

/-- Appends frames one after another, with what came of each call. -/
def Framing.appendAll (framing : Framing) (buffer : Bytes) :
    List Frame → Bytes × List (Except CodecError Unit)
  | [] => (buffer, [])
  | f :: fs =>
    let (next, outcome) := framing.append buffer f
    let (last, outcomes) := framing.appendAll next fs
    (last, outcome :: outcomes)

/-- The frames whose calls have succeeded. -/
def succeeded (fs : List Frame) (outcomes : List (Except CodecError Unit)) : List Frame :=
  ((fs.zip outcomes).filter fun (_, outcome) => outcome.isOk).map Prod.fst

variable {framing : Framing} {f : Frame} {body : Bytes} {e : CodecError} {limit : Nat}

theorem Frame.writePayload_error (h : f.writePayload = .error e) :
    ∃ metadata, f.metadata = some metadata ∧ metadataLimit < metadata.length ∧
      e = .metadataTooLong metadata.length metadataLimit := by
  unfold Frame.writePayload at h
  split at h
  next => cases h
  next metadata present =>
    split at h
    next above =>
      cases h
      exact ⟨metadata, present, above, rfl⟩
    next => cases h

/-- A frame fails to be written for its metadata only, if its length field cannot tell their length. -/
theorem Frame.encode_error (h : f.encode = .error e) :
    ∃ metadata, f.metadata = some metadata ∧ metadataLimit < metadata.length ∧
      e = .metadataTooLong metadata.length metadataLimit := by
  have fields : f.writeFields = .error e := by
    cases written : f.writeFields <;> rw [Frame.encode, written] at h
    · exact h
    · cases h
  apply Frame.writePayload_error
  cases layout : f.kind.layout <;> simp only [Frame.writeFields, layout] at fields
  case payload => exact fields
  case demandAndPayload =>
    cases written : f.writePayload <;> rw [written] at fields
    · exact fields
    · cases fields
  all_goals cases fields

theorem Framing.append_fits (encoded : f.encode = .ok body) (within : body.length ≤ framing.limit)
    (buffer : Bytes) : framing.append buffer f = (buffer ++ body.record, .ok ()) := by
  have fits : ¬ framing.limit < body.length := Nat.not_lt.mpr within
  have written : framing.write f = .ok body.record := by
    rw [Framing.write, encoded]
    exact if_neg fits
  rw [Framing.append, written]

theorem Framing.append_above (encoded : f.encode = .ok body) (above : framing.limit < body.length)
    (buffer : Bytes) : framing.append buffer f =
      (buffer, .error (.oversizedFrame body.length framing.limit)) := by
  have written : framing.write f = .error (.oversizedFrame body.length framing.limit) := by
    rw [Framing.write, encoded]
    exact if_pos above
  rw [Framing.append, written]

theorem Framing.append_failed (failed : f.encode = .error e) (buffer : Bytes) :
    framing.append buffer f = (buffer, .error e) := by
  have written : framing.write f = .error e := by
    rw [Framing.write, failed]
    rfl
  rw [Framing.append, written]

/-- All that a call can do with the buffer. -/
theorem Framing.append_cases (framing : Framing) (f : Frame) :
    (∃ body, f.encode = .ok body ∧ body.length ≤ framing.limit ∧
      ∀ buffer, framing.append buffer f = (buffer ++ body.record, .ok ())) ∨
    (∃ body, f.encode = .ok body ∧ framing.limit < body.length ∧
      ∀ buffer, framing.append buffer f =
        (buffer, .error (.oversizedFrame body.length framing.limit))) ∨
    ∃ length, f.encode = .error (.metadataTooLong length metadataLimit) ∧
      metadataLimit < length ∧ ∀ buffer, framing.append buffer f =
        (buffer, .error (.metadataTooLong length metadataLimit)) := by
  cases encoded : f.encode with
  | error e =>
    obtain ⟨metadata, -, long, rfl⟩ := Frame.encode_error encoded
    exact .inr (.inr ⟨metadata.length, rfl, long, Framing.append_failed encoded⟩)
  | ok body =>
    by_cases within : body.length ≤ framing.limit
    · exact .inl ⟨body, rfl, within, Framing.append_fits encoded within⟩
    · have above := Nat.not_le.mp within
      exact .inr (.inl ⟨body, rfl, above, Framing.append_above encoded above⟩)

/-- What is in a buffer already stays in front of what is appended. -/
theorem Framing.appendAll_behind (framing : Framing) (front buffer : Bytes) (fs : List Frame) :
    framing.appendAll (front ++ buffer) fs =
      (front ++ (framing.appendAll buffer fs).1, (framing.appendAll buffer fs).2) := by
  induction fs generalizing buffer with
  | nil => rfl
  | cons f fs ih =>
    obtain ⟨body, -, -, call⟩ | ⟨body, -, -, call⟩ | ⟨length, -, -, call⟩ := framing.append_cases f
    · simp only [Framing.appendAll, call, List.append_assoc, ih]
    · simp only [Framing.appendAll, call, ih]
    · simp only [Framing.appendAll, call, ih]

/-- The frames whose calls have succeeded are read back, and nothing else. -/
theorem Framing.drain_appendAll (limit : Nat) {fs : List Frame} (canonical : ∀ f ∈ fs, f.Canonical) :
    (Framing.new limit).drain ((Framing.new limit).appendAll [] fs).1 =
      ⟨(succeeded fs ((Framing.new limit).appendAll [] fs).2).map .ok, .new limit, [], false⟩ := by
  induction fs with
  | nil => exact Framing.drain_nil limit
  | cons f fs ih =>
    have rest := ih fun g hg => canonical g (List.mem_cons_of_mem f hg)
    obtain ⟨body, encoded, within, call⟩ | ⟨body, -, -, call⟩ | ⟨length, -, -, call⟩ :=
      (Framing.new limit).append_cases f
    · obtain ⟨same, also, decoded⟩ := Frame.decode_encode (canonical f List.mem_cons_self)
      have eq : same = body := Except.ok.inj (also.symm.trans encoded)
      have behind := (Framing.new limit).appendAll_behind body.record [] fs
      rw [List.append_nil] at behind
      simp only [Framing.appendAll, call, List.nil_append, behind]
      rw [Framing.drain_record rfl within (Framing.limit_new limit), rest, ← eq, decoded]
      rfl
    -- a call that has failed has left nothing behind for the reader
    · simp only [Framing.appendAll, call, rest]
      rfl
    · simp only [Framing.appendAll, call, rest]
      rfl

/-- A frame that has been read within a limit can be appended within it. -/
theorem Framing.append_of_decoded {chunks : List Bytes}
    (h : .ok f ∈ ((Framing.new limit).decodeChunks chunks).results) :
    ∃ body : Bytes, f.encode = .ok body ∧
      ∀ buffer, (Framing.new limit).append buffer f = (buffer ++ body.record, .ok ()) := by
  rw [Framing.decodeChunks_eq_drain] at h
  obtain ⟨body, within, decoded⟩ := Framing.mem_drain Framing.Reached.new.awaits _ h rfl
  obtain ⟨again, encoded, shorter⟩ := Frame.encode_of_decode decoded
  exact ⟨again, encoded, Framing.append_fits encoded (Nat.le_trans shorter within)⟩

/-- A call appends the length of a body and the body, or it fails and the buffer stays as it is. A
reader with the same limit finds the canonical frames whose calls have succeeded. What has been read
within a limit can be appended within it. -/
theorem Framing.append_all_or_nothing (limit : Nat) :
    (Framing.new limit).limit = min (max limit smallestLimit) longestBody ∧
    (∀ f, (∃ body, f.encode = .ok body ∧ body.length ≤ (Framing.new limit).limit ∧
        ∀ buffer, (Framing.new limit).append buffer f =
          (buffer ++ (Bytes.ofNat 3 body.length ++ body), .ok ())) ∨
      (∃ body, f.encode = .ok body ∧ (Framing.new limit).limit < body.length ∧
        ∀ buffer, (Framing.new limit).append buffer f =
          (buffer, .error (.oversizedFrame body.length (Framing.new limit).limit))) ∨
      ∃ length, f.encode = .error (.metadataTooLong length metadataLimit) ∧
        metadataLimit < length ∧ ∀ buffer, (Framing.new limit).append buffer f =
          (buffer, .error (.metadataTooLong length metadataLimit))) ∧
    (∀ fs : List Frame, (∀ f ∈ fs, f.Canonical) →
      let (buffer, outcomes) := (Framing.new limit).appendAll [] fs
      (Framing.new limit).decodeChunks [buffer] =
        ⟨(succeeded fs outcomes).map .ok, .new limit, [], false⟩) ∧
    ∀ chunks f, .ok f ∈ ((Framing.new limit).decodeChunks chunks).results →
      ∃ body, f.encode = .ok body ∧ ∀ buffer, (Framing.new limit).append buffer f =
        (buffer ++ (Bytes.ofNat 3 body.length ++ body), .ok ()) := by
  refine ⟨rfl, Framing.append_cases _, ?_, ?_⟩
  · intro fs canonical
    dsimp only
    rw [Framing.decodeChunks_singleton]
    exact Framing.drain_appendAll limit canonical
  · intro chunks f read
    exact Framing.append_of_decoded read

/-- Two grants, and between them an item that is too long for the limit. -/
def grantsAroundItem : List Frame :=
  [.requestN (.ofNat 1) 8, .next (.ofNat 1) (.ofData (List.replicate 64 0)), .requestN (.ofNat 1) 8]

theorem Framing.grants_around_item :
    (Framing.new 64).decodeChunks [((Framing.new 64).appendAll [] grantsAroundItem).1] =
        ⟨[.ok (.requestN (.ofNat 1) 8), .ok (.requestN (.ofNat 1) 8)], .new 64, [], false⟩ ∧
      ∃ body, (Frame.requestN (.ofNat 1) 8).encode = .ok body ∧
        ∀ buffer, (Framing.new 64).append buffer (.requestN (.ofNat 1) 8) =
          (buffer ++ (Bytes.ofNat 3 body.length ++ body), .ok ()) := by
  have canonical : ∀ f ∈ grantsAroundItem, f.Canonical := by decide
  have calls : ((Framing.new 64).appendAll [] grantsAroundItem).2 =
      [.ok (), .error (.oversizedFrame 70 64), .ok ()] := by rfl
  have buffered := (Framing.append_all_or_nothing 64).2.2.1 grantsAroundItem canonical
  dsimp only at buffered
  rw [calls] at buffered
  refine ⟨buffered, ?_⟩
  apply (Framing.append_all_or_nothing 64).2.2.2 [((Framing.new 64).appendAll [] grantsAroundItem).1]
  rw [buffered]
  exact List.mem_cons_self

end Multiplexer
