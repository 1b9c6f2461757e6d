import Multiplexer.Proofs.CanonicalFrame
import Multiplexer.Proofs.Speech

/-!
All that a responder says is understood by a peer with the same codec, which reads from it the payloads
that the application has handed over.
-/

namespace Multiplexer

variable {ω : Type} {f : Frame} {speaker : Speaker} {history : List Event}

/-- The peer decodes the frame from its body. The frame announces metadata where it has some, and asks
for no more than can be asked for. -/
structure Frame.Understood (f : Frame) : Prop where
  decoded : ∃ body, f.encode = .ok body ∧ Frame.decode body = .ok f
  flagged : f.announcesMetadata = f.metadata.isSome
  bounded : f.demand.toNat ≤ largestDemand

/-- From the body of the frame the peer decodes one with the payload `p`. -/
def Frame.Brings (f : Frame) (p : Payload) : Prop :=
  ∃ body g, f.encode = .ok body ∧ Frame.decode body = .ok g ∧ PayloadReader.standard g = .ok p

theorem Frame.FromDispatcher.understood (h : f.FromDispatcher) : f.Understood := by
  cases h with
  | refusal stream code message =>
    have canonical : (Frame.error stream code message).Canonical := by
      constructor
      case kind => rfl
      all_goals simp [Frame.error, Frame.new, Frame.withCode, Frame.withData, FrameKind.layout]
    exact ⟨Frame.decode_encode canonical, FrameKind.error.ownFlags_plain, Nat.zero_le _⟩
  | echo data =>
    have canonical : (Frame.keepalive 0 data false).Canonical := by
      constructor
      case kind => rfl
      all_goals simp [Frame.keepalive, Frame.new, Frame.withPosition, Frame.withData, FrameKind.layout]
    exact ⟨Frame.decode_encode canonical, FrameKind.keepalive.ownFlags_plain, Nat.zero_le _⟩

theorem Frame.FromInbound.understood {stream : StreamId} (h : f.FromInbound stream) :
    f.Understood := by
  cases h with
  | @request demand within =>
    have canonical : (Frame.requestN stream demand).Canonical := by
      constructor
      case kind => rfl
      all_goals simp [Frame.requestN, Frame.new, Frame.withDemand, FrameKind.layout]
    exact ⟨Frame.decode_encode canonical, FrameKind.requestN.ownFlags_plain, within⟩
  | cancel =>
    have canonical : (Frame.cancel stream).Canonical := by
      constructor
      case kind => rfl
      all_goals simp [Frame.cancel, Frame.new, FrameKind.layout]
    exact ⟨Frame.decode_encode canonical, FrameKind.cancel.ownFlags_plain, Nat.zero_le _⟩
  | answer e => exact (Frame.FromDispatcher.refusal stream .applicationError e.message).understood

theorem Frame.understood_complete (stream : StreamId) : (Frame.complete stream).Understood := by
  have flagged := FrameKind.complete.ownFlags_plain
  have wire : (Frame.complete stream).kindOnWire = .complete := by
    show FrameKind.ofCode (.ofNat (FrameKind.complete.code.toNat % 64)) FrameKind.complete.ownFlags = _
    decide
  have canonical : (Frame.complete stream).Canonical := by
    constructor
    case kind => exact wire
    case payload => exact fun _ => ⟨flagged, Nat.zero_le _⟩
    all_goals simp [Frame.complete, Frame.new, FrameKind.layout]
  exact ⟨Frame.decode_encode canonical, flagged, Nat.zero_le _⟩

section payloads

variable {kind : FrameKind} {p : Payload}

theorem Frame.ofPayload_eq (stream : StreamId) (kind : FrameKind) (p : Payload) :
    ∃ flags, Frame.ofPayload stream kind p = ⟨stream, kind, flags, 0, 0, 0, p.metadata, p.data⟩ := by
  obtain ⟨data, metadata⟩ := p
  cases metadata with
  | none => exact ⟨_, rfl⟩
  | some bytes => exact ⟨_, rfl⟩

/-- The flag that announces metadata leaves the kind of an item as it is. -/
theorem Frame.kindOnWire_ofPayload (stream : StreamId) (item : kind = .next ∨ kind = .nextComplete)
    (p : Payload) : (Frame.ofPayload stream kind p).kindOnWire = kind := by
  obtain ⟨data, metadata⟩ := p
  cases metadata with
  | none =>
    show FrameKind.ofCode (.ofNat (kind.code.toNat % 64)) kind.ownFlags = kind
    rcases item with rfl | rfl <;> decide
  | some bytes =>
    show FrameKind.ofCode (.ofNat (kind.code.toNat % 64)) (kind.ownFlags.insert .metadata) = kind
    rcases item with rfl | rfl <;> decide

/-- A frame with an item is understood if its length field can tell the length of the metadata, and brings
just the payload that it has been made of. -/
theorem Frame.understood_ofPayload (stream : StreamId) (item : kind = .next ∨ kind = .nextComplete)
    (short : (p.metadata.getD []).length ≤ metadataLimit) :
    (Frame.ofPayload stream kind p).Understood ∧ (Frame.ofPayload stream kind p).Brings p := by
  have wire := Frame.kindOnWire_ofPayload stream item p
  have flagged := Frame.announcesMetadata_ofPayload stream kind p
  have carries : kind.carriesPayload = true := by rcases item with rfl | rfl <;> rfl
  obtain ⟨flags, eq⟩ := Frame.ofPayload_eq stream kind p
  rw [eq] at wire flagged ⊢
  have canonical : Frame.Canonical ⟨stream, kind, flags, 0, 0, 0, p.metadata, p.data⟩ := by
    have layout : kind.layout = .payload := by rcases item with rfl | rfl <;> rfl
    constructor
    case kind => exact wire
    case payload => exact fun _ => ⟨flagged, short⟩
    all_goals simp [layout]
  obtain ⟨body, encoded, decoded⟩ := Frame.decode_encode canonical
  exact ⟨⟨⟨body, encoded, decoded⟩, flagged, Nat.zero_le _⟩, body, _, encoded, decoded, if_pos carries⟩

end payloads

/-- The application has handed over the payload for a frame of this kind that task `n` sends: as an item of
its response stream, or as the answer to its request. -/
inductive Responder.HandsOver (settings : Settings) (app : Application ω) (w : ω)
    (actions : List (Action ω)) (n : Nat) : FrameKind → Payload → Prop where
  | item {p : Payload}
    (pulled : .pulled n (.ok p) ∈
      (Responder.run settings app actions (Responder.start, w)).1.history) :
    HandsOver settings app w actions n .next p
  | answer {p : Payload} (answers : Responder.Answers settings app w actions n p) :
    HandsOver settings app w actions n .nextComplete p

/-- Whatever a responder says is understood by its own codec. Refusals and other errors, requests for
payloads, cancellations, echoes of keepalives and the ends of streams are so as they are. Every other frame
has been made of a payload that the application has handed over; if its length field can tell the length of
the metadata, it is understood too, and the peer reads just this payload from it, with its metadata or
without. -/
theorem Responder.frames_understood (settings : Settings) (app : Application ω) (w : ω)
    (actions : List (Action ω)) (speaker : Speaker) (f : Frame)
    (sent : .sent speaker f ∈
      (Responder.run settings app actions (Responder.start, w)).1.history) :
    f.kind ≠ .next ∧ f.kind ≠ .nextComplete ∧ f.Understood ∨
      ∃ n stream kind p, speaker = .task n ∧ f = .ofPayload stream kind p ∧
        Responder.HandsOver settings app w actions n kind p ∧
        ((p.metadata.getD []).length ≤ metadataLimit → f.Understood ∧ f.Brings p) := by
  cases (Responder.spoken_run settings app w actions).said speaker f sent with
  | own own => exact .inl ⟨by cases own <;> nofun, by cases own <;> nofun, own.understood⟩
  | inbound n own => exact .inl ⟨by cases own <;> nofun, by cases own <;> nofun, own.understood⟩
  | completion n stream => exact .inl ⟨nofun, nofun, Frame.understood_complete stream⟩
  | failure n stream e =>
    exact .inl ⟨nofun, nofun, (Frame.FromDispatcher.refusal stream e.code e.message).understood⟩
  | @item n stream p pulled =>
    exact .inr ⟨n, stream, .next, p, rfl, rfl, .item pulled, Frame.understood_ofPayload stream (.inl rfl)⟩
  | answer n stream p =>
    have kind : (Frame.nextComplete stream p).kind = .nextComplete := by
      obtain ⟨flags, eq⟩ := Frame.ofPayload_eq stream .nextComplete p
      rw [Frame.nextComplete, eq]
    obtain ⟨stream', p', answers, eq⟩ := Responder.answers_of_sent kind sent
    rw [eq]
    exact .inr ⟨n, stream', .nextComplete, p', rfl, rfl, .answer answers,
      Frame.understood_ofPayload stream' (.inr rfl)⟩

/-- A request with empty metadata is answered with what it has brought. The peer does not take the metadata
for absent. -/
theorem Responder.echoer_understood :
    let p : Payload := ⟨[1], some []⟩
    let f := Frame.nextComplete (.ofNat 1) p
    let actions := [.receive (.item (.ok (.requestResponse (.ofNat 1) p))), .turn 0 1, .turn 0 1]
    let history := (Responder.run .standard echoer actions (Responder.start, (none, false))).1.history
    .sent (.task 0) f ∈ history ∧ f.Understood ∧ f.Brings p := by
  intro p f actions history
  have sent : .sent (.task 0) f ∈ history := by decide
  refine ⟨sent, ?_⟩
  obtain ⟨_, other, _⟩ | ⟨n, stream, kind, q, _, made, _, understood⟩ :=
    Responder.frames_understood .standard echoer (none, false) actions (.task 0) f sent
  · exact absurd rfl other
  · obtain ⟨flags, eq⟩ := Frame.ofPayload_eq stream kind q
    have metadata : p.metadata = q.metadata := congrArg Frame.metadata (made.trans eq)
    have data : p.data = q.data := congrArg Frame.data (made.trans eq)
    obtain rfl : p = q := by
      cases q
      exact congr (congrArg Payload.mk data) metadata
    exact understood (by decide)

end Multiplexer
