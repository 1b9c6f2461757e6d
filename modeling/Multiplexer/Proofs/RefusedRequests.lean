import Multiplexer.Proofs.DuplicateRequests

/-!
Requests that are refused, because they cannot be read or because their stream is active: one failure is
reported, and at most one frame is sent. Nothing else happens to the responder or to the application.
-/

namespace Multiplexer

variable {ω : Type} {r : Responder} {settings : Settings} {f : Frame} {failure : Failure}
  {frames : List Frame}

/-- A request is refused, by what is reported and sent then. A request for a channel is refused for its
stream before it is read, every other request is read first. -/
inductive Responder.Refuses (r : Responder) (settings : Settings) (f : Frame) :
    Failure → List Frame → Prop where
  /-- Nobody waits for an answer. -/
  | unheard (e : PayloadError) (kind : f.kind = .fireAndForget)
    (unreadable : settings.reader f = .error e) : Refuses r settings f (.decode f.stream e) []
  | unreadable (e : PayloadError) (kind : f.kind ≠ .fireAndForget)
    (idle : f.kind = .requestChannel → ¬ r.Denies f) (unreadable : settings.reader f = .error e) :
    Refuses r settings f (.decode f.stream e)
      [.error f.stream .invalid (Failure.decode f.stream e).message]
  | duplicate (denies : r.Denies f)
    (readable : f.kind ≠ .requestChannel → ∃ p, settings.reader f = .ok p) :
    Refuses r settings f (.protocol (.duplicateStream f.stream))
      [.error f.stream .invalid (ProtocolError.duplicateStream f.stream).message]

/-- A request that cannot be read, or whose stream is active, is refused in one of these ways. -/
theorem Responder.refuses_of (r : Responder) (settings : Settings) (f : Frame)
    (refused : (∃ e, settings.reader f = .error e) ∨ r.Denies f) :
    ∃ failure frames, r.Refuses settings f failure frames := by
  by_cases channel : f.kind = .requestChannel ∧ r.Denies f
  · exact ⟨_, _, .duplicate channel.2 fun other => absurd channel.1 other⟩
  · cases read : settings.reader f with
    | ok p =>
      obtain ⟨e, unreadable⟩ | denies := refused
      · rw [unreadable] at read
        cases read
      · exact ⟨_, _, .duplicate denies fun _ => ⟨p, read⟩⟩
    | error e =>
      by_cases kind : f.kind = .fireAndForget
      · exact ⟨_, _, .unheard e kind read⟩
      · exact ⟨_, _, .unreadable e kind (fun asked denies => channel ⟨asked, denies⟩) read⟩

/-- What a refusal leaves: frames of the dispatcher, and a report. -/
def Responder.refusing (r : Responder) (failure : Failure) (frames : List Frame) (issued : Nat) :
    Responder :=
  { r with
    registry := { r.registry with issued }
    metrics := r.metrics.failed
    history := r.history ++ frames.map (.sent .dispatcher) ++ [.reported failure] }

theorem Responder.readRequest_error {e : PayloadError} (unreadable : settings.reader f = .error e) :
    r.readRequest settings f = .error (r.refusing (.decode f.stream e)
      [.error f.stream .invalid (Failure.decode f.stream e).message] r.registry.issued) := by
  simp [Responder.readRequest, unreadable, Responder.send, Responder.report, Responder.record,
    Responder.refusing, Failure.code]

/-- Neither the application nor its world has a part in a refusal. -/
theorem Responder.Refuses.dispatch (refuses : r.Refuses settings f failure frames)
    (opens : f.kind.opens = true) :
    ∃ issued, r.registry.issued ≤ issued ∧ issued ≤ r.registry.issued + 1 ∧
      ∀ (app : Application ω) (w : ω),
        r.beginTurn.dispatch w settings app f = ⟨r.ready.refusing failure frames issued, w, none⟩ := by
  cases refuses with
  | unheard e kind unreadable =>
    refine ⟨_, Nat.le_refl _, Nat.le_succ _, fun app w => ?_⟩
    simp only [Responder.dispatch, kind, Responder.fireAndForget, unreadable]
    simp [Responder.report, Responder.record, Responder.refusing, Responder.ready, Responder.beginTurn]
  | unreadable e kind idle unreadable =>
    have read := Responder.readRequest_error (r := r.ready) unreadable
    refine ⟨_, Nat.le_refl _, Nat.le_succ _, fun app w => ?_⟩
    cases kind' : f.kind with
    | fireAndForget => exact absurd kind' kind
    | requestResponse =>
      simp only [Responder.dispatch, kind']
      show Dispatched.mk (r.ready.requestResponse settings f) w none = _
      rw [Responder.requestResponse, read]
      rfl
    | requestStream =>
      simp only [Responder.dispatch, kind']
      show Dispatched.mk (r.ready.requestStream w settings app f).1
        (r.ready.requestStream w settings app f).2 none = _
      rw [Responder.requestStream, read]
      rfl
    | requestChannel =>
      have free : (r.ready.registry.outbound.contains f.stream ||
          r.ready.registry.inbound.contains f.stream) = false := by
        obtain ⟨outbound, inbound⟩ := not_or.mp (idle kind')
        exact (Bool.or_eq_false_iff ..).mpr ⟨eq_false_of_ne_true outbound,
          eq_false_of_ne_true fun taken => inbound ⟨kind', taken⟩⟩
      simp only [Responder.dispatch, kind']
      show Dispatched.mk (r.ready.requestChannel w settings app f).1
        (r.ready.requestChannel w settings app f).2 none = _
      rw [Responder.requestChannel, free, if_neg Bool.false_ne_true, read]
      rfl
    | _ => simp [FrameKind.opens, kind'] at opens
  | duplicate denies readable =>
    obtain ⟨issued, least, most, answered⟩ := denies.dispatch settings opens readable
    refine ⟨issued, least, most, fun app w => (answered app w).trans ?_⟩
    simp [Responder.refusal, Responder.refusing]

/-- In any state of a responder that receives, a request that cannot be read or whose stream is active
leaves nothing behind but one report and at most one frame: the application is not called, no task or
channel begins, and both maps, the gauge and all that the operations of other requests hold stay as they
are. Only a request without an answer that cannot be read has no ERROR frame sent for it. -/
theorem Responder.refused_request (settings : Settings) (app : Application ω) (w : ω)
    (before : List (Action ω)) (f : Frame) (opens : f.kind.opens = true)
    (listens : (Responder.run settings app before (Responder.start, w)).1.Listens)
    (refused : (∃ e, settings.reader f = .error e) ∨
      (Responder.run settings app before (Responder.start, w)).1.Denies f) :
    let s := Responder.run settings app before (Responder.start, w)
    ∃ failure frames issued, s.1.Refuses settings f failure frames ∧
      s.1.registry.issued ≤ issued ∧ issued ≤ s.1.registry.issued + 1 ∧
      ∀ other : Application ω, Responder.step settings other (.receive (.item (.ok f))) s =
        ({ s.1 with
            allowance := .full
            registry := { s.1.registry with issued }
            metrics := s.1.metrics.frameReceived.failed
            history := s.1.history ++ frames.map (.sent .dispatcher) ++ [.reported failure] }, s.2) := by
  intro s
  obtain ⟨failure, frames, refuses⟩ := s.1.refuses_of settings f refused
  obtain ⟨issued, least, most, answered⟩ := refuses.dispatch (ω := ω) opens
  refine ⟨failure, frames, issued, refuses, least, most, fun other => ?_⟩
  have answer := answered other s.2
  rw [Responder.step_dispatch settings other f listens (by rw [answer]), answer]
  rfl

/-- While a channel is open under its stream, a request for a response that cannot be read is told so, and
the channel stays as it is. -/
theorem Responder.keeper_unreadable_request :
    let settings := Settings.new (.refusing [1] "odd") 5
    let f := Frame.requestResponse (.ofNat 7) (.ofData [1])
    let s := Responder.run settings keeper
      [.receive (.item (.ok (.requestChannel (.ofNat 7) 5 .empty)))] (Responder.start, ())
    let s' := Responder.step settings keeper (.receive (.item (.ok f))) s
    s.1.Denies f ∧ s'.1.registry.inbound = s.1.registry.inbound ∧ s'.1.channels = s.1.channels ∧
      s'.1.controls = s.1.controls ∧ s'.1.tasks = s.1.tasks ∧
      s'.1.history = s.1.history ++
        [.sent .dispatcher (.error (.ofNat 7) .invalid
            "StreamId(7): failed to decode payload: invalid payload: odd"),
          .reported (.decode (.ofNat 7) (.invalid "odd"))] := by
  have listens : (Responder.run (.new (.refusing [1] "odd") 5) keeper
      [.receive (.item (.ok (.requestChannel (.ofNat 7) 5 .empty)))]
      (Responder.start, ())).1.Listens := by decide
  have active : (Responder.run (.new (.refusing [1] "odd") 5) keeper
      [.receive (.item (.ok (.requestChannel (.ofNat 7) 5 .empty)))]
      (Responder.start, ())).1.Denies (.requestResponse (.ofNat 7) (.ofData [1])) := .inl (by decide)
  obtain ⟨failure, frames, issued, refuses, -, -, step⟩ := Responder.refused_request
    (.new (.refusing [1] "odd") 5) keeper () _ (.requestResponse (.ofNat 7) (.ofData [1])) rfl listens
    (.inr active)
  dsimp only at step ⊢
  rw [step keeper]
  refine ⟨active, rfl, rfl, rfl, rfl, ?_⟩
  cases refuses with
  | unheard e kind => cases kind
  | unreadable e kind idle unreadable =>
    cases unreadable
    rw [List.append_assoc]
    rfl
  | duplicate denies readable =>
    obtain ⟨p, read⟩ := readable (by decide)
    cases read

end Multiplexer
