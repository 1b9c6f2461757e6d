import Multiplexer.Proofs.LateFrames

/-!
Departures: the turn in which an operation hands over the frame that ends its response. The response
stream has dropped what it held by then, and the entry has been given up.
-/

namespace Multiplexer

variable {ω : Type} {r r' r'' : Responder} {n : Nat} {x : Frame} {t : Task}

/-- Frames of this kind end a response. -/
def FrameKind.isLast : FrameKind → Bool
  | .nextComplete | .complete | .error => true
  | _ => false

/-- The work of task `n` goes on: no operation is registered or taken out, and all that the task sends are
items. -/
structure Responder.Proceeds (n : Nat) (r r' : Responder) : Prop where
  outbound : r'.registry.outbound = r.registry.outbound
  registry : r.registry.Steps r'.registry
  told : ∃ events, r'.history = r.history ++ events ∧
    ∀ f, Event.sent (.task n) f ∈ events → f.kind = .next

theorem Responder.Proceeds.note {events : List Event} (registry : r'.registry = r.registry)
    (history : r'.history = r.history ++ events)
    (items : ∀ f, Event.sent (.task n) f ∈ events → f.kind = .next) :
    Responder.Proceeds n r r' :=
  ⟨by rw [registry], by rw [registry], events, history, items⟩

theorem Responder.Proceeds.refl (n : Nat) (r : Responder) : Responder.Proceeds n r r :=
  .note rfl (List.append_nil _).symm fun _ told => absurd told List.not_mem_nil

theorem Responder.Proceeds.trans (h : Responder.Proceeds n r r') (h' : Responder.Proceeds n r' r'') :
    Responder.Proceeds n r r'' := by
  obtain ⟨es, history, items⟩ := h.told
  obtain ⟨es', history', items'⟩ := h'.told
  refine ⟨h'.outbound.trans h.outbound, h.registry.trans h'.registry, es ++ es',
    by rw [history', history, List.append_assoc], fun f told => ?_⟩
  exact (List.mem_append.mp told).elim (items f) (items' f)

theorem Responder.Proceeds.sent_before (h : Responder.Proceeds n r r') (last : x.kind.isLast = true)
    (sent : Event.sent (.task n) x ∈ r'.history) : Event.sent (.task n) x ∈ r.history := by
  obtain ⟨events, history, items⟩ := h.told
  rw [history] at sent
  refine (List.mem_append.mp sent).resolve_right fun told => ?_
  rw [items x told] at last
  cases last

theorem Responder.Labours.proceeds {panic : Option String} (h : r.Labours panic r') (n : Nat) :
    Responder.Proceeds n r r' := by
  obtain ⟨events, history, quiet⟩ := h.quiet
  have aside := h.aside
  refine ⟨(Responder.AsideMoves.keepsTasks aside).outbound, Responder.AsideMoves.registry aside, events,
    history, fun f told => ?_⟩
  cases quiet _ told

theorem Responder.ChannelMoves.proceeds (h : r.ChannelMoves r') (n : Nat) :
    Responder.Proceeds n r r' := by
  have labours : r.Labours none r' := ⟨r', h, .refl⟩
  exact labours.proceeds n

theorem Responder.notePanic_proceeds (r : Responder) (panic : Option String) (n : Nat) :
    Responder.Proceeds n r (r.notePanic panic) := by
  have labours : r.Labours panic (r.notePanic panic) := ⟨r, .refl, .refl⟩
  exact labours.proceeds n

theorem Task.Drive.proceeds {y z : StreamPhase × Responder} (h : t.Drive y z) :
    Responder.Proceeds t.number y.2 z.2 := by
  cases h with
  | talk phase step => exact Responder.ChannelMoves.proceeds (.single step) t.number
  | pace phase r allowance =>
    exact .note rfl (List.append_nil _).symm fun _ told => absurd told List.not_mem_nil
  | pull r p => exact .note rfl rfl (by simp)
  | @next phase r p d d' held demand taken =>
    refine .note rfl rfl fun f told => ?_
    cases List.mem_singleton.mp told
    exact Frame.kind_next t.stream p
  | wait held whole kept =>
    exact .note rfl (List.append_nil _).symm fun _ told => absurd told List.not_mem_nil

theorem Task.Drives.proceeds {y z : StreamPhase × Responder} (h : t.Drives y z) :
    Responder.Proceeds t.number y.2 z.2 := by
  induction h with
  | refl => exact .refl _ _
  | tail _ step ih => exact ih.trans step.proceeds

/-- In state `r` task `n` hands over its last frame, reports its failure if it has failed, and is gone. -/
inductive Responder.SignsOff (n : Nat) (x : Frame) (r : Responder) : Responder → Prop where
  | silently : SignsOff n x r ((r.send (.task n) x).removeTask n)
  | reporting (e : Failure) : SignsOff n x r (((r.send (.task n) x).report e).removeTask n)

theorem Responder.SignsOff.registry (h : Responder.SignsOff n x r r') : r'.registry = r.registry := by
  cases h <;> rfl

theorem Responder.SignsOff.channels (h : Responder.SignsOff n x r r') : r'.channels = r.channels := by
  cases h <;> rfl

theorem Responder.SignsOff.history (h : Responder.SignsOff n x r r') :
    ∃ reports, r'.history = r.history ++ .sent (.task n) x :: reports ∧
      ∀ speaker f, Event.sent speaker f ∉ reports := by
  cases h with
  | silently => exact ⟨[], rfl, fun _ _ => List.not_mem_nil⟩
  | reporting e =>
    refine ⟨[.reported e], ?_, by simp⟩
    simp [Responder.removeTask, Responder.report, Responder.send, Responder.record]

/-- What a response stream says at its end it says after it has given up its entry. -/
theorem Responder.settleStream_signsOff (r : Responder) (token : Nat) (outcome : StreamOutcome)
    (said : Event.sent (.task t.number) x ∈
      if (t.release (some token) r.registry).2 then t.lastWords outcome else []) :
    (r.release t.stream token).2 = true ∧ Responder.SignsOff t.number x (r.release t.stream token).1
      ((r.settleStream t token outcome).removeTask t.number) := by
  cases released : (r.registry.releaseOutbound t.stream token).2 with
  | false => simp [Task.release, released] at said
  | true =>
    obtain ⟨ρ, settled⟩ : ∃ ρ, r.release t.stream token = (ρ, true) := ⟨_, Prod.ext rfl released⟩
    simp only [Task.release, released, if_true] at said
    rw [Responder.settleStream, settled]
    refine ⟨rfl, ?_⟩
    dsimp only
    rw [if_pos rfl]
    cases outcome with
    | completed =>
      obtain rfl : x = .complete t.stream := by simpa [Task.lastWords] using said
      exact .silently
    | cancelled => cases said
    | failed e =>
      cases own : e.isRemote with
      | true => simp [Task.lastWords, own] at said
      | false =>
        obtain rfl : x = .error t.stream e.code e.message := by simpa [Task.lastWords, own] using said
        cases e with
        | remote code message => cases own
        | _ => exact .reporting _

theorem Responder.settleSingle_signsOff (r : Responder) (kind : SingleRequest) (token : Nat)
    (result : Option Item)
    (said : Event.sent (.task t.number) x ∈
      t.answer kind (t.release (some token) r.registry).2 result) :
    (r.release t.stream token).2 = true ∧ Responder.SignsOff t.number x (r.release t.stream token).1
      ((r.settleSingle t kind (some token) result).removeTask t.number) := by
  cases released : (r.registry.releaseOutbound t.stream token).2 with
  | false =>
    rw [Task.release, released] at said
    exact absurd said (t.answer_unreleased kind result _ x)
  | true =>
    obtain ⟨ρ, settled⟩ : ∃ ρ, r.release t.stream token = (ρ, true) := ⟨_, Prod.ext rfl released⟩
    rw [Task.release, released] at said
    unfold Responder.settleSingle
    dsimp only
    rw [settled]
    refine ⟨rfl, ?_⟩
    rcases result with _ | (e | p) <;> cases kind <;> simp [Task.answer, answerEvents] at said
    · obtain rfl := said
      exact .reporting _
    · obtain rfl := said
      exact .silently

/-- A turn of task `n` ends the operation with the frame `x`. In the state `held` the application has let
go of the operation. Then the response stream drops its channel if it still holds it, then the entry is given
up, and then the frame is handed over. -/
structure Responder.Departs (n : Nat) (stream : StreamId) (token : Nat) (channel : Option Nat)
    (x : Frame) (held r r' : Responder) : Prop where
  proceeds : Responder.Proceeds n r held
  released : ((held.dropOwnChannel channel).release stream token).2 = true
  signsOff : Responder.SignsOff n x ((held.dropOwnChannel channel).release stream token).1 r'

theorem Responder.dropOwnChannel_proceeds (r : Responder) (channel : Option Nat) (n : Nat) :
    Responder.Proceeds n r (r.dropOwnChannel channel) :=
  Responder.ChannelMoves.proceeds (r.dropOwnChannel_moves channel) n

/-- The channel once its response stream has ended: dropped, unless somebody has taken it out of the stream. -/
def Channel.letGo (c : Channel) : Channel := if c.holder = .stream then c.drop.channel else c

theorem Channel.letGo_origin (c : Channel) : c.letGo.stream = c.stream ∧ c.letGo.token = c.token := by
  unfold Channel.letGo
  split <;> exact ⟨rfl, rfl⟩

theorem Channel.letGo_holder {c : Channel} (own : c.holder ≠ .application) : c.letGo.holder = .nobody := by
  unfold Channel.letGo
  split
  · rfl
  next other =>
    cases holder : c.holder with
    | stream => exact absurd holder other
    | application => exact absurd holder own
    | nobody => rfl

theorem Responder.dropOwnChannel_channel {m : Nat} {c : Channel} (there : r.channels[m]? = some c) :
    (r.dropOwnChannel (some m)).channels[m]? = some c.letGo := by
  unfold Responder.dropOwnChannel
  dsimp only
  rw [there, Option.map_some, Channel.letGo]
  by_cases holds : c.holder = .stream
  · have held : r.held? m = some c := by simp [Responder.held?, there, holds]
    have bound : m < r.channels.length := (List.getElem?_eq_some_iff.mp there).1
    rw [if_pos (congrArg some holds), if_pos holds, Responder.dropChannel, held]
    dsimp only
    rw [Responder.applyStep_eq, List.getElem?_set_self bound]
  · rw [if_neg fun same => holds (Option.some.inj same), if_neg holds, there]

theorem Responder.dropOwnChannel_origin {m : Nat} {c : Channel}
    (there : (r.dropOwnChannel (some m)).channels[m]? = some c) :
    ∃ d, r.channels[m]? = some d ∧ c = d.letGo := by
  cases known : r.channels[m]? with
  | none =>
    have same : r.dropOwnChannel (some m) = r := by
      unfold Responder.dropOwnChannel
      dsimp only
      rw [known, Option.map_none, if_neg (Option.some_ne_none _).symm]
    rw [same, known] at there
    cases there
  | some d =>
    rw [Responder.dropOwnChannel_channel known] at there
    exact ⟨d, rfl, (Option.some.inj there).symm⟩

theorem StreamPhase.Ends.silent {phase : StreamPhase} {cancelled : Bool} {events : List Event}
    {outcome : StreamOutcome} (ends : phase.Ends n cancelled events outcome) (speaker : Speaker)
    (f : Frame) : Event.sent speaker f ∉ events := by
  cases ends <;> simp

variable {stream : StreamId} {token : Nat} {channel : Option Nat}

theorem Responder.mem_history_settleStream {left : Responder} {outcome : StreamOutcome} {e : Event} :
    e ∈ ((left.settleStream t token outcome).removeTask t.number).history ↔ e ∈ left.history ∨
      e ∈ if (t.release (some token) left.registry).2 then t.lastWords outcome else [] := by
  rw [Responder.settleStream_eq]
  exact List.mem_append

theorem Responder.mem_history_settleSingle {left : Responder} {kind : SingleRequest}
    {token : Option Nat} {result : Option Item} {e : Event} :
    e ∈ ((left.settleSingle t kind token result).removeTask t.number).history ↔ e ∈ left.history ∨
      e ∈ t.answer kind (t.release token left.registry).2 result := by
  rw [Responder.settleSingle_eq]
  exact List.mem_append

/-- Where a response stream rests it waits, or it drops what it still holds of its channel and is settled. -/
theorem Task.Rests.settles {app : Application ω} {y : StreamPhase × Responder}
    (rests : t.Rests app token channel y r') :
    r'.history = y.2.history ∨ ∃ held outcome, Responder.Proceeds t.number y.2 held ∧
      r' = ((held.dropOwnChannel channel).settleStream t token outcome).removeTask t.number := by
  cases rests with
  | waits phase r => exact .inl rfl
  | @ends phase r events outcome w how panic _ =>
    have noted : Responder.Proceeds t.number (r.notePanic panic)
        { r.notePanic panic with history := (r.notePanic panic).history ++ events } :=
      .note rfl rfl fun f told => absurd told (how.silent _ f)
    have talked := (app.drop t.number w).run_moves
      { r.notePanic panic with history := (r.notePanic panic).history ++ events }
    have proceeds := ((r.notePanic_proceeds panic t.number).trans noted).trans
      (Responder.ChannelMoves.proceeds talked t.number)
    exact .inr ⟨_, outcome, proceeds, rfl⟩

theorem Task.Rests.departs {app : Application ω} {y : StreamPhase × Responder}
    (rests : t.Rests app token channel y r') (last : x.kind.isLast = true)
    (before : Event.sent (.task t.number) x ∉ y.2.history)
    (sent : Event.sent (.task t.number) x ∈ r'.history) :
    ∃ held, Responder.Departs t.number t.stream token channel x held y.2 r' := by
  obtain same | ⟨held, outcome, proceeds, rfl⟩ := rests.settles
  · exact absurd (same ▸ sent) before
  · have dropped := proceeds.trans (held.dropOwnChannel_proceeds channel t.number)
    have words := (Responder.mem_history_settleStream.mp sent).resolve_left fun early =>
      before (dropped.sent_before last early)
    obtain ⟨released, signsOff⟩ := Responder.settleStream_signsOff _ token outcome words
    exact ⟨held, proceeds, released, signsOff⟩

theorem Responder.concludeSingle_departs {kind : SingleRequest} {verdict : Option (Option Item)}
    {left : Responder} (proceeds : Responder.Proceeds t.number r left) (last : x.kind.isLast = true)
    (before : Event.sent (.task t.number) x ∉ r.history)
    (sent : Event.sent (.task t.number) x ∈
      (left.concludeSingle t kind (some token) verdict).history) :
    Responder.Departs t.number t.stream token none x left r
      (left.concludeSingle t kind (some token) verdict) := by
  cases verdict with
  | none => exact absurd (proceeds.sent_before last sent) before
  | some result =>
    have words := (Responder.mem_history_settleSingle.mp sent).resolve_left fun early =>
      before (proceeds.sent_before last early)
    obtain ⟨released, signsOff⟩ := Responder.settleSingle_signsOff left kind token result words
    exact ⟨proceeds, released, signsOff⟩

theorem Responder.Linked.turn_departs (h : r.Linked) (w : ω) (app : Application ω) (budget : Nat)
    (employs : Responder.Employs n stream (some token) channel r) (last : x.kind.isLast = true)
    (before : Event.sent (.task n) x ∉ r.history)
    (sent : Event.sent (.task n) x ∈ (r.turn w app n budget).1.history) :
    ∃ held, Responder.Departs n stream token channel x held r (r.turn w app n budget).1 := by
  unfold Responder.turn at sent ⊢
  cases found : r.task? n with
  | none =>
    rw [found] at sent
    exact absurd sent before
  | some t =>
    rw [found] at sent
    obtain ⟨there, rfl⟩ := h.task?_eq_some_iff.mp found
    obtain ⟨rfl, own, half⟩ := employs t there rfl
    dsimp only at sent ⊢
    cases work : t.work with
    | single kind token' request =>
      rw [work] at own half sent
      obtain rfl : token' = some token := own
      obtain rfl : none = channel := half
      dsimp only at sent ⊢
      obtain ⟨panic, left, labours, _, eq⟩ := r.turnSingle_spec w app t kind (some token) request
      rw [eq] at sent ⊢
      exact ⟨left, Responder.concludeSingle_departs (Responder.Labours.proceeds labours t.number) last
        before sent⟩
    | stream token' channel' phase =>
      rw [work] at own half sent
      obtain rfl : token' = token := Option.some.inj own
      obtain rfl : channel' = channel := half
      dsimp only at sent ⊢
      obtain ⟨y, drives, rests⟩ := Responder.turnStream_spec app t token' channel' budget phase r w
      have proceeds := Task.Drives.proceeds drives
      obtain ⟨held, departs⟩ := rests.departs last
        (fun early => before (proceeds.sent_before last early)) sent
      exact ⟨held, proceeds.trans departs.proceeds, departs.released, departs.signsOff⟩

end Multiplexer
