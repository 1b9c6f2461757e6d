import Multiplexer.Proofs.ErrorSources
import Multiplexer.Proofs.Utterances

/-!
The errors that the peer is shown and the failures that are reported: each ERROR frame of the dispatcher or of
a task goes with one report, and each report of which the peer is owed an ERROR frame with one frame. The only
other ERROR frames are those of channels.
-/

namespace Multiplexer

variable {ω : Type} {r : Responder} {a : Action ω} {events words : List Event} {settings : Settings}
  {f : Frame} {t : Task}

/-- The ERROR frame that the dispatcher or a task sends. -/
def Event.shown? : Event → Option Frame
  | .sent .dispatcher f | .sent (.task _) f => if f.kind = .error then some f else none
  | _ => none

def Event.report? : Event → Option Failure
  | .reported e => some e
  | _ => none

/-- The ERROR frames of the dispatcher and of the tasks among these events. -/
def shownIn (events : List Event) : List Frame := events.filterMap Event.shown?

def reportsIn (events : List Event) : List Failure := events.filterMap Event.report?

theorem mem_reportsIn {e : Failure} : e ∈ reportsIn events ↔ .reported e ∈ events := by
  simp only [reportsIn, List.mem_filterMap]
  constructor
  · rintro ⟨x, there, report⟩
    unfold Event.report? at report
    split at report
    · cases report; exact there
    · cases report
  · exact fun there => ⟨_, there, rfl⟩

theorem shownIn_uttered (events : List Event) : shownIn (uttered events) = shownIn events := by
  unfold shownIn uttered
  rw [List.filterMap_filter]
  refine List.filterMap_congr fun e _ => ?_
  cases e with
  | sent speaker f => cases speaker <;> rfl
  | _ => rfl

theorem reportsIn_uttered (events : List Event) : reportsIn (uttered events) = reportsIn events := by
  unfold reportsIn uttered
  rw [List.filterMap_filter]
  refine List.filterMap_congr fun e _ => ?_
  cases e with
  | sent speaker f => cases speaker <;> rfl
  | _ => rfl

/-- The frame bears the stream of the failure and its code. -/
def Frame.Tells (f : Frame) (e : Failure) : Prop :=
  e.stream = some f.stream ∧ f.code = e.code.toUInt32

/-- The peer of an operation is told of its failure. A channel has answered the peer's own error. -/
def Work.owes : Work → HandlerError → Bool
  | .single .requestResponse _ _, _ => true
  | .single .fireAndForget _ _, _ | .single .metadataPush _ _, _ => false
  | .stream .., e => !e.isRemote

/-- The peer is to be shown a failure that is reported in the course of an action. -/
def Failure.IsOwed (r : Responder) (a : Action ω) : Failure → Prop
  | .protocol _ => True
  | .decode .. => ∃ f, a = .receive (.item (.ok f)) ∧
    (f.kind = .requestResponse ∨ f.kind = .requestStream ∨ f.kind = .requestChannel)
  | .handler _ e => ∃ n budget t, a = .turn n budget ∧ r.task? n = some t ∧ t.work.owes e = true
  | .transport _ | .cancellation .. => False

/-- A failure is reported in the course of the action that it is about. -/
def Failure.IsAbout (r : Responder) (a : Action ω) : Failure → Prop
  | .protocol e => ∃ f, a = .receive (.item (.ok f)) ∧ e.stream = f.stream
  | .decode stream _ => ∃ f, a = .receive (.item (.ok f)) ∧ f.stream = stream
  | .handler stream _ => ∃ n budget t, a = .turn n budget ∧ r.task? n = some t ∧ t.stream = stream
  | .transport _ | .cancellation .. => True

/-- An ERROR frame is accompanied by one report, on its stream and with its code, and a report of which the
peer is to be shown is accompanied by one such frame. -/
structure Responder.ErrorsAgree (r : Responder) (a : Action ω) (events : List Event) : Prop where
  reported : ∀ f ∈ shownIn events, shownIn events = [f] ∧
    ∃ e, reportsIn events = [e] ∧ e.IsOwed r a ∧ f.Tells e
  shown : ∀ e ∈ reportsIn events, e.IsOwed r a → reportsIn events = [e] ∧
    ∃ f, shownIn events = [f] ∧ f.Tells e
  about : ∀ e ∈ reportsIn events, e.IsAbout r a

theorem Responder.ErrorsAgree.unshown (none : shownIn events = [])
    (reported : ∀ e ∈ reportsIn events, ¬ e.IsOwed r a ∧ e.IsAbout r a) : r.ErrorsAgree a events := by
  refine ⟨fun _ there => ?_, fun e there owed => absurd owed (reported e there).1,
    fun e there => (reported e there).2⟩
  rw [none] at there
  exact absurd there List.not_mem_nil

theorem Responder.ErrorsAgree.silent (none : shownIn events = []) (unreported : reportsIn events = []) :
    r.ErrorsAgree a events :=
  .unshown none fun _ there => absurd (unreported ▸ there) List.not_mem_nil

theorem Responder.ErrorsAgree.pair {e : Failure} (frame : shownIn events = [f])
    (report : reportsIn events = [e]) (owed : e.IsOwed r a) (about : e.IsAbout r a) (tells : f.Tells e) :
    r.ErrorsAgree a events := by
  refine ⟨fun g there => ?_, fun d there _ => ?_, fun d there => ?_⟩
  · rw [frame] at there ⊢
    obtain rfl := List.mem_singleton.mp there
    exact ⟨rfl, e, report, owed, tells⟩
  · rw [report] at there ⊢
    obtain rfl := List.mem_singleton.mp there
    exact ⟨rfl, f, frame, tells⟩
  · rw [report] at there
    obtain rfl := List.mem_singleton.mp there
    exact about

/-- A frame of the dispatcher or of a task is told with the failure that it is about. -/
theorem Responder.ErrorsAgree.tell {speaker : Speaker} {stream : StreamId} {message : String}
    {e : Failure} (own : ∀ n, speaker ≠ .channel n) (on : e.stream = some stream) (owed : e.IsOwed r a)
    (about : e.IsAbout r a) :
    r.ErrorsAgree a [.sent speaker (.error stream e.code message), .reported e] := by
  refine .pair (f := .error stream e.code message) ?_ rfl owed about ⟨on, rfl⟩
  cases speaker with
  | dispatcher => rfl
  | task n => rfl
  | channel n => exact absurd rfl (own n)

/-- Nothing else counts than the ERROR frames and the reports. -/
theorem Responder.ErrorsAgree.congr (agree : r.ErrorsAgree a words)
    (shown : shownIn events = shownIn words) (reports : reportsIn events = reportsIn words) :
    r.ErrorsAgree a events := by
  refine ⟨?_, ?_, ?_⟩
  · rw [shown, reports]
    exact agree.reported
  · rw [shown, reports]
    exact agree.shown
  · rw [reports]
    exact agree.about

theorem Responder.Elicits.agree (elicits : r.Elicits settings f words) :
    r.ErrorsAgree (.receive (.item (.ok f)) : Action ω) words := by
  have dispatcher (n : Nat) : Speaker.dispatcher ≠ .channel n := nofun
  cases elicits with
  | silence => exact .silent rfl rfl
  | echo kind => exact .silent rfl rfl
  | @refusal failure frames opens refuses =>
    cases refuses with
    | unheard e kind unreadable =>
      refine .unshown rfl fun d there => ?_
      rw [List.mem_singleton.mp there]
      refine ⟨?_, f, rfl, rfl⟩
      rintro ⟨g, eq, asks⟩
      cases eq
      simp [kind] at asks
    | unreadable e kind idle unreadable =>
      refine .tell (e := .decode f.stream e) dispatcher rfl ⟨f, rfl, ?_⟩ ⟨f, rfl, rfl⟩
      cases asks : f.kind with
      | requestResponse | requestStream | requestChannel => simp
      | fireAndForget => exact absurd asks kind
      | _ => simp [FrameKind.opens, asks] at opens
    | duplicate denies readable =>
      exact .tell (e := .protocol (.duplicateStream f.stream)) dispatcher rfl trivial ⟨f, rfl, rfl⟩
  | @violation e on other heard =>
    exact .tell (e := .protocol e) dispatcher rfl trivial ⟨f, rfl, on⟩
  | unread e other =>
    refine .unshown rfl fun d there => ?_
    rw [List.mem_singleton.mp there]
    refine ⟨?_, f, rfl, rfl⟩
    rintro ⟨g, eq, asks | asks | asks⟩ <;> cases eq <;> simp [FrameKind.opens, asks] at other

section turns

variable {n budget : Nat} (found : r.task? n = some t)

include found

theorem Task.failure_agree {e : HandlerError} (owes : t.work.owes e = true) :
    r.ErrorsAgree (.turn n budget : Action ω)
      [.sent (.task t.number) (.error t.stream e.code e.message), .reported (.handler t.stream e)] :=
  .tell (e := .handler t.stream e) nofun rfl ⟨n, budget, t, rfl, found, owes⟩
    ⟨n, budget, t, rfl, found, rfl⟩

theorem Task.report_agree {e : HandlerError} (free : t.work.owes e = false) :
    r.ErrorsAgree (.turn n budget : Action ω) [.reported (.handler t.stream e)] := by
  refine .unshown rfl fun d there => ?_
  rw [List.mem_singleton.mp there]
  refine ⟨?_, n, budget, t, rfl, found, rfl⟩
  rintro ⟨m, budget', u, eq, found', owes⟩
  cases eq
  cases found.symm.trans found'
  exact Bool.false_ne_true (free.symm.trans owes)

theorem Task.answer_agree {kind : SingleRequest} {token : Option Nat} {request : Option Payload}
    (work : t.work = .single kind token request) (released : Bool) (result : Option Item) :
    r.ErrorsAgree (.turn n budget : Action ω) (t.answer kind released result) := by
  have nothing : r.ErrorsAgree (.turn n budget : Action ω) [] := .silent rfl rfl
  rcases result with _ | (e | p)
  · cases kind <;> exact nothing
  · cases kind with
    | requestResponse =>
      cases released with
      | false => exact nothing
      | true => exact Task.failure_agree found (by rw [work]; rfl)
    | fireAndForget | metadataPush => exact Task.report_agree found (by rw [work]; rfl)
  · cases kind with
    | requestResponse =>
      cases released with
      | false => exact nothing
      | true =>
        refine .silent ?_ rfl
        simp [Task.answer, answerEvents, shownIn, Event.shown?, Frame.kind_nextComplete]
    | fireAndForget | metadataPush => exact nothing

theorem Task.lastWords_agree {token : Nat} {channel : Option Nat} {phase : StreamPhase}
    (work : t.work = .stream token channel phase) (outcome : StreamOutcome) :
    r.ErrorsAgree (.turn n budget : Action ω) (t.lastWords outcome) := by
  cases outcome with
  | completed => exact .silent rfl rfl
  | cancelled => exact .silent rfl rfl
  | failed e =>
    have owes : t.work.owes e = !e.isRemote := by rw [work]; rfl
    unfold Task.lastWords
    dsimp only
    split
    next remote => exact Task.report_agree found (by rw [owes, remote]; rfl)
    next own => exact Task.failure_agree found (by simp [owes, own])

theorem Task.Says.agree (speaks : t.Says words) :
    r.ErrorsAgree (.turn n budget : Action ω) words := by
  cases speaks with
  | answer work released result => exact Task.answer_agree found work released result
  | stream work items released outcome =>
    have last : r.ErrorsAgree (.turn n budget : Action ω)
        (if released then t.lastWords outcome else []) := by
      cases released with
      | false => exact .silent rfl rfl
      | true => exact Task.lastWords_agree found work outcome
    refine last.congr ?_ ?_
    · simp [shownIn, List.filterMap_map, Function.comp_def, Event.shown?, Frame.kind_next]
    · simp [reportsIn, List.filterMap_map, Function.comp_def, Event.report?]

end turns

theorem Responder.Says.agree (speaks : Responder.Says settings r a words) : r.ErrorsAgree a words := by
  cases speaks with
  | locally a failures own =>
    refine .unshown (List.filterMap_eq_nil_iff.mpr (by simp [Event.shown?])) fun e there => ?_
    obtain ⟨d, failed, eq⟩ := List.mem_map.mp (mem_reportsIn.mp there)
    cases eq
    have local_ := own e failed
    cases e with
    | transport error => exact ⟨id, trivial⟩
    | cancellation stream message => exact ⟨id, trivial⟩
    | _ => cases local_
  | frame elicits => exact elicits.agree
  | turn found speaks => exact speaks.agree found

theorem Responder.step_errors_agree (settings : Settings) (app : Application ω) (a : Action ω)
    (s : Responder × ω) :
    ∃ events, (Responder.step settings app a s).1.history = s.1.history ++ events ∧
      s.1.ErrorsAgree a events := by
  obtain ⟨words, speaks, events, history, rfl⟩ := Responder.step_utters settings app a s
  refine ⟨events, history, speaks.agree.congr ?_ ?_⟩
  · exact (shownIn_uttered events).symm
  · exact (reportsIn_uttered events).symm

/-- A request that draws no answer has nothing else happen than what the dispatcher says. -/
theorem Responder.step_unanswered (settings : Settings) (app : Application ω) (s : Responder × ω)
    (f : Frame) (unanswered : f.kind = .fireAndForget ∨ f.kind = .metadataPush) :
    ∃ words, s.1.Elicits settings f words ∧
      (Responder.step settings app (.receive (.item (.ok f))) s).1.history = s.1.history ++ words := by
  have dispatched : ∃ words, s.1.Elicits settings f words ∧
      (s.1.beginTurn.dispatch s.2 settings app f).responder.history = s.1.history ++ words := by
    rcases unanswered with kind | kind
    · exact s.1.fireAndForget_elicits s.2 settings app f kind
    · exact s.1.dispatch_other_elicits s.2 settings app f (by rw [kind]; rfl)
  by_cases listens : s.1.Listens
  · rw [Responder.step_receive settings app f listens]
    dsimp only
    split <;> exact dispatched
  · refine ⟨[], .silence, ?_⟩
    rw [List.append_nil]
    show (s.1.beginTurn.receive s.2 settings app (.item (.ok f))).1.history = s.1.history
    unfold Responder.receive
    split
    · rfl
    next receiving =>
      split
      · rfl
      next running =>
        have gate : s.1.beginTurn.receiving = true := by simpa using receiving
        have open_ : s.1.beginTurn.shutdown = false := by simpa using running
        exact absurd ⟨gate, open_⟩ listens

/-- The dispatcher sends nothing for a metadata push, and for a request without an answer only the refusal
of one whose stream is active. -/
theorem Responder.Elicits.unanswered (elicits : r.Elicits settings f words)
    (unanswered : f.kind = .fireAndForget ∨ f.kind = .metadataPush) {speaker : Speaker} {g : Frame}
    (sent : .sent speaker g ∈ words) :
    f.kind = .fireAndForget ∧ r.registry.outbound.contains f.stream = true ∧ speaker = .dispatcher ∧
      g = .error f.stream .invalid (ProtocolError.duplicateStream f.stream).message := by
  have opens_not (kind : f.kind = .metadataPush) : f.kind.opens = false := by rw [kind]; rfl
  cases elicits with
  | silence => exact absurd sent List.not_mem_nil
  | echo kind => simp [kind] at unanswered
  | refusal opens refuses =>
    have forget : f.kind = .fireAndForget :=
      unanswered.resolve_right fun push => Bool.false_ne_true ((opens_not push).symm.trans opens)
    cases refuses with
    | unheard e kind unreadable => simp at sent
    | unreadable e kind idle unreadable => exact absurd forget kind
    | duplicate denies readable =>
      obtain ⟨rfl, rfl⟩ : speaker = .dispatcher ∧
          g = .error f.stream .invalid (ProtocolError.duplicateStream f.stream).message := by
        simpa using sent
      exact ⟨forget, denies.resolve_right (by simp [forget]), rfl, rfl⟩
  | violation on other heard =>
    have forget : f.kind = .fireAndForget := unanswered.resolve_right heard
    rw [forget] at other
    cases other
  | unread e other => simp at sent

/-- Nobody waits for an answer to the request that is worked on. -/
def Work.isUnanswered : Work → Bool
  | .single .requestResponse _ _ | .stream .. => false
  | .single .fireAndForget _ _ | .single .metadataPush _ _ => true

theorem Task.Says.unanswered (speaks : t.Says words) (work : t.work.isUnanswered = true)
    {speaker : Speaker} {g : Frame} : .sent speaker g ∉ words := by
  cases speaks with
  | @answer kind token request single released result =>
    cases kind with
    | requestResponse =>
      rw [single] at work
      cases work
    | fireAndForget | metadataPush => rcases result with _ | (e | p) <;> simp [Task.answer]
  | stream stream items released outcome =>
    rw [stream] at work
    cases work

theorem Event.isUttered_of_sent {speaker : Speaker} (own : ∀ m, speaker ≠ .channel m) (g : Frame) :
    (Event.sent speaker g).isUttered = true := by
  cases speaker with
  | channel m => exact absurd rfl (own m)
  | _ => rfl

/-- The task of a request without an answer sends nothing. -/
theorem Responder.turn_unanswered (settings : Settings) (app : Application ω) (s : Responder × ω)
    {n budget : Nat} (found : s.1.task? n = some t) (work : t.work.isUnanswered = true)
    (history : (Responder.step settings app (.turn n budget) s).1.history = s.1.history ++ events)
    {speaker : Speaker} {g : Frame} (sent : .sent speaker g ∈ events) : ∃ m, speaker = .channel m := by
  by_contra other
  obtain ⟨words, speaks, events', history', rfl⟩ :=
    Responder.step_utters settings app (.turn n budget) s
  obtain rfl : events' = events := List.append_cancel_left (history'.symm.trans history)
  have word : .sent speaker g ∈ uttered events' :=
    List.mem_filter.mpr ⟨sent, Event.isUttered_of_sent (not_exists.mp other) g⟩
  generalize uttered events' = words at speaks word
  cases speaks with
  | locally a failures own => simp at word
  | turn found' speaks =>
    cases found.symm.trans found'
    exact speaks.unanswered work word

/-- In any run, each ERROR frame that the dispatcher or a task sends is the only one of its step, and the only
report of the step is on the same stream and with the same code. The other way round, a refusal, a request
for a response or a stream that cannot be read, and the failure of an operation that owes its peer a response
are reported alone in their step, and with one such frame, unless a response stream ends with the peer's own
error. Every other ERROR frame is that of a channel, for an error that it yields in the step and has been told
of before: by an ERROR frame of the peer, or by whoever signals to it apart from any frame. Metadata pushes and
requests without an answer have nothing sent but the refusal of such a request whose stream is active;
channels that the application uses meanwhile speak for themselves. -/
theorem Responder.errors_agree (settings : Settings) (app : Application ω) (w : ω)
    (before : List (Action ω)) (a : Action ω) :
    let s := Responder.run settings app before (Responder.start, w)
    ∃ events, (Responder.step settings app a s).1.history = s.1.history ++ events ∧
      s.1.ErrorsAgree a events ∧
      (∀ m f, .sent (.channel m) f ∈ events → f.kind = .error →
        ∃ e, f = inboundAnswer f.stream e ∧ .yielded m (.error e) ∈ events ∧
          Responder.ToldOf settings app w before m f.stream e) ∧
      (∀ f, a = .receive (.item (.ok f)) → f.kind = .fireAndForget ∨ f.kind = .metadataPush →
        ∀ speaker g, .sent speaker g ∈ events →
          f.kind = .fireAndForget ∧ s.1.registry.outbound.contains f.stream = true ∧
          speaker = .dispatcher ∧
          g = .error f.stream .invalid (ProtocolError.duplicateStream f.stream).message) ∧
      ∀ n budget t, a = .turn n budget → s.1.task? n = some t → t.work.isUnanswered = true →
        ∀ speaker g, .sent speaker g ∈ events → ∃ m, speaker = .channel m := by
  intro s
  obtain ⟨events, history, agree⟩ := Responder.step_errors_agree settings app a s
  refine ⟨events, history, agree, fun m f sent kind => ?_, ?_, ?_⟩
  · obtain ⟨events', history', justified⟩ := Responder.ToldOf.answers settings app w before m a
    obtain rfl : events' = events := List.append_cancel_left (history'.symm.trans history)
    obtain ⟨stream, e, rfl, yielded, told⟩ := justified f sent kind
    exact ⟨e, rfl, yielded, told⟩
  · rintro f rfl unanswered speaker g sent
    obtain ⟨words, elicits, history'⟩ := Responder.step_unanswered settings app s f unanswered
    obtain rfl : words = events := List.append_cancel_left (history'.symm.trans history)
    exact elicits.unanswered unanswered sent
  · rintro n budget t rfl found work speaker g sent
    exact Responder.turn_unanswered settings app s found work history sent

/-- An application that keeps its channels and, while it works on a request, reads the first of them. -/
def gatherer : Application Unit :=
  { keeper with poll := fun _ w => .read 0 fun _ => .answer (.ready (.ok .empty), w) }

/-- A channel shows the peer an error that no frame has told it of, and none is reported. And a metadata push
makes the application read a channel, which then asks for payloads. -/
theorem Responder.errors_of_other_origin :
    let f := Frame.requestChannel (.ofNat 7) 5 .empty
    (let before := [.receive (.item (.ok f)), .signal 0 (.error (.application "odd")), .read 0]
      let s := Responder.run .standard keeper before (Responder.start, ())
      (∀ g, .receive (.item (.ok g)) ∈ before → g.kind ≠ .error) ∧
      (Responder.step .standard keeper (.read 0) s).1.history = s.1.history ++
        [.sent (.channel 0) (.error (.ofNat 7) .applicationError "odd"),
          .yielded 0 (.error (.application "odd"))]) ∧
    let s := Responder.run .standard gatherer
      [.receive (.item (.ok f)), .receive (.item (.ok (.metadataPush [])))] (Responder.start, ())
    (s.1.task? 1).map Task.work = some (.single .metadataPush none (some ⟨[], some []⟩)) ∧
      (Responder.step .standard gatherer (.turn 1 1) s).1.history = s.1.history ++
        [.sent (.channel 0) (.requestN (.ofNat 7) (.ofNat largestDemand)),
          .yielded 0 (.ok .empty)] := by
  refine ⟨⟨fun g there => ?_, rfl⟩, by decide, by decide⟩
  obtain rfl : g = Frame.requestChannel (.ofNat 7) 5 .empty := by simpa using there
  decide

end Multiplexer
