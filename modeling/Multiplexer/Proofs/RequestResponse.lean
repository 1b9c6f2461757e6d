import Multiplexer.Proofs.FrameHeader
import Multiplexer.Proofs.Withdrawal

/-!
Request-response operations over runs: the one answer of an operation, and who may give it. Whoever
takes the entry out first decides: the operation with its answer, or a withdrawal, after which the
operation says nothing.
-/

namespace Multiplexer

variable {ω : Type} {r r' : Responder} {n : Nat} {stream : StreamId}

/-- The words that have been said from `r` to `r'`. -/
def wordsBetween (r r' : Responder) : List Event :=
  (r'.history.drop r.history.length).filter Event.isWord

def Action.isTurnOf (n : Nat) : Action ω → Bool
  | .turn m _ => m = n
  | _ => false

/-- What operation `n` says in the course of a run, which it does in its turns only. -/
def Responder.words (settings : Settings) (app : Application ω) (n : Nat) :
    List (Action ω) → Responder × ω → List Event
  | [], _ => []
  | a :: as, s =>
    let s' := Responder.step settings app a s
    (if a.isTurnOf n then wordsBetween s.1 s'.1 else []) ++ Responder.words settings app n as s'

/-- What the application would answer for operation `n` if the operation had a turn now. -/
def Responder.answer? (app : Application ω) (n : Nat) (s : Responder × ω) : Option Item :=
  match (s.1.task? n).map Task.work with
  | some (.single kind _ request) => app.answer? kind n request s.1.beginTurn s.2
  | some (.stream ..) | none => none

/-- Request-response operation `n` has not been answered yet. -/
def Responder.Awaiting (n : Nat) (stream : StreamId) (r : Responder) : Prop :=
  ∃ t ∈ r.tasks, t.number = n ∧ t.stream = stream ∧ r.account n = [] ∧
    ∃ token request, t.work = .single .requestResponse (some token) request

/-- Request-response operation `n` has ended, with these words. -/
structure Responder.Replied (n : Nat) (stream : StreamId) (words : List Event) (r : Responder) :
    Prop where
  gone : ∀ t ∈ r.tasks, t.number ≠ n
  frames : framesOf (.task n) r.history = framesOf (.task n) words
  words : words = [] ∨ ∃ x, words = answerEvents n stream x

theorem Responder.Awaiting.frames (awaiting : Responder.Awaiting n stream r) :
    framesOf (.task n) r.history = [] := by
  obtain ⟨t, _, _, _, account, _⟩ := awaiting
  rw [← framesOf_accountOf]
  exact congrArg (framesOf (.task n)) account

theorem wordsBetween_eq {events : List Event} (h : r'.history = r.history ++ events) :
    wordsBetween r r' = events.filter Event.isWord := by
  rw [wordsBetween, h, List.drop_left]

theorem Responder.words_append (settings : Settings) (app : Application ω) (n : Nat)
    (as bs : List (Action ω)) (s : Responder × ω) :
    Responder.words settings app n (as ++ bs) s = Responder.words settings app n as s ++
      Responder.words settings app n bs (Responder.run settings app as s) := by
  induction as generalizing s with
  | nil => rfl
  | cons a as ih =>
    show _ ++ Responder.words settings app n (as ++ bs) _ = (_ ++ _) ++ _
    rw [ih, List.append_assoc]
    rfl

theorem Responder.Undisturbed.awaiting (h : Responder.Undisturbed n r r')
    (awaiting : Responder.Awaiting n stream r) : Responder.Awaiting n stream r' := by
  obtain ⟨t, there, number, on, account, work⟩ := awaiting
  exact ⟨t, (h.tasks t number).mpr there, number, on, h.account.trans account, work⟩

/-- An answered operation is never heard of again. -/
theorem Responder.Replied.move {l : Label} {words : List Event}
    (replied : Responder.Replied n stream words r) (known : n < r.controls.length)
    (move : Responder.Move l r r') : Responder.Replied n stream words r' := by
  have undisturbed := move.undisturbed known fun label => by
    obtain ⟨t, there, number, _⟩ := (label ▸ move).task_inv
    exact replied.gone t there number
  exact ⟨fun t ht number => replied.gone t ((undisturbed.tasks t number).mp ht) number,
    undisturbed.frames.trans replied.frames, replied.words⟩

theorem Responder.Replied.moves {allowed : Label → Prop} {words : List Event}
    (replied : Responder.Replied n stream words r) (h : r.Linked) (known : n < r.controls.length)
    (moves : r.Moves allowed r') : Responder.Replied n stream words r' := by
  refine moves.keep h known replied ?_
  exact fun _ move _ known replied => replied.move known move

theorem Responder.words_gone {s : Responder × ω} (settings : Settings) (app : Application ω)
    (a : Action ω) (gone : ∀ t ∈ s.1.tasks, t.number ≠ n) :
    (if a.isTurnOf n then wordsBetween s.1 (Responder.step settings app a s).1 else []) = [] := by
  cases turn : a.isTurnOf n with
  | false => rfl
  | true =>
    cases a with
    | turn m budget =>
      obtain rfl : m = n := by simpa [Action.isTurnOf] using turn
      have none : s.1.beginTurn.task? m = none := by
        simpa [Responder.task?, Responder.beginTurn] using gone
      have same : (Responder.step settings app (.turn m budget) s).1 = s.1.beginTurn := by
        simp [Responder.step, Responder.turn, none]
      rw [same, if_pos rfl, wordsBetween]
      simp [Responder.beginTurn]
    | _ => cases turn

theorem Responder.Replied.run {words : List Event} {s : Responder × ω} (settings : Settings)
    (app : Application ω) (as : List (Action ω)) (h : s.1.Linked) (known : n < s.1.controls.length)
    (replied : Responder.Replied n stream words s.1) :
    Responder.Replied n stream words (Responder.run settings app as s).1 ∧
      Responder.words settings app n as s = [] := by
  induction as generalizing s with
  | nil => exact ⟨replied, rfl⟩
  | cons a as ih =>
    have moves := h.step_moves settings app a
    have known' := Nat.lt_of_lt_of_le known moves.length_le
    obtain ⟨later, silent⟩ := ih (moves.linked h) known' (replied.moves h known moves)
    refine ⟨later, ?_⟩
    show _ ++ Responder.words settings app n as _ = []
    rw [silent, Responder.words_gone settings app a replied.gone, List.append_nil]

/-- What operation `n` says if it has a turn now: its answer, unless it has been cancelled. -/
def Responder.reply (app : Application ω) (n : Nat) (stream : StreamId) (s : Responder × ω) :
    List Event :=
  if s.1.isCancelled n then []
  else match Responder.answer? app n s with
    | some x => answerEvents n stream x
    | none => []

theorem filter_answer (t : Task) (released : Bool) (result : Option Item) :
    (t.answer .requestResponse released result).filter Event.isWord =
      t.answer .requestResponse released result := by
  rcases result with _ | (e | p) <;> cases released <;> rfl

theorem Responder.Quiet.words {events : List Event} (quiet : r.Quiet r')
    {r'' : Responder} (h : r''.history = r'.history ++ events) :
    wordsBetween r r'' = events.filter Event.isWord := by
  obtain ⟨silence, eq, silent⟩ := quiet
  have nothing : silence.filter Event.isWord = [] := by
    simpa [List.filter_eq_nil_iff] using silent
  rw [eq, List.append_assoc] at h
  rw [wordsBetween_eq h, List.filter_append, nothing, List.nil_append]

/-- The end of a request-response operation: its result is told if the entry is still its own. -/
theorem Responder.Linked.settle_response (h : r.Linked) {t : Task} {token : Nat}
    {request : Option Payload} (there : t ∈ r.tasks)
    (work : t.work = .single .requestResponse (some token) request)
    (silent : framesOf (.task t.number) r.history = []) (result : Option Item) :
    let words := t.answer .requestResponse (!r.isCancelled t.number) result
    let r' := (r.settleSingle t .requestResponse (some token) result).removeTask t.number
    r'.history = r.history ++ words ∧ Responder.Replied t.number t.stream words r' := by
  intro words r'
  have released : (t.release (some token) r.registry).2 = !r.isCancelled t.number := by
    rw [h.release_eq there (by rw [work]; rfl)]
    cases r.isCancelled t.number <;> rfl
  have history : r'.history = r.history ++ words := by
    show (r.settleSingle t .requestResponse (some token) result).history = _
    rw [Responder.settleSingle_eq, released]
  refine ⟨history, fun u hu => ((Responder.mem_tasks_removeTask _).mp hu).2, ?_, ?_⟩
  · rw [history, framesOf_append, silent, List.nil_append]
  · cases result with
    | none => exact .inl rfl
    | some x =>
      cases cancelled : r.isCancelled t.number with
      | true => exact .inl (by simp [words, Task.answer, cancelled])
      | false => exact .inr ⟨x, by simp [words, Task.answer, cancelled]⟩

/-- A turn of a request-response operation says what it has to say and ends it, or says nothing. -/
theorem Responder.Awaiting.turn {s : Responder × ω} (settings : Settings) (app : Application ω)
    (budget : Nat) (h : s.1.Linked) (awaiting : Responder.Awaiting n stream s.1) :
    let r' := (Responder.step settings app (.turn n budget) s).1
    let words := Responder.reply app n stream s
    wordsBetween s.1 r' = words ∧
      (Responder.Awaiting n stream r' ∧ words = [] ∨ Responder.Replied n stream words r') := by
  obtain ⟨r, w⟩ := s
  obtain ⟨t, there, rfl, rfl, account, token, request, work⟩ := awaiting
  have begun : r.KeepsTasks r.beginTurn := Responder.AsideMove.keepsTasks (.pace r _)
  have found : r.task? t.number = some t := h.task?_eq_some_iff.mpr ⟨there, rfl⟩
  have answer : Responder.answer? app t.number (r, w) =
      app.answer? .requestResponse t.number request r.beginTurn w := by
    simp [Responder.answer?, found, work]
  have turned : (Responder.step settings app (.turn t.number budget) (r, w)).1 =
      (r.beginTurn.turnSingle w app t .requestResponse (some token) request).1 := by
    have found' : r.beginTurn.task? t.number = some t := found
    simp [Responder.step, Responder.turn, found', work]
  obtain ⟨panic, r1, labours, _, eq⟩ :=
    r.beginTurn.turnSingle_spec w app t .requestResponse (some token) request
  have kept := begun.trans (Responder.AsideMoves.keepsTasks (Responder.Labours.aside labours))
  have there1 : t ∈ r1.tasks := kept.tasks ▸ there
  have waiting : Responder.Awaiting t.number t.stream r1 :=
    ⟨t, there1, rfl, rfl, (kept.account _).trans account, token, request, work⟩
  have quiet : r.Quiet r1 := (show r.Quiet r.beginTurn from ⟨[], by simp [Responder.beginTurn]⟩).trans
    (Responder.Labours.quiet labours)
  rw [turned, eq]
  dsimp only [Responder.reply]
  rw [answer]
  cases hv : r.beginTurn.verdict? w app t .requestResponse request with
  | none =>
    obtain ⟨running, unanswered⟩ := Responder.waiting_of_verdict hv
    have running : r.isCancelled t.number = false := running
    have said : wordsBetween r (r1.setWork t.number (.single .requestResponse (some token) none)) =
        [] := quiet.words (List.append_nil _).symm
    rw [running, unanswered]
    have later : Responder.Awaiting t.number t.stream
        (r1.setWork t.number (.single .requestResponse (some token) none)) :=
      ⟨_, Responder.mem_setWork there1 _, rfl, rfl, (kept.account _).trans account, token, none, rfl⟩
    exact ⟨said, .inl ⟨later, rfl⟩⟩
  | some result =>
    obtain ⟨history, replied⟩ :=
      (kept.linked h).settle_response there1 work waiting.frames result
    have said := (quiet.words history).trans (filter_answer _ _ _)
    have words : t.answer .requestResponse (!r1.isCancelled t.number) result =
        if r.isCancelled t.number then []
        else match app.answer? .requestResponse t.number request r.beginTurn w with
          | some x => answerEvents t.number t.stream x
          | none => [] := by
      rw [kept.isCancelled]
      cases cancelled : r.isCancelled t.number with
      | true => cases result <;> rfl
      | false =>
        cases result with
        | none =>
          have stopped : r.beginTurn.isCancelled t.number = true :=
            Responder.isCancelled_of_verdict hv
          exact absurd (cancelled.symm.trans stopped) Bool.false_ne_true
        | some x =>
          rw [Responder.answer_of_verdict hv]
          rfl
    rw [words] at said replied
    exact ⟨said, .inr replied⟩

/-- What any action makes of an operation that awaits its answer. -/
theorem Responder.Awaiting.step {s : Responder × ω} (settings : Settings) (app : Application ω)
    (a : Action ω) (h : s.1.Linked) (known : n < s.1.controls.length)
    (awaiting : Responder.Awaiting n stream s.1) :
    let r' := (Responder.step settings app a s).1
    let words := if a.isTurnOf n then Responder.reply app n stream s else []
    (if a.isTurnOf n then wordsBetween s.1 r' else []) = words ∧
      (Responder.Awaiting n stream r' ∧ words = [] ∨ Responder.Replied n stream words r') := by
  cases turn : a.isTurnOf n with
  | true =>
    cases a with
    | turn m budget =>
      obtain rfl : m = n := by simpa [Action.isTurnOf] using turn
      exact awaiting.turn settings app budget h
    | _ => cases turn
  | false =>
    have idle : ¬ a.permits (.task n) := by
      rintro ⟨budget, rfl⟩
      simp [Action.isTurnOf] at turn
    have undisturbed := (h.step_moves settings app a).undisturbed h known idle
    exact ⟨rfl, .inl ⟨undisturbed.awaiting awaiting, rfl⟩⟩

/-- An operation that awaits its answer says it once in a run, or goes on waiting without a word. -/
theorem Responder.Awaiting.run {s : Responder × ω} (settings : Settings) (app : Application ω)
    (as : List (Action ω)) (h : s.1.Linked) (known : n < s.1.controls.length)
    (awaiting : Responder.Awaiting n stream s.1) :
    let r' := (Responder.run settings app as s).1
    let words := Responder.words settings app n as s
    Responder.Awaiting n stream r' ∧ words = [] ∨ Responder.Replied n stream words r' := by
  induction as generalizing s with
  | nil => exact .inl ⟨awaiting, rfl⟩
  | cons a as ih =>
    have moves := h.step_moves settings app a
    have linked := moves.linked h
    have known' := Nat.lt_of_lt_of_le known moves.length_le
    obtain ⟨said, state⟩ := awaiting.step settings app a h known
    dsimp only [Responder.words]
    rw [said]
    -- the turn that answers ends the operation, which says nothing from there on
    rcases state with ⟨awaiting, silent⟩ | replied
    · rw [silent]
      exact ih linked known' awaiting
    · obtain ⟨later, rest⟩ := replied.run settings app as linked known'
      rw [rest, List.append_nil]
      exact .inr later

/-- An operation that awaits its answer is registered just when it has not been cancelled. -/
theorem Responder.Awaiting.registered_iff (h : r.Linked)
    (awaiting : Responder.Awaiting n stream r) :
    r.registry.outbound? stream = some n ↔ r.isCancelled n = false := by
  obtain ⟨t, there, rfl, rfl, _, token, request, work⟩ := awaiting
  have htoken : t.work.token? = some token := by rw [work]; rfl
  rw [h.live t there token htoken, Registry.outbound?_eq_some_iff h.streams]
  constructor
  · rintro ⟨token', entry⟩
    cases htoken.symm.trans (h.own t there _ entry (.inr rfl)).1
    exact entry
  · exact fun entry => ⟨token, entry⟩

theorem Responder.Moves.isCancelled {allowed : Label → Prop} (moves : r.Moves allowed r')
    (h : r.isCancelled n = true) : r'.isCancelled n = true :=
  moves.invariant h fun _ move cancelled => move.isCancelled cancelled

/-- An operation that is cancelled before its answer says nothing any more. -/
theorem Responder.Awaiting.cancelled_run {s : Responder × ω} (settings : Settings)
    (app : Application ω) (as : List (Action ω)) (h : s.1.Linked) (known : n < s.1.controls.length)
    (awaiting : Responder.Awaiting n stream s.1) (cancelled : s.1.isCancelled n = true) :
    Responder.words settings app n as s = [] := by
  induction as generalizing s with
  | nil => rfl
  | cons a as ih =>
    have moves := h.step_moves settings app a
    have linked := moves.linked h
    have known' := Nat.lt_of_lt_of_le known moves.length_le
    have silent : (if a.isTurnOf n then Responder.reply app n stream s else []) = [] := by
      simp [Responder.reply, cancelled]
    obtain ⟨said, state⟩ := awaiting.step settings app a h known
    dsimp only [Responder.words]
    rw [said, silent, List.nil_append]
    rcases state with ⟨awaiting, _⟩ | replied
    · exact ih linked known' awaiting (moves.isCancelled cancelled)
    · exact (replied.run settings app as linked known').2

theorem answerEvents_ne_nil (n : Nat) (stream : StreamId) (x : Item) :
    answerEvents n stream x ≠ [] := by
  cases x <;> simp [answerEvents]

/-- An operation that obtains its answer before it is cancelled gives that answer and no other. -/
theorem Responder.Awaiting.answered_run {s : Responder × ω} {x : Item} (settings : Settings)
    (app : Application ω) (budget : Nat) (rest : List (Action ω)) (h : s.1.Linked)
    (known : n < s.1.controls.length) (awaiting : Responder.Awaiting n stream s.1)
    (running : s.1.isCancelled n = false) (answer : Responder.answer? app n s = some x) :
    Responder.words settings app n (.turn n budget :: rest) s = answerEvents n stream x := by
  have reply : Responder.reply app n stream s = answerEvents n stream x := by
    simp [Responder.reply, running, answer]
  have turn : (Action.turn n budget : Action ω).isTurnOf n = true := by simp [Action.isTurnOf]
  obtain ⟨said, state⟩ := awaiting.turn settings app budget h
  rw [reply] at said state
  dsimp only [Responder.words]
  rw [if_pos turn, said]
  rcases state with ⟨_, silent⟩ | replied
  · exact absurd silent (answerEvents_ne_nil n stream x)
  · have moves := h.step_moves settings app (.turn n budget)
    have known' := Nat.lt_of_lt_of_le known moves.length_le
    rw [(replied.run settings app rest (moves.linked h) known').2, List.append_nil]

theorem Responder.Replied.answer?_eq_none {words : List Event} {s : Responder × ω}
    (app : Application ω) (replied : Responder.Replied n stream words s.1) :
    Responder.answer? app n s = none := by
  have none : s.1.task? n = none := by simpa [Responder.task?] using replied.gone
  simp [Responder.answer?, none]

theorem Responder.Begun.awaiting {control : Control} {token : Nat} {p : Payload}
    (begun : Responder.Begun n stream control (.single .requestResponse (some token) (some p)) r) :
    Responder.Awaiting n stream r :=
  ⟨_, begun.there, rfl, rfl, begun.account, token, some p, rfl⟩

/-- The answer of an accepted request-response operation. In any run it says nothing or one answer:
NEXT_COMPLETE with the payload, or ERROR with code and text of the error and a report of it. It says
the answer of the application if it is still registered when it obtains it. If its entry is gone by
then, it never says anything; and an entry is gone once it has been withdrawn. -/
theorem Responder.response_once (settings : Settings) (app : Application ω) (w : ω)
    (before : List (Action ω)) (f : Frame) (kind : f.kind = .requestResponse)
    (accepted : Responder.Accepts settings app
      (Responder.run settings app before (Responder.start, w)) f) :
    let s := Responder.run settings app before (Responder.start, w)
    let n := s.1.controls.length
    let s' := Responder.step settings app (.receive (.item (.ok f))) s
    (∀ after,
      let words := Responder.words settings app n after s'
      framesOf (.task n) (Responder.run settings app after s').1.history =
        framesOf (.task n) words ∧ (words = [] ∨ ∃ x, words = answerEvents n f.stream x)) ∧
    (∀ mid budget rest x,
      let now := Responder.run settings app mid s'
      now.1.registry.outbound? f.stream = some n → Responder.answer? app n now = some x →
        Responder.words settings app n (mid ++ .turn n budget :: rest) s' =
          answerEvents n f.stream x) ∧
    (∀ mid rest,
      (Responder.run settings app mid s').1.registry.outbound? f.stream ≠ some n →
        Responder.words settings app n mid s' = [] →
        Responder.words settings app n (mid ++ rest) s' = []) ∧
    (∀ mid (a : Action ω), a.withdraws f.stream (Responder.run settings app mid s').1 →
      (Responder.run settings app (mid ++ [a]) s').1.registry.outbound? f.stream = none) ∧
    ∀ p : Payload, (Frame.nextComplete f.stream p).announcesMetadata = p.metadata.isSome := by
  intro s n s'
  have linked := Responder.linked_start.run settings app before (s := (Responder.start, w))
  obtain ⟨token, p, _, begun⟩ := Responder.accepted_response linked kind accepted
  have awaiting : Responder.Awaiting n f.stream s'.1 := begun.awaiting
  have linked' : s'.1.Linked := begun.linked
  have known : n < s'.1.controls.length := begun.linked.task_lt begun.there
  have run_linked (mid : List (Action ω)) := linked'.run settings app mid
  have run_known (mid : List (Action ω)) : n < (Responder.run settings app mid s').1.controls.length :=
    Nat.lt_of_lt_of_le known (linked'.run_moves settings app mid).length_le
  refine ⟨fun after => ?_, fun mid budget rest x registered answer => ?_,
    fun mid rest gone silent => ?_, fun mid a withdraws => ?_, fun p => ?_⟩
  · rcases awaiting.run settings app after linked' known with ⟨awaiting, silent⟩ | replied
    · exact ⟨by rw [awaiting.frames, silent]; rfl, .inl silent⟩
    · exact ⟨replied.frames, replied.words⟩
  · rw [Responder.words_append]
    rcases awaiting.run settings app mid linked' known with ⟨awaiting, silent⟩ | replied
    · have running := (awaiting.registered_iff (run_linked mid)).mp registered
      rw [silent, List.nil_append]
      exact awaiting.answered_run settings app budget rest (run_linked mid) (run_known mid) running
        answer
    -- what has been answered has no task that could be asked
    · exact absurd ((replied.answer?_eq_none app).symm.trans answer) (by simp)
  · rw [Responder.words_append, silent, List.nil_append]
    rcases awaiting.run settings app mid linked' known with ⟨awaiting, _⟩ | replied
    · have cancelled : (Responder.run settings app mid s').1.isCancelled n = true := by
        have := mt (awaiting.registered_iff (run_linked mid)).mpr gone
        simpa using this
      exact awaiting.cancelled_run settings app rest (run_linked mid) (run_known mid) cancelled
    · exact (replied.run settings app rest (run_linked mid) (run_known mid)).2
  · rw [Responder.run_append]
    exact withdraws.free settings app
  · exact Frame.announcesMetadata_ofPayload f.stream .nextComplete p

/-- An application that takes two polls to answer a request with its payload. -/
def echoer : Application (Option Payload × Bool) where
  start _ _ p _ := (some p, false)
  poll _ w :=
    match w with
    | (some p, true) => .answer (.ready (.ok p), w)
    | (request, _) => .answer (.pending, (request, true))
  openStream _ _ w := .answer (none, w)
  openChannel _ _ _ w := .answer (none, w)
  pull _ w := .answer (.ready none, w)
  drop _ w := .answer w
  dispose w := .answer (none, w)

/-- A request that is answered at its second turn. -/
theorem Responder.echoer_response_once :
    let s := Responder.run .standard echoer [] (Responder.start, (none, false))
    let n := s.1.controls.length
    let f := Frame.requestResponse (.ofNat 1) .empty
    let s' := Responder.step .standard echoer (.receive (.item (.ok f))) s
    let now := Responder.run .standard echoer [.turn n 1] s'
    Responder.Accepts .standard echoer s f ∧ now.1.registry.outbound? f.stream = some n ∧
      Responder.answer? echoer n now = some (.ok .empty) ∧
      Responder.words .standard echoer n ([.turn n 1] ++ .turn n 1 :: [.turn n 1]) s' =
        answerEvents n f.stream (.ok .empty) := by
  have accepted : Responder.Accepts .standard echoer
      (Responder.run .standard echoer [] (Responder.start, (none, false)))
      (.requestResponse (.ofNat 1) .empty) := by decide
  have once := Responder.response_once .standard echoer (none, false) [] _ rfl accepted
  dsimp only at once ⊢
  refine ⟨accepted, ?registered, ?answer, once.2.1 _ 1 _ _ ?registered ?answer⟩
  · decide
  · decide

end Multiplexer
