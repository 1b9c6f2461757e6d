import Multiplexer.Proofs.LastFrames

/-!
What a responder says: the form of every frame that it hands over, with the payload of the application in
those that carry one.
-/

namespace Multiplexer

variable {ω : Type} {r r' : Responder} {n : Nat} {t : Task} {f : Frame} {speaker : Speaker}
  {events history history' : List Event}

/-- What the parts of a responder may say once `history` has happened. -/
inductive Speaker.MaySay (history : List Event) : Speaker → Frame → Prop where
  | own {f : Frame} (own : f.FromDispatcher) : MaySay history .dispatcher f
  | inbound (n : Nat) {stream : StreamId} {f : Frame} (own : f.FromInbound stream) :
    MaySay history (.channel n) f
  | item {n : Nat} (stream : StreamId) {p : Payload} (pulled : .pulled n (.ok p) ∈ history) :
    MaySay history (.task n) (.next stream p)
  | answer (n : Nat) (stream : StreamId) (p : Payload) :
    MaySay history (.task n) (.nextComplete stream p)
  | completion (n : Nat) (stream : StreamId) : MaySay history (.task n) (.complete stream)
  | failure (n : Nat) (stream : StreamId) (e : HandlerError) :
    MaySay history (.task n) (.error stream e.code e.message)

theorem Speaker.MaySay.mono (may : speaker.MaySay history f) (later : history ⊆ history') :
    speaker.MaySay history' f := by
  cases may with
  | own own => exact .own own
  | inbound n own => exact .inbound n own
  | item stream pulled => exact .item stream (later pulled)
  | answer n stream p => exact .answer n stream p
  | completion n stream => exact .completion n stream
  | failure n stream e => exact .failure n stream e

/-! ### Every frame that has been sent -/

/-- Whatever has been said has its form, and an item in hand is one that has been pulled. -/
structure Responder.Spoken (r : Responder) : Prop where
  said : ∀ speaker f, Event.sent speaker f ∈ r.history → speaker.MaySay r.history f
  held : ∀ t ∈ r.tasks, ∀ p, t.work.inHand = some p → Event.pulled t.number (.ok p) ∈ r.history

theorem Responder.spoken_start : Responder.start.Spoken :=
  ⟨fun _ _ sent => absurd sent List.not_mem_nil, fun _ there => absurd there List.not_mem_nil⟩

theorem Responder.Spoken.tell (h : r.Spoken) (tasks : r'.tasks = r.tasks)
    (history : r'.history = r.history ++ events)
    (may : ∀ speaker f, .sent speaker f ∈ events → speaker.MaySay r'.history f) : r'.Spoken := by
  have later : r.history ⊆ r'.history := history ▸ List.subset_append_left _ _
  refine ⟨fun speaker f sent => ?_, fun t there p held => later (h.held t (tasks ▸ there) p held)⟩
  rw [history] at sent
  exact (List.mem_append.mp sent).elim (fun early => (h.said speaker f early).mono later)
    (may speaker f)

/-- Nothing is said. -/
theorem Responder.Spoken.keep (h : r.Spoken) (tasks : r'.tasks = r.tasks)
    (history : r'.history = r.history) : r'.Spoken :=
  h.tell tasks (history.trans (List.append_nil _).symm) fun _ _ sent => absurd sent List.not_mem_nil

theorem Responder.Spoken.setWork (h : r.Spoken) {work : Work}
    (held : ∀ p, work.inHand = some p → .pulled n (.ok p) ∈ r.history) :
    (r.setWork n work).Spoken := by
  refine ⟨h.said, fun t there p inHand => ?_⟩
  obtain ⟨u, old, rfl⟩ := List.mem_map.mp there
  by_cases number : u.number = n
  · rw [if_pos number] at inHand ⊢
    exact number ▸ held p inHand
  · rw [if_neg number] at inHand ⊢
    exact h.held u old p inHand

theorem Responder.Spoken.removeTask (h : r.Spoken) (n : Nat) : (r.removeTask n).Spoken :=
  ⟨h.said, fun t there => h.held t (List.mem_filter.mp there).1⟩

theorem Responder.Spoken.addTask (h : r.Spoken) (fresh : t.work.inHand = none) :
    Responder.Spoken { r with tasks := r.tasks ++ [t] } := by
  refine ⟨h.said, fun u there p held => ?_⟩
  rcases List.mem_append.mp there with old | new
  · exact h.held u old p held
  · rw [List.mem_singleton.mp new, fresh] at held
    cases held

theorem Responder.Applies.spoken {c : Channel} {step : ChannelStep} {xs : List Item}
    (applies : Responder.Applies n c step xs r r') (h : r.Spoken) : r'.Spoken := by
  obtain ⟨registry, allowance, _, _, eq⟩ := applies.changes.rest
  refine h.tell (by rw [eq]) (by rw [eq]) fun speaker f sent => ?_
  rcases List.mem_append.mp sent with sent | yielded
  · obtain ⟨g, there, same⟩ := List.mem_map.mp sent
    cases same
    exact .inbound n (applies.acts.frames f there)
  · obtain ⟨x, _, other⟩ := List.mem_map.mp yielded
    cases other

theorem Responder.AsideMove.spoken (move : r.AsideMove r') (h : r.Spoken) : r'.Spoken := by
  have tasks := move.keepsTasks.tasks
  cases move with
  | channel step =>
    obtain rfl | ⟨n, c, step, xs, applies⟩ := step.applies
    · exact h
    · exact applies.spoken h
  | signal n s =>
    unfold Responder.signal
    split
    · exact h.keep rfl rfl
    · exact h
  | openInbound opened =>
    unfold Responder.openInbound at opened
    split at opened
    · cases opened
    · split at opened <;> cases opened <;> exact h.keep rfl rfl
  | record e unowned silent _ _ own =>
    refine h.tell rfl rfl fun speaker f sent => ?_
    obtain rfl := List.mem_singleton.mp sent
    cases speaker with
    | dispatcher => exact .own (own f rfl)
    | channel n => exact absurd rfl (silent n f)
    | task n => cases unowned
  | _ => exact h.keep rfl rfl

theorem Responder.AsideMoves.spoken (moves : r.AsideMoves r') (h : r.Spoken) : r'.Spoken := by
  induction moves with
  | refl => exact h
  | tail _ step ih => exact step.spoken ih

theorem Task.LastWord.maySay (last : t.LastWord (.sent speaker f)) : speaker.MaySay history f := by
  cases last with
  | completion => exact .completion t.number t.stream
  | failure e => exact .failure t.number t.stream e

theorem Task.LastWord.unanswered (last : t.LastWord (.sent speaker f)) : f.kind ≠ .nextComplete := by
  cases last <;> nofun

theorem Task.Move.spoken (move : t.Move r r') (h : r.Spoken) (there : t ∈ r.tasks) : r'.Spoken := by
  cases move with
  | waitSingle work => exact h.setWork nofun
  | @finishSingle r1 kind token request work dropped result cancelled =>
    have left := Responder.AsideMoves.spoken dropped h
    rw [Responder.settleSingle_eq]
    refine Responder.Spoken.removeTask ?_ t.number
    refine left.tell rfl rfl fun speaker f sent => ?_
    obtain ⟨p, _, said⟩ | last := Task.mem_answer sent
    · cases said
      exact .answer t.number t.stream p
    · exact last.maySay
  | pull work p =>
    have noted : (r.record (.pulled t.number (.ok p))).Spoken := h.tell rfl rfl (by simp)
    refine noted.setWork fun q held => ?_
    cases held
    exact List.mem_append_right _ (List.mem_singleton_self _)
  | @next token channel phase p d d' work held demand taken =>
    have pulled : .pulled t.number (.ok p) ∈ r.history := h.held t there p (by rw [work]; exact held)
    have told : ((r.setDemand t.number d').send (.task t.number) (.next t.stream p)).Spoken := by
      refine h.tell rfl rfl fun speaker f sent => ?_
      cases List.mem_singleton.mp sent
      exact .item t.stream (List.mem_append_left _ pulled)
    exact told.setWork nofun
  | @wait token channel phase phase' d' work held kept =>
    have same : (r.setDemand t.number d').Spoken := h.keep rfl rfl
    refine same.setWork fun p inHand => h.held t there p ?_
    rw [work]
    exact held.symm.trans inHand
  | @finishStream r1 token channel phase events outcome work ends dropped =>
    have noted : Responder.Spoken { r with history := r.history ++ events } :=
      h.tell rfl rfl fun speaker f sent => absurd sent (ends.silent speaker f)
    have left := Responder.AsideMoves.spoken dropped noted
    rw [Responder.settleStream_eq]
    refine Responder.Spoken.removeTask ?_ t.number
    refine left.tell rfl rfl fun speaker f sent => ?_
    split at sent
    · exact (Task.mem_lastWords sent).maySay
    · cases sent

theorem Responder.Move.spoken {l : Label} (move : Responder.Move l r r') (h : r.Spoken) :
    r'.Spoken := by
  cases move with
  | aside step => exact step.spoken h
  | begin begins running plain uncancelled token fresh =>
    obtain ⟨told, moves, rfl⟩ := begins.opened
    exact (Responder.AsideMoves.spoken moves (h.keep rfl rfl)).addTask fresh
  | startPush stream p running =>
    have same : Responder.Spoken { r with controls := r.controls ++ [.task false] } := h.keep rfl rfl
    exact same.addTask rfl
  | register stream control => exact h.keep rfl rfl
  | cancel found =>
    unfold Responder.cancelStream
    split <;> exact h.keep rfl rfl
  | grant found demand =>
    unfold Responder.grantStream
    split <;> exact h.keep rfl rfl
  | drain => exact h.keep rfl rfl
  | shut empty => exact h.keep rfl rfl
  | dispose => exact h.tell rfl rfl (by simp)
  | disconnect => exact h.keep rfl rfl
  | task there step => exact step.spoken h there

theorem Responder.spoken_run (settings : Settings) (app : Application ω) (w : ω)
    (actions : List (Action ω)) :
    (Responder.run settings app actions (Responder.start, w)).1.Spoken :=
  (Responder.linked_start.run_moves settings app actions (s := (Responder.start, w))).invariant
    Responder.spoken_start fun _ move => move.spoken

/-! ### The answers to requests -/

/-- No answer is said in the course of a response stream. -/
theorem Task.Rests.unanswered {app : Application ω} {token : Nat} {channel : Option Nat}
    {y : StreamPhase × Responder} (rests : t.Rests app token channel y r')
    (kind : f.kind = .nextComplete) (sent : .sent (.task t.number) f ∈ r'.history) :
    .sent (.task t.number) f ∈ y.2.history := by
  obtain same | ⟨held, outcome, proceeds, rfl, _⟩ := rests.settles
  · exact same ▸ sent
  · have dropped := proceeds.trans (held.dropOwnChannel_proceeds channel t.number)
    rcases Responder.mem_history_settleStream.mp sent with early | last
    · exact dropped.sent_before (by rw [kind]; rfl) early
    · split at last
      · exact absurd kind (Task.mem_lastWords last).unanswered
      · cases last

/-- The turn in which an operation says an answer is one in which the application gives it. -/
theorem Responder.Linked.answer_in_turn {s : Responder × ω} (h : s.1.Linked) (settings : Settings)
    (app : Application ω) (budget : Nat) (kind : f.kind = .nextComplete)
    (before : .sent (.task n) f ∉ s.1.history)
    (sent : .sent (.task n) f ∈ (Responder.step settings app (.turn n budget) s).1.history) :
    ∃ stream p, Responder.answer? app n s = some (.ok p) ∧ f = .nextComplete stream p := by
  obtain ⟨r, w⟩ := s
  have last : f.kind.isLast = true := by rw [kind]; rfl
  have early {r' : Responder} (proceeds : Responder.Proceeds n r.beginTurn r') :
      Event.sent (.task n) f ∉ r'.history := fun told => before (proceeds.sent_before last told)
  simp only [Responder.step, Responder.turn] at sent
  cases found : r.beginTurn.task? n with
  | none =>
    rw [found] at sent
    exact absurd sent before
  | some t =>
    rw [found] at sent
    have found : r.task? n = some t := found
    obtain ⟨there, rfl⟩ := h.task?_eq_some_iff.mp found
    cases work : t.work with
    | single single token request =>
      simp only [work] at sent
      obtain ⟨panic, left, labours, _, eq⟩ :=
        r.beginTurn.turnSingle_spec w app t single token request
      have unsaid : Event.sent (.task t.number) f ∉ left.history :=
        early (Responder.Labours.proceeds labours t.number)
      rw [eq] at sent
      cases verdict : r.beginTurn.verdict? w app t single request with
      | none =>
        rw [verdict] at sent
        exact absurd sent unsaid
      | some result =>
        rw [verdict] at sent
        obtain ⟨p, rfl, said⟩ | last := Task.mem_answer
          ((Responder.mem_history_settleSingle.mp sent).resolve_left unsaid)
        · cases said
          refine ⟨t.stream, p, ?_, rfl⟩
          simp [Responder.answer?, found, work, Responder.answer_of_verdict verdict]
        · exact absurd kind last.unanswered
    | stream token channel phase =>
      simp only [work] at sent
      obtain ⟨y, drives, rests⟩ :=
        Responder.turnStream_spec app t token channel budget phase r.beginTurn w
      exact absurd (rests.unanswered kind sent) (early (Task.Drives.proceeds drives))

/-- In one of its turns operation `n` is answered with the payload. -/
def Responder.Answers (settings : Settings) (app : Application ω) (w : ω) (actions : List (Action ω))
    (n : Nat) (p : Payload) : Prop :=
  ∃ before budget after, actions = before ++ .turn n budget :: after ∧
    Responder.answer? app n (Responder.run settings app before (Responder.start, w)) = some (.ok p)

/-- Whoever is said to have answered has been given the answer by the application. -/
theorem Responder.answers_of_sent {settings : Settings} {app : Application ω} {w : ω}
    {actions : List (Action ω)} (kind : f.kind = .nextComplete)
    (sent : .sent (.task n) f ∈
      (Responder.run settings app actions (Responder.start, w)).1.history) :
    ∃ stream p, Responder.Answers settings app w actions n p ∧ f = .nextComplete stream p := by
  have linked : Responder.Linked (Responder.start, w).1 := Responder.linked_start
  obtain ⟨mid, budget, rest, rfl, before, now⟩ :=
    linked.sent_in_turn settings app List.not_mem_nil sent
  obtain ⟨stream, p, answer, rfl⟩ :=
    (linked.run settings app mid).answer_in_turn settings app budget kind before now
  exact ⟨stream, p, ⟨mid, budget, rest, rfl, answer⟩, rfl⟩

end Multiplexer
