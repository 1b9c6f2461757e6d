import Multiplexer.Proofs.Undisturbed

/-!
The account of a response stream: one frame for each item before the next is pulled, and at most
one last word. Sent items are paid for with the credit granted.
-/

namespace Multiplexer

variable {r r' : Responder} {n : Nat} {stream : StreamId}

/-- Items pulled and sent, one after the other. -/
def delivered (n : Nat) (stream : StreamId) (ps : List Payload) : List Event :=
  ps.flatMap fun p => [.pulled n (.ok p), .sent (.task n) (.next stream p)]

/-- The event of an item that the driver of a response stream holds. -/
def StreamPhase.pending (n : Nat) (phase : StreamPhase) : List Event :=
  phase.inHand.toList.map fun p => .pulled n (.ok p)

/-- What the account of a response stream ends with. Only a stream that is cut off ends without having
been asked for its end. -/
inductive StreamLast (n : Nat) (stream : StreamId) : Bool → List Event → Prop where
  | cut (phase : StreamPhase) : StreamLast n stream true (phase.pending n)
  | completed (cut : Bool) :
    StreamLast n stream cut [.ended n, .sent (.task n) (.complete stream)]
  | failed (cut : Bool) (e : HandlerError) (own : e.isRemote = false) :
    StreamLast n stream cut
      [.pulled n (.error e), .sent (.task n) (.error stream e.code e.message)]
  | remote (cut : Bool) (e : HandlerError) (others : e.isRemote = true) :
    StreamLast n stream cut [.pulled n (.error e)]

/-- Operation `n` is a response stream that has sent the items `ps`. -/
def Responder.Streaming (n : Nat) (stream : StreamId) (r : Responder) (ps : List Payload) : Prop :=
  ∃ t ∈ r.tasks, t.number = n ∧ t.stream = stream ∧ ∃ token channel phase,
    t.work = .stream token channel phase ∧ r.account n = delivered n stream ps ++ phase.pending n

/-- Operation `n` was a response stream that has sent the items `ps`. -/
structure Responder.Streamed (n : Nat) (stream : StreamId) (cut : Bool) (r : Responder)
    (ps : List Payload) : Prop where
  gone : ∀ t ∈ r.tasks, t.number ≠ n
  ended : ∃ last, StreamLast n stream cut last ∧ r.account n = delivered n stream ps ++ last

/-- All credit granted to operation `n` that has not been used up for items sent is left, unless it
has reached the limit. -/
def Responder.Credited (n granted sent : Nat) (r : Responder) : Prop :=
  ∃ d, r.demand? n = some d ∧
    (d.credit = unbounded ∧ unbounded ≤ granted ∨ d.credit < unbounded ∧ sent + d.credit = granted)

theorem Responder.Undisturbed.streaming {ps : List Payload} (h : Responder.Undisturbed n r r')
    (streaming : Responder.Streaming n stream r ps) :
    Responder.Streaming n stream r' ps := by
  obtain ⟨t, there, number, rest⟩ := streaming
  exact ⟨t, (h.tasks t number).mpr there, number, by rw [h.account]; exact rest⟩

theorem Responder.Undisturbed.streamed {ps : List Payload} {cut : Bool}
    (h : Responder.Undisturbed n r r') (streamed : Responder.Streamed n stream cut r ps) :
    Responder.Streamed n stream cut r' ps :=
  ⟨fun t ht number => streamed.gone t ((h.tasks t number).mp ht) number,
    by rw [h.account]; exact streamed.ended⟩

/-- A response stream that has ended is never heard of again. -/
theorem Responder.Streamed.move {l : Label} {ps : List Payload} {cut : Bool}
    (streamed : Responder.Streamed n stream cut r ps) (known : n < r.controls.length)
    (move : Responder.Move l r r') : Responder.Streamed n stream cut r' ps := by
  refine (move.undisturbed known fun label => ?_).streamed streamed
  obtain ⟨t, there, number, _⟩ := (label ▸ move).task_inv
  exact streamed.gone t there number

theorem Responder.Streamed.moves {allowed : Label → Prop} {ps : List Payload} {cut : Bool}
    (streamed : Responder.Streamed n stream cut r ps) (h : r.Linked) (known : n < r.controls.length)
    (moves : r.Moves allowed r') : Responder.Streamed n stream cut r' ps := by
  refine moves.keep (P := fun r => Responder.Streamed n stream cut r ps) h known streamed ?_
  exact fun _ move _ known streamed => streamed.move known move

theorem StreamPhase.Ends.last {t : Task} {phase : StreamPhase} {cancelled : Bool}
    {events : List Event} {outcome : StreamOutcome}
    (ends : phase.Ends t.number cancelled events outcome) :
    StreamLast t.number t.stream cancelled (phase.pending t.number ++ accountOf t.number events ++
      accountOf t.number (if cancelled then [] else t.lastWords outcome)) := by
  have failed (e : HandlerError) : StreamLast t.number t.stream false
      (accountOf t.number [.pulled t.number (.error e)] ++
        accountOf t.number (t.lastWords (.failed e))) := by
    cases remote : e.isRemote with
    | true => simpa [accountOf, Event.task?, Task.lastWords, remote] using .remote false e remote
    | false => simpa [accountOf, Event.task?, Task.lastWords, remote] using .failed false e remote
  cases ends with
  | cancelled phase => simpa [accountOf] using StreamLast.cut phase
  | broken e => exact failed e
  | failed e => exact failed e
  | completed =>
    simpa [accountOf, Event.task?, Task.lastWords, StreamPhase.pending, StreamPhase.inHand] using
      StreamLast.completed false

theorem Responder.Linked.streamed (h : r.Linked) {t : Task} {token : Nat} {channel : Option Nat}
    {phase : StreamPhase} {events : List Event} {outcome : StreamOutcome} {ps : List Payload}
    (there : t ∈ r.tasks) (work : t.work = .stream token channel phase)
    (account : r.account t.number = delivered t.number t.stream ps ++ phase.pending t.number)
    (ends : phase.Ends t.number (r.isCancelled t.number) events outcome)
    (dropped : { r with history := r.history ++ events }.AsideMoves r') :
    Responder.Streamed t.number t.stream (r.isCancelled t.number)
      ((r'.settleStream t token outcome).removeTask t.number) ps := by
  have kept := Responder.AsideMoves.keepsTasks dropped
  have linked := kept.linked (h.note there fun _ => ends.told)
  have cancelled : r'.isCancelled t.number = r.isCancelled t.number := kept.isCancelled t.number
  have there' : t ∈ r'.tasks := kept.tasks ▸ there
  have released := linked.release_eq there' (by rw [work]; rfl : t.work.token? = some token)
  have before : r'.account t.number = r.account t.number ++ accountOf t.number events :=
    (kept.account t.number).trans (accountOf_append ..)
  refine ⟨fun u hu => ((Responder.mem_tasks_removeTask _).mp hu).2, _, ends.last, ?_⟩
  rw [Responder.settleStream_eq]
  show accountOf t.number (r'.history ++ _) = _
  rw [accountOf_append, show accountOf t.number r'.history = _ from before, account, released,
    cancelled]
  cases r.isCancelled t.number <;> simp

theorem Responder.demand?_setDemand {d : Demand} (h : r.demand? n = some d) (d' : Demand) :
    (r.setDemand n d').demand? n = some d' := by
  obtain ⟨c, hc, demand⟩ := Option.bind_eq_some_iff.mp h
  simp [Responder.demand?, Responder.setDemand, Controls.getElem?_setDemand, hc,
    Control.demand?_withDemand, demand]

theorem Responder.Credited.keep {granted sent : Nat} {d' : Demand}
    (credited : r.Credited n granted sent)
    (kept : ∀ d, r.demand? n = some d → d'.credit = d.credit)
    (demand : ∀ d, r.demand? n = some d → r'.demand? n = some d') :
    r'.Credited n granted sent := by
  obtain ⟨d, hd, account⟩ := credited
  exact ⟨d', demand d hd, by rw [kept d hd]; exact account⟩

theorem Responder.Credited.take {granted sent : Nat} {d d' : Demand}
    (credited : r.Credited n granted sent) (demand : r.demand? n = some d) (takes : d.Takes d')
    (demand' : r'.demand? n = some d') : r'.Credited n granted (sent + 1) := by
  obtain ⟨e, he, account⟩ := credited
  cases demand.symm.trans he
  obtain ⟨some_left, taken⟩ := takes
  refine ⟨d', demand', ?_⟩
  rcases account with ⟨full, enough⟩ | ⟨below, sum⟩
  · exact .inl ⟨by rw [taken, if_pos full], enough⟩
  · have not_full : d.credit ≠ unbounded := by omega
    rw [if_neg not_full] at taken
    exact .inr ⟨by omega, by omega⟩

/-- A turn of the driver of a response stream sends its items one by one, each paid for, or ends it. -/
theorem Task.Move.streaming {t : Task} {token : Nat} {channel : Option Nat} {phase : StreamPhase}
    {ps : List Payload} (move : t.Move r r') (h : r.Linked) (there : t ∈ r.tasks)
    (work : t.work = .stream token channel phase)
    (account : r.account t.number = delivered t.number t.stream ps ++ phase.pending t.number) :
    ∃ ps', (Responder.Streaming t.number t.stream r' ps' ∨
        Responder.Streamed t.number t.stream (r.isCancelled t.number) r' ps') ∧
      ∀ granted, r.Credited t.number granted ps.length →
        r'.Credited t.number granted ps'.length := by
  cases move with
  | waitSingle single => cases work.symm.trans single
  | finishSingle single dropped result cancelled => cases work.symm.trans single
  | pull pulling p =>
    cases work.symm.trans pulling
    refine ⟨ps, .inl ⟨_, Responder.mem_setWork there _, rfl, rfl, _, _, _, rfl, ?_⟩, fun _ => id⟩
    show (r.record (.pulled t.number (.ok p))).account t.number = _
    simp [account, accountOf, Event.task?, StreamPhase.pending, StreamPhase.inHand]
  | @next _ _ _ p d d' holding held demand taken =>
    cases work.symm.trans holding
    refine ⟨ps ++ [p], .inl ⟨_, Responder.mem_setWork there _, rfl, rfl, _, _, _, rfl, ?_⟩,
      fun _ credited => ?_⟩
    · show Responder.account (Responder.record (r.setDemand t.number d') _) t.number = _
      rw [Responder.account_record]
      show r.account t.number ++ _ = _
      rw [account, StreamPhase.pending, held]
      simp [accountOf, Event.task?, delivered, StreamPhase.pending, StreamPhase.inHand]
    · rw [List.length_append]
      exact credited.take demand taken (Responder.demand?_setDemand demand d')
  | @wait _ _ _ phase' d' holding held kept =>
    cases work.symm.trans holding
    refine ⟨ps, .inl ⟨_, Responder.mem_setWork there _, rfl, rfl, _, _, phase', rfl, ?_⟩,
      fun _ credited => credited.keep kept fun d hd => Responder.demand?_setDemand hd d'⟩
    show r.account t.number = _
    rw [account, StreamPhase.pending, StreamPhase.pending, held]
  | finishStream holding ends dropped =>
    cases work.symm.trans holding
    refine ⟨ps, .inr (h.streamed there work account ends dropped), fun _ credited => ?_⟩
    have same := (Responder.AsideMoves.keepsTasks dropped).demand? t.number
    obtain ⟨d, hd, rest⟩ := credited
    rw [Responder.settleStream_eq]
    exact ⟨d, same.trans hd, rest⟩

/-- What a move makes of a response stream: its items are sent in turn and paid for, and it ends for
good. -/
theorem Responder.Streaming.move {l : Label} {ps : List Payload}
    (streaming : Responder.Streaming n stream r ps) (h : r.Linked) (move : Responder.Move l r r') :
    ∃ ps', (Responder.Streaming n stream r' ps' ∨
        Responder.Streamed n stream (r.isCancelled n) r' ps') ∧
      ∀ granted, (∀ s, l = .grant s → r.registry.outbound? s ≠ some n) →
        r.Credited n granted ps.length → r'.Credited n granted ps'.length := by
  have running := streaming
  obtain ⟨t, there, number, on, token, channel, phase, work, account⟩ := streaming
  subst number on
  have known := h.task_lt there
  -- only the turns of its own task add to the account and take credit
  by_cases own : l = .task t.number
  · obtain ⟨u, hu, number, step⟩ := (own ▸ move).task_inv
    cases h.eq_of_number hu there number
    obtain ⟨ps', state, credited⟩ := step.streaming h there work account
    exact ⟨ps', state, fun granted _ => credited granted⟩
  · refine ⟨ps, .inl ((move.undisturbed known own).streaming running), ?_⟩
    intro granted ungranted credited
    rw [Responder.Credited, move.demand?_eq known own ungranted]
    exact credited

end Multiplexer
