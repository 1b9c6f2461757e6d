import Multiplexer.Proofs.ChannelCourses
import Multiplexer.Proofs.Employment
import Multiplexer.Proofs.RequestChannel

/-!
Tasks and their channels: in any run the channel that a response stream has been opened with is one of the
task's own stream.
-/

namespace Multiplexer

variable {ω : Type} {r r' : Responder} {stream : StreamId} {control : Control} {work : Work}

/-- Channel `m` has been opened under the stream. -/
def Responder.OpenedUnder (r : Responder) (stream : StreamId) (m : Nat) : Prop :=
  ∃ c, r.channels[m]? = some c ∧ c.stream = stream

/-- The channel of each task is one of the task's stream. -/
def Responder.Equipped (r : Responder) : Prop :=
  ∀ t ∈ r.tasks, ∀ m, t.work.channel? = some m → r.OpenedUnder t.stream m

theorem Responder.Hosts.openedUnder (h : r.Hosts r') {m : Nat} (opened : r.OpenedUnder stream m) :
    r'.OpenedUnder stream m := by
  obtain ⟨c, hc, on⟩ := opened
  obtain ⟨c', hc', course⟩ := h.old m c hc
  exact ⟨c', hc', course.origin.1.trans on⟩

/-- Tasks may go, or change in their phases. -/
theorem Responder.Equipped.keep (h : r.Equipped) (hosts : r.Hosts r')
    (tasks : ∀ t ∈ r'.tasks, ∃ u ∈ r.tasks, u.stream = t.stream ∧ u.work.channel? = t.work.channel?) :
    r'.Equipped := by
  intro t ht m held
  obtain ⟨u, hu, on, channel⟩ := tasks t ht
  exact on ▸ hosts.openedUnder (h u hu m (channel.trans held))

theorem Responder.Equipped.same (h : r.Equipped) (hosts : r.Hosts r') (tasks : r'.tasks = r.tasks) :
    r'.Equipped :=
  h.keep hosts fun t ht => ⟨t, tasks ▸ ht, rfl, rfl⟩

theorem Responder.Equipped.add (h : r.Equipped) {t : Task}
    (own : ∀ m, t.work.channel? = some m → r.OpenedUnder t.stream m) :
    Responder.Equipped { r with tasks := r.tasks ++ [t] } := by
  intro u hu
  rcases List.mem_append.mp hu with old | new
  · exact h u old
  · exact List.mem_singleton.mp new ▸ own

theorem Responder.AsideMoves.equipped (moves : r.AsideMoves r') (h : r.Equipped) : r'.Equipped :=
  h.same (Responder.AsideMoves.hosts moves) (Responder.AsideMoves.keepsTasks moves).tasks

theorem Task.Move.equipped {t : Task} (move : t.Move r r') (there : t ∈ r.tasks) (linked : r.Linked)
    (h : r.Equipped) : r'.Equipped := by
  have own : Responder.Employs t.number t.stream t.work.token? t.work.channel? r := by
    intro u hu number
    obtain rfl := linked.eq_of_number hu there number
    exact ⟨rfl, rfl, rfl⟩
  refine h.keep move.hosts fun u hu => ?_
  by_cases number : u.number = t.number
  · obtain ⟨on, _, channel⟩ := move.employs there own u hu number
    exact ⟨t, there, on.symm, channel.symm⟩
  · have undisturbed := move.undisturbed number
    exact ⟨u, (undisturbed.tasks u rfl).mp hu, rfl, rfl⟩

/-- No move but the beginning of an operation gives a task a channel. -/
theorem Responder.Move.equipped {l : Label} (move : Responder.Move l r r') (later : l ≠ .start)
    (linked : r.Linked) (h : r.Equipped) : r'.Equipped := by
  have hosts := move.hosts
  cases move with
  | aside step => exact h.same hosts step.keepsTasks.tasks
  | begin => exact absurd rfl later
  | startPush => exact absurd rfl later
  | register stream control => exact h.same hosts rfl
  | cancel found =>
    refine h.same hosts ?_
    unfold Responder.cancelStream
    split <;> rfl
  | grant found demand =>
    refine h.same hosts ?_
    unfold Responder.grantStream
    split <;> rfl
  | drain => exact h.same hosts rfl
  | shut empty => exact h.same hosts rfl
  | dispose => exact h.same hosts rfl
  | disconnect => exact h.same hosts rfl
  | task there step => exact step.equipped there linked h

theorem Responder.Moves.equipped (moves : r.Moves (· ≠ .start) r') (linked : r.Linked)
    (h : r.Equipped) : r'.Equipped := by
  let P (r : Responder) : Prop := r.Linked ∧ r.Equipped
  have kept : P r' := moves.invariant ⟨linked, h⟩ fun later move so_far =>
    ⟨move.linked so_far.1, move.equipped later so_far.1 so_far.2⟩
  exact kept.2

theorem Responder.Begins.equipped (begins : Responder.Begins stream control work r r')
    (h : r.Equipped) (own : ∀ m, work.channel? = some m → r.OpenedUnder stream m) : r'.Equipped := by
  obtain ⟨told, moves, rfl⟩ := begins.opened
  have registered : Responder.Equipped (r.register stream control).1 := h
  refine Responder.Equipped.add (Responder.AsideMoves.equipped moves registered) fun m held => ?_
  exact (Responder.AsideMoves.hosts moves).openedUnder (own m held)

theorem Responder.startSingle_equipped (h : r.Equipped) (kind : SingleRequest) (stream : StreamId)
    (p : Payload) : (r.startSingle kind stream p).Equipped := by
  rcases r.startSingle_spec kind stream p with refused | begins
  · exact Responder.AsideMoves.equipped refused h
  · exact begins.equipped h nofun

theorem Responder.driveStream_equipped (h : r.Equipped) (w : ω) {stream : StreamId} (demand : UInt32)
    {channel : Option Nat} (openIt : Nat → ω → Dialogue (Option Panic × ω))
    (own : ∀ m, channel = some m → r.OpenedUnder stream m) :
    (r.driveStream w stream demand channel openIt).1.Equipped := by
  rcases r.driveStream_spec w stream demand channel openIt with refused | ⟨phase, _, begins⟩
  · exact Responder.AsideMoves.equipped refused h
  · exact begins.equipped h own

section dispatch

variable {settings : Settings} {app : Application ω} {f : Frame} (h : r.Equipped)

include h

theorem Responder.requestStream_equipped (w : ω) :
    (r.requestStream w settings app f).1.Equipped := by
  unfold Responder.requestStream
  split
  · exact Responder.driveStream_equipped h w f.demand _ nofun
  next unread => exact Responder.AsideMoves.equipped (Responder.readRequest_aside unread) h

theorem Responder.requestChannel_equipped (w : ω) :
    (r.requestChannel w settings app f).1.Equipped := by
  unfold Responder.requestChannel
  split
  · exact Responder.AsideMoves.equipped (r.violation_aside _) h
  · split
    next unread => exact Responder.AsideMoves.equipped (Responder.readRequest_aside unread) h
    next p _ =>
      split
      next refused => exact Responder.AsideMoves.equipped (Responder.openInbound_refused refused) h
      next opened open_ =>
        have aside : r.AsideMoves opened := .single (.openInbound open_)
        refine Responder.driveStream_equipped (Responder.AsideMoves.equipped aside h) w f.demand _ ?_
        rintro m ⟨⟩
        exact Responder.openInbound_channel open_

theorem Responder.dispatch_equipped (linked : r.Linked) (w : ω) :
    (r.dispatch w settings app f).responder.Equipped := by
  have counted : r.AsideMoves { r with metrics := r.metrics.frameReceived } := .single (.count r _ rfl)
  have linked := (Responder.AsideMoves.keepsTasks counted).linked linked
  have h := Responder.AsideMoves.equipped counted h
  unfold Responder.dispatch
  generalize ({ r with metrics := r.metrics.frameReceived } : Responder) = r at linked h
  dsimp only
  have aside {r' : Responder} (moves : r.AsideMoves r') : r'.Equipped :=
    Responder.AsideMoves.equipped moves h
  split
  next =>
    unfold Responder.fireAndForget
    split
    next p _ => exact Responder.startSingle_equipped h .fireAndForget f.stream p
    next => exact aside (r.report_aside _)
  next =>
    unfold Responder.requestResponse
    split
    next p _ => exact Responder.startSingle_equipped h .requestResponse f.stream p
    next unread => exact aside (Responder.readRequest_aside unread)
  next => exact Responder.requestStream_equipped h w
  next => exact Responder.requestChannel_equipped h w
  next =>
    unfold Responder.metadataPush
    split
    · exact h.add nofun
    · exact aside (r.report_aside _)
  next => exact (Responder.cancelStream_moves f.stream nofun).equipped linked h
  next => exact (Responder.grantStream_moves f.stream f.demand nofun).equipped linked h
  next => exact aside (r.answerKeepalive_aside f)
  next => exact aside (r.inboundNext_aside settings f)
  next => exact aside (r.inboundNextComplete_aside settings f)
  next => exact aside (r.inboundEnd_aside _ _)
  next => exact aside (r.inboundEnd_aside _ _)
  next => exact h
  next => exact h
  all_goals exact aside (r.violation_aside _)

end dispatch

theorem Responder.Equipped.step {s : Responder × ω} (h : s.1.Equipped) (linked : s.1.Linked)
    (settings : Settings) (app : Application ω) (a : Action ω) :
    (Responder.step settings app a s).1.Equipped := by
  by_cases framed : ∃ f, a = .receive (.item (.ok f))
  · obtain ⟨f, rfl⟩ := framed
    by_cases listens : s.1.Listens
    · have paced : s.1.AsideMoves s.1.beginTurn := .single (.pace s.1 _)
      have dispatched : (s.1.beginTurn.dispatch s.2 settings app f).responder.Equipped :=
        Responder.dispatch_equipped (Responder.AsideMoves.equipped paced h)
          ((Responder.AsideMoves.keepsTasks paced).linked linked) s.2
      exact Responder.AsideMoves.equipped (Responder.dispatch_aside settings app f listens) dispatched
    · exact Responder.AsideMoves.equipped (Responder.step_idle settings app s _ listens) h
  · refine Responder.Moves.equipped ?_ linked h
    refine (linked.step_moves settings app a).mono ?_
    rintro _ permitted rfl
    exact framed permitted

/-- In any run the channel of a task is one of the task's stream. -/
theorem Responder.equipped_run (settings : Settings) (app : Application ω) (w : ω)
    (as : List (Action ω)) : (Responder.run settings app as (Responder.start, w)).1.Equipped := by
  have kept (as : List (Action ω)) {s : Responder × ω} (h : s.1.Equipped) (linked : s.1.Linked) :
      (Responder.run settings app as s).1.Equipped := by
    induction as generalizing s with
    | nil => exact h
    | cons a as ih =>
      exact ih (h.step linked settings app a) ((linked.step_moves settings app a).linked linked)
  exact kept as (fun _ there => absurd there List.not_mem_nil) Responder.linked_start

end Multiplexer
