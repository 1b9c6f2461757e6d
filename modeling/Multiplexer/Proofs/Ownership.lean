import Multiplexer.Proofs.ChannelCourses
import Multiplexer.Proofs.RegistrySteps
import Multiplexer.Proofs.RequestChannel

/-!
Who owns the entries of a registry: an operation's entry belongs to its task, which has not finished, and a
channel's entry to the channel, which has neither terminated nor been dropped. Hence nothing is left of
what has ended.
-/

namespace Multiplexer

variable {ω : Type} {r r' : Responder} {foreign : List Nat} {e : Entry Nat} {t : Task}

/-- The controls of the application's own that an action registers, by number. -/
def Action.registers (r : Responder) : Action ω → List Nat
  | .register _ _ => [r.controls.length]
  | _ => []

/-- The controls of the application's own that a run registers, by number. All other operations have been
registered by the dispatcher. -/
def Responder.foreignControls (settings : Settings) (app : Application ω) :
    List (Action ω) → Responder × ω → List Nat
  | [], _ => []
  | a :: as, s =>
    a.registers s.1 ++ Responder.foreignControls settings app as (Responder.step settings app a s)

/-- The task has been registered by the entry. -/
structure Task.Holds (t : Task) (e : Entry Nat) : Prop where
  number : t.number = e.handle
  stream : t.stream = e.stream
  token : t.work.token? = some e.token

/-- Every operation that is registered has a task, unless it is one of these. -/
def Responder.Owned (foreign : List Nat) (r : Responder) : Prop :=
  ∀ e ∈ r.registry.outbound, e.handle ∈ foreign ∨ ∃ t ∈ r.tasks, t.number = e.handle

theorem Responder.Owned.mono {more : List Nat} (h : r.Owned foreign) (sub : foreign ⊆ more) :
    r.Owned more :=
  fun e he => (h e he).imp_left fun known => sub known

theorem Responder.Owned.shrink (h : r.Owned foreign)
    (outbound : r'.registry.outbound ⊆ r.registry.outbound)
    (tasks : ∀ t ∈ r.tasks, ∃ t' ∈ r'.tasks, t'.number = t.number) : r'.Owned foreign := by
  intro e he
  rcases h e (outbound he) with known | ⟨t, ht, number⟩
  · exact .inl known
  · obtain ⟨t', ht', same⟩ := tasks t ht
    exact .inr ⟨t', ht', same.trans number⟩

theorem Responder.Owned.of_eq (h : r.Owned foreign)
    (outbound : r'.registry.outbound = r.registry.outbound) (tasks : r'.tasks = r.tasks) :
    r'.Owned foreign :=
  h.shrink (by rw [outbound]; exact List.Subset.refl _) fun t ht => ⟨t, tasks ▸ ht, rfl⟩

theorem Responder.Owned.setWork (h : r.Owned foreign) (n : Nat) (work : Work) :
    (r.setWork n work).Owned foreign := by
  refine h.shrink (List.Subset.refl _) fun t ht => ⟨_, List.mem_map_of_mem ht, ?_⟩
  split <;> rfl

/-- A task takes out the one entry that goes by its number, or has lost it before. -/
theorem Responder.Linked.released (h : r.Linked) (there : t ∈ r.tasks)
    (he : e ∈ (t.release t.work.token? r.registry).1.outbound) :
    e ∈ r.registry.outbound ∧ e.handle ≠ t.number := by
  cases htoken : t.work.token? with
  | none =>
    rw [htoken] at he
    refine ⟨he, fun same => ?_⟩
    have own := (h.own t there e he (.inr same)).1
    rw [htoken] at own
    cases own
  | some token =>
    rw [htoken, h.release_eq there htoken] at he
    cases cancelled : r.isCancelled t.number with
    | true =>
      rw [cancelled, if_pos rfl] at he
      refine ⟨he, fun same => ?_⟩
      obtain ⟨own, eq⟩ := h.own t there e he (.inr same)
      rw [eq] at he
      have live := (h.live t there e.token own).mpr he
      exact Bool.false_ne_true (live.symm.trans cancelled)
    | false =>
      rw [cancelled, if_neg Bool.false_ne_true] at he
      obtain ⟨he, other⟩ := Entries.mem_erase.mp he
      refine ⟨he, fun same => other ?_⟩
      exact congrArg Entry.stream (h.own t there e he (.inr same)).2

theorem Responder.Owned.retire (h : r.Owned foreign) (linked : r.Linked) (there : t ∈ r.tasks)
    (outbound : r'.registry.outbound = (t.release t.work.token? r.registry).1.outbound)
    (tasks : r'.tasks = r.tasks.filter (fun u => u.number ≠ t.number)) : r'.Owned foreign := by
  intro e he
  rw [outbound] at he
  obtain ⟨he, other⟩ := linked.released there he
  rcases h e he with known | ⟨u, hu, number⟩
  · exact .inl known
  · refine .inr ⟨u, ?_, number⟩
    rw [tasks, List.mem_filter]
    exact ⟨hu, by simpa [number] using other⟩

theorem Task.Move.owned (move : t.Move r r') (linked : r.Linked) (there : t ∈ r.tasks)
    (h : r.Owned foreign) : r'.Owned foreign := by
  cases move with
  | waitSingle work => exact h.setWork _ _
  | @finishSingle r1 kind token request work dropped result cancelled =>
    have kept := Responder.AsideMoves.keepsTasks dropped
    have htoken : t.work.token? = token := by rw [work]; rfl
    rw [Responder.settleSingle_eq]
    refine (h.of_eq kept.outbound kept.tasks).retire (kept.linked linked) (kept.tasks ▸ there) ?_ rfl
    rw [htoken]
    rfl
  | pull work p => exact Responder.Owned.setWork (r := r.record _) (h.of_eq rfl rfl) _ _
  | @next _ _ _ p _ d' work held demand taken =>
    refine Responder.Owned.setWork (r := (r.setDemand t.number d').send _ _) ?_ _ _
    exact h.of_eq rfl rfl
  | @wait _ _ _ _ d' work held kept =>
    exact Responder.Owned.setWork (r := r.setDemand t.number d') (h.of_eq rfl rfl) _ _
  | @finishStream r1 token channel phase events outcome work ends dropped =>
    have noted := linked.note there fun _ => ends.told
    have kept := Responder.AsideMoves.keepsTasks dropped
    have htoken : t.work.token? = some token := by rw [work]; rfl
    rw [Responder.settleStream_eq]
    refine (h.of_eq kept.outbound kept.tasks).retire (kept.linked noted) (kept.tasks ▸ there) ?_ rfl
    rw [htoken]
    rfl

/-- The dispatcher registers no operation without a task. -/
theorem Responder.Move.owned {l : Label} (move : Responder.Move l r r') (linked : r.Linked)
    (own : l ≠ .foreign) (h : r.Owned foreign) : r'.Owned foreign := by
  cases move with
  | aside step => exact h.of_eq step.keepsTasks.outbound step.keepsTasks.tasks
  | @begin _ _ stream control work begins running plain uncancelled token _ =>
    have free := begins.free
    obtain ⟨told, moves, rfl⟩ := begins.opened
    have kept := Responder.AsideMoves.keepsTasks moves
    have outbound := kept.outbound.trans (r.register_outbound control free)
    intro e he
    rw [outbound] at he
    rcases List.mem_append.mp he with he | he
    · refine (h e he).imp_right fun ⟨t, ht, number⟩ => ⟨t, ?_, number⟩
      exact List.mem_append_left _ (kept.tasks ▸ ht)
    · obtain rfl := List.mem_singleton.mp he
      exact .inr ⟨⟨r.controls.length, stream, work⟩, by simp, rfl⟩
  | startPush stream p running =>
    exact h.shrink (List.Subset.refl _) fun t ht => ⟨t, List.mem_append_left _ ht, rfl⟩
  | register stream control => exact absurd rfl own
  | @cancel _ stream n found =>
    have fewer : (r.cancelStream stream).1.registry.outbound ⊆ r.registry.outbound := by
      simp only [Responder.cancelStream, Registry.removeOutbound, found]
      exact List.filter_sublist.subset
    refine h.shrink fewer fun t ht => ⟨t, ?_, rfl⟩
    unfold Responder.cancelStream
    split <;> exact ht
  | grant found demand =>
    unfold Responder.grantStream
    split <;> exact h.of_eq rfl rfl
  | drain => exact h.shrink (List.nil_subset _) fun t ht => ⟨t, ht, rfl⟩
  | shut empty => exact h.of_eq rfl rfl
  | dispose => exact h.of_eq rfl rfl
  | disconnect => exact h.of_eq rfl rfl
  | task there step => exact step.owned linked there h

theorem Responder.Moves.owned {allowed : Label → Prop} (moves : r.Moves allowed r')
    (linked : r.Linked) (own : ¬ allowed .foreign) (h : r.Owned foreign) : r'.Owned foreign := by
  induction moves with
  | refl => exact h
  | tail before step ih =>
    obtain ⟨l, allow, move⟩ := step
    exact move.owned (Responder.Moves.linked linked before) (fun label => own (label ▸ allow)) ih

theorem Responder.Owned.register (h : r.Owned foreign) (stream : StreamId) (control : Control) :
    (r.register stream control).1.Owned (foreign ++ [r.controls.length]) := by
  have old : r.Owned (foreign ++ [r.controls.length]) := h.mono (List.subset_append_left ..)
  cases taken : r.registry.outbound.contains stream with
  | true => exact old.of_eq (r.register_outbound_taken control taken) rfl
  | false =>
    intro e he
    rw [r.register_outbound control taken] at he
    rcases List.mem_append.mp he with he | he
    · exact old e he
    · obtain rfl := List.mem_singleton.mp he
      exact .inl (List.mem_append_right _ (List.mem_singleton_self _))

theorem Responder.Owned.step {s : Responder × ω} (h : s.1.Owned foreign) (linked : s.1.Linked)
    (settings : Settings) (app : Application ω) (a : Action ω) :
    (Responder.step settings app a s).1.Owned (foreign ++ a.registers s.1) := by
  have moves := linked.step_moves settings app a
  cases a with
  | register stream control => exact Responder.Owned.register (h.of_eq rfl rfl) stream control
  | _ =>
    refine (moves.owned linked ?_ h).mono (List.subset_append_left ..)
    rintro ⟨_, _, ⟨⟩⟩

theorem Responder.Owned.run {s : Responder × ω} (h : s.1.Owned foreign) (linked : s.1.Linked)
    (settings : Settings) (app : Application ω) (as : List (Action ω)) :
    (Responder.run settings app as s).1.Owned (foreign ++ Responder.foreignControls settings app as s) := by
  induction as generalizing s foreign with
  | nil => exact h.mono (List.subset_append_left ..)
  | cons a as ih =>
    have moves := linked.step_moves settings app a
    have owned := ih (h.step linked settings app a) (moves.linked linked)
    rwa [List.append_assoc] at owned

theorem Responder.owned_run (settings : Settings) (app : Application ω) (w : ω)
    (as : List (Action ω)) :
    (Responder.run settings app as (Responder.start, w)).1.Owned
      (Responder.foreignControls settings app as (Responder.start, w)) := by
  have start : Responder.start.Owned [] := fun _ he => absurd he List.not_mem_nil
  exact Responder.Owned.run (s := (Responder.start, w)) start Responder.linked_start settings app as

/-- The task of an operation that is registered is the one task with its token. -/
theorem Responder.Linked.holds (h : r.Linked) (he : e ∈ r.registry.outbound) (there : t ∈ r.tasks)
    (number : t.number = e.handle) :
    t.Holds e ∧ ∀ u ∈ r.tasks, u.work.token? = some e.token → u = t := by
  obtain ⟨token, own⟩ := h.own t there e he (.inr number.symm)
  refine ⟨⟨number, (congrArg Entry.stream own).symm, token⟩, fun u hu same => ?_⟩
  have other := (h.own u hu e he (.inl same)).2
  exact h.eq_of_number hu there ((congrArg Entry.handle other).symm.trans number.symm)

/-- Nothing is leaked, whatever happens and in whatever order. An operation that the dispatcher has
registered has one task that has not finished, by number, stream and token; a channel that is registered
has neither terminated nor been dropped; and the gauge counts just what is registered. When all tasks have
finished and all channels have been dropped, only controls of the application's own are registered, and
nothing at all if there are none. -/
theorem Responder.no_leaked_streams (settings : Settings) (app : Application ω) (w : ω)
    (as : List (Action ω)) :
    let r := (Responder.run settings app as (Responder.start, w)).1
    let foreign := Responder.foreignControls settings app as (Responder.start, w)
    (∀ e ∈ r.registry.outbound, e.handle ∉ foreign →
      ∃ t ∈ r.tasks, t.Holds e ∧ ∀ u ∈ r.tasks, u.work.token? = some e.token → u = t) ∧
    (∀ e ∈ r.registry.inbound, ∃ c, r.channels[e.handle]? = some c ∧
      c.stream = e.stream ∧ c.token = e.token ∧ c.terminated = false ∧ c.holder ≠ .nobody) ∧
    r.registry.active = r.registry.size ∧
    (r.tasks = [] → (∀ c ∈ r.channels, c.holder = .nobody) →
      r.registry.inbound = [] ∧ (∀ e ∈ r.registry.outbound, e.handle ∈ foreign) ∧
        (foreign = [] → r.registry.outbound = [] ∧ r.registry.active = 0)) := by
  intro r foreign
  have linked : r.Linked := Responder.linked_start.run settings app as
  have owned : r.Owned foreign := Responder.owned_run settings app w as
  have paired : r.Paired := Responder.paired_run settings app w as
  have active : r.registry.active = r.registry.size := (Responder.sound_run settings app w as).active
  have channels : ∀ e ∈ r.registry.inbound, ∃ c, r.channels[e.handle]? = some c ∧
      c.stream = e.stream ∧ c.token = e.token ∧ c.terminated = false ∧ c.holder ≠ .nobody := by
    intro e he
    obtain ⟨c, hc, origin, live⟩ := paired.channels e he
    obtain ⟨stream, token⟩ := Prod.mk.inj origin
    refine ⟨c, hc, stream, token, live, fun gone => ?_⟩
    have ended := Responder.dropped_run settings app w as (List.mem_of_getElem? hc) gone
    exact Bool.false_ne_true (live.symm.trans ended)
  refine ⟨?_, channels, active, ?_⟩
  · intro e he dispatched
    obtain ⟨t, there, number⟩ := (owned e he).resolve_left dispatched
    exact ⟨t, there, linked.holds he there number⟩
  · intro finished dropped
    have inbound : r.registry.inbound = [] := by
      refine List.eq_nil_iff_forall_not_mem.mpr fun e he => ?_
      obtain ⟨c, hc, _, _, _, held⟩ := channels e he
      exact held (dropped c (List.mem_of_getElem? hc))
    have outbound : ∀ e ∈ r.registry.outbound, e.handle ∈ foreign := by
      intro e he
      refine (owned e he).resolve_right fun ⟨t, there, _⟩ => ?_
      rw [finished] at there
      exact List.not_mem_nil there
    refine ⟨inbound, outbound, fun none => ?_⟩
    have empty : r.registry.outbound = [] := by
      refine List.eq_nil_iff_forall_not_mem.mpr fun e he => ?_
      have known := outbound e he
      rw [none] at known
      exact List.not_mem_nil known
    refine ⟨empty, ?_⟩
    rw [active, Registry.size, empty, inbound]
    rfl

/-- A channel whose peer completes its half before the application reads the end. -/
theorem Responder.relay_no_leaked_streams :
    let before : List (Action Unit) :=
      [.receive (.item (.ok (Frame.requestChannel (.ofNat 7) 5 .empty))), .turn 0 5]
    let after : List (Action Unit) := [.receive (.item (.ok (.complete (.ofNat 7)))), .turn 0 5]
    let r := (Responder.run .standard (relay none) before (Responder.start, ())).1
    let r' := (Responder.run .standard (relay none) (before ++ after) (Responder.start, ())).1
    Responder.foreignControls .standard (relay none) before (Responder.start, ()) = [] ∧
      r.registry.outbound.length = 1 ∧ r.registry.inbound.length = 1 ∧ r.registry.active = 2 ∧
      (∀ e ∈ r.registry.outbound, ∃ t ∈ r.tasks, t.Holds e) ∧
      r'.tasks = [] ∧ (∀ c ∈ r'.channels, c.holder = .nobody) ∧
      r'.registry.inbound = [] ∧ r'.registry.outbound = [] ∧ r'.registry.active = 0 := by
  have first := Responder.no_leaked_streams .standard (relay none) ()
    [.receive (.item (.ok (Frame.requestChannel (.ofNat 7) 5 .empty))), .turn 0 5]
  have last := Responder.no_leaked_streams .standard (relay none) ()
    [.receive (.item (.ok (Frame.requestChannel (.ofNat 7) 5 .empty))), .turn 0 5,
      .receive (.item (.ok (.complete (.ofNat 7)))), .turn 0 5]
  have finished : (Responder.run .standard (relay none)
      [.receive (.item (.ok (Frame.requestChannel (.ofNat 7) 5 .empty))), .turn 0 5,
        .receive (.item (.ok (.complete (.ofNat 7)))), .turn 0 5] (Responder.start, ())).1.tasks =
      [] := by decide
  have dropped : ∀ c ∈ (Responder.run .standard (relay none)
      [.receive (.item (.ok (Frame.requestChannel (.ofNat 7) 5 .empty))), .turn 0 5,
        .receive (.item (.ok (.complete (.ofNat 7)))), .turn 0 5] (Responder.start, ())).1.channels,
      c.holder = .nobody := by decide
  dsimp only at first last ⊢
  obtain ⟨inbound, _, none⟩ := last.2.2.2 finished dropped
  obtain ⟨outbound, active⟩ := none rfl
  refine ⟨rfl, by decide, by decide, by decide, fun e he => ?_, finished, dropped, inbound, outbound,
    active⟩
  obtain ⟨t, there, holds, _⟩ := first.1 e he List.not_mem_nil
  exact ⟨t, there, holds⟩

end Multiplexer
