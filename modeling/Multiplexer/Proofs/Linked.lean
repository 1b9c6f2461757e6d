import Multiplexer.Proofs.Moves

/-!
The links between the outbound map, the tasks and the controls of a responder: an entry, a task and
a control of one operation go by one number, an operation keeps its entry until it is cancelled,
and nothing is told of an operation before it begins.
-/

namespace Multiplexer

/-- What of a task stays the same as long as there is the task. -/
def Task.signature (t : Task) : Nat × StreamId × Option Nat := (t.number, t.stream, t.work.token?)

structure Responder.Linked (r : Responder) : Prop where
  numbers : (r.tasks.map Task.number).Nodup
  streams : (r.registry.outbound.map Entry.stream).Nodup
  handles : (r.registry.outbound.map Entry.handle).Nodup
  registered : ∀ e ∈ r.registry.outbound, e.handle < r.controls.length ∧ e.token < r.registry.issued
  controlled : ∀ t ∈ r.tasks, ∃ c, r.controls[t.number]? = some c ∧ c.isCustom = false
  issued : ∀ t ∈ r.tasks, ∀ token, t.work.token? = some token → token < r.registry.issued
  /-- An entry that has the token or the number of a task is the entry of the task. -/
  own : ∀ t ∈ r.tasks, ∀ e ∈ r.registry.outbound,
    t.work.token? = some e.token ∨ e.handle = t.number →
      t.work.token? = some e.token ∧ e = ⟨t.stream, e.token, t.number⟩
  live : ∀ t ∈ r.tasks, ∀ token, t.work.token? = some token →
    (r.isCancelled t.number = false ↔ ⟨t.stream, token, t.number⟩ ∈ r.registry.outbound)
  fresh : ∀ n, r.controls.length ≤ n → r.account n = []

variable {r r' : Responder}

theorem Responder.linked_start : Responder.start.Linked := by
  refine ⟨?_, ?_, ?_, ?_, ?_, ?_, ?_, ?_, ?_⟩ <;>
    simp [Responder.start, Registry.empty, Responder.account, accountOf]

theorem Responder.Linked.task_lt (h : r.Linked) {t : Task} (ht : t ∈ r.tasks) :
    t.number < r.controls.length := by
  obtain ⟨c, hc, _⟩ := h.controlled t ht
  exact (List.getElem?_eq_some_iff.mp hc).1

theorem Responder.Linked.eq_of_number (h : r.Linked) {t u : Task} (ht : t ∈ r.tasks)
    (hu : u ∈ r.tasks) (eq : t.number = u.number) : t = u :=
  List.inj_on_of_nodup_map h.numbers ht hu eq

theorem Responder.Linked.task?_eq_some_iff (h : r.Linked) {n : Nat} {t : Task} :
    r.task? n = some t ↔ t ∈ r.tasks ∧ t.number = n := by
  unfold Responder.task?
  refine ⟨fun ht => ⟨List.mem_of_find?_eq_some ht, by simpa using List.find?_some ht⟩, ?_⟩
  rintro ⟨ht, hn⟩
  cases hf : r.tasks.find? (fun t => t.number = n) with
  | none => exact absurd hn (by simpa using List.find?_eq_none.mp hf t ht)
  | some u =>
    have hu : u.number = n := by simpa using List.find?_some hf
    rw [h.eq_of_number (List.mem_of_find?_eq_some hf) ht (hu.trans hn.symm)]

/-- Links survive when entries and tasks only go, as long as an operation that stays is cancelled
just when its entry goes. -/
theorem Responder.Linked.shrink (h : r.Linked)
    (outbound : r'.registry.outbound.Sublist r.registry.outbound)
    (issued : r.registry.issued ≤ r'.registry.issued)
    (length : r'.controls.length = r.controls.length)
    (custom : ∀ (n : Nat) (c : Control), r.controls[n]? = some c → c.isCustom = false →
      ∃ c', r'.controls[n]? = some c' ∧ c'.isCustom = false)
    (tasks : (r'.tasks.map Task.signature).Sublist (r.tasks.map Task.signature))
    (live : ∀ t ∈ r.tasks, ∀ t' ∈ r'.tasks, t'.signature = t.signature → ∀ token,
      t.work.token? = some token → (r'.isCancelled t.number = false ↔
        ⟨t.stream, token, t.number⟩ ∈ r'.registry.outbound))
    (fresh : ∀ n, r.controls.length ≤ n → r'.account n = r.account n) : r'.Linked := by
  -- a task that is still there has kept what identifies it
  have origin : ∀ t' ∈ r'.tasks, ∃ t ∈ r.tasks, t'.signature = t.signature := by
    intro t' ht'
    obtain ⟨t, ht, eq⟩ := List.mem_map.mp (tasks.subset (List.mem_map_of_mem ht'))
    exact ⟨t, ht, eq.symm⟩
  refine
    { numbers := ?_, streams := h.streams.sublist (outbound.map _),
      handles := h.handles.sublist (outbound.map _), registered := ?_, controlled := ?_,
      issued := ?_, own := ?_, live := ?_, fresh := ?_ }
  · have nodup : ((r.tasks.map Task.signature).map Prod.fst).Nodup := by
      rw [List.map_map]
      exact h.numbers
    have := nodup.sublist (tasks.map Prod.fst)
    rw [List.map_map] at this
    exact this
  · intro e he
    have bounds := h.registered e (outbound.subset he)
    exact ⟨by omega, by omega⟩
  · intro t' ht'
    obtain ⟨t, ht, eq⟩ := origin t' ht'
    obtain ⟨c, hc, own⟩ := h.controlled t ht
    obtain ⟨number, _⟩ := Prod.mk.inj eq
    exact custom _ c (number ▸ hc) own
  · intro t' ht' token htoken
    obtain ⟨t, ht, eq⟩ := origin t' ht'
    have same : t'.work.token? = t.work.token? := (Prod.mk.inj (Prod.mk.inj eq).2).2
    exact Nat.lt_of_lt_of_le (h.issued t ht token (same ▸ htoken)) issued
  · intro t' ht' e he
    obtain ⟨t, ht, eq⟩ := origin t' ht'
    obtain ⟨number, rest⟩ := Prod.mk.inj eq
    obtain ⟨stream, token⟩ := Prod.mk.inj rest
    rw [number, stream, token]
    exact h.own t ht e (outbound.subset he)
  · intro t' ht' token htoken
    obtain ⟨t, ht, eq⟩ := origin t' ht'
    have := live t ht t' ht' eq token
    obtain ⟨number, rest⟩ := Prod.mk.inj eq
    obtain ⟨stream, same⟩ := Prod.mk.inj rest
    rw [number, stream]
    exact this (same ▸ htoken)
  · intro n hn
    rw [fresh n (by omega), h.fresh n (by omega)]

/-- Links survive whatever leaves entries, tasks and cancellations as they are. -/
theorem Responder.Linked.keep (h : r.Linked)
    (outbound : r'.registry.outbound = r.registry.outbound)
    (issued : r.registry.issued ≤ r'.registry.issued)
    (length : r'.controls.length = r.controls.length)
    (custom : ∀ (n : Nat) (c : Control), r.controls[n]? = some c → c.isCustom = false →
      ∃ c', r'.controls[n]? = some c' ∧ c'.isCustom = false)
    (tasks : r'.tasks.map Task.signature = r.tasks.map Task.signature)
    (cancelled : ∀ n, r'.isCancelled n = r.isCancelled n)
    (fresh : ∀ n, r.controls.length ≤ n → r'.account n = r.account n) : r'.Linked := by
  refine h.shrink (by rw [outbound]) issued length custom (by rw [tasks]) ?_ fresh
  intro t ht _ _ _ token htoken
  rw [cancelled, outbound]
  exact h.live t ht token htoken

/-- Links survive a new control, which is not reached under any number in use. -/
theorem Responder.Linked.addControl (h : r.Linked) (control : Control) :
    { r with controls := r.controls ++ [control] }.Linked := by
  have same {n : Nat} (hn : n < r.controls.length) :
      (r.controls ++ [control])[n]? = r.controls[n]? := List.getElem?_append_left hn
  refine
    { numbers := h.numbers, streams := h.streams, handles := h.handles, registered := ?_,
      controlled := ?_, issued := h.issued, own := h.own, live := ?_, fresh := ?_ }
  · intro e he
    have := h.registered e he
    simp only [List.length_append, List.length_singleton]
    omega
  · intro t ht
    rw [same (h.task_lt ht)]
    exact h.controlled t ht
  · intro t ht token htoken
    rw [← h.live t ht token htoken]
    simp only [Responder.isCancelled, same (h.task_lt ht)]
  · intro n hn
    refine h.fresh n ?_
    simp only [List.length_append, List.length_singleton] at hn
    omega

theorem Responder.register_outbound {stream : StreamId} (control : Control)
    (free : r.registry.outbound.contains stream = false) :
    (r.register stream control).1.registry.outbound =
      r.registry.outbound ++ [⟨stream, r.registry.issued, r.controls.length⟩] := by
  simp [Responder.register, Registry.registerOutbound, free]

theorem Responder.register_outbound_taken {stream : StreamId} (control : Control)
    (taken : r.registry.outbound.contains stream = true) :
    (r.register stream control).1.registry.outbound = r.registry.outbound := by
  simp [Responder.register, Registry.registerOutbound, taken]

theorem Responder.register_issued (stream : StreamId) (control : Control) :
    (r.register stream control).1.registry.issued = r.registry.issued + 1 := by
  simp only [Responder.register, Registry.registerOutbound]
  split <;> rfl

theorem Responder.Linked.register (h : r.Linked) (stream : StreamId) (control : Control) :
    (r.register stream control).1.Linked := by
  have grown := h.addControl control
  have issued := r.register_issued stream control
  have old : ∀ t ∈ r.tasks, ∀ token, t.work.token? = some token →
      token < (r.register stream control).1.registry.issued :=
    fun t ht token htoken => by have := h.issued t ht token htoken; omega
  cases taken : r.registry.outbound.contains stream with
  | true =>
    have outbound := r.register_outbound_taken control taken
    refine
      { numbers := h.numbers, streams := outbound ▸ h.streams, handles := outbound ▸ h.handles,
        registered := ?_, controlled := grown.controlled, issued := old,
        own := outbound ▸ h.own, live := outbound ▸ grown.live, fresh := grown.fresh }
    rw [outbound, issued]
    exact fun e he => ⟨(grown.registered e he).1, Nat.lt_succ_of_lt (h.registered e he).2⟩
  | false =>
    have outbound := r.register_outbound control taken
    have unused : ∀ e ∈ r.registry.outbound, e.stream ≠ stream := by
      simpa [Entries.contains] using taken
    refine
      { numbers := h.numbers, streams := ?_, handles := ?_, registered := ?_,
        controlled := grown.controlled, issued := old, own := ?_, live := ?_,
        fresh := grown.fresh }
    · rw [outbound, List.map_append, List.nodup_append]
      refine ⟨h.streams, by simp, ?_⟩
      simpa using unused
    · rw [outbound, List.map_append, List.nodup_append]
      refine ⟨h.handles, by simp, ?_⟩
      simpa using fun e he => Nat.ne_of_lt (h.registered e he).1
    · rw [outbound, issued]
      intro e he
      rcases List.mem_append.mp he with he | he
      · exact ⟨(grown.registered e he).1, Nat.lt_succ_of_lt (h.registered e he).2⟩
      · cases List.mem_singleton.mp he
        exact ⟨by simp [Responder.register], Nat.lt_succ_self _⟩
    · rw [outbound]
      intro t ht e he
      rcases List.mem_append.mp he with he | he
      · exact h.own t ht e he
      · cases List.mem_singleton.mp he
        rintro (htoken | hnumber)
        · exact absurd (h.issued t ht _ htoken) (Nat.lt_irrefl _)
        · exact absurd (h.task_lt ht) (by simp only at hnumber; omega)
    · intro t ht token htoken
      rw [outbound, List.mem_append, List.mem_singleton]
      have other : (⟨t.stream, token, t.number⟩ : Entry Nat) ≠
          ⟨stream, r.registry.issued, r.controls.length⟩ := by
        intro eq
        have number : t.number = r.controls.length := congrArg Entry.handle eq
        have := h.task_lt ht
        omega
      rw [or_iff_left other]
      exact grown.live t ht token htoken

/-- Links survive a new task whose control is not cancelled and whose entry, if it is to have one, is
there. -/
theorem Responder.Linked.addTask (h : r.Linked) {t : Task} {c : Control}
    (new : ∀ u ∈ r.tasks, u.number ≠ t.number) (control : r.controls[t.number]? = some c)
    (plain : c.isCustom = false) (cancelled : r.isCancelled t.number = false)
    (entry : ∀ token, t.work.token? = some token →
      ⟨t.stream, token, t.number⟩ ∈ r.registry.outbound ∧
        ∀ e ∈ r.registry.outbound, e.token = token → e.handle = t.number)
    (unregistered : t.work.token? = none → ∀ e ∈ r.registry.outbound, e.handle ≠ t.number) :
    { r with tasks := r.tasks ++ [t] }.Linked := by
  refine
    { numbers := ?_, streams := h.streams, handles := h.handles, registered := h.registered,
      controlled := ?_, issued := ?_, own := ?_, live := ?_, fresh := h.fresh }
  · rw [List.map_append, List.nodup_append]
    refine ⟨h.numbers, by simp, ?_⟩
    simpa using new
  · intro u hu
    rcases List.mem_append.mp hu with hu | hu
    · exact h.controlled u hu
    · cases List.mem_singleton.mp hu
      exact ⟨c, control, plain⟩
  · intro u hu token htoken
    rcases List.mem_append.mp hu with hu | hu
    · exact h.issued u hu token htoken
    · cases List.mem_singleton.mp hu
      exact (h.registered _ (entry token htoken).1).2
  · intro u hu e he
    rcases List.mem_append.mp hu with hu | hu
    · exact h.own u hu e he
    · cases List.mem_singleton.mp hu
      intro match_
      cases htoken : t.work.token? with
      | none =>
        rw [htoken] at match_
        exact absurd (match_.resolve_left (by simp)) (unregistered htoken e he)
      | some token =>
        -- the token of the new task is on no entry but its own
        obtain ⟨there, handle⟩ := entry token htoken
        have number : e.handle = t.number := by
          rcases match_ with eq | eq
          · exact handle e he (Option.some.inj (eq.symm.trans htoken))
          · exact eq
        have eq := Entries.eq_of_handle h.handles he there number
        rw [eq]
        exact ⟨rfl, rfl⟩
  · intro u hu token htoken
    rcases List.mem_append.mp hu with hu | hu
    · exact h.live u hu token htoken
    · cases List.mem_singleton.mp hu
      exact iff_of_true cancelled (entry token htoken).1

end Multiplexer
