import Multiplexer.Proofs.Settling

/-!
Every move keeps the links between entries, tasks and controls.
-/

namespace Multiplexer

variable {r r' : Responder}

theorem Responder.KeepsTasks.linked (kept : r.KeepsTasks r') (h : r.Linked) : r'.Linked :=
  h.keep kept.outbound kept.issued (by rw [kept.controls])
    (fun _ c hc plain => ⟨c, kept.controls ▸ hc, plain⟩) (by rw [kept.tasks]) kept.isCancelled
    (fun n _ => kept.account n)

theorem Responder.Linked.setWork_signature (h : r.Linked) {t : Task} {work : Work}
    (there : t ∈ r.tasks) (token : work.token? = t.work.token?) :
    (r.setWork t.number work).tasks.map Task.signature = r.tasks.map Task.signature := by
  simp only [Responder.setWork, List.map_map]
  refine List.map_congr_left fun u hu => ?_
  by_cases same : u.number = t.number
  · cases h.eq_of_number hu there same
    simp [Task.signature, token]
  · simp [same]

theorem Responder.setDemand_isCancelled (r : Responder) (n m : Nat) (d : Demand) :
    (r.setDemand n d).isCancelled m = r.isCancelled m := by
  simp only [Responder.isCancelled, Responder.setDemand, Controls.getElem?_setDemand]
  by_cases h : m = n
  · simp only [h, if_true, Option.map_map]
    congr 3
    funext c
    exact Control.isCancelled_withDemand c d
  · simp [h]

theorem Responder.setDemand_plain (r : Responder) (n m : Nat) (d : Demand) {c : Control}
    (hc : r.controls[m]? = some c) (plain : c.isCustom = false) :
    ∃ c', (r.setDemand n d).controls[m]? = some c' ∧ c'.isCustom = false := by
  simp only [Responder.setDemand, Controls.getElem?_setDemand, hc]
  by_cases h : m = n
  · exact ⟨_, by simp [h]; rfl, by simpa using plain⟩
  · exact ⟨c, by simp [h], plain⟩

theorem Responder.Linked.setDemand (h : r.Linked) (n : Nat) (d : Demand) :
    (r.setDemand n d).Linked :=
  h.keep rfl (Nat.le_refl _) (Controls.length_setDemand ..) (fun m _ => r.setDemand_plain n m d) rfl
    (r.setDemand_isCancelled n · d) (fun _ _ => rfl)

theorem Responder.Linked.note (h : r.Linked) {t : Task} (there : t ∈ r.tasks) {events : List Event}
    (told : ∀ e ∈ events, e.ToldBy t.number) :
    Responder.Linked { r with history := r.history ++ events } := by
  refine h.keep rfl (Nat.le_refl _) rfl (fun n c hc plain => ⟨c, hc, plain⟩) rfl (fun n => rfl) ?_
  intro n hn
  have bound := h.task_lt there
  have other : n ≠ t.number := by omega
  show accountOf n (r.history ++ events) = accountOf n r.history
  rw [accountOf_append, Event.ToldBy.silent told other, List.append_nil]

theorem Responder.Linked.setWork (h : r.Linked) {t : Task} {work : Work} (there : t ∈ r.tasks)
    (token : work.token? = t.work.token?) : (r.setWork t.number work).Linked :=
  h.keep rfl (Nat.le_refl _) rfl (fun _ c hc plain => ⟨c, hc, plain⟩)
    (h.setWork_signature there token) (fun _ => rfl) (fun _ _ => rfl)

theorem Responder.Linked.finish (h : r.Linked) {t : Task} {words : List Event} {metrics : Metrics}
    (there : t ∈ r.tasks) (kept : r.KeepsTasks r')
    (told : ∀ e ∈ words, e.ToldBy t.number) :
    Responder.Linked (Responder.removeTask { r' with
        registry := (t.release t.work.token? r'.registry).1
        metrics
        history := r'.history ++ words } t.number) := by
  have linked := kept.linked h
  have there' : t ∈ r'.tasks := kept.tasks ▸ there
  refine linked.retire there' rfl (Nat.le_of_eq (Task.release_issued ..).symm) rfl rfl rfl ?_
  intro n hn
  have bound := linked.task_lt there'
  have other : n ≠ t.number := by omega
  show accountOf n (r'.history ++ words) = accountOf n r'.history
  rw [accountOf_append, Event.ToldBy.silent told other, List.append_nil]

theorem Responder.Linked.begin (h : r.Linked) {stream : StreamId} {control : Control} {work : Work}
    (begins : Responder.Begins stream control work r r') (running : r.shutdown = false)
    (plain : control.isCustom = false) (uncancelled : control.isCancelled = false)
    (token : work.token? = some r.registry.issued) : r'.Linked := by
  have free := begins.free
  obtain ⟨told, moves, rfl⟩ := begins.opened
  have kept := Responder.AsideMoves.keepsTasks moves
  have outbound := kept.outbound.trans (r.register_outbound control free)
  have here : told.controls[r.controls.length]? = some control := by
    rw [kept.controls]
    simp [Responder.register]
  have shutdown : told.shutdown = false := kept.shutdown.trans running
  refine (kept.linked (h.register stream control)).addTask ?_ here plain ?_ ?_ ?_
  · intro u hu
    exact Nat.ne_of_lt (h.task_lt (kept.tasks ▸ hu))
  · simp [Responder.isCancelled, shutdown, here, uncancelled]
  · intro issued hissued
    -- the token that is issued next is on no entry yet
    cases token.symm.trans hissued
    rw [outbound]
    refine ⟨by simp, fun e he same => ?_⟩
    rcases List.mem_append.mp he with he | he
    · exact absurd (h.registered e he).2 (by omega)
    · rw [List.mem_singleton.mp he]
  · intro none
    exact absurd (token.symm.trans none) (by simp)

theorem Responder.Linked.cancelStream (h : r.Linked) {stream : StreamId} {n : Nat}
    (found : r.registry.outbound? stream = some n) : (r.cancelStream stream).1.Linked := by
  obtain ⟨token, there⟩ := (Registry.outbound?_eq_some_iff h.streams).mp found
  have eq : (r.cancelStream stream).1 =
      { r with
        registry :=
          { r.registry with
            outbound := r.registry.outbound.erase stream, active := r.registry.active - 1 }
        controls := (r.controls.cancel n).1 } := by
    simp [Responder.cancelStream, Registry.removeOutbound, found]
  rw [eq]
  have control (k : Nat) := Controls.getElem?_act r.controls n k Control.cancel
  refine h.shrink List.filter_sublist (Nat.le_refl _) (Controls.length_act ..) ?_ (List.Sublist.refl _)
    ?_ (fun _ _ => rfl)
  · intro k c hc plain
    dsimp only
    rw [Controls.cancel, control, hc]
    split
    · exact ⟨_, rfl, by simpa using plain⟩
    · exact ⟨c, rfl, plain⟩
  · intro t ht _ _ _ issued hissued
    have own := h.live t ht issued hissued
    rw [Entries.mem_erase]
    -- the entry that goes is that of the cancelled task, and of no other
    by_cases number : t.number = n
    · obtain ⟨c, hc, plain⟩ := h.controlled t ht
      have cancelled : c.cancel.1.isCancelled = true := Control.isCancelled_cancel plain
      have gone := (h.own t ht _ there (.inr number.symm)).2
      have same : t.stream = stream := (congrArg Entry.stream gone).symm
      refine iff_of_false ?_ (fun he => he.2 same)
      simp [Responder.isCancelled, Controls.cancel, control, number, number ▸ hc, cancelled]
    · have cancelled : Responder.isCancelled { r with controls := (r.controls.cancel n).1 } t.number =
          r.isCancelled t.number := by
        simp only [Responder.isCancelled, Controls.cancel, control, if_neg number]
      refine Iff.trans (by rw [← cancelled]; rfl) (own.trans ⟨fun he => ⟨he, fun same => ?_⟩, And.left⟩)
      exact number (congrArg Entry.handle (Entries.eq_of_stream h.streams he there same))

theorem Responder.Linked.grantStream (h : r.Linked) {stream : StreamId} {n : Nat}
    (found : r.registry.outbound? stream = some n) (demand : UInt32) :
    (r.grantStream stream demand).1.Linked := by
  have eq : (r.grantStream stream demand).1 =
      { r with controls := (r.controls.request n (creditOfDemand demand)).1 } := by
    simp [Responder.grantStream, found]
  rw [eq]
  have control (k : Nat) :=
    Controls.getElem?_act r.controls n k (Control.request (creditOfDemand demand))
  refine h.keep rfl (Nat.le_refl _) (Controls.length_act ..) ?_ rfl ?_ (fun _ _ => rfl)
  · intro k c hc plain
    dsimp only
    rw [Controls.request, control, hc]
    split
    · exact ⟨_, rfl, by simpa using plain⟩
    · exact ⟨c, rfl, plain⟩
  · intro k
    simp only [Responder.isCancelled, Controls.request, control]
    split
    · rw [Option.map_map]
      congr 3
      funext c
      exact Control.isCancelled_request c _
    · rfl

theorem Responder.Linked.drained (h : r.Linked) : r.drained.Linked := by
  have control {k : Nat} {c : Control} (hc : r.controls[k]? = some c) :=
    Controls.getElem?_cancelEach (r.registry.outbound.map Entry.handle) hc
  refine h.shrink (List.nil_sublist _) (Nat.le_refl _) (Controls.length_cancelEach ..) ?_
    (List.Sublist.refl _) ?_ (fun _ _ => rfl)
  · intro k c hc plain
    obtain ⟨c', hc', custom, _⟩ := control hc
    exact ⟨c', hc', custom.trans plain⟩
  · intro t ht _ _ _ token htoken
    obtain ⟨c, hc, plain⟩ := h.controlled t ht
    obtain ⟨c', hc', _, _, reached, _⟩ := control hc
    refine iff_of_false ?_ List.not_mem_nil
    cases hs : r.shutdown with
    | true => simp [Responder.isCancelled, Responder.drained, hs]
    | false =>
      have cancelled : c'.isCancelled = true := by
        apply reached
        cases hx : c.isCancelled with
        | true => exact .inl rfl
        | false =>
          -- a task that was not cancelled had an entry, so its control has been reached
          have live := (h.live t ht token htoken).mp (by simp [Responder.isCancelled, hs, hc, hx])
          exact .inr ⟨List.mem_map_of_mem live, plain⟩
      simp [Responder.isCancelled, Responder.drained, hs, hc', cancelled]

theorem Task.Move.linked {t : Task} (move : t.Move r r') (h : r.Linked) (there : t ∈ r.tasks) :
    r'.Linked := by
  cases move with
  | waitSingle work => exact h.setWork there (by rw [work]; rfl)
  | @finishSingle r1 kind token request work dropped result cancelled =>
    rw [Responder.settleSingle_eq]
    have htoken : t.work.token? = token := by rw [work]; rfl
    have kept := Responder.AsideMoves.keepsTasks dropped
    have finished {metrics : Metrics} := @Responder.Linked.finish r r1 h t _ metrics there kept
      (fun _ => t.answer_told kind (t.release token r1.registry).2 result)
    rw [htoken] at finished
    exact finished
  | pull work p =>
    have told : (r.record (.pulled t.number (.ok p))).Linked :=
      h.note there fun e he => List.mem_singleton.mp he ▸ Event.pulled_told ..
    exact told.setWork there (by rw [work]; rfl)
  | @next token channel phase p d d' work held demand taken =>
    have told : ((r.setDemand t.number d').send (.task t.number) (.next t.stream p)).Linked :=
      (h.setDemand t.number d').note there fun e he => List.mem_singleton.mp he ▸ Event.sent_told ..
    exact told.setWork there (by rw [work]; rfl)
  | @wait token channel phase phase' d' work held kept =>
    exact (h.setDemand t.number d').setWork there (by rw [work]; rfl)
  | @finishStream r1 token channel phase events outcome work ends dropped =>
    rw [Responder.settleStream_eq]
    have htoken : t.work.token? = some token := by rw [work]; rfl
    have noted := h.note there fun _ => ends.told
    have kept := Responder.AsideMoves.keepsTasks dropped
    have finished {metrics : Metrics} := @Responder.Linked.finish _ r1 noted t _ metrics there kept
      (fun _ => t.lastWords_told (t.release (some token) r1.registry).2 outcome)
    rw [htoken] at finished
    exact finished

theorem Responder.Move.linked {l : Label} (move : Responder.Move l r r') (h : r.Linked) :
    r'.Linked := by
  cases move with
  | aside step => exact step.keepsTasks.linked h
  | begin begins running plain uncancelled token _ =>
    exact h.begin begins running plain uncancelled token
  | startPush stream p running =>
    have here : (r.controls ++ [Control.task false])[r.controls.length]? = some (.task false) := by
      simp
    refine (h.addControl (.task false)).addTask ?_ here rfl ?_ ?_ ?_
    · exact fun u hu => Nat.ne_of_lt (h.task_lt hu)
    · simp [Responder.isCancelled, running, Control.isCancelled]
    · intro token htoken
      cases htoken
    · exact fun _ e he => Nat.ne_of_lt (h.registered e he).1
  | register stream control => exact h.register stream control
  | cancel found => exact h.cancelStream found
  | grant found demand => exact h.grantStream found demand
  | drain => exact h.drained
  | shut empty =>
    refine h.shrink (List.Sublist.refl _) (Nat.le_refl _) rfl (fun _ c hc plain => ⟨c, hc, plain⟩)
      (List.Sublist.refl _) ?_ (fun _ _ => rfl)
    intro t _ _ _ _ token _
    refine iff_of_false (by simp [Responder.isCancelled]) ?_
    dsimp only
    rw [empty]
    exact List.not_mem_nil
  | dispose => exact r.disposed_keepsTasks.linked h
  | disconnect => exact (r.counted_keepsTasks _).linked h
  | task there step => exact step.linked h there

theorem Responder.Moves.linked {allowed : Label → Prop} (h : r.Linked)
    (moves : r.Moves allowed r') : r'.Linked :=
  moves.invariant h fun _ move linked => move.linked linked

end Multiplexer
