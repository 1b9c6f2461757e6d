import Multiplexer.Proofs.ChannelEntries

/-!
Registries under their operations: each map has one entry for a stream, no token is on two entries, and
the gauge is the number of entries. Whatever a responder does to its registry is a chain of these
operations.
-/

namespace Multiplexer

variable {α β : Type}

/-- The tokens of what is registered, operations first. -/
def Registry.tokens (g : Registry α β) : List Nat :=
  g.outbound.map Entry.token ++ g.inbound.map Entry.token

/-- Everything is taken out at once. -/
def Registry.cleared (g : Registry α β) : Registry α β :=
  { g with outbound := [], inbound := [], active := g.active - g.size }

/-- One map is as good as the other. -/
def Registry.swap (g : Registry α β) : Registry β α := ⟨g.inbound, g.outbound, g.issued, g.active⟩

/-- One operation on a registry. -/
inductive Registry.Step : Registry α β → Registry α β → Prop where
  | registerOutbound (g : Registry α β) (stream : StreamId) (handle : α) :
    Step g (g.registerOutbound stream handle).1
  | registerInbound (g : Registry α β) (stream : StreamId) (handle : β) :
    Step g (g.registerInbound stream handle).1
  /-- A registration that is refused uses up a token. -/
  | refuse (g : Registry α β) : Step g { g with issued := g.issued + 1 }
  | removeOutbound (g : Registry α β) (stream : StreamId) : Step g (g.removeOutbound stream).1
  | removeInbound (g : Registry α β) (stream : StreamId) : Step g (g.removeInbound stream).1
  | releaseOutbound (g : Registry α β) (stream : StreamId) (token : Nat) :
    Step g (g.releaseOutbound stream token).1
  | releaseInbound (g : Registry α β) (stream : StreamId) (token : Nat) :
    Step g (g.releaseInbound stream token).1
  | clear (g : Registry α β) : Step g g.cleared

abbrev Registry.Steps : Registry α β → Registry α β → Prop := Relation.ReflTransGen Registry.Step

structure Registry.Sound (g : Registry α β) : Prop where
  outbound : (g.outbound.map Entry.stream).Nodup
  inbound : (g.inbound.map Entry.stream).Nodup
  tokens : g.tokens.Nodup
  issued : ∀ token ∈ g.tokens, token < g.issued
  active : g.active = g.size

/-- What is registered later has been there before or bears a newer token. -/
structure Registry.Evolves (g g' : Registry α β) : Prop where
  issued : g.issued ≤ g'.issued
  tokens : ∀ token ∈ g'.tokens, token ∈ g.tokens ∨ g.issued ≤ token
  sound : g.Sound → g'.Sound

variable {g g' g'' : Registry α β} {es : Entries α} {e : Entry α} {stream : StreamId}

theorem Registry.sound_empty : (Registry.empty : Registry α β).Sound := by
  refine ⟨?_, ?_, ?_, ?_, ?_⟩ <;> simp [Registry.empty, Registry.tokens, Registry.size]

theorem Registry.mem_tokens_swap {token : Nat} : token ∈ g.swap.tokens ↔ token ∈ g.tokens := by
  simp only [Registry.tokens, Registry.swap, List.mem_append]
  exact or_comm

theorem Registry.Sound.swap (h : g.Sound) : g.swap.Sound := by
  refine ⟨h.inbound, h.outbound, ?_, fun token there => ?_, ?_⟩
  · exact List.nodup_append_comm.mp h.tokens
  · exact h.issued token (Registry.mem_tokens_swap.mp there)
  · rw [Registry.swap, h.active, Registry.size, Registry.size, Nat.add_comm]

theorem Registry.Evolves.swap (h : g.Evolves g') : g.swap.Evolves g'.swap := by
  refine ⟨h.issued, fun token there => ?_, fun sound => (h.sound sound.swap).swap⟩
  rw [Registry.mem_tokens_swap]
  exact h.tokens token (Registry.mem_tokens_swap.mp there)

theorem Registry.Evolves.refl (g : Registry α β) : g.Evolves g :=
  ⟨Nat.le_refl _, fun _ => .inl, id⟩

theorem Registry.Evolves.trans (h : g.Evolves g') (h' : g'.Evolves g'') : g.Evolves g'' := by
  refine ⟨Nat.le_trans h.issued h'.issued, fun token there => ?_, h'.sound ∘ h.sound⟩
  rcases h'.tokens token there with old | new
  · exact h.tokens token old
  · exact .inr (Nat.le_trans h.issued new)

theorem Registry.Evolves.refuse (g : Registry α β) :
    g.Evolves { g with issued := g.issued + 1 } := by
  refine ⟨Nat.le_succ _, fun _ => .inl, fun h => ⟨h.outbound, h.inbound, h.tokens, ?_, h.active⟩⟩
  exact fun token there => Nat.lt_succ_of_lt (h.issued token there)

/-- A new entry bears the token that is issued next. -/
theorem Registry.Evolves.add (handle : α) (free : g.outbound.contains stream = false) :
    g.Evolves { g with
      outbound := g.outbound ++ [⟨stream, g.issued, handle⟩]
      issued := g.issued + 1
      active := g.active + 1 } := by
  have unused : ∀ e ∈ g.outbound, e.stream ≠ stream := by simpa [Entries.contains] using free
  refine ⟨Nat.le_succ _, ?_, fun h => ⟨?_, h.inbound, ?_, ?_, ?_⟩⟩
  · intro token there
    simp only [Registry.tokens, List.map_append, List.mem_append, List.map_cons, List.map_nil,
      List.mem_singleton] at there ⊢
    rcases there with (old | rfl) | old
    · exact .inl (.inl old)
    · exact .inr (Nat.le_refl _)
    · exact .inl (.inr old)
  · rw [List.map_append, List.nodup_append]
    exact ⟨h.outbound, by simp, by simpa using unused⟩
  · have fresh : g.issued ∉ g.tokens := fun there => Nat.lt_irrefl _ (h.issued _ there)
    have moved : List.Perm (g.issued :: g.tokens)
        (List.map Entry.token (g.outbound ++ [⟨stream, g.issued, handle⟩]) ++
          g.inbound.map Entry.token) := by
      rw [List.map_append, List.append_assoc]
      exact List.perm_middle.symm
    exact moved.nodup (List.nodup_cons.mpr ⟨fresh, h.tokens⟩)
  · intro token there
    simp only [Registry.tokens, List.map_append, List.mem_append, List.map_cons, List.map_nil,
      List.mem_singleton] at there
    rcases there with (old | rfl) | old
    · exact Nat.lt_succ_of_lt (h.issued token (List.mem_append_left _ old))
    · exact Nat.lt_succ_self _
    · exact Nat.lt_succ_of_lt (h.issued token (List.mem_append_right _ old))
  · have active := h.active
    simp only [Registry.size, List.length_append, List.length_singleton] at active ⊢
    omega

theorem Entries.length_erase (nodup : (es.map Entry.stream).Nodup)
    (found : es.find? stream = some e) : (es.erase stream).length + 1 = es.length := by
  obtain ⟨there, on⟩ := Entries.mem_of_find? found
  have once : (es.map Entry.stream).count stream = 1 :=
    List.count_eq_one_of_mem nodup (List.mem_map.mpr ⟨e, there, on⟩)
  have split := List.length_eq_countP_add_countP (fun e : Entry α => e.stream = stream) (l := es)
  have here : es.countP (fun e => decide (e.stream = stream)) = 1 := by
    rw [← once, List.count, List.countP_map]
    rfl
  simp only [here, decide_eq_true_eq] at split
  rw [Entries.erase, ← List.countP_eq_length_filter, split, Nat.add_comm]

/-- An entry that is there is taken out. -/
theorem Registry.Evolves.erase (found : g.outbound.find? stream = some e) :
    g.Evolves { g with outbound := g.outbound.erase stream, active := g.active - 1 } := by
  have fewer : (g.outbound.erase stream).Sublist g.outbound := List.filter_sublist
  have tokens : ((g.outbound.erase stream).map Entry.token ++ g.inbound.map Entry.token).Sublist
      g.tokens := (fewer.map _).append (List.Sublist.refl _)
  refine ⟨Nat.le_refl _, fun token there => .inl (tokens.subset there), fun h => ?_⟩
  refine ⟨h.outbound.sublist (fewer.map _), h.inbound, h.tokens.sublist tokens,
    fun token there => h.issued token (tokens.subset there), ?_⟩
  have length := Entries.length_erase h.outbound found
  have active := h.active
  simp only [Registry.size] at active ⊢
  omega

theorem Registry.Evolves.clear (g : Registry α β) : g.Evolves g.cleared := by
  refine ⟨Nat.le_refl _, fun token there => absurd there List.not_mem_nil, fun h => ?_⟩
  refine ⟨List.nodup_nil, List.nodup_nil, List.nodup_nil, fun token there => ?_, ?_⟩
  · exact absurd there List.not_mem_nil
  · rw [Registry.cleared, h.active, Int.sub_self]
    rfl

theorem Registry.registerOutbound_evolves (g : Registry α β) (stream : StreamId) (handle : α) :
    g.Evolves (g.registerOutbound stream handle).1 := by
  simp only [Registry.registerOutbound]
  split
  · exact .refuse g
  next free => exact .add handle (by simpa using free)

theorem Registry.removeOutbound_evolves (g : Registry α β) (stream : StreamId) :
    g.Evolves (g.removeOutbound stream).1 := by
  unfold Registry.removeOutbound
  split
  next handle found =>
    obtain ⟨e, there, _⟩ := Option.map_eq_some_iff.mp found
    exact .erase there
  next => exact .refl g

theorem Registry.releaseOutbound_evolves (g : Registry α β) (stream : StreamId) (token : Nat) :
    g.Evolves (g.releaseOutbound stream token).1 := by
  unfold Registry.releaseOutbound
  split
  next holds =>
    cases found : g.outbound.find? stream with
    | none => simp [Entries.holds, found] at holds
    | some e => exact .erase found
  next => exact .refl g

theorem Registry.swap_registerOutbound (g : Registry α β) (stream : StreamId) (handle : β) :
    (g.swap.registerOutbound stream handle).1.swap = (g.registerInbound stream handle).1 := by
  have same : g.swap.outbound.contains stream = g.inbound.contains stream := rfl
  simp only [Registry.registerOutbound, Registry.registerInbound, same]
  split <;> rfl

theorem Registry.swap_removeOutbound (g : Registry α β) (stream : StreamId) :
    (g.swap.removeOutbound stream).1.swap = (g.removeInbound stream).1 := by
  have same : g.swap.outbound? stream = g.inbound? stream := rfl
  simp only [Registry.removeOutbound, Registry.removeInbound, same]
  split <;> rfl

theorem Registry.swap_releaseOutbound (g : Registry α β) (stream : StreamId) (token : Nat) :
    (g.swap.releaseOutbound stream token).1.swap = (g.releaseInbound stream token).1 := by
  have same : g.swap.outbound.holds stream token = g.inbound.holds stream token := rfl
  simp only [Registry.releaseOutbound, Registry.releaseInbound, same]
  split <;> rfl

theorem Registry.Step.evolves (step : g.Step g') : g.Evolves g' := by
  cases step with
  | registerOutbound stream handle => exact g.registerOutbound_evolves stream handle
  | registerInbound stream handle =>
    rw [← g.swap_registerOutbound]
    exact (g.swap.registerOutbound_evolves stream handle).swap
  | refuse => exact .refuse g
  | removeOutbound stream => exact g.removeOutbound_evolves stream
  | removeInbound stream =>
    rw [← g.swap_removeOutbound]
    exact (g.swap.removeOutbound_evolves stream).swap
  | releaseOutbound stream token => exact g.releaseOutbound_evolves stream token
  | releaseInbound stream token =>
    rw [← g.swap_releaseOutbound]
    exact (g.swap.releaseOutbound_evolves stream token).swap
  | clear => exact .clear g

theorem Registry.Steps.evolves (steps : g.Steps g') : g.Evolves g' := by
  induction steps with
  | refl => exact .refl g
  | tail _ step ih => exact ih.trans step.evolves

section responders

variable {ω : Type} {r r' : Responder}

theorem Responder.ChannelMove.registry (move : r.ChannelMove r') :
    r.registry.Steps r'.registry := by
  obtain rfl | ⟨n, c, step, xs, applies⟩ := move.applies
  · exact .refl
  · rw [applies.registry]
    split
    · exact .single (.releaseInbound ..)
    · exact .refl

theorem Responder.openInbound_registry {settings : Settings} {f : Frame} {p : Payload}
    (opened : r.openInbound settings f p = .ok r') : r.registry.Steps r'.registry := by
  have registered : r.registry.Steps (r.registry.registerInbound f.stream r.channels.length).1 :=
    .single (.registerInbound ..)
  unfold Responder.openInbound at opened
  split at opened
  · cases opened
  next registry token issued =>
    rw [issued] at registered
    split at opened
    · cases opened
      exact registered.tail (.releaseInbound registry f.stream token)
    · cases opened
      exact registered

theorem Responder.AsideMove.registry (move : r.AsideMove r') : r.registry.Steps r'.registry := by
  cases move with
  | channel step => exact step.registry
  | signal n s =>
    unfold Responder.signal
    split <;> exact .refl
  | openInbound opened => exact Responder.openInbound_registry opened
  | closeInbound stream => exact .single (.removeInbound ..)
  | refuse => exact .single (.refuse _)
  | _ => exact .refl

theorem Responder.AsideMoves.registry (moves : r.AsideMoves r') :
    r.registry.Steps r'.registry := by
  induction moves with
  | refl => exact .refl
  | tail _ step ih => exact ih.trans step.registry

theorem Task.release_registry (t : Task) (token : Option Nat) (g : Registry Nat Nat) :
    g.Steps (t.release token g).1 := by
  cases token with
  | none => exact .refl
  | some token => exact .single (.releaseOutbound ..)

theorem Task.Move.registry {t : Task} (move : t.Move r r') : r.registry.Steps r'.registry := by
  cases move with
  | @finishSingle r1 kind token request work dropped result cancelled =>
    rw [Responder.settleSingle_eq]
    exact (Responder.AsideMoves.registry dropped).trans (t.release_registry token r1.registry)
  | @finishStream r1 token channel phase events outcome work ends dropped =>
    rw [Responder.settleStream_eq]
    have left := Responder.AsideMoves.registry dropped
    exact Relation.ReflTransGen.trans left (t.release_registry (some token) r1.registry)
  | _ => exact .refl

/-- A responder touches its registry only by the operations of the registry. -/
theorem Responder.Move.registry {l : Label} (move : Responder.Move l r r') :
    r.registry.Steps r'.registry := by
  have registered (stream : StreamId) (control : Control) :
      r.registry.Steps (r.register stream control).1.registry := .single (.registerOutbound ..)
  cases move with
  | aside step => exact step.registry
  | @begin _ _ stream control work begins running plain uncancelled token _ =>
    obtain ⟨told, moves, rfl⟩ := begins.opened
    have left := Responder.AsideMoves.registry moves
    exact (registered stream control).trans left
  | startPush stream p running => exact .refl
  | register stream control => exact registered stream control
  | @cancel _ stream n found =>
    have removed : r.registry.Steps (r.registry.removeOutbound stream).1 :=
      .single (.removeOutbound ..)
    unfold Responder.cancelStream
    split
    next there =>
      rw [there] at removed
      exact removed
    next => exact .refl
  | grant found demand =>
    unfold Responder.grantStream
    split <;> exact .refl
  | drain => exact .single (.clear _)
  | shut empty => exact .refl
  | dispose => exact .refl
  | disconnect => exact .refl
  | task there step => exact step.registry

theorem Responder.Moves.registry {allowed : Label → Prop} (moves : r.Moves allowed r') :
    r.registry.Steps r'.registry := by
  induction moves with
  | refl => exact .refl
  | tail _ step ih =>
    obtain ⟨l, _, move⟩ := step
    exact ih.trans move.registry

theorem Responder.Linked.step_evolves {s : Responder × ω} (h : s.1.Linked) (settings : Settings)
    (app : Application ω) (a : Action ω) :
    s.1.registry.Evolves (Responder.step settings app a s).1.registry :=
  (h.step_moves settings app a).registry.evolves

/-- In any run the registry is sound. -/
theorem Responder.sound_run (settings : Settings) (app : Application ω) (w : ω)
    (as : List (Action ω)) : (Responder.run settings app as (Responder.start, w)).1.registry.Sound := by
  have moves := Responder.linked_start.run_moves settings app as (s := (Responder.start, w))
  exact (Responder.Moves.registry moves).evolves.sound Registry.sound_empty

end responders

end Multiplexer
