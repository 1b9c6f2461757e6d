import Multiplexer.Proofs.RegistrySteps

/-!
Runs of a registry: operations on either map and bulk cancellations, in any order. Each map has at most one
entry for a stream and the gauge counts the entries of both; no token is issued twice; and an operation
changes nothing but the one entry that it is about.
-/

namespace Multiplexer

variable {α β ω : Type}

/-- An operation on one map of a registry. -/
inductive Entries.Operation (α : Type) where
  | register (stream : StreamId) (handle : α)
  | remove (stream : StreamId)
  | release (stream : StreamId) (token : Nat)
  | look (stream : StreamId)

/-- What an operation on one map answers. -/
inductive Entries.Answer (α : Type) where
  | registered (result : Except ProtocolError Nat)
  | removed (handle : Option α)
  | released (done : Bool)
  | found (handle : Option α)

/-- An operation on a registry. -/
inductive Registry.Operation (α β : Type) where
  | outbound (op : Entries.Operation α)
  | inbound (op : Entries.Operation β)
  /-- Everything is taken out and cancelled. -/
  | cancelAll

/-- How handles on operations and on channels are cancelled, in a world of type `ω`. -/
structure Canceller (α β ω : Type) where
  operation : α → ω → ω × Option Panic
  channel : β → ω → ω × Option Panic

def Entries.Operation.stream : Entries.Operation α → StreamId
  | .register stream _ | .remove stream | .release stream _ | .look stream => stream

/-- The token that an operation has issued. -/
def Entries.Answer.token? : Entries.Answer α → Option Nat
  | .registered (.ok token) => some token
  | .registered (.error _) | .removed _ | .released _ | .found _ => none

def Registry.performOutbound (g : Registry α β) :
    Entries.Operation α → Registry α β × Entries.Answer α
  | .register stream handle =>
    let (g, result) := g.registerOutbound stream handle
    (g, .registered result)
  | .remove stream =>
    let (g, handle) := g.removeOutbound stream
    (g, .removed handle)
  | .release stream token =>
    let (g, done) := g.releaseOutbound stream token
    (g, .released done)
  | .look stream => (g, .found (g.outbound? stream))

def Registry.performInbound (g : Registry α β) :
    Entries.Operation β → Registry α β × Entries.Answer β
  | .register stream handle =>
    let (g, result) := g.registerInbound stream handle
    (g, .registered result)
  | .remove stream =>
    let (g, handle) := g.removeInbound stream
    (g, .removed handle)
  | .release stream token =>
    let (g, done) := g.releaseInbound stream token
    (g, .released done)
  | .look stream => (g, .found (g.inbound? stream))

/-- Takes out all entries and cancels them. -/
def Registry.cancelAll (g : Registry α β) (c : Canceller α β ω) (w : ω) : Drained α β ω :=
  g.drain c.operation c.channel w

def Registry.perform (c : Canceller α β ω) (s : Registry α β × ω) :
    Registry.Operation α β → Registry α β × ω
  | .outbound op => ((s.1.performOutbound op).1, s.2)
  | .inbound op => ((s.1.performInbound op).1, s.2)
  | .cancelAll => ((s.1.cancelAll c s.2).registry, (s.1.cancelAll c s.2).world)

/-- A registry and its world after a list of operations. -/
def Registry.after (c : Canceller α β ω) (ops : List (Registry.Operation α β))
    (s : Registry α β × ω) : Registry α β × ω :=
  ops.foldl (Registry.perform c) s

/-- The token that an operation issues, if it registers something and is not refused. -/
def Registry.issues (g : Registry α β) : Registry.Operation α β → List Nat
  | .outbound op => (g.performOutbound op).2.token?.toList
  | .inbound op => (g.performInbound op).2.token?.toList
  | .cancelAll => []

/-- The tokens issued in a list of operations. -/
def Registry.registered (c : Canceller α β ω) :
    List (Registry.Operation α β) → Registry α β × ω → List Nat
  | [], _ => []
  | op :: ops, s => s.1.issues op ++ registered c ops (Registry.perform c s op)

/-- The operation is to register something. -/
def Registry.Operation.isRegistration : Registry.Operation α β → Bool
  | .outbound (.register ..) | .inbound (.register ..) => true
  | _ => false

variable {c : Canceller α β ω} {g : Registry α β} {s : Registry α β × ω} {stream : StreamId}

/-- What is done to one map is what is done to the other after an exchange of the two. -/
theorem Registry.swap_performOutbound (g : Registry α β) (op : Entries.Operation β) :
    (g.swap.performOutbound op).1.swap = (g.performInbound op).1 ∧
      (g.swap.performOutbound op).2 = (g.performInbound op).2 := by
  have contains (stream : StreamId) : g.swap.outbound.contains stream = g.inbound.contains stream := rfl
  have holds (stream : StreamId) (token : Nat) :
      g.swap.outbound.holds stream token = g.inbound.holds stream token := rfl
  have found (stream : StreamId) : g.swap.outbound? stream = g.inbound? stream := rfl
  cases op with
  | register stream handle =>
    simp only [Registry.performOutbound, Registry.performInbound, Registry.registerOutbound,
      Registry.registerInbound, contains]
    split <;> exact ⟨rfl, rfl⟩
  | remove stream =>
    simp only [Registry.performOutbound, Registry.performInbound, Registry.removeOutbound,
      Registry.removeInbound, found]
    split <;> exact ⟨rfl, rfl⟩
  | release stream token =>
    simp only [Registry.performOutbound, Registry.performInbound, Registry.releaseOutbound,
      Registry.releaseInbound, holds]
    split <;> exact ⟨rfl, rfl⟩
  | look stream => exact ⟨rfl, rfl⟩

theorem Registry.performOutbound_evolves (g : Registry α β) (op : Entries.Operation α) :
    g.Evolves (g.performOutbound op).1 := by
  cases op with
  | register stream handle => exact g.registerOutbound_evolves stream handle
  | remove stream => exact g.removeOutbound_evolves stream
  | release stream token => exact g.releaseOutbound_evolves stream token
  | look stream => exact .refl g

theorem Registry.perform_evolves (c : Canceller α β ω) (s : Registry α β × ω)
    (op : Registry.Operation α β) : s.1.Evolves (Registry.perform c s op).1 := by
  cases op with
  | outbound op => exact s.1.performOutbound_evolves op
  | inbound op =>
    show s.1.Evolves (s.1.performInbound op).1
    rw [← (s.1.swap_performOutbound op).1]
    exact (s.1.swap.performOutbound_evolves op).swap
  | cancelAll => exact .clear s.1

/-- A registry is as sound after a run as before. -/
theorem Registry.after_evolves (c : Canceller α β ω) (ops : List (Registry.Operation α β))
    (s : Registry α β × ω) : s.1.Evolves (Registry.after c ops s).1 := by
  induction ops generalizing s with
  | nil => exact .refl s.1
  | cons op ops ih => exact (Registry.perform_evolves c s op).trans (ih _)

/-- A registration is refused just when its map holds the stream. Then only a token is used up. -/
theorem Registry.registerOutbound_error_iff (g : Registry α β) (stream : StreamId) (handle : α)
    (e : ProtocolError) :
    (g.registerOutbound stream handle).2 = .error e ↔
      e = .duplicateStream stream ∧ g.outbound.contains stream = true := by
  simp only [Registry.registerOutbound]
  split
  next taken => simp [taken, eq_comm]
  next free => simp [free]

theorem Registry.registerOutbound_refused {handle : α} {e : ProtocolError}
    (refused : (g.registerOutbound stream handle).2 = .error e) :
    (g.registerOutbound stream handle).1 = { g with issued := g.issued + 1 } := by
  obtain ⟨_, taken⟩ := (g.registerOutbound_error_iff stream handle e).mp refused
  simp [Registry.registerOutbound, taken]

theorem Registry.registerInbound_error_iff (g : Registry α β) (stream : StreamId) (handle : β)
    (e : ProtocolError) :
    (g.registerInbound stream handle).2 = .error e ↔
      e = .duplicateStream stream ∧ g.inbound.contains stream = true := by
  simp only [Registry.registerInbound]
  split
  next taken => simp [taken, eq_comm]
  next free => simp [free]

theorem Registry.registerInbound_refused {handle : β} {e : ProtocolError}
    (refused : (g.registerInbound stream handle).2 = .error e) :
    (g.registerInbound stream handle).1 = { g with issued := g.issued + 1 } := by
  obtain ⟨_, taken⟩ := (g.registerInbound_error_iff stream handle e).mp refused
  simp [Registry.registerInbound, taken]

theorem Registry.issued_performOutbound (g : Registry α β) (op : Entries.Operation α) :
    (g.performOutbound op).1.issued =
        g.issued + (Registry.Operation.isRegistration (.outbound op : Registry.Operation α β)).toNat ∧
      ∀ token, (g.performOutbound op).2.token? = some token → token = g.issued ∧
        Registry.Operation.isRegistration (.outbound op : Registry.Operation α β) = true := by
  have silent {answer : Entries.Answer α} {P : Nat → Prop} (none : answer.token? = none) :
      ∀ token, answer.token? = some token → P token := by simp [none]
  cases op with
  | register stream handle =>
    simp only [Registry.performOutbound, Registry.registerOutbound]
    split
    · exact ⟨rfl, silent rfl⟩
    · exact ⟨rfl, fun token new => ⟨(Option.some.inj new).symm, rfl⟩⟩
  | remove stream =>
    simp only [Registry.performOutbound, Registry.removeOutbound]
    split <;> exact ⟨rfl, silent rfl⟩
  | release stream token =>
    simp only [Registry.performOutbound, Registry.releaseOutbound]
    split <;> exact ⟨rfl, silent rfl⟩
  | look stream => exact ⟨rfl, silent rfl⟩

/-- Each attempt to register uses up one token, and only the next token is ever issued. -/
theorem Registry.issued_perform (c : Canceller α β ω) (s : Registry α β × ω)
    (op : Registry.Operation α β) :
    (Registry.perform c s op).1.issued = s.1.issued + op.isRegistration.toNat ∧
      (s.1.issues op = [] ∨ s.1.issues op = [s.1.issued] ∧ op.isRegistration = true) := by
  have issues {token? : Option Nat} {b : Bool}
      (h : ∀ token, token? = some token → token = s.1.issued ∧ b = true) :
      token?.toList = [] ∨ token?.toList = [s.1.issued] ∧ b = true := by
    cases token? with
    | none => exact .inl rfl
    | some token =>
      obtain ⟨rfl, new⟩ := h token rfl
      exact .inr ⟨rfl, new⟩
  cases op with
  | outbound op =>
    obtain ⟨issued, token⟩ := s.1.issued_performOutbound op
    exact ⟨issued, issues token⟩
  | inbound op =>
    obtain ⟨issued, token⟩ := s.1.swap.issued_performOutbound op
    obtain ⟨same, answer⟩ := s.1.swap_performOutbound op
    have kind : Registry.Operation.isRegistration (.outbound op : Registry.Operation β α) =
        Registry.Operation.isRegistration (.inbound op : Registry.Operation α β) := by
      cases op <;> rfl
    rw [answer, kind] at token
    refine ⟨?_, issues token⟩
    show (s.1.performInbound op).1.issued = _
    rw [← same, ← kind]
    exact issued
  | cancelAll => exact ⟨rfl, .inl rfl⟩

theorem Registry.issued_after (c : Canceller α β ω) (ops : List (Registry.Operation α β))
    (s : Registry α β × ω) :
    (Registry.after c ops s).1.issued = s.1.issued + ops.countP Registry.Operation.isRegistration := by
  induction ops generalizing s with
  | nil => rfl
  | cons op ops ih =>
    show (Registry.after c ops (Registry.perform c s op)).1.issued = _
    rw [ih, (Registry.issued_perform c s op).1, List.countP_cons]
    cases op.isRegistration <;> simp [Nat.add_assoc, Nat.add_comm]

/-- The tokens issued in a run are new, differ from each other and lie below the next one. -/
theorem Registry.registered_fresh (c : Canceller α β ω) (ops : List (Registry.Operation α β))
    (s : Registry α β × ω) :
    (Registry.registered c ops s).Nodup ∧ ∀ token ∈ Registry.registered c ops s,
      s.1.issued ≤ token ∧ token < (Registry.after c ops s).1.issued := by
  induction ops generalizing s with
  | nil => exact ⟨List.nodup_nil, fun _ there => absurd there List.not_mem_nil⟩
  | cons op ops ih =>
    obtain ⟨nodup, bounds⟩ := ih (Registry.perform c s op)
    obtain ⟨issued, issues⟩ := Registry.issued_perform c s op
    have later : (Registry.perform c s op).1.issued ≤ (Registry.after c (op :: ops) s).1.issued :=
      (Registry.after_evolves c ops _).issued
    rw [Registry.registered]
    rcases issues with none | ⟨one, kind⟩
    · rw [none, List.nil_append]
      refine ⟨nodup, fun token there => ⟨?_, (bounds token there).2⟩⟩
      have := (bounds token there).1
      omega
    · rw [kind, Bool.toNat_true] at issued
      rw [one, List.singleton_append, List.nodup_cons]
      refine ⟨⟨fun there => ?_, nodup⟩, fun token there => ?_⟩
      · have := (bounds _ there).1
        omega
      · rcases List.mem_cons.mp there with rfl | there
        · omega
        · have := (bounds token there).1
          exact ⟨by omega, (bounds token there).2⟩

theorem Entries.find?_add {es : Entries α} {other : StreamId} (e : Entry α) (hne : other ≠ e.stream) :
    Entries.find? (es ++ [e]) other = es.find? other := by
  have absent : ¬ e.stream = other := hne.symm
  simp [Entries.find?, List.find?_append, absent]

/-- An operation on one map leaves the other map and every other stream as they are. -/
theorem Registry.performOutbound_apart (g : Registry α β) (op : Entries.Operation α) :
    (g.performOutbound op).1.inbound = g.inbound ∧ ∀ other, other ≠ op.stream →
      (g.performOutbound op).1.outbound.find? other = g.outbound.find? other := by
  cases op with
  | register stream handle =>
    simp only [Registry.performOutbound, Registry.registerOutbound]
    split
    · exact ⟨rfl, fun _ _ => rfl⟩
    · exact ⟨rfl, fun other hne => Entries.find?_add _ hne⟩
  | remove stream =>
    simp only [Registry.performOutbound, Registry.removeOutbound]
    split
    · exact ⟨rfl, fun other hne => Entries.find?_erase hne.symm⟩
    · exact ⟨rfl, fun _ _ => rfl⟩
  | release stream token =>
    simp only [Registry.performOutbound, Registry.releaseOutbound]
    split
    · exact ⟨rfl, fun other hne => Entries.find?_erase hne.symm⟩
    · exact ⟨rfl, fun _ _ => rfl⟩
  | look stream => exact ⟨rfl, fun _ _ => rfl⟩

theorem Registry.performInbound_apart (g : Registry α β) (op : Entries.Operation β) :
    (g.performInbound op).1.outbound = g.outbound ∧ ∀ other, other ≠ op.stream →
      (g.performInbound op).1.inbound.find? other = g.inbound.find? other := by
  rw [← (g.swap_performOutbound op).1]
  exact g.swap.performOutbound_apart op

/-- What holds of a registry after any operations on it in any order. There is at most one entry for a
stream in each map, and the gauge counts the entries of both. All tokens that have been issued differ, and
lie below the number of attempts to register; so a counter that can count these does not run over. A
registration is refused just when its own map holds the stream, and then uses up a token and changes
nothing else. An operation on one map leaves the other map and every other stream as they are. -/
theorem Registry.sound_after (c : Canceller α β ω) (w : ω) (ops : List (Registry.Operation α β)) :
    let g := (Registry.after c ops (.empty, w)).1
    let registered := Registry.registered c ops (.empty, w)
    (g.outbound.map Entry.stream).Nodup ∧ (g.inbound.map Entry.stream).Nodup ∧
    g.active = g.outbound.length + g.inbound.length ∧
    registered.Nodup ∧
    (∀ token ∈ registered, token < ops.countP Registry.Operation.isRegistration) ∧
    (∀ stream handle e,
      ((g.registerOutbound stream handle).2 = .error e ↔
        e = .duplicateStream stream ∧ g.outbound.contains stream = true) ∧
      ((g.registerOutbound stream handle).2 = .error e →
        (g.registerOutbound stream handle).1 = { g with issued := g.issued + 1 })) ∧
    (∀ stream handle e,
      ((g.registerInbound stream handle).2 = .error e ↔
        e = .duplicateStream stream ∧ g.inbound.contains stream = true) ∧
      ((g.registerInbound stream handle).2 = .error e →
        (g.registerInbound stream handle).1 = { g with issued := g.issued + 1 })) ∧
    (∀ op, (g.performOutbound op).1.inbound = g.inbound ∧ ∀ other, other ≠ op.stream →
      (g.performOutbound op).1.outbound.find? other = g.outbound.find? other) ∧
    (∀ op, (g.performInbound op).1.outbound = g.outbound ∧ ∀ other, other ≠ op.stream →
      (g.performInbound op).1.inbound.find? other = g.inbound.find? other) := by
  intro g registered
  have sound : g.Sound := (Registry.after_evolves c ops (.empty, w)).sound Registry.sound_empty
  obtain ⟨nodup, bounds⟩ := Registry.registered_fresh c ops (.empty, w)
  have attempts : g.issued = 0 + ops.countP Registry.Operation.isRegistration :=
    Registry.issued_after c ops (.empty, w)
  refine ⟨sound.outbound, sound.inbound, ?_, nodup, fun token there => ?_, fun stream handle e => ?_,
    fun stream handle e => ?_, g.performOutbound_apart, g.performInbound_apart⟩
  · rw [sound.active, Registry.size, Int.natCast_add]
  · have below : token < g.issued := (bounds token there).2
    omega
  · exact ⟨g.registerOutbound_error_iff stream handle e, Registry.registerOutbound_refused⟩
  · exact ⟨g.registerInbound_error_iff stream handle e, Registry.registerInbound_refused⟩

/-- A stream is registered in both maps, refused, released with a token of the other map and with its own,
and used again before all is cancelled. -/
theorem Registry.reused_stream_sound_after :
    let c : Canceller Nat Nat Unit := ⟨fun _ w => (w, none), fun _ w => (w, none)⟩
    let ops : List (Registry.Operation Nat Nat) := [.outbound (.register (.ofNat 1) 10),
      .inbound (.register (.ofNat 1) 20), .outbound (.register (.ofNat 1) 11),
      .outbound (.release (.ofNat 1) 1), .outbound (.release (.ofNat 1) 0),
      .outbound (.register (.ofNat 1) 12)]
    let g := (Registry.after c ops (.empty, ())).1
    Registry.registered c ops (.empty, ()) = [0, 1, 3] ∧ [0, 1, 3].Nodup ∧ g.active = 2 ∧
      (g.registerOutbound (.ofNat 1) 13).1 = { g with issued := 5 } ∧
      (Registry.after c (ops ++ [.cancelAll]) (.empty, ())).1.active = 0 := by
  intro c ops g
  have registered : Registry.registered c ops (.empty, ()) = [0, 1, 3] := by decide
  obtain ⟨_, _, active, nodup, _, refused, _⟩ := Registry.sound_after c () ops
  have drained := (Registry.sound_after c () (ops ++ [.cancelAll])).2.2.1
  exact ⟨registered, registered ▸ nodup, active.trans (by decide),
    (refused (.ofNat 1) 13 (.duplicateStream (.ofNat 1))).2 (by decide), drained.trans (by decide)⟩

end Multiplexer
