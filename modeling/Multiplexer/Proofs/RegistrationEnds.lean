import Multiplexer.Proofs.RegistryRuns

/-!
The end of a registration. What has been registered is registered still or has been taken out by one
operation: a removal, a release with its own token, or a bulk cancellation. A bulk cancellation takes out
all there is and cancels it, each entry once, whichever of the cancellations panic.
-/

namespace Multiplexer

variable {α β ω : Type}

/-- An entry of either map. -/
abbrev Registry.Registration (α β : Type) := Entry α ⊕ Entry β

def Registry.Registration.stream : Registry.Registration α β → StreamId :=
  Sum.elim Entry.stream Entry.stream

def Registry.Registration.token : Registry.Registration α β → Nat :=
  Sum.elim Entry.token Entry.token

/-- What is registered, operations first. -/
def Registry.registrations (g : Registry α β) : List (Registry.Registration α β) :=
  g.outbound.map .inl ++ g.inbound.map .inr

/-- The entry that an operation makes, as its answer says. -/
def Entries.Operation.makes : Entries.Operation α → Entries.Answer α → Entries α
  | .register stream handle, .registered (.ok token) => [⟨stream, token, handle⟩]
  | _, _ => []

/-- What an operation takes out of a map, as its answer says. -/
def Entries.takes (es : Entries α) : Entries.Operation α → Entries.Answer α → Entries α
  | .remove stream, .removed (some _) => List.filter (fun e => e.stream = stream) es
  | .release stream token, .released true =>
    List.filter (fun e => e.stream = stream ∧ e.token = token) es
  | _, _ => []

def Registry.makes (g : Registry α β) : Registry.Operation α β → List (Registry.Registration α β)
  | .outbound op => (op.makes (g.performOutbound op).2).map .inl
  | .inbound op => (op.makes (g.performInbound op).2).map .inr
  | .cancelAll => []

def Registry.takes (g : Registry α β) : Registry.Operation α β → List (Registry.Registration α β)
  | .outbound op => (g.outbound.takes op (g.performOutbound op).2).map .inl
  | .inbound op => (g.inbound.takes op (g.performInbound op).2).map .inr
  | .cancelAll => g.registrations

/-- All that is registered in a list of operations. -/
def Registry.made (c : Canceller α β ω) :
    List (Registry.Operation α β) → Registry α β × ω → List (Registry.Registration α β)
  | [], _ => []
  | op :: ops, s => s.1.makes op ++ made c ops (Registry.perform c s op)

/-- All that is taken out in a list of operations, once for each operation that takes it out. -/
def Registry.taken (c : Canceller α β ω) :
    List (Registry.Operation α β) → Registry α β × ω → List (Registry.Registration α β)
  | [], _ => []
  | op :: ops, s => s.1.takes op ++ taken c ops (Registry.perform c s op)

/-- Cancels what is registered. -/
def Canceller.cancel (c : Canceller α β ω) : Registry.Registration α β → ω → ω × Option Panic
  | .inl e => c.operation e.handle
  | .inr e => c.channel e.handle

/-- The world after a list of registrations has been cancelled, each once and in turn. -/
def Canceller.world (c : Canceller α β ω) (es : List (Registry.Registration α β)) (w : ω) : ω :=
  es.foldl (fun w e => (c.cancel e w).1) w

/-- One failure for each registration whose cancellation panics after all before it. -/
def Canceller.failures (c : Canceller α β ω) (es : List (Registry.Registration α β)) (w : ω) :
    List Failure :=
  es.zipIdx.filterMap fun (e, i) =>
    (c.cancel e (c.world (es.take i) w)).2.map fun panic => .cancellation e.stream panic.message

/-- A bulk cancellation empties both maps and cancels all that was there, operations first. -/
structure Registry.Drains (c : Canceller α β ω) (g : Registry α β) (w : ω) (d : Drained α β ω) :
    Prop where
  outbound : d.registry.outbound = []
  inbound : d.registry.inbound = []
  count : d.count = g.outbound.length + g.inbound.length
  active : d.registry.active = g.active - d.count
  world : d.world = c.world g.registrations w
  failures : d.failures = c.failures g.registrations w

variable {c : Canceller α β ω} {g : Registry α β} {s : Registry α β × ω} {stream : StreamId}

/-- An operation on a map makes and takes out just what the map gains and loses. -/
theorem Registry.performOutbound_perm (op : Entries.Operation α)
    (nodup : (g.outbound.map Entry.stream).Nodup) :
    (op.makes (g.performOutbound op).2 ++ g.outbound).Perm
      (g.outbound.takes op (g.performOutbound op).2 ++ (g.performOutbound op).1.outbound) := by
  have parts (stream : StreamId) : g.outbound.Perm
      (List.filter (fun e => e.stream = stream) g.outbound ++ g.outbound.erase stream) := by
    have both := List.filter_append_perm (fun e : Entry α => decide (e.stream = stream)) g.outbound
    simpa only [Entries.erase, ne_eq, decide_not] using both.symm
  cases op with
  | register stream handle =>
    simp only [Registry.performOutbound, Registry.registerOutbound]
    split
    · exact .refl _
    · exact List.perm_append_comm
  | remove stream =>
    simp only [Registry.performOutbound, Registry.removeOutbound]
    split
    · exact parts stream
    · exact .refl _
  | release stream token =>
    simp only [Registry.performOutbound, Registry.releaseOutbound]
    split
    next holds =>
      obtain ⟨e, there, rfl, rfl⟩ := (Entries.holds_iff nodup).mp holds
      -- No other entry is under the stream, so that the token selects nothing further.
      have same : List.filter (fun f => f.stream = e.stream ∧ f.token = e.token) g.outbound =
          List.filter (fun f => f.stream = e.stream) g.outbound := by
        refine List.filter_congr fun f found => ?_
        rw [decide_eq_decide]
        exact and_iff_left_of_imp fun on => by rw [Entries.eq_of_stream nodup found there on]
      show g.outbound.Perm (List.filter _ g.outbound ++ g.outbound.erase e.stream)
      rw [same]
      exact parts e.stream
    next => exact .refl _
  | look stream => exact .refl _

theorem Registry.performInbound_perm (op : Entries.Operation β)
    (nodup : (g.inbound.map Entry.stream).Nodup) :
    (op.makes (g.performInbound op).2 ++ g.inbound).Perm
      (g.inbound.takes op (g.performInbound op).2 ++ (g.performInbound op).1.inbound) := by
  obtain ⟨same, answer⟩ := g.swap_performOutbound op
  rw [← same, ← answer]
  exact g.swap.performOutbound_perm op nodup

/-- What is made adds to what is registered, and what is taken out is missing from it. -/
theorem Registry.perform_perm (sound : s.1.Sound) (op : Registry.Operation α β) :
    (s.1.makes op ++ s.1.registrations).Perm
      (s.1.takes op ++ (Registry.perform c s op).1.registrations) := by
  cases op with
  | outbound op =>
    have moved := (Registry.performOutbound_perm op sound.outbound).map
      (Sum.inl : Entry α → Registry.Registration α β)
    rw [List.map_append, List.map_append] at moved
    have apart : (s.1.performOutbound op).1.inbound = s.1.inbound := (s.1.performOutbound_apart op).1
    simp only [Registry.makes, Registry.takes, Registry.registrations, Registry.perform, apart]
    rw [← List.append_assoc, ← List.append_assoc]
    exact moved.append_right _
  | inbound op =>
    have moved := (Registry.performInbound_perm op sound.inbound).map
      (Sum.inr : Entry β → Registry.Registration α β)
    rw [List.map_append, List.map_append] at moved
    have apart : (s.1.performInbound op).1.outbound = s.1.outbound := (s.1.performInbound_apart op).1
    simp only [Registry.makes, Registry.takes, Registry.registrations, Registry.perform, apart]
    refine (List.perm_append_comm_assoc _ _ _).trans ?_
    exact (moved.append_left _).trans (List.perm_append_comm_assoc _ _ _)
  | cancelAll => exact (List.append_nil s.1.registrations).symm ▸ .refl _

/-- Over a run, what has been registered is what has been taken out and what is registered still. -/
theorem Registry.made_perm (ops : List (Registry.Operation α β)) (sound : s.1.Sound) :
    (Registry.made c ops s ++ s.1.registrations).Perm
      (Registry.taken c ops s ++ (Registry.after c ops s).1.registrations) := by
  induction ops generalizing s with
  | nil => exact .refl _
  | cons op ops ih =>
    have step : (s.1.makes op ++ s.1.registrations).Perm
        (s.1.takes op ++ (Registry.perform c s op).1.registrations) := Registry.perform_perm sound op
    have rest := ih ((Registry.perform_evolves c s op).sound sound)
    rw [Registry.made, Registry.taken, List.append_assoc, List.append_assoc]
    calc (s.1.makes op ++ (Registry.made c ops (Registry.perform c s op) ++ s.1.registrations)).Perm
          (Registry.made c ops (Registry.perform c s op) ++ (s.1.makes op ++ s.1.registrations)) :=
        List.perm_append_comm_assoc _ _ _
      List.Perm _ (Registry.made c ops (Registry.perform c s op) ++
          (s.1.takes op ++ (Registry.perform c s op).1.registrations)) := step.append_left _
      List.Perm _ (s.1.takes op ++ (Registry.made c ops (Registry.perform c s op) ++
          (Registry.perform c s op).1.registrations)) := List.perm_append_comm_assoc _ _ _
      List.Perm _ (s.1.takes op ++ (Registry.taken c ops (Registry.perform c s op) ++
          (Registry.after c ops (Registry.perform c s op)).1.registrations)) := rest.append_left _

theorem Registry.map_token_makesOutbound (g : Registry α β) (op : Entries.Operation α) :
    (op.makes (g.performOutbound op).2).map Entry.token = (g.performOutbound op).2.token?.toList := by
  cases op with
  | register stream handle =>
    simp only [Registry.performOutbound]
    cases (g.registerOutbound stream handle).2 <;> rfl
  | _ => rfl

theorem Registry.map_token_makes (g : Registry α β) (op : Registry.Operation α β) :
    (g.makes op).map Registry.Registration.token = g.issues op := by
  cases op with
  | outbound op =>
    rw [Registry.issues, ← g.map_token_makesOutbound op, Registry.makes, List.map_map]
    rfl
  | inbound op =>
    have tokens := g.swap.map_token_makesOutbound op
    rw [(g.swap_performOutbound op).2] at tokens
    rw [Registry.issues, ← tokens, Registry.makes, List.map_map]
    rfl
  | cancelAll => rfl

/-- What is registered in a run bears the tokens that are issued in it. -/
theorem Registry.map_token_made (c : Canceller α β ω) (ops : List (Registry.Operation α β))
    (s : Registry α β × ω) :
    (Registry.made c ops s).map Registry.Registration.token = Registry.registered c ops s := by
  induction ops generalizing s with
  | nil => rfl
  | cons op ops ih =>
    rw [Registry.made, Registry.registered, List.map_append, ih, Registry.map_token_makes]

theorem Entries.holds_iff_find? {es : Entries α} {token : Nat} :
    es.holds stream token = true ↔ ∃ e, es.find? stream = some e ∧ e.token = token := by
  unfold Entries.holds
  cases es.find? stream <;> simp

/-- A release takes out the entry of its stream if that one bears its token, and otherwise does nothing. -/
theorem Registry.releaseOutbound_true_iff (g : Registry α β) (stream : StreamId) (token : Nat) :
    ((g.releaseOutbound stream token).2 = true ↔
      ∃ e, g.outbound.find? stream = some e ∧ e.token = token) ∧
    ((g.releaseOutbound stream token).2 = false → (g.releaseOutbound stream token).1 = g) := by
  rw [← Entries.holds_iff_find?, Registry.releaseOutbound]
  split
  next holds => simp [holds]
  next stale => simp [stale]

theorem Registry.releaseInbound_true_iff (g : Registry α β) (stream : StreamId) (token : Nat) :
    ((g.releaseInbound stream token).2 = true ↔
      ∃ e, g.inbound.find? stream = some e ∧ e.token = token) ∧
    ((g.releaseInbound stream token).2 = false → (g.releaseInbound stream token).1 = g) := by
  rw [← Entries.holds_iff_find?, Registry.releaseInbound]
  split
  next holds => simp [holds]
  next stale => simp [stale]

theorem Canceller.failures_cons (c : Canceller α β ω) (e : Registry.Registration α β)
    (es : List (Registry.Registration α β)) (w : ω) :
    c.failures (e :: es) w =
      ((c.cancel e w).2.map fun panic => .cancellation e.stream panic.message).toList ++
        c.failures es (c.cancel e w).1 := by
  have later : (es.zipIdx 1).filterMap (fun (f, i) =>
      (c.cancel f (c.world ((e :: es).take i) w)).2.map fun panic =>
        Failure.cancellation f.stream panic.message) = c.failures es (c.cancel e w).1 := by
    rw [List.zipIdx_succ, List.filterMap_map]
    rfl
  rw [Canceller.failures, List.zipIdx_cons, List.filterMap_cons]
  have first : c.world ((e :: es).take 0) w = w := rfl
  simp only [first]
  cases (c.cancel e w).2 with
  | none => exact later
  | some panic => exact congrArg _ later

theorem Canceller.world_append (c : Canceller α β ω) (es fs : List (Registry.Registration α β))
    (w : ω) : c.world (es ++ fs) w = c.world fs (c.world es w) :=
  List.foldl_append

theorem Canceller.failures_append (c : Canceller α β ω) (es fs : List (Registry.Registration α β))
    (w : ω) : c.failures (es ++ fs) w = c.failures es w ++ c.failures fs (c.world es w) := by
  induction es generalizing w with
  | nil => rfl
  | cons e es ih =>
    rw [List.cons_append, c.failures_cons, c.failures_cons, ih, List.append_assoc]
    rfl

/-- The entries of one map are cancelled in turn, and a panic stops none of them. -/
theorem Entries.cancelAll_eq {γ : Type} {cancel : γ → ω → ω × Option Panic} (es : Entries γ)
    (side : Entry γ → Registry.Registration α β) (cancels : ∀ e, c.cancel (side e) = cancel e.handle)
    (streams : ∀ e, (side e).stream = e.stream) (w : ω) :
    es.cancelAll cancel w = (c.world (es.map side) w, c.failures (es.map side) w) := by
  induction es generalizing w with
  | nil => rfl
  | cons e es ih =>
    have world : c.world (side e :: es.map side) w = c.world (es.map side) (cancel e.handle w).1 := by
      rw [← cancels]
      rfl
    rw [Entries.cancelAll, List.map_cons, c.failures_cons, streams, cancels, world]
    cases cancel e.handle w with
    | mk w' panic =>
      simp only [ih]
      cases panic <;> rfl

theorem Registry.cancelAll_drains (c : Canceller α β ω) (g : Registry α β) (w : ω) :
    g.Drains c w (g.cancelAll c w) := by
  have operations := g.outbound.cancelAll_eq (c := c) Sum.inl (fun _ => rfl) (fun _ => rfl)
  have channels := g.inbound.cancelAll_eq (c := c) Sum.inr (fun _ => rfl) (fun _ => rfl)
  refine ⟨rfl, rfl, rfl, rfl, ?_, ?_⟩
  · simp only [Registry.cancelAll, Registry.drain, operations, channels]
    exact (c.world_append _ _ w).symm
  · simp only [Registry.cancelAll, Registry.drain, operations, channels]
    exact (c.failures_append _ _ w).symm

/-- Every registration ends once. After any operations in any order, what has been registered is what has
been taken out and what is registered still, and no token is there twice: no two operations have taken out
the same registration, and none that is registered still. A release takes something out just when the
entry of its stream is the one that issued its token, and otherwise changes nothing. A bulk cancellation
takes out all there is, and cancels and reports on each of it once. -/
theorem Registry.registrations_end_once (c : Canceller α β ω) (w : ω)
    (ops : List (Registry.Operation α β)) :
    let s := Registry.after c ops (.empty, w)
    let made := Registry.made c ops (.empty, w)
    let taken := Registry.taken c ops (.empty, w)
    made.Perm (taken ++ s.1.registrations) ∧
    ((taken ++ s.1.registrations).map Registry.Registration.token).Nodup ∧
    (∀ stream token,
      ((s.1.releaseOutbound stream token).2 = true ↔
        ∃ e, s.1.outbound.find? stream = some e ∧ e.token = token) ∧
      ((s.1.releaseOutbound stream token).2 = false → (s.1.releaseOutbound stream token).1 = s.1)) ∧
    (∀ stream token,
      ((s.1.releaseInbound stream token).2 = true ↔
        ∃ e, s.1.inbound.find? stream = some e ∧ e.token = token) ∧
      ((s.1.releaseInbound stream token).2 = false → (s.1.releaseInbound stream token).1 = s.1)) ∧
    s.1.Drains c s.2 (s.1.cancelAll c s.2) := by
  intro s made taken
  have account : made.Perm (taken ++ s.1.registrations) := by
    have perm := Registry.made_perm (c := c) (s := (.empty, w)) ops Registry.sound_empty
    rwa [show (Registry.empty : Registry α β).registrations = [] from rfl, List.append_nil] at perm
  refine ⟨account, ?_, s.1.releaseOutbound_true_iff, s.1.releaseInbound_true_iff,
    s.1.cancelAll_drains c s.2⟩
  refine (account.map Registry.Registration.token).nodup ?_
  rw [Registry.map_token_made]
  exact (Registry.registered_fresh c ops (.empty, w)).1

/-- Handles that log their cancellation, of which those of operations with an odd number then panic. -/
def Canceller.logging : Canceller Nat Nat (List Nat) where
  operation handle log := (log ++ [handle], if handle % 2 = 1 then some (.text "cancel exploded") else none)
  channel handle log := (log ++ [handle], none)

/-- A stream is taken out and used again, so that the first token is stale, and a channel has the stream as
well. The bulk cancellation goes on past the operations that panic, and the next one finds nothing. -/
theorem Registry.reused_stream_ends_once :
    let ops : List (Registry.Operation Nat Nat) := [.outbound (.register (.ofNat 1) 10),
      .outbound (.remove (.ofNat 1)), .outbound (.register (.ofNat 1) 11),
      .outbound (.register (.ofNat 1) 12), .inbound (.register (.ofNat 1) 20),
      .outbound (.register (.ofNat 3) 13), .outbound (.release (.ofNat 1) 0)]
    let s := Registry.after .logging ops (.empty, [])
    let taken := Registry.taken .logging ops (.empty, [])
    taken = [.inl ⟨.ofNat 1, 0, 10⟩] ∧ (s.1.releaseOutbound (.ofNat 1) 0).1 = s.1 ∧
    (s.1.cancelAll .logging s.2).count = 3 ∧ (s.1.cancelAll .logging s.2).world = [11, 13, 20] ∧
    (s.1.cancelAll .logging s.2).failures =
      [.cancellation (.ofNat 1) "cancel exploded", .cancellation (.ofNat 3) "cancel exploded"] ∧
    ((taken ++ s.1.registrations).map Registry.Registration.token).Nodup ∧
    Registry.taken .logging (ops ++ [.cancelAll, .cancelAll]) (.empty, []) =
      taken ++ s.1.registrations := by
  intro ops s taken
  obtain ⟨_, nodup, stale, _, drains⟩ := Registry.registrations_end_once .logging [] ops
  refine ⟨by decide, (stale (.ofNat 1) 0).2 (by decide), drains.count.trans (by decide),
    drains.world.trans (by decide), drains.failures.trans (by decide), nodup, by decide⟩

end Multiplexer
