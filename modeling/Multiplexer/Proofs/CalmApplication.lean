import Mathlib.Logic.Function.Basic
import Multiplexer.Proofs.ChannelCourses

/-!
Applications without panics. Every application has a calm twin, which answers with an error wherever the
application panics; what a responder does with either is the same but for the log.
-/

namespace Multiplexer

variable {ω ρ σ : Type} {r : Responder}

/-- Passes on the answer of a dialogue in another form. -/
def Dialogue.map (g : ρ → σ) : Dialogue ρ → Dialogue σ
  | .answer x => .answer (g x)
  | .read n next => .read n fun reply => (next reply).map g
  | .request n demand next => .request n demand (next.map g)
  | .drop n next => .drop n (next.map g)
  | .keep n next => .keep n (next.map g)
  | .inspect n next => .inspect n fun reply => (next reply).map g

theorem Dialogue.run_map (g : ρ → σ) (d : Dialogue ρ) (r : Responder) :
    (d.map g).run r = ((d.run r).1, g (d.run r).2) := by
  induction d generalizing r with
  | answer x => rfl
  | read n next ih => exact ih _ _
  | request n demand next ih => exact ih _
  | drop n next ih => exact ih _
  | keep n next ih => exact ih _
  | inspect n next ih => exact ih _ _

/-- Drops channel `m` before a panic, unless it has been taken out of its response stream. -/
def Dialogue.tidy (m : Nat) : Bool → Dialogue (Option Panic × ω) → Dialogue (Option Panic × ω)
  | _, .answer (none, w) => .answer (none, w)
  | true, .answer (some p, w) => .answer (some p, w)
  | false, .answer (some p, w) => .drop m (.answer (some p, w))
  | kept, .read n next => .read n fun reply => (next reply).tidy m kept
  | kept, .request n demand next => .request n demand (next.tidy m kept)
  | kept, .drop n next => .drop n (next.tidy m kept)
  | kept, .keep n next => .keep n (next.tidy m (kept || n = m))
  | kept, .inspect n next => .inspect n fun reply => (next reply).tidy m kept

/-- Answers with an error instead of a panic. -/
def Poll.calm {α : Type} (fail : HandlerError → α) : Poll α → Poll α
  | .ready x => .ready x
  | .pending => .pending
  | .panicked p => .ready (fail (.panicked p.message))

/-- The errors of the calls that have panicked, by task. -/
abbrev Memory := Nat → Option HandlerError

def Memory.none : Memory := fun _ => .none

/-- Remembers the panic of a call, if there is one, for the task that is to report it. -/
def Memory.remember (memory : Memory) (n : Nat) (panic : Option Panic) : Memory :=
  Function.update memory n (panic.map fun p => .panicked p.message)

/-- The calm twin of an application. A response stream whose call has panicked begins with the error. -/
def Application.calm (app : Application ω) : Application (ω × Memory) where
  start kind n p w := (app.start kind n p w.1, w.2)
  poll n w := (app.poll n w.1).map fun x => (x.1.calm .error, (x.2, w.2))
  openStream n p w :=
    (app.openStream n p w.1).map fun x => (none, (x.2, w.2.remember n x.1))
  openChannel n stream m w :=
    ((app.openChannel n stream m w.1).tidy m false).map fun x => (none, (x.2, w.2.remember n x.1))
  pull n w :=
    match w.2 n with
    | some e => .answer (.ready (some (.error e)), w)
    | none => (app.pull n w.1).map fun x => (x.1.calm fun e => some (.error e), (x.2, w.2))
  drop n w := (app.drop n w.1).map fun x => (x, w.2)
  dispose w := (app.dispose w.1).map fun x => (none, (x.2, w.2))

/-- No code of the application panics, whatever the state of the responder. -/
structure Application.Calm (app : Application ω) : Prop where
  poll : ∀ n w r p, ((app.poll n w).run r).2.1 ≠ .panicked p
  openStream : ∀ n q w r, ((app.openStream n q w).run r).2.1 = none
  openChannel : ∀ n stream m w r, ((app.openChannel n stream m w).run r).2.1 = none
  pull : ∀ n w r p, ((app.pull n w).run r).2.1 ≠ .panicked p
  dispose : ∀ w r, ((app.dispose w).run r).2.1 = none

theorem Poll.calm_ne_panicked {α : Type} (fail : HandlerError → α) (x : Poll α) (p : Panic) :
    x.calm fail ≠ .panicked p := by
  cases x <;> exact nofun

theorem Application.calm_calm (app : Application ω) : app.calm.Calm := by
  refine ⟨?_, ?_, ?_, ?_, ?_⟩
  · intro n w r p
    simp only [Application.calm, Dialogue.run_map]
    exact Poll.calm_ne_panicked _ _ p
  · intro n q w r
    simp only [Application.calm, Dialogue.run_map]
  · intro n stream m w r
    simp only [Application.calm, Dialogue.run_map]
  · intro n w r p
    simp only [Application.calm]
    split
    · exact nofun
    · simp only [Dialogue.run_map]
      exact Poll.calm_ne_panicked _ _ p
  · intro w r
    simp only [Application.calm, Dialogue.run_map]

/-- Channel `m` is still with its response stream or with nobody, unless it has been taken out. -/
def Responder.Entrusts (m : Nat) (kept : Bool) (r : Responder) : Prop :=
  ∀ c, r.channels[m]? = some c → c.holder ≠ if kept then .stream else .application

variable {m n : Nat} {kept : Bool} {r' : Responder}

theorem Responder.Changes.entrusts {c : Channel} {step : ChannelStep} {xs : List Item}
    (changes : Responder.Changes n c step xs r r') (h : Responder.Entrusts m kept r)
    (holder : step.channel.holder = c.holder ∨ step.channel.holder = .nobody) :
    Responder.Entrusts m kept r' := by
  obtain ⟨registry, allowance, _, _, rfl⟩ := changes.rest
  intro d hd
  by_cases same : n = m
  · subst same
    rw [List.getElem?_set_self (List.getElem?_eq_some_iff.mp changes.held).1] at hd
    cases hd
    rcases holder with as_before | gone
    · rw [as_before]
      exact h c changes.held
    · rw [gone]
      split <;> exact nofun
  · rw [List.getElem?_set_ne same] at hd
    exact h d hd

theorem Responder.Entrusts.read (h : Responder.Entrusts m kept r) (n : Nat) :
    Responder.Entrusts m kept (r.readChannel n).1 := by
  unfold Responder.readChannel
  split
  next c held =>
    have there := Responder.channel_of_held held
    split
    · have asked := c.requestFirst_speaks.changes (r := r.putOff) there
      rw [List.map_nil, List.append_nil] at asked
      exact asked.paced.entrusts h (.inl c.requestFirst_flags.2.2)
    · exact (Responder.pollChannel_changes there).entrusts h (.inl c.poll_flags.2.2)
  next => exact h

theorem Responder.Entrusts.request (h : Responder.Entrusts m kept r) (n : Nat) (demand : UInt32) :
    Responder.Entrusts m kept (r.requestOnChannel n demand) := by
  unfold Responder.requestOnChannel
  split
  next c held =>
    have asked := (c.request_speaks demand).changes (Responder.channel_of_held held)
    rw [List.map_nil, List.append_nil] at asked
    exact asked.entrusts h (.inl (c.request_flags demand).2.2)
  next => exact h

theorem Responder.Entrusts.drop (h : Responder.Entrusts m kept r) (n : Nat) :
    Responder.Entrusts m kept (r.dropChannel n) := by
  unfold Responder.dropChannel
  split
  next c held =>
    have dropped := c.drop_speaks.changes (Responder.channel_of_held held)
    rw [List.map_nil, List.append_nil] at dropped
    exact dropped.entrusts h (.inr rfl)
  next => exact h

theorem Responder.Entrusts.keep (h : Responder.Entrusts m kept r) (n : Nat) :
    Responder.Entrusts m (kept || n = m) (r.keepChannel n) := by
  unfold Responder.keepChannel
  split
  next c held =>
    have there := Responder.channel_of_held held
    intro d hd
    by_cases same : n = m
    · subst same
      rw [List.getElem?_set_self (List.getElem?_eq_some_iff.mp there).1] at hd
      cases hd
      simp
    · rw [List.getElem?_set_ne same] at hd
      simpa [same] using h d hd
  next nobody =>
    intro c hc
    by_cases same : n = m
    · subst same
      -- a channel that nobody holds is not with its response stream either
      have gone : c.holder = .nobody := by simpa [Responder.held?, hc] using nobody
      simp [gone]
    · simpa [same] using h c hc

theorem Responder.Entrusts.dropOwnChannel (h : Responder.Entrusts m kept r) :
    r.dropOwnChannel (some m) = if kept then r else r.dropChannel m := by
  have elsewhere (other : (r.channels[m]?.map Channel.holder) ≠ some .stream) :
      r.dropOwnChannel (some m) = r := if_neg other
  cases kept with
  | true =>
    refine elsewhere fun own => ?_
    obtain ⟨c, hc, holder⟩ := Option.map_eq_some_iff.mp own
    exact h c hc holder
  | false =>
    by_cases own : (r.channels[m]?.map Channel.holder) = some .stream
    · exact if_pos own
    · rw [elsewhere own, if_neg Bool.false_ne_true, Responder.dropChannel]
      have nobody : r.held? m = none := by
        refine Option.filter_eq_none_iff.mpr fun c hc => ?_
        have other : c.holder ≠ .application := h c hc
        have unheld : c.holder ≠ .stream := fun holder => own (by rw [hc, Option.map_some, holder])
        cases holder : c.holder <;> simp_all
      rw [nobody]

/-- A tidied call does what the responder does after the call when it has panicked. -/
theorem Dialogue.run_tidy (d : Dialogue (Option Panic × ω)) (h : Responder.Entrusts m kept r) :
    (d.tidy m kept).run r =
      ((if (d.run r).2.1.isSome then (d.run r).1.dropOwnChannel (some m) else (d.run r).1),
        (d.run r).2) := by
  induction d generalizing kept r with
  | answer x =>
    obtain ⟨panic, w⟩ := x
    cases panic with
    | none => cases kept <;> rfl
    | some p =>
      have tidied := h.dropOwnChannel
      cases kept <;> simp only [Dialogue.tidy, Dialogue.run, tidied] <;> rfl
  | read n next ih => exact ih _ (h.read n)
  | request n demand next ih => exact ih (h.request n demand)
  | drop n next ih => exact ih (h.drop n)
  | keep n next ih => exact ih (h.keep n)
  | inspect n next ih => exact ih _ h

end Multiplexer
