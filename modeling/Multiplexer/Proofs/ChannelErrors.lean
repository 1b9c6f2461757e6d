import Multiplexer.Proofs.ChannelCourses

/-!
Errors of channels: a channel yields one error at most, which ends it, and answers the peer for each
error that it yields. No other part of a responder speaks for a channel.
-/

namespace Multiplexer

variable {r r' r'' : Responder} {m n : Nat}

/-- Channel `m` has answered each error that it has yielded, of which there is one at most. -/
def Responder.Answered (m : Nat) (r : Responder) : Prop :=
  match r.channels[m]? with
  | none => errorsOf (yieldedBy m r.history) = [] ∧ errorFrames (.channel m) r.history = []
  | some c =>
    errorFrames (.channel m) r.history =
        (errorsOf (yieldedBy m r.history)).map (inboundAnswer c.stream) ∧
      (errorsOf (yieldedBy m r.history)).length ≤ c.terminated.toNat

/-- What may become of channel `m`. -/
structure Responder.Hears (m : Nat) (r r' : Responder) : Prop where
  answered : r.Answered m → r'.Answered m
  stays : ∀ c, r.channels[m]? = some c → ∃ c', r'.channels[m]? = some c' ∧ c'.stream = c.stream

theorem Responder.Hears.refl (m : Nat) (r : Responder) : r.Hears m r :=
  ⟨id, fun c hc => ⟨c, hc, rfl⟩⟩

theorem Responder.Hears.trans (h : Responder.Hears m r r') (h' : Responder.Hears m r' r'') :
    Responder.Hears m r r'' := by
  refine ⟨fun answered => h'.answered (h.answered answered), fun c hc => ?_⟩
  obtain ⟨c', hc', stream⟩ := h.stays c hc
  obtain ⟨c'', hc'', stream'⟩ := h'.stays c' hc'
  exact ⟨c'', hc'', stream'.trans stream⟩

/-- What is told of other channels only changes nothing, whatever course this one takes. -/
theorem Responder.Hears.tell {events : List Event} (hosts : r.Hosts r')
    (history : r'.history = r.history ++ events) (other : ∀ e ∈ events, e.channel? ≠ some m) :
    Responder.Hears m r r' := by
  have yields : yieldedBy m r'.history = yieldedBy m r.history := by
    rw [history, yieldedBy_append, yieldedBy_eq_nil other, List.append_nil]
  have frames : errorFrames (.channel m) r'.history = errorFrames (.channel m) r.history := by
    rw [errorFrames, history, framesOf_append, framesOf_channel_eq_nil other, List.append_nil]
    rfl
  refine ⟨fun answered => ?_, fun c hc => ?_⟩
  · rw [Responder.Answered] at answered ⊢
    rw [yields, frames]
    cases known : r.channels[m]? with
    | none =>
      rw [known] at answered
      obtain ⟨unyielded, unsent⟩ := answered
      -- nothing has been said yet for a channel that is new
      split
      · exact ⟨unyielded, unsent⟩
      · simp [unyielded, unsent]
    | some c =>
      rw [known] at answered
      obtain ⟨answers, once⟩ := answered
      obtain ⟨c', here, course⟩ := hosts.old m c known
      rw [here]
      have stays : c.terminated.toNat ≤ c'.terminated.toNat := by
        cases terminated : c.terminated with
        | false => exact Nat.zero_le _
        | true => exact Nat.le_of_eq (by rw [course.flags.1 terminated])
      exact ⟨course.origin.1 ▸ answers, Nat.le_trans once stays⟩
  · obtain ⟨c', here, course⟩ := hosts.old m c hc
    exact ⟨c', here, course.origin.1⟩

theorem Channel.Speaks.hears {c : Channel} {step : ChannelStep} {xs : List Item}
    (speaks : c.Speaks step xs) (held : r.channels[m]? = some c)
    (here : r'.channels[m]? = some step.channel)
    (history : r'.history = r.history ++ step.events m xs) : Responder.Hears m r r' := by
  refine ⟨fun answered => ?_, fun c' hc' => ⟨_, here, ?_⟩⟩
  · rw [Responder.Answered, held] at answered
    obtain ⟨frames, once⟩ := answered
    have yields : errorsOf (yieldedBy m r'.history) =
        errorsOf (yieldedBy m r.history) ++ errorsOf xs := by
      rw [history, yieldedBy_append, ChannelStep.yieldedBy_events, errorsOf_append]
    have answers : errorFrames (.channel m) r'.history = errorFrames (.channel m) r.history ++
        (errorsOf xs).map (inboundAnswer c.stream) := by
      rw [history, errorFrames_append, ← speaks.answered, errorFrames, errorFrames,
        ChannelStep.framesOf_events]
    have limit := speaks.once
    rw [Responder.Answered, here]
    dsimp only
    rw [answers, yields, frames, speaks.stream, List.map_append, List.length_append]
    exact ⟨rfl, by omega⟩
  · cases held.symm.trans hc'
    exact speaks.stream

theorem Responder.ChannelMove.hears (move : r.ChannelMove r') (m : Nat) :
    Responder.Hears m r r' := by
  have hosts := move.hosts
  obtain rfl | ⟨n, c, step, xs, changes⟩ := move.changes
  · exact .refl m r'
  · obtain ⟨registry, allowance, _, _, rfl⟩ := changes.rest
    have bound : n < r.channels.length := (List.getElem?_eq_some_iff.mp changes.held).1
    by_cases own : n = m
    · subst own
      exact changes.speaks.hears changes.held (List.getElem?_set_self bound) rfl
    · refine .tell hosts rfl fun e he => ?_
      rw [(ChannelStep.channel_events he).1]
      exact fun eq => own (Option.some.inj eq)

theorem Responder.Moves.hears {allowed : Label → Prop} (moves : r.Moves allowed r') (m : Nat) :
    Responder.Hears m r r' := by
  refine Responder.Moves.tells (R := Responder.Hears m) Responder.Hears.trans ?_ ?_ moves
  · exact fun move => move.hears m
  · intro r r' events hosts history elsewhere
    exact .tell hosts history fun e he => by rw [elsewhere e he]; exact nofun

end Multiplexer
