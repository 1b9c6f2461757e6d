import Multiplexer.Responder.Run

/-!
Controls under cancellation and credit: one control at most changes, each keeps its kind, and only
cancellation cancels.
-/

namespace Multiplexer

/-- The application has brought the control along. -/
def Control.isCustom : Control → Bool
  | .custom _ => true
  | .task _ | .stream .. => false

theorem Control.isCancelled_cancel {c : Control} (h : c.isCustom = false) :
    c.cancel.1.isCancelled = true := by
  cases c with
  | task _ => rfl
  | stream _ _ => rfl
  | custom c => simp [Control.isCustom] at h

theorem Control.isCancelled_cancel_of {c : Control} (h : c.isCancelled = true) :
    c.cancel.1.isCancelled = true := by
  cases c with
  | task _ => rfl
  | stream _ _ => rfl
  | custom c =>
    simp only [Control.cancel]
    split
    · simp [Control.isCancelled]
    · exact h

@[simp]
theorem Control.isCustom_cancel (c : Control) : c.cancel.1.isCustom = c.isCustom := by
  cases c with
  | task _ => rfl
  | stream _ _ => rfl
  | custom c =>
    simp only [Control.cancel]
    split <;> rfl

@[simp]
theorem Control.demand?_cancel (c : Control) : c.cancel.1.demand? = c.demand? := by
  cases c with
  | task _ => rfl
  | stream _ _ => rfl
  | custom c =>
    simp only [Control.cancel]
    split <;> rfl

@[simp]
theorem Control.isCancelled_request (c : Control) (n : Nat) :
    (c.request n).1.isCancelled = c.isCancelled := by
  cases c with
  | task _ => rfl
  | stream _ _ => rfl
  | custom c =>
    simp only [Control.request]
    split <;> rfl

@[simp]
theorem Control.isCustom_request (c : Control) (n : Nat) :
    (c.request n).1.isCustom = c.isCustom := by
  cases c with
  | task _ => rfl
  | stream _ _ => rfl
  | custom c =>
    simp only [Control.request]
    split <;> rfl

@[simp]
theorem Control.demand?_request (c : Control) (n : Nat) :
    (c.request n).1.demand? = c.demand?.map (fun d => d.grant n) := by
  cases c with
  | task _ => rfl
  | stream _ _ => rfl
  | custom c =>
    simp only [Control.request]
    split <;> rfl

theorem Controls.getElem?_act (cs : Controls) (n k : Nat)
    (action : Control → Control × Option Panic) :
    (cs.act n action).1[k]? = if k = n then cs[k]?.map (fun c => (action c).1) else cs[k]? := by
  unfold Controls.act
  split
  next c hc =>
    obtain ⟨bound, here⟩ := List.getElem?_eq_some_iff.mp hc
    by_cases hk : k = n
    · subst k
      simp [bound, here]
    · simp [hk, Ne.symm hk]
  next hc =>
    split
    next hk => simp [hk, hc]
    next => rfl

@[simp]
theorem Controls.length_act (cs : Controls) (n : Nat)
    (action : Control → Control × Option Panic) : (cs.act n action).1.length = cs.length := by
  unfold Controls.act
  split
  · exact List.length_set
  · rfl

def Controls.cancelEach (cs : Controls) (ns : List Nat) : Controls :=
  ns.foldl (fun cs n => (cs.cancel n).1) cs

@[simp]
theorem Controls.length_cancelEach (cs : Controls) (ns : List Nat) :
    (cs.cancelEach ns).length = cs.length := by
  induction ns generalizing cs with
  | nil => rfl
  | cons n ns ih => exact (ih _).trans (Controls.length_act ..)

/-- Bulk cancellation reaches the controls with the numbers given and no other. -/
theorem Controls.getElem?_cancelEach {cs : Controls} {k : Nat} {c : Control} (ns : List Nat)
    (h : cs[k]? = some c) :
    ∃ c', (cs.cancelEach ns)[k]? = some c' ∧ c'.isCustom = c.isCustom ∧ c'.demand? = c.demand? ∧
      (c.isCancelled = true ∨ k ∈ ns ∧ c.isCustom = false → c'.isCancelled = true) ∧
      (k ∉ ns → c' = c) := by
  induction ns generalizing cs c with
  | nil => exact ⟨c, h, rfl, rfl, by simp, fun _ => rfl⟩
  | cons n ns ih =>
    have first : (cs.cancel n).1[k]? = if k = n then some c.cancel.1 else some c := by
      rw [Controls.cancel, Controls.getElem?_act, h, Option.map_some]
    by_cases hk : k = n
    · rw [if_pos hk] at first
      obtain ⟨c', hc', custom, demand, cancelled, _⟩ := ih first
      refine ⟨c', hc', by simp [custom], by simp [demand], fun hc => cancelled (.inl ?_), ?_⟩
      · rcases hc with hc | hc
        · exact Control.isCancelled_cancel_of hc
        · exact Control.isCancelled_cancel hc.2
      · simp [hk]
    · rw [if_neg hk] at first
      obtain ⟨c', hc', custom, demand, cancelled, same⟩ := ih first
      refine ⟨c', hc', custom, demand, fun hc => cancelled ?_, fun hn => same ?_⟩
      · exact hc.imp_right fun hc => ⟨(List.mem_cons.mp hc.1).resolve_left hk, hc.2⟩
      · exact fun hm => hn (List.mem_cons_of_mem n hm)

/-- The control with the credit of a response stream replaced. -/
def Control.withDemand (demand : Demand) : Control → Control
  | .stream cancelled _ => .stream cancelled demand
  | .task cancelled => .task cancelled
  | .custom c => .custom c

@[simp]
theorem Control.isCancelled_withDemand (c : Control) (d : Demand) :
    (c.withDemand d).isCancelled = c.isCancelled := by
  cases c <;> rfl

@[simp]
theorem Control.isCustom_withDemand (c : Control) (d : Demand) :
    (c.withDemand d).isCustom = c.isCustom := by
  cases c <;> rfl

theorem Control.demand?_withDemand (c : Control) (d : Demand) :
    (c.withDemand d).demand? = c.demand?.map (fun _ => d) := by
  cases c <;> rfl

theorem Controls.getElem?_setDemand (cs : Controls) (n k : Nat) (demand : Demand) :
    (cs.setDemand n demand)[k]? =
      if k = n then cs[k]?.map (Control.withDemand demand) else cs[k]? := by
  unfold Controls.setDemand
  split
  next cancelled old hc =>
    obtain ⟨bound, here⟩ := List.getElem?_eq_some_iff.mp hc
    by_cases hk : k = n
    · subst k
      simp [bound, here, Control.withDemand]
    · simp [hk, Ne.symm hk]
  next other =>
    split
    next hk =>
      subst k
      cases hc : cs[n]? with
      | none => rfl
      | some c =>
        cases c with
        | stream cancelled old => exact absurd hc (other cancelled old)
        | task _ => rfl
        | custom _ => rfl
    next => rfl

@[simp]
theorem Controls.length_setDemand (cs : Controls) (n : Nat) (demand : Demand) :
    (cs.setDemand n demand).length = cs.length := by
  unfold Controls.setDemand
  split
  · exact List.length_set
  · rfl

end Multiplexer
