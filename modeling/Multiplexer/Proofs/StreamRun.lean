import Multiplexer.Proofs.Acceptance
import Multiplexer.Proofs.StreamAccount

/-!
Response streams over runs: what a response stream has sent stays paid for by the credit granted to
it, through every action in any order.
-/

namespace Multiplexer

variable {ω : Type} {allowed : Label → Prop} {r r' : Responder} {n : Nat} {stream : StreamId}

/-- The credit that an action grants to operation `n`: that of a REQUEST_N frame which is dispatched
while the operation is registered. -/
def Responder.grantedBy (n : Nat) (s : Responder × ω) : Action ω → Nat
  | .receive (.item (.ok f)) =>
    if s.1.Listens ∧ f.kind = .requestN ∧ s.1.registry.outbound? f.stream = some n then
      creditOfDemand f.demand
    else 0
  | _ => 0

/-- The credit that the actions of a run grant to operation `n`. -/
def Responder.granted (settings : Settings) (app : Application ω) (n : Nat) :
    List (Action ω) → Responder × ω → Nat
  | [], _ => 0
  | a :: as, s =>
    Responder.grantedBy n s a + Responder.granted settings app n as (Responder.step settings app a s)

/-- Operation `n` is or was a response stream whose items are paid for. -/
def Responder.Serves (n : Nat) (stream : StreamId) (granted : Nat) (r : Responder) : Prop :=
  ∃ ps, (Responder.Streaming n stream r ps ∨ Responder.Streamed n stream true r ps) ∧
    r.Credited n granted ps.length

theorem Responder.KeepsTasks.serves {granted : Nat} (kept : r.KeepsTasks r')
    (serves : Responder.Serves n stream granted r) : Responder.Serves n stream granted r' := by
  obtain ⟨ps, state, credited⟩ := serves
  have same := kept.undisturbed n
  refine ⟨ps, state.imp same.streaming same.streamed, ?_⟩
  rw [Responder.Credited, kept.demand?]
  exact credited

theorem StreamLast.weaken {cut : Bool} {last : List Event} (h : StreamLast n stream cut last) :
    StreamLast n stream true last := by
  cases h with
  | cut phase => exact .cut phase
  | completed => exact .completed true
  | failed _ e own => exact .failed true e own
  | remote _ e others => exact .remote true e others

theorem Responder.Streamed.weaken {cut : Bool} {ps : List Payload}
    (h : Responder.Streamed n stream cut r ps) : Responder.Streamed n stream true r ps := by
  obtain ⟨last, ends, account⟩ := h.ended
  exact ⟨h.gone, last, ends.weaken, account⟩

/-- Moves that grant nothing keep a response stream paid for. -/
theorem Responder.Moves.serves {granted : Nat} (moves : r.Moves allowed r') (h : r.Linked)
    (known : n < r.controls.length) (ungranted : ∀ s, ¬ allowed (.grant s))
    (serves : Responder.Serves n stream granted r) : Responder.Serves n stream granted r' := by
  refine moves.keep h known serves ?_
  rintro l r r' allow move h known ⟨ps, state, credited⟩
  have other (s : StreamId) (label : l = .grant s) : r.registry.outbound? s ≠ some n :=
    absurd (label ▸ allow) (ungranted s)
  -- a stream that has ended takes no more credit, so its account stays as it is
  rcases state with streaming | streamed
  · obtain ⟨ps', state', credited'⟩ := streaming.move h move
    exact ⟨ps', state'.imp_right .weaken, credited' granted other credited⟩
  · refine ⟨ps, .inr (streamed.move known move), ?_⟩
    have idle : l ≠ .task n := by
      rintro rfl
      obtain ⟨t, there, number, _⟩ := move.task_inv
      exact streamed.gone t there number
    rw [Responder.Credited, move.demand?_eq known idle other]
    exact credited

/-- What a grant to a stream makes of the credit of an operation. -/
theorem Responder.grantStream_demand? (r : Responder) (stream : StreamId) (demand : UInt32)
    (n : Nat) :
    (r.grantStream stream demand).1.demand? n =
      if r.registry.outbound? stream = some n then
        (r.demand? n).map fun d => d.grant (creditOfDemand demand)
      else r.demand? n := by
  cases found : r.registry.outbound? stream with
  | none => simp [Responder.grantStream, found]
  | some m =>
    have controls : (r.grantStream stream demand).1.controls =
        (r.controls.request m (creditOfDemand demand)).1 := by
      simp [Responder.grantStream, found]
    rw [Responder.demand?, Responder.demand?, controls, Controls.request, Controls.getElem?_act]
    by_cases same : n = m
    · subst same
      cases r.controls[n]? <;> simp
    · have other : (some m : Option Nat) ≠ some n := fun eq => same (Option.some.inj eq).symm
      rw [if_neg same, if_neg other]

/-- A grant adds to the credit up to the limit. -/
theorem Responder.Credited.grant {granted sent : Nat} {d : Demand} (credit : Nat)
    (credited : r.Credited n granted sent) (demand : r.demand? n = some d)
    (demand' : r'.demand? n = some (d.grant credit)) : r'.Credited n (granted + credit) sent := by
  obtain ⟨e, he, account⟩ := credited
  cases demand.symm.trans he
  refine ⟨_, demand', ?_⟩
  by_cases nothing : credit = 0
  · subst nothing
    exact account
  · rw [d.credit_grant nothing]
    rcases account with ⟨full, enough⟩ | ⟨below, sum⟩ <;> omega

/-- A grant to a stream adds to the credit of the operation that is registered under it. -/
theorem Responder.Serves.grantStream {granted : Nat} (serves : Responder.Serves n stream granted r)
    (target : StreamId) (demand : UInt32) :
    Responder.Serves n stream
      (granted + if r.registry.outbound? target = some n then creditOfDemand demand else 0)
      (r.grantStream target demand).1 := by
  obtain ⟨ps, state, credited⟩ := serves
  have same : Responder.Undisturbed n r (r.grantStream target demand).1 := by
    unfold Responder.grantStream
    split <;> exact .of_eq rfl rfl
  have granted_to := r.grantStream_demand? target demand n
  refine ⟨ps, state.imp same.streaming same.streamed, ?_⟩
  split
  next found =>
    obtain ⟨d, hd, _⟩ := id credited
    rw [if_pos found, hd] at granted_to
    exact credited.grant _ hd granted_to
  next other =>
    rw [if_neg other] at granted_to
    rw [Responder.Credited, granted_to]
    exact credited

/-- Every action keeps a response stream paid for. -/
theorem Responder.Serves.step {granted : Nat} {s : Responder × ω} (settings : Settings)
    (app : Application ω) (a : Action ω) (h : s.1.Linked) (known : n < s.1.controls.length)
    (serves : Responder.Serves n stream granted s.1) :
    Responder.Serves n stream (granted + Responder.grantedBy n s a)
      (Responder.step settings app a s).1 := by
  by_cases request : ∃ f, a = .receive (.item (.ok f)) ∧ f.kind = .requestN
  · obtain ⟨f, rfl, kind⟩ := request
    by_cases listens : s.1.Listens
    · have amount : Responder.grantedBy n s (.receive (.item (.ok f))) =
          if s.1.ready.registry.outbound? f.stream = some n then creditOfDemand f.demand else 0 := by
        have same : s.1.ready.registry = s.1.registry := rfl
        rw [same]
        by_cases found : s.1.registry.outbound? f.stream = some n <;>
          simp [Responder.grantedBy, kind, listens, found]
      have ready := (Responder.AsideMoves.keepsTasks s.1.ready_aside).serves serves
      have served := Responder.Serves.grantStream ready f.stream f.demand
      have dispatched : (s.1.beginTurn.dispatch s.2 settings app f).responder =
          (s.1.ready.grantStream f.stream f.demand).1 := by
        simp only [Responder.dispatch, kind]
        rfl
      have left := Responder.dispatch_aside settings app f listens
      rw [amount]
      exact (Responder.AsideMoves.keepsTasks left).serves (dispatched ▸ served)
    · have nothing : Responder.grantedBy n s (.receive (.item (.ok f))) = 0 :=
        if_neg fun both => listens both.1
      have left := Responder.step_idle settings app s (.item (.ok f)) listens
      rw [nothing]
      exact (Responder.AsideMoves.keepsTasks left).serves serves
  · have nothing : Responder.grantedBy n s a = 0 := by
      unfold Responder.grantedBy
      split
      next f => exact if_neg fun both => request ⟨f, rfl, both.2.1⟩
      next => rfl
    rw [nothing]
    refine (h.step_moves settings app a).serves h known ?_ serves
    rintro stream ⟨f, rfl, kind, _⟩
    exact request ⟨f, rfl, kind⟩

/-- Every run keeps a response stream paid for. -/
theorem Responder.Serves.run {granted : Nat} {s : Responder × ω} (settings : Settings)
    (app : Application ω) (as : List (Action ω)) (h : s.1.Linked) (known : n < s.1.controls.length)
    (serves : Responder.Serves n stream granted s.1) :
    Responder.Serves n stream (granted + Responder.granted settings app n as s)
      (Responder.run settings app as s).1 := by
  induction as generalizing s granted with
  | nil => exact serves
  | cons a as ih =>
    have moves := h.step_moves settings app a
    have known' := Nat.lt_of_lt_of_le known moves.length_le
    have stepped := ih (moves.linked h) known' (serves.step settings app a h known)
    rw [Responder.granted, ← Nat.add_assoc]
    exact stepped

end Multiplexer
