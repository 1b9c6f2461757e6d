import Multiplexer.Proofs.Entries
import Multiplexer.Responder.Run

/-!
Accounts: what a history tells of one task or of one channel, and what leaves all operations as they
are. Whatever happens to channels only, and whatever is only recorded, is of the second kind.
-/

namespace Multiplexer

/-- The task whose work an event is part of. -/
def Event.task? : Event → Option Nat
  | .sent (.task n) _ | .pulled n _ | .ended n => some n
  | .sent .dispatcher _ | .sent (.channel _) _ | .reported _ | .handlerPanicked _ | .disposed
  | .disposePanicked _ | .yielded .. => none

/-- The channel that an event comes from. -/
def Event.channel? : Event → Option Nat
  | .sent (.channel n) _ | .yielded n _ => some n
  | .sent (.task _) _ | .sent .dispatcher _ | .reported _ | .handlerPanicked _ | .disposed
  | .disposePanicked _ | .pulled .. | .ended _ => none

/-- The events of a history that are the work of task `n`. -/
def accountOf (n : Nat) (history : List Event) : List Event :=
  history.filter (fun e => e.task? = some n)

/-- The frame that an event says a speaker has sent. -/
def Event.frameBy? (speaker : Speaker) : Event → Option Frame
  | .sent s f => if s = speaker then some f else none
  | _ => none

/-- The item that an event says the response stream of task `n` has produced. -/
def Event.itemOf? (n : Nat) : Event → Option Item
  | .pulled m x => if m = n then some x else none
  | _ => none

/-- The item that an event says channel `m` has yielded. -/
def Event.yieldOf? (m : Nat) : Event → Option Item
  | .yielded n x => if n = m then some x else none
  | _ => none

def framesOf (speaker : Speaker) (history : List Event) : List Frame :=
  history.filterMap (Event.frameBy? speaker)

def itemsOf (n : Nat) (history : List Event) : List Item :=
  history.filterMap (Event.itemOf? n)

def yieldedBy (m : Nat) (history : List Event) : List Item :=
  history.filterMap (Event.yieldOf? m)

def Item.error? : Item → Option HandlerError
  | .error e => some e
  | .ok _ => none

def errorsOf (xs : List Item) : List HandlerError := xs.filterMap Item.error?

def errorFrames (speaker : Speaker) (history : List Event) : List Frame :=
  (framesOf speaker history).filter fun f => f.kind = .error

def Responder.account (r : Responder) (n : Nat) : List Event := accountOf n r.history

@[simp]
theorem accountOf_append (n : Nat) (h k : List Event) :
    accountOf n (h ++ k) = accountOf n h ++ accountOf n k :=
  List.filter_append ..

@[simp]
theorem framesOf_append (speaker : Speaker) (h k : List Event) :
    framesOf speaker (h ++ k) = framesOf speaker h ++ framesOf speaker k :=
  List.filterMap_append

@[simp]
theorem itemsOf_append (n : Nat) (h k : List Event) :
    itemsOf n (h ++ k) = itemsOf n h ++ itemsOf n k :=
  List.filterMap_append

@[simp]
theorem yieldedBy_append (m : Nat) (h k : List Event) :
    yieldedBy m (h ++ k) = yieldedBy m h ++ yieldedBy m k :=
  List.filterMap_append

@[simp]
theorem errorsOf_append (xs ys : List Item) : errorsOf (xs ++ ys) = errorsOf xs ++ errorsOf ys :=
  List.filterMap_append

@[simp]
theorem errorFrames_append (speaker : Speaker) (h k : List Event) :
    errorFrames speaker (h ++ k) = errorFrames speaker h ++ errorFrames speaker k := by
  rw [errorFrames, framesOf_append, List.filter_append]
  rfl

@[simp]
theorem errorsOf_nil : errorsOf [] = [] := rfl

@[simp]
theorem errorsOf_ok (p : Payload) (xs : List Item) : errorsOf (.ok p :: xs) = errorsOf xs := rfl

@[simp]
theorem errorsOf_error (e : HandlerError) (xs : List Item) :
    errorsOf (.error e :: xs) = e :: errorsOf xs := rfl

@[simp]
theorem framesOf_nil (speaker : Speaker) : framesOf speaker [] = [] := rfl

@[simp]
theorem itemsOf_nil (n : Nat) : itemsOf n [] = [] := rfl

@[simp]
theorem framesOf_cons (speaker : Speaker) (e : Event) (h : List Event) :
    framesOf speaker (e :: h) = (e.frameBy? speaker).toList ++ framesOf speaker h := by
  rw [framesOf, List.filterMap_cons]
  cases e.frameBy? speaker <;> rfl

@[simp]
theorem itemsOf_cons (n : Nat) (e : Event) (h : List Event) :
    itemsOf n (e :: h) = (e.itemOf? n).toList ++ itemsOf n h := by
  rw [itemsOf, List.filterMap_cons]
  cases e.itemOf? n <;> rfl

theorem accountOf_eq_nil {n : Nat} {h : List Event} (other : ∀ e ∈ h, e.task? ≠ some n) :
    accountOf n h = [] :=
  List.filter_eq_nil_iff.mpr fun e he => by simpa using other e he

/-- Events that come from elsewhere tell nothing of a channel. -/
theorem yieldedBy_eq_nil {m : Nat} {h : List Event} (other : ∀ e ∈ h, e.channel? ≠ some m) :
    yieldedBy m h = [] := by
  refine List.filterMap_eq_nil_iff.mpr fun e he => ?_
  cases e with
  | yielded n x => exact if_neg fun hn => other _ he (congrArg some hn)
  | _ => rfl

theorem framesOf_eq_nil {speaker : Speaker} {h : List Event}
    (silent : ∀ f, Event.sent speaker f ∉ h) : framesOf speaker h = [] := by
  refine List.filterMap_eq_nil_iff.mpr fun e he => ?_
  cases e with
  | sent s f => exact if_neg (by rintro rfl; exact silent f he)
  | _ => rfl

theorem framesOf_channel_eq_nil {m : Nat} {h : List Event} (other : ∀ e ∈ h, e.channel? ≠ some m) :
    framesOf (.channel m) h = [] :=
  framesOf_eq_nil fun _ there => other _ there rfl

theorem filterMap_accountOf {γ : Type} {f : Event → Option γ} {n : Nat}
    (own : ∀ e, e.task? ≠ some n → f e = none) (h : List Event) :
    (accountOf n h).filterMap f = h.filterMap f := by
  induction h with
  | nil => rfl
  | cons e h ih =>
    rw [accountOf] at ih ⊢
    by_cases he : e.task? = some n
    · rw [List.filter_cons_of_pos (by simpa using he), List.filterMap_cons, List.filterMap_cons, ih]
    · rw [List.filter_cons_of_neg (by simpa using he), List.filterMap_cons, own e he, ih]

theorem framesOf_accountOf (n : Nat) (h : List Event) :
    framesOf (.task n) (accountOf n h) = framesOf (.task n) h := by
  refine filterMap_accountOf (fun e he => ?_) h
  cases e with
  | sent s f => exact if_neg fun hs => he (by rw [hs]; rfl)
  | _ => rfl

theorem itemsOf_accountOf (n : Nat) (h : List Event) :
    itemsOf n (accountOf n h) = itemsOf n h := by
  refine filterMap_accountOf (fun e he => ?_) h
  cases e with
  | pulled m x => exact if_neg fun hm => he (by rw [hm]; rfl)
  | _ => rfl

/-- All operations are as they were: what is registered for them, their controls, their tasks and
the accounts of these. -/
structure Responder.KeepsTasks (r r' : Responder) : Prop where
  outbound : r'.registry.outbound = r.registry.outbound
  issued : r.registry.issued ≤ r'.registry.issued
  controls : r'.controls = r.controls
  tasks : r'.tasks = r.tasks
  shutdown : r'.shutdown = r.shutdown
  account : ∀ n, r'.account n = r.account n

theorem Responder.KeepsTasks.refl (r : Responder) : r.KeepsTasks r :=
  ⟨rfl, Nat.le_refl _, rfl, rfl, rfl, fun _ => rfl⟩

theorem Responder.KeepsTasks.trans {r r' r'' : Responder} (h : r.KeepsTasks r')
    (h' : r'.KeepsTasks r'') : r.KeepsTasks r'' where
  outbound := h'.outbound.trans h.outbound
  issued := Nat.le_trans h.issued h'.issued
  controls := h'.controls.trans h.controls
  tasks := h'.tasks.trans h.tasks
  shutdown := h'.shutdown.trans h.shutdown
  account := fun n => (h'.account n).trans (h.account n)

theorem Responder.KeepsTasks.isCancelled {r r' : Responder} (h : r.KeepsTasks r') (n : Nat) :
    r'.isCancelled n = r.isCancelled n := by
  simp only [Responder.isCancelled, h.shutdown, h.controls]

theorem Responder.KeepsTasks.demand? {r r' : Responder} (h : r.KeepsTasks r') (n : Nat) :
    r'.demand? n = r.demand? n := by
  simp only [Responder.demand?, h.controls]

@[simp]
theorem Responder.account_record (r : Responder) (e : Event) (n : Nat) :
    (r.record e).account n = r.account n ++ accountOf n [e] :=
  accountOf_append ..

theorem Responder.record_keepsTasks (r : Responder) {e : Event} (h : e.task? = none) :
    r.KeepsTasks (r.record e) where
  outbound := rfl
  issued := Nat.le_refl _
  controls := rfl
  tasks := rfl
  shutdown := rfl
  account := fun n => by
    rw [Responder.account_record, accountOf_eq_nil (by simp [h]), List.append_nil]

end Multiplexer
