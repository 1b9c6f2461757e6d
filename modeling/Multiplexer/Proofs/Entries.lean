import Mathlib.Data.List.Nodup
import Multiplexer.Registry.Drain

/-!
Maps of a registry as sets of entries: with one entry for each stream, what is found under a
stream and what an operation on the map leaves is said by membership.
-/

namespace Multiplexer

variable {α β : Type} {es : Entries α} {e : Entry α} {stream : StreamId}

theorem Entries.mem_erase : e ∈ es.erase stream ↔ e ∈ es ∧ e.stream ≠ stream := by
  simp [Entries.erase]

theorem Entries.mem_of_find? (h : es.find? stream = some e) : e ∈ es ∧ e.stream = stream :=
  ⟨List.mem_of_find?_eq_some h, by simpa using List.find?_some h⟩

theorem Entries.find?_erase {other : StreamId} (hne : other ≠ stream) :
    (es.erase other).find? stream = es.find? stream := by
  unfold Entries.erase Entries.find?
  rw [List.find?_filter]
  congr 1
  funext e
  by_cases h : e.stream = stream <;> simp [h, hne.symm]

theorem Entries.eq_of_stream {f : Entry α} (nodup : (es.map Entry.stream).Nodup) (he : e ∈ es)
    (hf : f ∈ es) (h : e.stream = f.stream) : e = f :=
  List.inj_on_of_nodup_map nodup he hf h

theorem Entries.eq_of_handle {f : Entry α} (nodup : (es.map Entry.handle).Nodup) (he : e ∈ es)
    (hf : f ∈ es) (h : e.handle = f.handle) : e = f :=
  List.inj_on_of_nodup_map nodup he hf h

theorem Entries.find?_eq_some_iff (nodup : (es.map Entry.stream).Nodup) :
    es.find? stream = some e ↔ e ∈ es ∧ e.stream = stream := by
  refine ⟨Entries.mem_of_find?, fun ⟨he, hs⟩ => ?_⟩
  cases hf : es.find? stream with
  | none => exact absurd hs (by simpa using List.find?_eq_none.mp hf e he)
  | some f =>
    obtain ⟨hf, hfs⟩ := Entries.mem_of_find? hf
    rw [Entries.eq_of_stream nodup hf he (hfs.trans hs.symm)]

theorem Entries.holds_iff {token : Nat} (nodup : (es.map Entry.stream).Nodup) :
    es.holds stream token = true ↔ ∃ e ∈ es, e.stream = stream ∧ e.token = token := by
  unfold Entries.holds
  cases hf : es.find? stream with
  | none =>
    have none_there : ∀ e ∈ es, e.stream ≠ stream := by simpa [Entries.find?] using hf
    simp only [Bool.false_eq_true, false_iff, not_exists, not_and]
    exact fun e he hs => absurd hs (none_there e he)
  | some f =>
    have found := Entries.mem_of_find? hf
    simp only [decide_eq_true_eq]
    refine ⟨fun ht => ⟨f, found.1, found.2, ht⟩, fun ⟨e, he, hs, ht⟩ => ?_⟩
    rwa [Entries.eq_of_stream nodup found.1 he (found.2.trans hs.symm)]

/-- Operations on the inbound map leave the outbound map alone. -/
@[simp]
theorem Registry.outbound_releaseInbound (r : Registry α β) (stream : StreamId) (token : Nat) :
    (r.releaseInbound stream token).1.outbound = r.outbound := by
  unfold Registry.releaseInbound
  split <;> rfl

@[simp]
theorem Registry.issued_releaseInbound (r : Registry α β) (stream : StreamId) (token : Nat) :
    (r.releaseInbound stream token).1.issued = r.issued := by
  unfold Registry.releaseInbound
  split <;> rfl

@[simp]
theorem Registry.outbound_removeInbound (r : Registry α β) (stream : StreamId) :
    (r.removeInbound stream).1.outbound = r.outbound := by
  unfold Registry.removeInbound
  split <;> rfl

@[simp]
theorem Registry.issued_removeInbound (r : Registry α β) (stream : StreamId) :
    (r.removeInbound stream).1.issued = r.issued := by
  unfold Registry.removeInbound
  split <;> rfl

@[simp]
theorem Registry.outbound_registerInbound (r : Registry α β) (stream : StreamId) (handle : β) :
    (r.registerInbound stream handle).1.outbound = r.outbound := by
  simp only [Registry.registerInbound]
  split <;> rfl

@[simp]
theorem Registry.issued_registerInbound (r : Registry α β) (stream : StreamId) (handle : β) :
    (r.registerInbound stream handle).1.issued = r.issued + 1 := by
  simp only [Registry.registerInbound]
  split <;> rfl

theorem Registry.outbound?_eq_some_iff {r : Registry α β} {handle : α}
    (nodup : (r.outbound.map Entry.stream).Nodup) :
    r.outbound? stream = some handle ↔ ∃ token, ⟨stream, token, handle⟩ ∈ r.outbound := by
  simp only [Registry.outbound?, Option.map_eq_some_iff, Entries.find?_eq_some_iff nodup]
  constructor
  · rintro ⟨e, ⟨he, rfl⟩, rfl⟩
    exact ⟨e.token, he⟩
  · rintro ⟨token, he⟩
    exact ⟨_, ⟨he, rfl⟩, rfl⟩

end Multiplexer
