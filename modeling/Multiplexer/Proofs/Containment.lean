import Multiplexer.Proofs.CalmTwins
import Multiplexer.Proofs.PanickedTurns

/-!
Containment of panics: they are the failures of the operations whose code panics, and nothing else notices.
A control of the application's own is the exception, for nobody catches its panics.
-/

namespace Multiplexer

variable {ω : Type} {r r' : Responder}

theorem mem_panicsOf {message : String} {events : List Event} :
    message ∈ panicsOf events ↔ .handlerPanicked message ∈ events := by
  simp only [panicsOf, List.mem_filterMap]
  constructor
  · rintro ⟨e, there, eq⟩
    cases e with
    | handlerPanicked message' =>
      cases eq
      exact there
    | _ => cases eq
  · exact fun there => ⟨_, there, rfl⟩

theorem Responder.Notes.events {ms : List String} (h : Responder.Notes ms r r') :
    ∃ events, r'.history = r.history ++ events ∧
      ∀ message, .handlerPanicked message ∈ events → message ∈ ms := by
  obtain ⟨events, history, rfl⟩ := h.told
  exact ⟨events, history, fun _ => mem_panicsOf.mpr⟩

theorem Responder.Notes.listens {ms : List String} {s : Responder × ω}
    (h : Responder.Notes ms s.1.beginTurn r') (listens : s.1.Listens) : r'.Listens :=
  ⟨h.receiving.trans listens.1, h.shutdown.trans listens.2⟩

theorem mem_of_new {e : Event} {old new events : List Event} (grown : new = old ++ events)
    (there : e ∈ new) (absent : e ∉ old) : e ∈ events := by
  rw [grown] at there
  exact (List.mem_append.mp there).resolve_left absent

/-- A frame whose control does not panic is dispatched, and the receive loop goes on; a panic is that of the
call that opens a response stream, and the operation has begun with it. -/
theorem Responder.Paired.receive_contained {s : Responder × ω} (paired : s.1.Paired)
    (settings : Settings) (app : Application ω) {f : Frame} (listens : s.1.Listens)
    (withstands : s.1.Withstands f) :
    let r' := (Responder.step settings app (.receive (.item (.ok f))) s).1
    (s.1.beginTurn.dispatch s.2 settings app f).panic = none ∧ r'.Listens ∧
      ∃ events, r'.history = s.1.history ++ events ∧
        ∀ message, .handlerPanicked message ∈ events →
          Responder.Breaks f.stream message s.1 r' ∧ s.1.Spares r' := by
  intro r'
  have paced : s.1.beginTurn.Paired := paired.of_eq rfl (Nat.le_refl _) rfl
  have withstands : s.1.beginTurn.Withstands f := withstands
  have calm := withstands.calm settings app s.2
  have dispatched : r' = (s.1.beginTurn.dispatch s.2 settings app f).responder := by
    show (Responder.step settings app (.receive (.item (.ok f))) s).1 = _
    rw [Responder.step_receive settings app f listens]
    exact if_pos calm
  have breaks := s.1.beginTurn.dispatch_breaks settings app s.2 f
  rw [← dispatched] at breaks
  refine ⟨calm, ?_⟩
  rcases breaks with noted | ⟨message, noted, ⟨begins, controls⟩, attends⟩
  · obtain ⟨events, history, none⟩ := noted.events
    exact ⟨noted.listens listens, events, history,
      fun _ there => absurd (none _ there) List.not_mem_nil⟩
  · obtain ⟨events, history, one⟩ := noted.events
    refine ⟨noted.listens listens, events, history, fun message' there => ?_⟩
    obtain rfl := List.mem_singleton.mp (one _ there)
    exact ⟨⟨begins, controls⟩, attends.spares paced⟩

/-- In a turn the operation fails whose code panics, or has panicked in the call that opened it. -/
theorem Responder.Linked.turn_contained {s : Responder × ω} (linked : s.1.Linked)
    (paired : s.1.Paired) (settings : Settings) (app : Application ω) (n budget : Nat) :
    let r' := (Responder.step settings app (.turn n budget) s).1
    (s.1.Listens → r'.Listens) ∧
      (∃ events, r'.history = s.1.history ++ events ∧
        ∀ message, .handlerPanicked message ∈ events →
          ∃ t ∈ s.1.tasks, t.number = n ∧ Responder.Perishes t message s.1 r' ∧ s.1.Spares r') ∧
      ∀ t ∈ s.1.tasks, t.number = n → budget ≠ 0 → ∀ token channel message,
        t.work = .stream token channel (.broken (.panicked message)) →
          Responder.Perishes t message s.1 r' ∧ s.1.Spares r' := by
  intro r'
  have begun : s.1.beginTurn.Linked := (Responder.AsideMove.pace s.1 .full).keepsTasks.linked linked
  have paced : s.1.beginTurn.Paired := paired.of_eq rfl (Nat.le_refl _) rfl
  have turned : r' = (s.1.beginTurn.turn s.2 app n budget).1 := rfl
  have panics := begun.turn_panics s.2 app n budget
  rw [← turned] at panics
  refine ⟨?_, ?_, ?_⟩
  · rcases panics with noted | ⟨_, _, _, _, noted, _⟩
    · exact noted.listens
    · exact noted.listens
  · rcases panics with noted | ⟨t, there, number, panic, noted, perishes⟩
    · obtain ⟨events, history, none⟩ := noted.events
      exact ⟨events, history, fun _ there => absurd (none _ there) List.not_mem_nil⟩
    · obtain ⟨events, history, one⟩ := noted.events
      refine ⟨events, history, fun message told => ?_⟩
      obtain ⟨⟨words, tasks, outbound, controls⟩, attends⟩ :=
        perishes message (by simpa using one message told)
      exact ⟨t, there, number, ⟨words, tasks, outbound, controls⟩, attends.spares paced⟩
  · rintro t there rfl some_budget token channel message work
    obtain ⟨⟨words, tasks, outbound, controls⟩, attends⟩ :=
      begun.turn_broken there s.2 app some_budget work
    exact ⟨⟨words, tasks, outbound, controls⟩, attends.spares paced⟩

/-- What code of the application does by panicking where it might have returned an error: nothing but what
the error would have done. With the twin of the application, which returns the error, every run leads to the
same state but for the panics in the log. A frame whose control does not panic is dispatched, and the
receive loop goes on; if the call panics that opens a response stream, the operation has begun with the
panic, and all other operations are as they were. In a turn the operation fails whose code panics, or has
panicked in that call: its failure is told, it gives up its entry, and no other does. -/
theorem Responder.panics_contained (settings : Settings) (app : Application ω) (w : ω)
    (as : List (Action ω)) :
    let s := Responder.run settings app as (Responder.start, w)
    (app.calm.Calm ∧ ∃ memory,
      Responder.run settings app.calm (as.map Action.calm) (Responder.start, w, Memory.none) =
        (s.1.calmed, s.2, memory)) ∧
    (∀ f, s.1.Listens → s.1.Withstands f →
      let r' := (Responder.step settings app (.receive (.item (.ok f))) s).1
      (s.1.beginTurn.dispatch s.2 settings app f).panic = none ∧ r'.Listens ∧
      ∃ events, r'.history = s.1.history ++ events ∧
        ∀ message, .handlerPanicked message ∈ events →
          Responder.Breaks f.stream message s.1 r' ∧ s.1.Spares r') ∧
    ∀ n budget,
      let r' := (Responder.step settings app (.turn n budget) s).1
      (s.1.Listens → r'.Listens) ∧
      (∃ events, r'.history = s.1.history ++ events ∧
        ∀ message, .handlerPanicked message ∈ events →
          ∃ t ∈ s.1.tasks, t.number = n ∧ Responder.Perishes t message s.1 r' ∧ s.1.Spares r') ∧
      ∀ t ∈ s.1.tasks, t.number = n → budget ≠ 0 → ∀ token channel message,
        t.work = .stream token channel (.broken (.panicked message)) →
          Responder.Perishes t message s.1 r' ∧ s.1.Spares r' := by
  intro s
  have linked : s.1.Linked := Responder.linked_start.run settings app as (s := (Responder.start, w))
  have paired : s.1.Paired := Responder.paired_run settings app w as
  refine ⟨⟨app.calm_calm, ?_⟩, ?_, ?_⟩
  · have twins := (Responder.twins_start w).run Responder.linked_start settings app as
    exact ⟨_, Prod.ext twins.state (Prod.ext twins.world rfl)⟩
  · intro f listens withstands
    exact paired.receive_contained settings app listens withstands
  · intro n budget
    exact linked.turn_contained paired settings app n budget

/-- An application whose code panics at every opportunity. -/
def faulter : Application Unit where
  start _ _ _ w := w
  poll _ w := .answer (.panicked (.text "no response"), w)
  openStream _ _ w := .answer (some (.text "no stream"), w)
  openChannel _ _ _ w := .answer (some (.text "no channel"), w)
  pull _ w := .answer (.panicked (.text "no item"), w)
  drop _ w := .answer w
  dispose w := .answer (some (.text "not yet"), w)

/-- A response is being worked on when the call panics that is to open a response stream; then the work on
the response panics, and then the stream fails. -/
theorem Responder.faulter_panics_contained :
    let f := Frame.requestStream (.ofNat 5) 3 .empty
    let before := [.receive (.item (.ok (.requestResponse (.ofNat 7) .empty)))]
    let s := Responder.run .standard faulter before (Responder.start, ())
    let s' := Responder.step .standard faulter (.receive (.item (.ok f))) s
    (s.1.Listens ∧ s.1.Withstands f ∧ s'.1.Listens ∧ Responder.Breaks f.stream "no stream" s.1 s'.1) ∧
      (∃ t ∈ s'.1.tasks, t.number = 0 ∧ Responder.Perishes t "no response" s'.1
        (Responder.step .standard faulter (.turn 0 1) s').1) ∧
      ∃ t ∈ s'.1.tasks, t.number = 1 ∧ Responder.Perishes t "no stream" s'.1
        (Responder.step .standard faulter (.turn 1 1) s').1 := by
  intro f before s s'
  have listens : s.1.Listens := by decide
  have withstands : s.1.Withstands f := fun _ _ _ _ => ⟨nofun, nofun⟩
  obtain ⟨_, frames, _⟩ := Responder.panics_contained .standard faulter () before
  obtain ⟨_, _, turns⟩ := Responder.panics_contained .standard faulter ()
    (before ++ [.receive (.item (.ok f))])
  obtain ⟨_, going, events, history, breaks⟩ := frames f listens withstands
  have noted : Event.handlerPanicked "no stream" ∈ events :=
    mem_of_new history (by decide) (by decide)
  refine ⟨⟨listens, withstands, going, (breaks _ noted).1⟩, ?_, ?_⟩
  · obtain ⟨_, ⟨events, history, perishes⟩, _⟩ := turns 0 1
    have noted : Event.handlerPanicked "no response" ∈ events :=
      mem_of_new history (by decide) (by decide)
    obtain ⟨t, there, number, perishes, _⟩ := perishes _ noted
    exact ⟨t, there, number, perishes⟩
  · obtain ⟨_, _, broken⟩ := turns 1 1
    have there : ⟨1, .ofNat 5, .stream 1 none (.broken (.panicked "no stream"))⟩ ∈ s'.1.tasks := by
      decide
    exact ⟨_, there, rfl, (broken _ there rfl (by decide) 1 none _ rfl).1⟩

/-- A control of the application's own panics when the peer cancels its stream. The receive loop stops, and
the keepalive that follows is not answered, as it would have been before. -/
theorem Responder.cancel_panic_stops_receiving :
    let stubborn : Control := .custom ⟨0, 0, false, some (.text "no"), none⟩
    let alive := Frame.keepalive 0 [104, 105] true
    let s := Responder.run .standard faulter [.register (.ofNat 9) stubborn] (Responder.start, ())
    let s' := Responder.step .standard faulter (.receive (.item (.ok (.cancel (.ofNat 9))))) s
    let answers (s : Responder × Unit) := framesOf .dispatcher
      (Responder.step .standard faulter (.receive (.item (.ok alive))) s).1.history
    s.1.Listens ∧
      (s.1.beginTurn.dispatch () .standard faulter (.cancel (.ofNat 9))).panic = some (.text "no") ∧
      s'.1.receiving = false ∧ s'.1.registry.outbound = [] ∧
      answers s = [.keepalive 0 [104, 105] false] ∧ answers s' = [] := by
  decide

end Multiplexer
