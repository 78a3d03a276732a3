import Scanout.Proofs.Captures.Pipeline

/-!
The captures as a system that takes steps. A post queues its request in one step and hears from the
device in another; in between, any other steps may be taken, since the device may do what it likes
while it looks at a submission. A worker looks at its queue in one step, and in another it is through
with the request that it took from there. Posts and workers take these steps and no others.
-/

namespace Scanout

/-- What happens to captures. -/
inductive CaptureEvent where
  | queued (ticket : CaptureTicket) (request : CaptureRequest)
  /-- The buffer is queued already. -/
  | declined
  | accepted (ticket : CaptureTicket)
  | refused (ticket : CaptureTicket)
  | completed (display : DisplayId) (code : Int) (buffer : BufferId)
  | removed (display : DisplayId)
  | looked (session : SessionId) (worker : Nat)
  /-- The listener was told and the buffer given back. -/
  | told (session : SessionId) (request : CaptureRequest)

structure CaptureState where
  pipeline : Pipeline := {}
  /-- The requests that the device has not answered yet. -/
  submitting : List CaptureTicket := []

namespace CaptureState

/-- One step, about a display. -/
inductive Step (state : CaptureState) : DisplayId → CaptureEvent → CaptureState → Prop where
  | queue {display config buffer listener ticket after}
      (queued : state.pipeline.enqueue display config buffer listener = (some ticket, after)) :
      Step state display
        (.queued ticket { number := ticket.number, buffer, listener, config })
        { pipeline := after, submitting := ticket :: state.submitting }
  | decline {display config buffer listener after}
      (declined : state.pipeline.enqueue display config buffer listener = (none, after)) :
      Step state display .declined { state with pipeline := after }
  | accept {ticket session} (waits : ticket ∈ state.submitting)
      (found : state.pipeline.sessions[ticket.session]? = some session) :
      Step state session.display (.accepted ticket)
        { pipeline := state.pipeline.accept ticket, submitting := state.submitting.erase ticket }
  | refuse {ticket session} (waits : ticket ∈ state.submitting)
      (found : state.pipeline.sessions[ticket.session]? = some session) :
      Step state session.display (.refused ticket)
        { pipeline := (state.pipeline.refuse ticket).2,
          submitting := state.submitting.erase ticket }
  | complete {display code buffer after}
      (completed : state.pipeline.complete display code buffer = .ok after) :
      Step state display (.completed display code buffer) { state with pipeline := after }
  | remove {display} :
      Step state display (.removed display)
        { state with pipeline := state.pipeline.removeDisplay display }
  | look {id worker session} (found : state.pipeline.sessions[id]? = some session)
      (awake : session.workers[worker]? = some .awake) :
      Step state session.display (.looked id worker)
        { state with pipeline := state.pipeline.modifySession id (·.look worker) }
  | tell {id worker session request} (found : state.pipeline.sessions[id]? = some session)
      (notifying : session.Notifying worker request) :
      Step state session.display (.told id request)
        { state with pipeline := state.pipeline.modifySession id (·.resume worker) }

/-- What happened since there were no captures, and what came of it. -/
inductive Reaches : List CaptureEvent → CaptureState → Prop where
  | start : Reaches [] {}
  | step {events state display event after} (reached : Reaches events state)
      (next : Step state display event after) : Reaches (events ++ [event]) after

variable {state after : CaptureState} {display : DisplayId} {event : CaptureEvent}
  {events : List CaptureEvent}

theorem Step.sound (step : Step state display event after) (sound : state.pipeline.Sound) :
    after.pipeline.Sound := by
  cases step with
  | queue queued => exact sound.enqueue_eq queued
  | decline declined => exact sound.enqueue_eq declined
  | accept waits found =>
      exact sound.modifySession (fun _ _ staffed => .accept staffed _) fun _ _ => rfl
  | refuse waits found => exact sound.refuse _
  | complete completed => exact sound.complete completed
  | remove => exact sound.removeDisplay display
  | look found awake =>
      obtain ⟨present, _⟩ := List.getElem?_eq_some_iff.mp awake
      refine sound.modifySession ?_ fun session _ => session.display_look _
      intro session located staffed
      rw [found] at located
      cases located
      exact .look staffed present
  | tell found notifying =>
      exact sound.modifySession (fun _ _ staffed => .resume staffed _) fun _ _ => rfl

theorem Reaches.sound (reached : Reaches events state) : state.pipeline.Sound := by
  induction reached with
  | start => exact Pipeline.sound_empty
  | step _ next ih => exact next.sound ih

/-- What is not about a display stays as it is. -/
structure Elsewhere (display : DisplayId) (before after : Pipeline) : Prop where
  sessions : ∀ {id : SessionId} {session : CaptureSession}, before.sessions[id]? = some session →
    session.display ≠ display → after.sessions[id]? = some session
  current : ∀ {other : DisplayId}, other ≠ display → after.current[other]? = before.current[other]?

theorem Elsewhere.refl (display : DisplayId) (pipeline : Pipeline) :
    Elsewhere display pipeline pipeline where
  sessions found _ := found
  current _ := rfl

theorem Elsewhere.trans {first second third : Pipeline} (begins : Elsewhere display first second)
    (goesOn : Elsewhere display second third) : Elsewhere display first third where
  sessions found other := goesOn.sessions (begins.sessions found other) other
  current other := (goesOn.current other).trans (begins.current other)

theorem elsewhere_putSession {pipeline : Pipeline} {id : SessionId} {replaced : CaptureSession}
    (found : pipeline.sessions[id]? = some replaced) (session : CaptureSession) :
    Elsewhere replaced.display pipeline (pipeline.putSession id session) where
  sessions {other kept} entry different := by
    rw [Pipeline.sessions_putSession, if_neg]
    · exact entry
    · rintro rfl
      rw [found] at entry
      cases entry
      exact different rfl
  current _ := rfl

theorem elsewhere_modifySession {pipeline : Pipeline} {id : SessionId} {session : CaptureSession}
    (found : pipeline.sessions[id]? = some session) (change : CaptureSession → CaptureSession) :
    Elsewhere session.display pipeline (pipeline.modifySession id change) := by
  rw [Pipeline.modifySession_found found]
  exact elsewhere_putSession found _

theorem elsewhere_opened {pipeline : Pipeline} (sound : pipeline.Sound) (display : DisplayId) :
    Elsewhere display pipeline (pipeline.opened display) where
  sessions found _ := Pipeline.openSession_kept sound display found
  current {other} different := by
    obtain ⟨_, _, opened⟩ | ⟨_, opened⟩ := pipeline.openSession_cases display
    · rw [Pipeline.opened, opened]
    · rw [Pipeline.opened, opened]
      exact (Table.getElem?_insert _ _ _ _).trans (if_neg different.symm)

theorem elsewhere_removeDisplay {pipeline : Pipeline} (sound : pipeline.Sound)
    (display : DisplayId) : Elsewhere display pipeline (pipeline.removeDisplay display) := by
  cases entry : pipeline.current[display]? with
  | none =>
      rw [Pipeline.removeDisplay_absent entry]
      exact .refl display pipeline
  | some id =>
      obtain ⟨session, found, rfl⟩ := sound.located entry
      have abandoned := elsewhere_modifySession found .abandon
      rw [Pipeline.removeDisplay_found entry]
      exact ⟨abandoned.sessions, fun different => Table.getElem?_erase_of_ne different.symm⟩

/-- A step about one display leaves the captures of all others alone. -/
theorem Step.elsewhere (step : Step state display event after) (sound : state.pipeline.Sound) :
    Elsewhere display state.pipeline after.pipeline := by
  cases step with
  | queue queued =>
      obtain ⟨session, _, found, rfl, _, rfl⟩ := Pipeline.enqueue_some sound queued
      exact (elsewhere_opened sound _).trans (elsewhere_putSession found _)
  | decline declined =>
      obtain rfl := Pipeline.enqueue_none sound declined
      exact elsewhere_opened sound display
  | accept waits found => exact elsewhere_modifySession found _
  | refuse waits found =>
      rw [Pipeline.refuse_found found]
      exact elsewhere_putSession found _
  | complete completed =>
      obtain ⟨id, session, completion, shown, found, _, rfl⟩ := Pipeline.complete_ok completed
      obtain rfl := sound.display_eq shown found
      exact elsewhere_putSession found _
  | remove => exact elsewhere_removeDisplay sound display
  | look found awake => exact elsewhere_modifySession found _
  | tell found notifying => exact elsewhere_modifySession found _

end CaptureState
end Scanout
