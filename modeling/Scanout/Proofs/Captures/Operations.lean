import Scanout.Proofs.Captures.Steps

/-!
Posts and workers take the steps of captures and no others. Each stretch of an operation, from one
request to its surroundings to the next, is one step or none; in between, the surroundings may take
any steps that spare what the operation comes back to.
-/

namespace Scanout

/-- The buffer of a request that is queued has an identity. -/
def CaptureEvent.Identified : CaptureEvent → Prop
  | queued _ request => request.buffer.id.isAnonymous = false
  | _ => True

/-- What is left alone while an operation waits: sessions that have begun, and the request that its
worker has in hand. -/
structure Pipeline.Spared (worker? : Option (SessionId × Nat)) (before after : Pipeline) : Prop where
  begun : ∀ id : SessionId, before.sessions[id]?.isSome → after.sessions[id]?.isSome
  inHand : ∀ id worker request, worker? = some (id, worker) →
    before.Notifying id worker request → after.Notifying id worker request

/-- A step that leads from one pipeline to another, or none. The device may have requests from this
operation, before and after, and from others. No buffer is queued without an identity. -/
def Pipeline.Moves (before : Pipeline) (held : Option CaptureTicket) (after : Pipeline)
    (holds : Option CaptureTicket) : Prop :=
  before = after ∧ held = holds ∨ ∀ others, ∃ display event, event.Identified ∧
    CaptureState.Step ⟨before, held.toList ++ others⟩ display event ⟨after, holds.toList ++ others⟩

/-- An execution under way, whose request the device may have, takes only steps. -/
def Run.TakesSteps {α : Type} (worker? : Option (SessionId × Nat)) :
    Run Pipeline α → Pipeline → Option CaptureTicket → Prop
  | .done _ after, before, held => before.Moves held after none
  | .ask _ middle resume, before, held => ∃ holds, before.Moves held middle holds ∧
      ∀ reply after, middle.Spared worker? after →
        (resume reply after).TakesSteps worker? after holds

namespace Pipeline

variable {pipeline before after : Pipeline} {held : Option CaptureTicket}
  {worker? : Option (SessionId × Nat)}

theorem Moves.none (pipeline : Pipeline) (held : Option CaptureTicket) :
    pipeline.Moves held pipeline held := .inl ⟨rfl, rfl⟩

/-- Giving buffers back takes no steps. -/
theorem takesSteps_release {α : Type} (moves : before.Moves held pipeline .none)
    (handles : List Handle) (value : α) :
    ((Action.release handles >>= fun _ => pure value : Action Pipeline α).start
      pipeline).TakesSteps worker? before held := by
  unfold Action.release
  induction referencesOf handles generalizing before held pipeline with
  | nil => exact moves
  | cons native natives ih => exact ⟨.none, moves, fun _ after _ => ih (.none after .none)⟩

/-- Nor does it before a step, which finds what is spared in the meantime. -/
theorem takesSteps_after_release {α : Type} {kept : Pipeline → Prop} {next : Action Pipeline α}
    (spares : ∀ before after : Pipeline, before.Spared worker? after → kept before → kept after)
    (further : ∀ pipeline, kept pipeline → (next.start pipeline).TakesSteps worker? pipeline .none)
    (found : kept pipeline) (handles : List Handle) :
    ((Action.release handles >>= fun _ => next : Action Pipeline α).start
      pipeline).TakesSteps worker? pipeline .none := by
  unfold Action.release
  induction referencesOf handles generalizing pipeline with
  | nil => exact further pipeline found
  | cons native natives ih =>
      exact ⟨.none, .none pipeline .none, fun _ after spared => ih (spares _ _ spared found)⟩

theorem enqueue_begun {display : DisplayId} {config : CaptureConfig} {buffer : Handle}
    {listener : CaptureListener} {ticket : CaptureTicket}
    (queued : pipeline.enqueue display config buffer listener = (some ticket, after)) :
    after.sessions[ticket.session]?.isSome := by
  unfold enqueue at queued
  dsimp only at queued
  split at queued
  · cases queued
  · split at queued
    · cases queued
    · cases queued
      rw [sessions_putSession, if_pos rfl]
      rfl

theorem takesSteps_modifyGet {α β : Type} {change : Pipeline → β × Pipeline}
    {next : β → Action Pipeline α}
    (further : ((next (change pipeline).1).start (change pipeline).2).TakesSteps worker? before
      held) :
    ((modifyGet change >>= next : Action Pipeline α).start pipeline).TakesSteps worker? before held :=
  further

section Answer

variable {ticket : CaptureTicket}

theorem moves_accept (begun : pipeline.sessions[ticket.session]?.isSome) :
    pipeline.Moves (some ticket) (pipeline.accept ticket) .none := by
  obtain ⟨session, found⟩ := Option.isSome_iff_exists.mp begun
  refine .inr fun others => ⟨session.display, .accepted ticket, trivial, ?_⟩
  have step := @CaptureState.Step.accept ⟨pipeline, ticket :: others⟩ ticket session
    (List.mem_cons_self ..) found
  rwa [List.erase_cons_head] at step

theorem moves_refuse (begun : pipeline.sessions[ticket.session]?.isSome) :
    pipeline.Moves (some ticket) (pipeline.refuse ticket).2 .none := by
  obtain ⟨session, found⟩ := Option.isSome_iff_exists.mp begun
  refine .inr fun others => ⟨session.display, .refused ticket, trivial, ?_⟩
  have step := @CaptureState.Step.refuse ⟨pipeline, ticket :: others⟩ ticket session
    (List.mem_cons_self ..) found
  rwa [List.erase_cons_head] at step

end Answer

theorem post_takesSteps (pipeline : Pipeline) (display : DisplayId) (config : CaptureConfig)
    (buffer : NativeHandle) (listener : CaptureListener) :
    ((post display config buffer listener).start pipeline).TakesSteps none pipeline none := by
  unfold post
  cases identity : buffer.id.isAnonymous with
  | true => exact .none pipeline .none
  | false =>
      refine ⟨.none, .none pipeline .none, ?_⟩
      intro reply imported _
      cases reply with
      | error reason => exact .none imported .none
      | ok _ =>
          refine takesSteps_modifyGet ?_
          cases queued : imported.enqueue display config (.owning buffer) listener with
          | mk ticket? after =>
              cases ticket? with
              | none =>
                  have moves : imported.Moves .none after .none :=
                    .inr fun others => ⟨display, .declined, trivial, .decline queued⟩
                  exact takesSteps_release moves [.owning buffer] _
              | some ticket =>
                  have identified : CaptureEvent.Identified
                      (.queued ticket ⟨ticket.number, .owning buffer, listener, config, false, none⟩) :=
                    identity
                  refine ⟨some ticket, .inr fun others => ⟨display, _, identified, .queue queued⟩, ?_⟩
                  intro answer told spared
                  have begun := spared.begun ticket.session (enqueue_begun queued)
                  cases answer with
                  | ok _ => exact moves_accept begun
                  | error status => exact takesSteps_release (moves_refuse begun) _ _

theorem work_takesSteps (pipeline : Pipeline) (id : SessionId) (worker : Nat) :
    ((work id worker).start pipeline).TakesSteps (some (id, worker)) pipeline none := by
  have idle : ((pure () : Action Pipeline Unit).start pipeline).TakesSteps (some (id, worker))
      pipeline none := .none pipeline .none
  rw [work, Action.start_bind, Action.start_get, Run.done_andThen]
  cases found : pipeline.sessions[id]? with
  | none => exact idle
  | some session =>
      cases entry : session.workers[worker]? with
      | none => simpa only [entry] using idle
      | some doing =>
          cases doing with
          | asleep => simpa only [entry] using idle
          | awake =>
              simp only [entry]
              exact .inr fun others => ⟨session.display, .looked id worker, trivial, .look found entry⟩
          | notifying request =>
              simp only [entry]
              refine ⟨.none, .none pipeline .none, ?_⟩
              intro _ told spared
              have notifying := spared.inHand id worker request rfl ⟨session, found, entry⟩
              refine takesSteps_after_release (fun _ _ spared kept => spared.inHand _ _ _ rfl kept)
                ?_ notifying _
              rintro freed ⟨kept, located, inHand⟩
              exact .inr fun others => ⟨kept.display, .told id request, trivial, .tell located inHand⟩

end Pipeline

namespace CaptureState

variable {state after : CaptureState} {display : DisplayId} {event : CaptureEvent}

theorem begun_putSession {pipeline : Pipeline} {other : SessionId}
    (begun : pipeline.sessions[other]?.isSome) (id : SessionId) (session : CaptureSession) :
    (pipeline.putSession id session).sessions[other]?.isSome := by
  rw [Pipeline.sessions_putSession]
  split
  · rfl
  · exact begun

theorem begun_modifySession {pipeline : Pipeline} {other : SessionId}
    (begun : pipeline.sessions[other]?.isSome) (id : SessionId)
    (change : CaptureSession → CaptureSession) :
    (pipeline.modifySession id change).sessions[other]?.isSome := by
  unfold Pipeline.modifySession
  split
  · exact begun_putSession begun id _
  · exact begun

theorem begun_opened {pipeline : Pipeline} {id : SessionId} (sound : pipeline.Sound)
    (begun : pipeline.sessions[id]?.isSome) (display : DisplayId) :
    (pipeline.opened display).sessions[id]?.isSome := by
  obtain ⟨session, found⟩ := Option.isSome_iff_exists.mp begun
  have kept := Pipeline.openSession_kept sound display found
  rw [Pipeline.opened, kept]
  rfl

theorem Step.begun (step : Step state display event after) (sound : state.pipeline.Sound)
    {id : SessionId} (begun : state.pipeline.sessions[id]?.isSome) :
    after.pipeline.sessions[id]?.isSome := by
  cases step with
  | queue queued =>
      obtain ⟨session, _, _, _, _, rfl⟩ := Pipeline.enqueue_some sound queued
      exact begun_putSession (begun_opened sound begun display) _ _
  | decline declined =>
      obtain rfl := Pipeline.enqueue_none sound declined
      exact begun_opened sound begun display
  | accept waits found => exact begun_modifySession begun _ _
  | refuse waits found =>
      rw [Pipeline.refuse_found found]
      exact begun_putSession begun _ _
  | complete completed =>
      obtain ⟨_, _, _, _, _, _, rfl⟩ := Pipeline.complete_ok completed
      exact begun_putSession begun _ _
  | remove =>
      cases entry : state.pipeline.current[display]? with
      | none => rwa [Pipeline.removeDisplay_absent entry]
      | some shown =>
          rw [Pipeline.removeDisplay_found entry]
          exact begun_modifySession begun shown .abandon
  | look found awake => exact begun_modifySession begun _ _
  | tell found notifying => exact begun_modifySession begun _ _

/-- A worker's request stays in its hand through every step that is not its own. -/
theorem Step.notifying (step : Step state display event after) (sound : state.pipeline.Sound)
    {id : SessionId} {worker : Nat} {request : CaptureRequest}
    (own : state.pipeline.Notifying id worker request) (silent : ∀ heard, event ≠ .told id heard) :
    after.pipeline.Notifying id worker request := by
  have stays {after : Pipeline} (undisturbed : Pipeline.Undisturbed none state.pipeline after) :
      after.Notifying id worker request := undisturbed id worker request nofun own
  cases step with
  | queue queued => exact stays (.enqueue_eq sound queued)
  | decline declined => exact stays (.enqueue_eq sound declined)
  | accept waits found => exact stays (.modifySession fun _ _ _ _ _ inHand => .accept inHand _)
  | refuse waits found => exact stays (.refuse _ _)
  | complete completed => exact stays (.complete completed)
  | remove => exact stays (.removeDisplay _ display)
  | look found awake =>
      refine stays (.modifySession fun kept located place request _ inHand => ?_)
      rw [found] at located
      cases located
      have single := ((sound.staffed found).look_cases awake).1
      rw [(((sound.staffed found).resume_eq inHand)).1] at single
      cases single
  | @tell teller place session heard found notifying =>
      obtain ⟨kept, located, inHand⟩ := own
      have other : teller ≠ id := by
        rintro rfl
        exact silent heard rfl
      rw [Pipeline.modifySession_found found]
      refine ⟨kept, ?_, inHand⟩
      rw [Pipeline.sessions_putSession, if_neg other, located]

/-- Every step but its own spares an operation. -/
theorem Step.spared {worker? : Option (SessionId × Nat)}
    (step : Step state display event after) (sound : state.pipeline.Sound)
    (silent : ∀ id worker, worker? = some (id, worker) → ∀ heard, event ≠ .told id heard) :
    state.pipeline.Spared worker? after.pipeline where
  begun _ begun := step.begun sound begun
  inHand id worker _ own inHand := step.notifying sound inHand (silent id worker own)

end CaptureState
end Scanout
