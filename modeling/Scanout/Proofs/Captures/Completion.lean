import Scanout.Proofs.Captures.Attendance
import Scanout.Proofs.Captures.Operations
import Scanout.Proofs.Captures.Order

/-!
How captures come by their outcomes. A completion finds the one request that it can be about, or it
is stale. A request gets the first outcome that the device, or the loss of its display, gives it
after it was queued, keeps it, and its listener is told of that outcome.
-/

namespace Scanout

open CaptureRequest

namespace CaptureRequest

variable {request : CaptureRequest}

theorem status_finish (status : CaptureStatus) (request : CaptureRequest) :
    (request.finish status).status = request.status.or (some status) := by
  unfold finish
  cases settled : request.status <;> simp [settled]

theorem posted_finish (status : CaptureStatus) (request : CaptureRequest) :
    (request.finish status).posted = request.posted := by
  unfold finish
  split <;> rfl

theorem finish_of_settled {status : CaptureStatus} (settled : request.status ≠ none) :
    request.finish status = request := by
  unfold finish
  rw [if_neg (by simpa using settled)]

theorem buffer_of_posted {other : CaptureRequest} (same : request.posted = other.posted) :
    request.buffer = other.buffer := (CaptureRequest.mk.inj same).2.1

theorem number_of_posted {other : CaptureRequest} (same : request.posted = other.posted) :
    request.number = other.number := (CaptureRequest.mk.inj same).1

end CaptureRequest

/-- The outcome that the event gives to requests for the buffer, on the display. -/
def CaptureEvent.outcome? (display : DisplayId) (buffer : BufferId) :
    CaptureEvent → Option CaptureStatus
  | completed shown code named =>
      if shown = display ∧ named = buffer then some (if code = 0 then .success else .failure)
      else none
  | removed gone => if gone = display then some .failure else none
  | queued .. | declined | accepted _ | refused _ | looked .. | told .. => none

namespace CaptureSession

variable {session before : CaptureSession} {request : CaptureRequest} {event : CaptureEvent}
  {worker : Nat}

/-- The requests that listeners are still to be told of. -/
def untold (session : CaptureSession) : List CaptureRequest := session.inHand ++ session.queue

/-- The requests that are left were there before the event. One that had no outcome has the one that
the event gives. -/
def Carries (before : CaptureSession) (event : CaptureEvent) (session : CaptureSession) : Prop :=
  ∀ request ∈ session.untold, ∃ origin ∈ before.untold, request.posted = origin.posted ∧
    request.status = origin.status.or (event.outcome? before.display origin.buffer.id)

/-- The event gives no outcome to the request. -/
def Spares (display : DisplayId) (event : CaptureEvent) (request : CaptureRequest) : Prop :=
  request.status = none → event.outcome? display request.buffer.id = none

theorem or_of_spares {display : DisplayId} (spares : Spares display event request) :
    request.status = request.status.or (event.outcome? display request.buffer.id) := by
  cases settled : request.status with
  | none => rw [spares settled, Option.or_none]
  | some status => rfl

theorem Carries.of_subset (subset : session.untold ⊆ before.untold)
    (spares : ∀ request ∈ before.untold, Spares before.display event request) :
    before.Carries event session := by
  intro request member
  have among := subset member
  exact ⟨request, among, rfl, or_of_spares (spares request among)⟩

theorem Carries.of_queue {change : CaptureRequest → CaptureRequest} (hands : session.inHand = before.inHand)
    (queue : session.queue = before.queue.map change)
    (spares : ∀ request ∈ before.inHand, Spares before.display event request)
    (posted : ∀ request, (change request).posted = request.posted)
    (answered : ∀ request ∈ before.queue, (change request).status =
      request.status.or (event.outcome? before.display request.buffer.id)) :
    before.Carries event session := by
  intro request member
  rw [untold, hands, queue] at member
  rcases List.mem_append.mp member with inHand | queued
  · exact ⟨request, List.mem_append_left _ inHand, rfl, or_of_spares (spares request inHand)⟩
  · obtain ⟨origin, among, rfl⟩ := List.mem_map.mp queued
    exact ⟨origin, List.mem_append_right _ among, posted origin, answered origin among⟩

theorem untold_look (staffed : session.Staffed) (awake : session.workers[worker]? = some .awake) :
    (session.look worker).untold = session.untold := by
  obtain ⟨single, ⟨queue, ended⟩ | ⟨front, rest, queue, ⟨_, taken⟩ | ⟨_, slept⟩⟩⟩ :=
    staffed.look_cases awake
  · rw [ended, untold, untold, inHand, inHand, single]
    rfl
  · rw [taken, untold, untold, inHand, inHand, single, queue]
    rfl
  · rw [slept, untold, untold, inHand, inHand, single]
    rfl

theorem untold_resume (staffed : session.Staffed) (notifying : session.Notifying worker request) :
    session.untold = request :: (session.resume worker).untold := by
  obtain ⟨single, resumed⟩ := staffed.resume_eq notifying
  rw [resumed, untold, untold, inHand, inHand, single]
  rfl

theorem Attended.nodup (attended : session.Attended) :
    (session.queue.map fun request => request.buffer.id).Nodup := List.pairwise_map.mpr attended.apart

/-- No other request is for the same buffer. -/
theorem Attended.map_alone (attended : session.Attended) (member : request ∈ session.queue)
    (pending : request.status = none) (status : CaptureStatus) :
    (session.queue.map fun other =>
        if other.buffer.id = request.buffer.id then other.finish status else other) =
      session.queue.map fun other =>
        if other = request then { other with status := some status } else other := by
  apply List.map_congr_left
  intro other among
  by_cases same : other = request
  · simp [same, finish, pending]
  · have different : other.buffer.id ≠ request.buffer.id := fun named =>
      same (List.inj_on_of_nodup_map attended.nodup among member named)
    rw [if_neg same, if_neg different]

end CaptureSession

open CaptureSession

namespace Pipeline

variable {before base pipeline after : Pipeline} {event : CaptureEvent} {id : SessionId}
  {session replaced : CaptureSession} {request : CaptureRequest} {display : DisplayId}

/-- Where a request comes from that is there after an event. It was queued just now, or it was there
before; if it had no outcome then, it has the one that the event gives. -/
inductive Origin (before : Pipeline) (event : CaptureEvent) (id : SessionId) (display : DisplayId)
    (request : CaptureRequest) : Prop where
  | queued (now : event = .queued ⟨id, request.number⟩ request) (fresh : request.posted = request) :
      Origin before event id display request
  | kept {session origin} (found : before.sessions[id]? = some session)
      (about : session.display = display) (member : origin ∈ session.untold)
      (same : request.posted = origin.posted)
      (answered : request.status = origin.status.or (event.outcome? display origin.buffer.id)) :
      Origin before event id display request

def Originates (before : Pipeline) (event : CaptureEvent) (after : Pipeline) : Prop :=
  ∀ (id : SessionId) (session : CaptureSession), after.sessions[id]? = some session →
    ∀ request ∈ session.untold, Origin before event id session.display request

theorem Origin.unchanged (found : before.sessions[id]? = some session)
    (member : request ∈ session.untold) (spares : Spares session.display event request) :
    Origin before event id session.display request :=
  .kept found rfl member rfl (or_of_spares spares)

theorem Originates.putSession
    (others : ∀ (other : SessionId) (kept : CaptureSession), id ≠ other →
      base.sessions[other]? = some kept → ∀ request ∈ kept.untold,
        Origin before event other kept.display request)
    (own : ∀ request ∈ session.untold, Origin before event id session.display request) :
    before.Originates event (base.putSession id session) := by
  intro other kept found request member
  rw [sessions_putSession] at found
  by_cases named : id = other
  · rw [if_pos named] at found
    cases found
    rw [← named]
    exact own request member
  · rw [if_neg named] at found
    exact others other kept named found request member

theorem Originates.replace (found : before.sessions[id]? = some replaced)
    (same : session.display = replaced.display) (carries : replaced.Carries event session)
    (others : ∀ (other : SessionId) (kept : CaptureSession), id ≠ other →
      before.sessions[other]? = some kept → ∀ request ∈ kept.untold,
        Spares kept.display event request) :
    before.Originates event (before.putSession id session) := by
  apply Originates.putSession
  · intro other kept different located request member
    exact .unchanged located member (others other kept different located request member)
  · intro request member
    obtain ⟨origin, among, alike, answered⟩ := carries request member
    rw [same]
    exact .kept found rfl among alike answered

/-- The event is not about outcomes. -/
def Silent (event : CaptureEvent) : Prop := ∀ display buffer, event.outcome? display buffer = none

/-- Opening a session adds no requests. -/
theorem originates_opened (silent : Silent event) (display : DisplayId) :
    pipeline.Originates event (pipeline.opened display) := by
  intro other kept found request member
  unfold Pipeline.opened at found
  obtain ⟨_, _, opened⟩ | ⟨_, opened⟩ := openSession_cases pipeline display
  · rw [opened] at found
    exact .unchanged found member fun _ => silent _ _
  · rw [opened, Table.getElem?_insert] at found
    by_cases named : (⟨pipeline.nextSession⟩ : SessionId) = other
    · rw [if_pos named] at found
      cases found
      cases member
    · rw [if_neg named] at found
      exact .unchanged found member fun _ => silent _ _

theorem originates_enqueue (sound : pipeline.Sound) {config : CaptureConfig} {buffer : Handle}
    {listener : CaptureListener} {ticket : CaptureTicket}
    (queued : pipeline.enqueue display config buffer listener = (some ticket, after)) :
    pipeline.Originates (.queued ticket { number := ticket.number, buffer, listener, config })
      after := by
  obtain ⟨session, rfl, found, rfl, unheld, rfl⟩ := enqueue_some sound queued
  let posted : CaptureRequest :=
    { number := (pipeline.ticket session.display).number, buffer, listener, config }
  have opened : pipeline.Originates (.queued (pipeline.ticket session.display) posted)
      (pipeline.opened session.display) := originates_opened (fun _ _ => rfl) session.display
  apply Originates.putSession
  · intro other kept _ located
    exact opened other kept located
  · intro request member
    rcases List.mem_append.mp member with inHand | queued
    · exact opened _ session found request (List.mem_append_left _ inHand)
    · rcases List.mem_append.mp queued with before | last
      · exact opened _ session found request (List.mem_append_right _ before)
      · obtain rfl := List.mem_singleton.mp last
        exact .queued rfl rfl

theorem originates_modifySession {change : CaptureSession → CaptureSession}
    (silent : Silent event) (found : pipeline.sessions[id]? = some session)
    (same : (change session).display = session.display)
    (carries : session.Carries event (change session)) :
    pipeline.Originates event (pipeline.modifySession id change) := by
  rw [modifySession_found found]
  exact .replace found same carries fun _ _ _ _ _ _ _ => silent _ _

section Outcomes

variable (attended : pipeline.Attended) (taken : pipeline.Taken) (sound : pipeline.Sound)

include attended taken

/-- A request without an outcome is in the session that its display has. -/
theorem current_of_pending (found : pipeline.sessions[id]? = some session)
    (member : request ∈ session.untold) (pending : request.status = none) :
    pipeline.current[session.display]? = some id := by
  rcases List.mem_append.mp member with inHand | queued
  · have settled := isSome_of_isReady (taken id session found request inHand)
    rw [pending] at settled
    cases settled
  · exact attended.current found ⟨request, queued, pending⟩

omit attended in
theorem spares_inHand (found : pipeline.sessions[id]? = some session) :
    ∀ request ∈ session.inHand, Spares session.display event request := by
  intro request inHand pending
  have settled := isSome_of_isReady (taken id session found request inHand)
  rw [pending] at settled
  cases settled

/-- What is about a display's session gives no outcomes elsewhere. -/
theorem spares_elsewhere (shown : pipeline.current[display]? = some id)
    (about : ∀ other buffer, other ≠ display → event.outcome? other buffer = none)
    (other : SessionId) (kept : CaptureSession) (different : id ≠ other)
    (found : pipeline.sessions[other]? = some kept) (request : CaptureRequest)
    (member : request ∈ kept.untold) : Spares kept.display event request := by
  intro pending
  have current := current_of_pending attended taken found member pending
  apply about
  rintro rfl
  rw [shown] at current
  exact different (Option.some.inj current)

include sound

theorem originates_complete {code : Int} {buffer : BufferId}
    (completed : pipeline.complete display code buffer = .ok after) :
    pipeline.Originates (.completed display code buffer) after := by
  obtain ⟨id, session, completion, shown, found, outcome, rfl⟩ := complete_ok completed
  obtain rfl := sound.display_eq shown found
  obtain ⟨request, member, rfl, pending⟩ := pending_of_complete outcome
  rw [(attended.attended found).complete_pending member pending] at outcome
  cases outcome
  refine .replace found rfl ?_ (spares_elsewhere attended taken shown ?_)
  · refine .of_queue (inHand_wakeAll _) rfl (spares_inHand taken found) ?_ ?_
    · intro other
      split
      · exact posted_finish _ other
      · rfl
    · intro other _
      by_cases named : other.buffer.id = request.buffer.id
      · simp [named, status_finish, CaptureEvent.outcome?, CaptureStatus.ofCode]
      · simp [named, Ne.symm named, CaptureEvent.outcome?]
  · intro other buffer different
    exact if_neg fun same => different same.1.symm

theorem originates_remove (display : DisplayId) :
    pipeline.Originates (.removed display) (pipeline.removeDisplay display) := by
  cases entry : pipeline.current[display]? with
  | none =>
      rw [removeDisplay_absent entry]
      intro id session found request member
      refine .unchanged found member fun pending => if_neg ?_
      rintro rfl
      have shown := current_of_pending attended taken found member pending
      rw [entry] at shown
      cases shown
  | some id =>
      obtain ⟨session, found, rfl⟩ := sound.located entry
      have replaced : pipeline.Originates (.removed session.display)
          (pipeline.putSession id session.abandon) := by
        refine .replace found rfl ?_ (spares_elsewhere attended taken entry ?_)
        · refine .of_queue session.line_abandon.2 rfl (spares_inHand taken found)
            (posted_finish .failure) fun request _ => ?_
          rw [status_finish, CaptureEvent.outcome?, if_pos rfl]
        · exact fun other buffer different => if_neg (Ne.symm different)
      rw [removeDisplay_found entry, modifySession_found found]
      exact replaced

end Outcomes
end Pipeline

namespace CaptureState

variable {state after : CaptureState} {display : DisplayId} {event : CaptureEvent}
  {events : List CaptureEvent} {id : SessionId} {session : CaptureSession}

open Pipeline

theorem Step.originates (step : Step state display event after) (sound : state.pipeline.Sound)
    (attended : state.pipeline.Attended) (taken : state.pipeline.Taken) :
    state.pipeline.Originates event after.pipeline := by
  cases step with
  | queue queued => exact originates_enqueue sound queued
  | decline declined =>
      obtain rfl := enqueue_none sound declined
      exact originates_opened (fun _ _ => rfl) display
  | @accept ticket session waits found =>
      apply originates_modifySession (fun _ _ => rfl) found rfl
      refine .of_queue (session.inHand_accept _) rfl (fun _ _ _ => rfl) ?_ ?_
      · intro request
        split <;> rfl
      · intro request _
        rw [show CaptureEvent.outcome? _ _ (.accepted ticket) = none from rfl, Option.or_none]
        split <;> rfl
  | @refuse ticket session waits found =>
      rw [refuse_found found]
      refine .replace found rfl (.of_subset ?_ fun _ _ _ => rfl) fun _ _ _ _ _ _ _ => rfl
      rw [untold, inHand_withdraw]
      apply List.append_subset.mpr
      constructor
      · exact List.subset_append_left _ _
      · exact List.Subset.trans List.eraseP_subset (List.subset_append_right _ _)
  | complete completed => exact originates_complete attended taken sound completed
  | remove => exact originates_remove attended taken sound display
  | look found awake =>
      apply originates_modifySession (fun _ _ => rfl) found (display_look _ _)
      refine .of_subset ?_ fun _ _ _ => rfl
      rw [untold_look (sound.staffed found) awake]
      exact List.Subset.refl _
  | tell found notifying =>
      apply originates_modifySession (fun _ _ => rfl) found rfl
      refine .of_subset ?_ fun _ _ _ => rfl
      rw [untold_resume (sound.staffed found) notifying]
      exact List.subset_cons_self _ _

/-- Every request was queued, and has the first outcome that was given to it since. -/
def Recorded (events : List CaptureEvent) (state : CaptureState) : Prop :=
  ∀ (id : SessionId) (session : CaptureSession), state.pipeline.sessions[id]? = some session →
    ∀ request ∈ session.untold, ∃ earlier later,
      events = earlier ++ .queued ⟨id, request.number⟩ request.posted :: later ∧
        request.status = later.findSome? (·.outcome? session.display request.buffer.id)

theorem Recorded.append (recorded : Recorded events state)
    (originates : state.pipeline.Originates event after.pipeline) :
    Recorded (events ++ [event]) after := by
  intro id session found request member
  cases originates id session found request member with
  | queued now fresh =>
      refine ⟨events, [], by rw [now, fresh], ?_⟩
      rw [← fresh]
      rfl
  | @kept _ origin before about among same answered =>
      obtain ⟨earlier, later, split, status⟩ := recorded id _ before origin among
      have buffer := buffer_of_posted same
      refine ⟨earlier, later ++ [event], ?_, ?_⟩
      · rw [split, same, number_of_posted same, List.append_assoc, List.cons_append]
      · rw [answered, status, about, buffer, List.findSome?_append]
        simp

theorem Reaches.recorded (reached : Reaches events state) : Recorded events state := by
  induction reached with
  | start =>
      intro id session found
      simp at found
  | step reached next ih =>
      exact ih.append (next.originates reached.sound reached.attended reached.inOrder.taken)

theorem Recorded.mem_queuedIn (recorded : Recorded events state)
    (found : state.pipeline.sessions[id]? = some session) {request : CaptureRequest}
    (member : request ∈ session.untold) : request.posted ∈ CaptureEvent.queuedIn id events := by
  obtain ⟨earlier, later, rfl, -⟩ := recorded id session found request member
  simp [CaptureEvent.queuedIn]

/-- No request has the number of one that is queued later. -/
theorem Step.unknown {ticket : CaptureTicket} {request : CaptureRequest}
    (step : Step state display (.queued ticket request) after) (reached : Reaches events state)
    (id : SessionId) :
    request.number ∉ (CaptureEvent.queuedIn id events).map CaptureRequest.number := by
  cases step with
  | queue queued =>
      obtain ⟨_, rfl, -⟩ := enqueue_some reached.sound queued
      exact reached.inOrder.unknown id

/-- A step leaves the outcome of a request as it is, wherever the request goes. -/
theorem Step.lasting (step : Step state display event after) (reached : Reaches events state)
    {left : CaptureSession} {request heir : CaptureRequest} {status : CaptureStatus}
    (found : state.pipeline.sessions[id]? = some session) (member : request ∈ session.untold)
    (settled : request.status = some status) (remains : after.pipeline.sessions[id]? = some left)
    (among : heir ∈ left.untold) (same : heir.number = request.number) :
    heir.status = some status := by
  have originates := step.originates reached.sound reached.attended reached.inOrder.taken
  cases originates id left remains heir among with
  | queued now =>
      subst now
      refine absurd (List.mem_map.mpr ⟨request.posted, ?_, ?_⟩) (step.unknown reached id)
      · exact reached.recorded.mem_queuedIn found member
      · exact same.symm
  | kept before about origin alike answered =>
      rw [found] at before
      cases before
      have number := (number_of_posted alike).symm.trans same
      obtain rfl := List.inj_on_of_nodup_map (reached.inOrder.untold_nodup found) origin member number
      rw [answered, settled]
      rfl

end CaptureState

namespace Pipeline

variable {pipeline : Pipeline} {display : DisplayId} {id : SessionId} {session : CaptureSession}

/-- What a completion comes to. It gives an outcome to the one request for the buffer that waits in
the session of the display, or there is none. -/
inductive Completes (pipeline : Pipeline) (display : DisplayId) (code : Int) (buffer : BufferId) :
    Except Status Pipeline → Prop where
  | given {id session request} (shown : pipeline.current[display]? = some id)
      (found : pipeline.sessions[id]? = some session) (member : request ∈ session.queue)
      (named : request.buffer.id = buffer) (pending : request.status = none) :
      Completes pipeline display code buffer (.ok (pipeline.putSession id
        (wakeAll { session with queue := session.queue.map fun other =>
          if other = request then
            { other with status := some (if code = 0 then .success else .failure) }
          else other })))
  | stale (settled : ∀ id session, pipeline.current[display]? = some id →
      pipeline.sessions[id]? = some session → ∀ request ∈ session.queue,
        request.buffer.id = buffer → request.status ≠ none) :
      Completes pipeline display code buffer (.error .badParameter)

theorem Attended.completes (attended : pipeline.Attended) (display : DisplayId) (code : Int)
    (buffer : BufferId) :
    pipeline.Completes display code buffer (pipeline.complete display code buffer) := by
  cases shown : pipeline.current[display]? with
  | none =>
      simp only [complete, shown]
      refine .stale fun id session other => ?_
      rw [shown] at other
      cases other
  | some id =>
      cases found : pipeline.sessions[id]? with
      | none =>
          simp only [complete, shown, found, Option.bind_none]
          refine .stale fun other session named located => ?_
          rw [shown] at named
          cases named
          rw [found] at located
          cases located
      | some session =>
          have kept := attended.attended found
          cases outcome : session.complete buffer (.ofCode code) with
          | some completion =>
              simp only [complete, shown, found, Option.bind_some, outcome]
              obtain ⟨request, member, rfl, pending⟩ := pending_of_complete outcome
              rw [kept.complete_pending member pending, kept.map_alone member pending] at outcome
              cases outcome
              exact .given shown found member rfl pending
          | none =>
              simp only [complete, shown, found, Option.bind_some, outcome]
              refine .stale fun other located named there request member same pending => ?_
              rw [shown] at named
              cases named
              rw [found] at there
              cases there
              subst buffer
              rw [kept.complete_pending member pending] at outcome
              cases outcome

/-- Every request on the display has an outcome then. Sessions that it had before are not changed, as
all of theirs have one. -/
theorem Attended.removes (attended : pipeline.Attended)
    (sound : pipeline.Sound) (display : DisplayId) (found : pipeline.sessions[id]? = some session) :
    ∃ left, (pipeline.removeDisplay display).sessions[id]? = some left ∧
      left.inHand = session.inHand ∧
      left.queue = session.queue.map fun request =>
        if session.display = display then request.finish .failure else request := by
  by_cases shown : pipeline.current[display]? = some id
  · obtain rfl := sound.display_eq shown found
    refine ⟨session.abandon, ?_, session.line_abandon.2, ?_⟩
    · rw [removeDisplay_found shown, modifySession_found found]
      exact (sessions_putSession _ _ _ _).trans (if_pos rfl)
    · simp only [if_true]
      rfl
  · refine ⟨session, ?_, rfl, ?_⟩
    · cases entry : pipeline.current[display]? with
      | none => rwa [removeDisplay_absent entry]
      | some other =>
          obtain ⟨replaced, located, -⟩ := sound.located entry
          rw [removeDisplay_found entry, modifySession_found located]
          refine (sessions_putSession _ _ _ _).trans ((if_neg ?_).trans found)
          rintro rfl
          exact shown entry
    · -- If the display had been its own, the session would have ended before.
      refine ((List.map_congr_left fun request member => ?_).trans (List.map_id _)).symm
      by_cases about : session.display = display
      · rw [if_pos about]
        refine finish_of_settled fun pending => shown ?_
        rw [← about]
        exact attended.current found ⟨request, member, pending⟩
      · rw [if_neg about]
        rfl

end Pipeline

namespace CaptureState

variable {state : CaptureState} {events : List CaptureEvent}

/-- How requests come by their outcomes, when these events have led to the state. -/
structure Targeted (events : List CaptureEvent) (state : CaptureState) : Prop where
  apart {id : SessionId} {session : CaptureSession}
    (found : state.pipeline.sessions[id]? = some session) :
    (session.queue.map fun request => request.buffer.id).Nodup ∧
      ∀ request ∈ session.queue, request.buffer.id.isAnonymous = false
  completes (display : DisplayId) (code : Int) (buffer : BufferId) :
    state.pipeline.Completes display code buffer (state.pipeline.complete display code buffer)
  removes (display : DisplayId) {id : SessionId} {session : CaptureSession}
    (found : state.pipeline.sessions[id]? = some session) :
    ∃ left, (state.pipeline.removeDisplay display).sessions[id]? = some left ∧
      left.inHand = session.inHand ∧
      left.queue = session.queue.map fun request =>
        if session.display = display then request.finish .failure else request
  first {id : SessionId} {session : CaptureSession}
    (found : state.pipeline.sessions[id]? = some session) {request : CaptureRequest}
    (member : request ∈ session.untold) : ∃ earlier later,
      events = earlier ++ .queued ⟨id, request.number⟩ request.posted :: later ∧
        request.status = later.findSome? (·.outcome? session.display request.buffer.id)
  lasting {display : DisplayId} {event : CaptureEvent} {after : CaptureState}
    (step : Step state display event after) {id : SessionId} {session left : CaptureSession}
    (found : state.pipeline.sessions[id]? = some session)
    (remains : after.pipeline.sessions[id]? = some left) {request heir : CaptureRequest}
    (member : request ∈ session.untold) (among : heir ∈ left.untold)
    (same : heir.number = request.number) {status : CaptureStatus}
    (settled : request.status = some status) : heir.status = some status
  heard {id : SessionId} {session : CaptureSession} {worker : Nat} {request : CaptureRequest}
    (found : state.pipeline.sessions[id]? = some session)
    (notifying : session.Notifying worker request) : ∃ status, request.status = some status ∧
      ∃ resume, (Pipeline.work id worker).start state.pipeline =
        .ask (.captured session.display request.listener status request.buffer.native)
          state.pipeline resume

theorem Reaches.identified (reached : Reaches events state)
    (identified : ∀ event ∈ events, event.Identified) {id : SessionId} {session : CaptureSession}
    (found : state.pipeline.sessions[id]? = some session) {request : CaptureRequest}
    (member : request ∈ session.untold) : request.buffer.id.isAnonymous = false := by
  obtain ⟨earlier, later, rfl, -⟩ := reached.recorded id session found request member
  exact identified (.queued ⟨id, request.number⟩ request.posted) (by simp)

theorem Reaches.heard (reached : Reaches events state) {id : SessionId} {session : CaptureSession}
    {worker : Nat} {request : CaptureRequest}
    (found : state.pipeline.sessions[id]? = some session)
    (notifying : session.Notifying worker request) : ∃ status, request.status = some status ∧
      ∃ resume, (Pipeline.work id worker).start state.pipeline =
        .ask (.captured session.display request.listener status request.buffer.native)
          state.pipeline resume := by
  have ready := reached.inOrder.taken id session found request (mem_inHand notifying)
  have settled : request.status = some (request.status.getD .failure) := by
    obtain ⟨status, settled⟩ := Option.isSome_iff_exists.mp (isSome_of_isReady ready)
    rw [settled, Option.getD_some]
  have entry : session.workers[worker]? = some (.notifying request) := notifying
  rw [Pipeline.work, Action.start_bind, Action.start_get, Run.done_andThen]
  simp only [found, entry]
  exact ⟨_, settled, _, rfl⟩

/-- Whatever posts, completions, removals and workers have done, completions find their requests.
Posts and workers take the steps by which states are reached, and never queue a buffer without an
identity. -/
theorem completions_targeted (reached : Reaches events state)
    (identified : ∀ event ∈ events, event.Identified) :
    state.Targeted events ∧
      (∀ (pipeline : Pipeline) (display : DisplayId) (config : CaptureConfig)
        (buffer : NativeHandle) (listener : CaptureListener),
        ((Pipeline.post display config buffer listener).start pipeline).TakesSteps none pipeline
          none) ∧
      ∀ (pipeline : Pipeline) (id : SessionId) (worker : Nat),
        ((Pipeline.work id worker).start pipeline).TakesSteps (some (id, worker)) pipeline none := by
  refine ⟨?_, Pipeline.post_takesSteps, Pipeline.work_takesSteps⟩
  constructor
  case apart =>
    intro id session found
    refine ⟨(reached.attended.attended found).nodup, fun request member => ?_⟩
    exact reached.identified identified found (List.mem_append_right _ member)
  case completes => exact reached.attended.completes
  case removes => exact fun display id session => reached.attended.removes reached.sound display
  case first =>
    intro id session found request member
    exact reached.recorded id session found request member
  case lasting =>
    intro display event after step id session left found remains request heir member among same
      status settled
    exact step.lasting reached found member settled remains among same
  case heard => exact reached.heard

/-- A capture completes before its display is removed. It stays a success, and a second completion is
stale. -/
theorem completions_targeted_removed :
    ∃ (events : List CaptureEvent) (state : CaptureState) (session : CaptureSession)
      (request : CaptureRequest), Reaches events state ∧ state.Targeted events ∧
        .removed ⟨0⟩ ∈ events ∧ state.pipeline.sessions[(⟨0⟩ : SessionId)]? = some session ∧
        request ∈ session.untold ∧ request.status = some .success ∧
        state.pipeline.Completes ⟨0⟩ 1 ⟨7⟩ (.error .badParameter) := by
  have queued := Reaches.start.step (@Step.queue {} ⟨0⟩ {} (.owning ⟨⟨7⟩, [], []⟩) ⟨0⟩ _ _ rfl)
  have accepted := queued.step (.accept (List.mem_singleton_self _) rfl)
  have completed := accepted.step (@Step.complete _ ⟨0⟩ 0 ⟨7⟩ _ rfl)
  have removed := completed.step (@Step.remove _ ⟨0⟩)
  have targeted := (completions_targeted removed (by simp [CaptureEvent.Identified]; rfl)).1
  let request : CaptureRequest := ⟨0, .owning ⟨⟨7⟩, [], []⟩, ⟨0⟩, {}, true, some .success⟩
  let session : CaptureSession := ⟨⟨0⟩, [request], true, [.awake]⟩
  exact ⟨_, _, session, request, removed, targeted, by simp, rfl, List.mem_singleton_self _, rfl,
    targeted.completes ⟨0⟩ 1 ⟨7⟩⟩

end CaptureState
end Scanout
