import Scanout.Proofs.Captures.Attendance
import Scanout.Proofs.Captures.Order

/-!
Which displays have a session, and what there is when nobody has anything to do. Sessions begin with
a post and end with their display. Once the device has answered every post, the captures that wait
belong to a display that has its session still; in a session that has ended nothing stays behind.
-/

namespace Scanout

namespace Pipeline

variable {pipeline after : Pipeline} {display other : DisplayId}

theorem hasSession_iff : pipeline.hasSession display = true ↔ ∃ id, pipeline.current[display]? = some id := by
  rw [hasSession, Std.ExtTreeMap.contains_eq_isSome_getElem?, Option.isSome_iff_exists]

theorem hasSession_congr (same : after.current = pipeline.current) :
    after.hasSession display = pipeline.hasSession display := by
  unfold hasSession
  rw [same]

theorem hasSession_opened (pipeline : Pipeline) (display other : DisplayId) :
    (pipeline.opened display).hasSession other = (other == display || pipeline.hasSession other) := by
  unfold hasSession opened
  obtain ⟨id, shown, opened⟩ | ⟨_, opened⟩ := openSession_cases pipeline display
  · rw [opened]
    by_cases same : other = display
    · simp [same, Std.ExtTreeMap.contains_eq_isSome_getElem?, shown]
    · simp [same]
  · rw [opened]
    exact Table.contains_insert _ _ _ _

theorem hasSession_enqueue {config : CaptureConfig} {buffer : Handle} {listener : CaptureListener}
    {ticket? : Option CaptureTicket} (sound : pipeline.Sound)
    (queued : pipeline.enqueue display config buffer listener = (ticket?, after)) :
    after.hasSession other = (other == display || pipeline.hasSession other) := by
  rw [← hasSession_opened]
  cases ticket? with
  | none => rw [enqueue_none sound queued]
  | some ticket =>
      obtain ⟨session, _, _, _, _, rfl⟩ := enqueue_some sound queued
      rfl

theorem hasSession_modifySession (pipeline : Pipeline) (id : SessionId)
    (change : CaptureSession → CaptureSession) (display : DisplayId) :
    (pipeline.modifySession id change).hasSession display = pipeline.hasSession display :=
  hasSession_congr (current_modifySession pipeline id change)

theorem hasSession_accept (pipeline : Pipeline) (ticket : CaptureTicket) (display : DisplayId) :
    (pipeline.accept ticket).hasSession display = pipeline.hasSession display :=
  hasSession_modifySession _ _ _ _

theorem hasSession_refuse (pipeline : Pipeline) (ticket : CaptureTicket) :
    (pipeline.refuse ticket).2.hasSession display = pipeline.hasSession display := by
  apply hasSession_congr
  unfold refuse
  split <;> rfl

theorem hasSession_complete {code : Int} {buffer : BufferId}
    (completed : pipeline.complete display code buffer = .ok after) :
    after.hasSession other = pipeline.hasSession other := by
  obtain ⟨id, session, completion, _, _, _, rfl⟩ := complete_ok completed
  rfl

theorem hasSession_removeDisplay (pipeline : Pipeline) (display other : DisplayId) :
    (pipeline.removeDisplay display).hasSession other =
      (other != display && pipeline.hasSession other) := by
  cases entry : pipeline.current[display]? with
  | none =>
      rw [removeDisplay_absent entry]
      by_cases same : other = display
      · simp [hasSession, same, Std.ExtTreeMap.contains_eq_isSome_getElem?, entry]
      · simp [same]
  | some id =>
      rw [removeDisplay_found entry]
      exact Table.contains_erase _ _ _

section Ended

variable {id : SessionId}

/-- No display has the session any more. -/
def Ended (pipeline : Pipeline) (id : SessionId) : Prop :=
  ∀ display : DisplayId, pipeline.current[display]? ≠ some id

theorem Ended.of_same (ended : pipeline.Ended id) (same : after.current = pipeline.current) :
    after.Ended id := by
  unfold Ended
  rwa [same]

theorem Ended.opened (ended : pipeline.Ended id) (begun : id.raw < pipeline.nextSession)
    (display : DisplayId) : (pipeline.opened display).Ended id := by
  intro other
  unfold Pipeline.opened
  obtain ⟨_, _, opened⟩ | ⟨_, opened⟩ := pipeline.openSession_cases display
  · rw [opened]
    exact ended other
  · rw [opened, Table.getElem?_insert]
    split
    · rintro ⟨⟩
      exact Nat.lt_irrefl _ begun
    · exact ended other

theorem Ended.removeDisplay (ended : pipeline.Ended id) (display : DisplayId) :
    (pipeline.removeDisplay display).Ended id := by
  cases entry : pipeline.current[display]? with
  | none => rwa [removeDisplay_absent entry]
  | some shown =>
      intro other
      rw [removeDisplay_found entry, Table.getElem?_erase]
      split
      · exact nofun
      · exact ended other

end Ended

/-- Nobody has anything to do when every worker sleeps. -/
theorem asleep_of_idle (idle : pipeline.nextWorker? = none) {id : SessionId} {session : CaptureSession}
    (found : pipeline.sessions[id]? = some session) : ∀ worker ∈ session.workers, worker = .asleep := by
  have listed : (id, session) ∈ pipeline.sessions.toList := by
    rwa [Std.ExtTreeMap.mem_toList_iff_getElem?_eq_some]
  have none := List.findSome?_eq_none_iff.mp idle (id, session) listed
  simpa using none

end Pipeline

namespace CaptureSession

variable {session : CaptureSession}

/-- With all requests ready and all workers asleep there are no requests. -/
theorem Attended.handles_eq_nil (attended : session.Attended)
    (asleep : ∀ worker ∈ session.workers, worker = .asleep)
    (ready : ∀ request ∈ session.queue, request.isReady = true) : session.handles = [] := by
  have sleepless : session.workers = [] := by
    apply List.eq_nil_iff_forall_not_mem.mpr
    intro worker member
    have sleeps : .asleep ∈ session.workers := asleep worker member ▸ member
    obtain ⟨front, rest, queue, waits⟩ := attended.awaited sleeps
    simp [ready front (by simp [queue])] at waits
  have unqueued : session.queue = [] := by
    apply List.eq_nil_iff_forall_not_mem.mpr
    intro request member
    have submitted : request.submitted = true := (Bool.and_eq_true_iff.mp (ready request member)).1
    have running := attended.served request member submitted
    have staffed := attended.staffed
    simp [Staffed, sleepless, running] at staffed
  simp [CaptureSession.handles, sleepless, unqueued]

end CaptureSession

open CaptureRequest

namespace CaptureState

variable {state after : CaptureState} {display : DisplayId} {event : CaptureEvent}
  {events : List CaptureEvent}

/-- What is queued and was not accepted yet is with the device. -/
def Offered (state : CaptureState) : Prop :=
  ∀ (id : SessionId) (session : CaptureSession), state.pipeline.sessions[id]? = some session →
    ∀ request ∈ session.queue, request.submitted = false →
      (⟨id, request.number⟩ : CaptureTicket) ∈ state.submitting

theorem Offered.putSession {pipeline : Pipeline} {submitting : List CaptureTicket} {id : SessionId}
    {session : CaptureSession} (offered : Offered ⟨pipeline, submitting⟩)
    {remaining : List CaptureTicket}
    (own : ∀ request ∈ session.queue, request.submitted = false →
      (⟨id, request.number⟩ : CaptureTicket) ∈ remaining)
    (others : ∀ ticket ∈ submitting, ticket.session ≠ id → ticket ∈ remaining) :
    Offered ⟨pipeline.putSession id session, remaining⟩ := by
  intro other kept found request member waits
  rw [Pipeline.sessions_putSession] at found
  by_cases named : id = other
  · rw [if_pos named] at found
    cases found
    rw [← named]
    exact own request member waits
  · rw [if_neg named] at found
    exact others _ (offered other kept found request member waits) (Ne.symm named)

theorem Offered.opened (offered : state.Offered) (display : DisplayId) :
    Offered { state with pipeline := state.pipeline.opened display } := by
  intro id session found
  unfold Pipeline.opened at found
  obtain ⟨_, _, opened⟩ | ⟨_, opened⟩ := state.pipeline.openSession_cases display
  · rw [opened] at found
    exact offered id session found
  · rw [opened, Table.getElem?_insert] at found
    by_cases named : (⟨state.pipeline.nextSession⟩ : SessionId) = id
    · rw [if_pos named] at found
      cases found
      intro request member
      cases member
    · rw [if_neg named] at found
      exact offered id session found

/-- The requests of a session keep their place with the device, whatever their outcomes. -/
theorem Offered.settle {id : SessionId} {session replaced : CaptureSession}
    (offered : state.Offered) (found : state.pipeline.sessions[id]? = some replaced)
    (same : ∀ request ∈ session.queue, request.unanswered ∈ replaced.queue.map unanswered) :
    Offered { state with pipeline := state.pipeline.putSession id session } := by
  apply Offered.putSession offered
  · intro request member waits
    obtain ⟨origin, among, alike⟩ := List.mem_map.mp (same request member)
    obtain ⟨number, submitted⟩ : origin.number = request.number ∧
        origin.submitted = request.submitted := by
      simp only [unanswered, CaptureRequest.mk.injEq] at alike
      exact ⟨alike.1, alike.2.2.2.2.1⟩
    rw [← number]
    exact offered id replaced found origin among (submitted.trans waits)
  · intro ticket waits _
    exact waits

/-- Of the requests of a session all but the one of the ticket are still with the device. -/
theorem Offered.answer {ticket : CaptureTicket} {session replaced : CaptureSession}
    (offered : state.Offered) (found : state.pipeline.sessions[ticket.session]? = some replaced)
    (others : ∀ request ∈ session.queue, request.submitted = false →
      request ∈ replaced.queue ∧ request.number ≠ ticket.number) :
    Offered ⟨state.pipeline.putSession ticket.session session, state.submitting.erase ticket⟩ := by
  apply Offered.putSession offered
  · intro request member waits
    obtain ⟨among, different⟩ := others request member waits
    refine (List.mem_erase_of_ne ?_).mpr (offered _ replaced found request among waits)
    intro same
    exact different (congrArg CaptureTicket.number same)
  · intro other waits different
    refine (List.mem_erase_of_ne ?_).mpr waits
    intro same
    exact different (congrArg CaptureTicket.session same)

/-- Once a request is taken back, none with its number is queued. -/
theorem InOrder.withdrawn {ticket : CaptureTicket} {session : CaptureSession}
    (inOrder : state.InOrder events) (found : state.pipeline.sessions[ticket.session]? = some session)
    {request : CaptureRequest} (member : request ∈ (session.withdraw ticket.number).1.queue) :
    request ∈ session.queue ∧ request.number ≠ ticket.number := by
  change request ∈ session.queue.eraseP _ at member
  rw [CaptureSession.eraseP_eq_filter (inOrder.queue_nodup found)] at member
  simpa using member

theorem Step.offered (step : Step state display event after) (sound : state.pipeline.Sound)
    (inOrder : state.InOrder events) (offered : state.Offered) : after.Offered := by
  cases step with
  | queue queued =>
      obtain ⟨session, rfl, found, _, _, rfl⟩ := Pipeline.enqueue_some sound queued
      have opened := offered.opened display
      apply Offered.putSession opened
      · intro request member waits
        obtain member | member := List.mem_append.mp member
        · exact List.mem_cons_of_mem _ (opened _ session found request member waits)
        · rw [List.mem_singleton.mp member]
          exact List.mem_cons_self
      · intro ticket waits _
        exact List.mem_cons_of_mem _ waits
  | decline declined =>
      obtain rfl := Pipeline.enqueue_none sound declined
      exact offered.opened display
  | @accept ticket session waits found =>
      rw [Pipeline.accept, Pipeline.modifySession_found found]
      apply offered.answer found
      intro request member unsubmitted
      obtain ⟨origin, among, rfl⟩ := List.mem_map.mp member
      by_cases answered : origin.number = ticket.number
      · simp [answered] at unsubmitted
      · rw [if_neg answered]
        exact ⟨among, answered⟩
  | @refuse ticket session waits found =>
      rw [Pipeline.refuse_found found]
      apply offered.answer found
      intro request member _
      exact inOrder.withdrawn found member
  | complete completed =>
      obtain ⟨id, session, completion, _, found, outcome, rfl⟩ := Pipeline.complete_ok completed
      obtain ⟨place, _, rfl⟩ := CaptureSession.complete_some outcome
      apply offered.settle found
      intro request member
      rw [← CaptureSession.unanswered_modify session.queue place (.ofCode _)]
      exact List.mem_map_of_mem member
  | remove =>
      cases entry : state.pipeline.current[display]? with
      | none => rwa [Pipeline.removeDisplay_absent entry]
      | some id =>
          obtain ⟨session, found, _⟩ := sound.located entry
          rw [Pipeline.removeDisplay_found entry, Pipeline.modifySession_found found]
          apply offered.settle found
          intro request member
          rw [← CaptureSession.unanswered_map session.queue .failure]
          exact List.mem_map_of_mem member
  | look found awake =>
      rw [Pipeline.modifySession_found found]
      apply offered.settle found
      intro request member
      apply List.mem_map_of_mem
      obtain ⟨_, ⟨_, ended⟩ | ⟨front, rest, queue, ⟨_, taken⟩ | ⟨_, slept⟩⟩⟩ :=
        (sound.staffed found).look_cases awake
      · rwa [ended] at member
      · rw [taken] at member
        rw [queue]
        exact List.mem_cons_of_mem _ member
      · rwa [slept] at member
  | tell found notifying =>
      rw [Pipeline.modifySession_found found]
      apply offered.settle found
      intro request member
      exact List.mem_map_of_mem member

theorem Reaches.offered (reached : Reaches events state) : state.Offered := by
  induction reached with
  | start =>
      intro id session found
      simp at found
  | step reached next ih => exact next.offered reached.sound reached.inOrder ih

/-- In a session that has ended, what the device has answered is ready. -/
theorem Reaches.ready (reached : Reaches events state) {id : SessionId} {session : CaptureSession}
    (ended : state.pipeline.Ended id) (found : state.pipeline.sessions[id]? = some session)
    (answered : ∀ ticket ∈ state.submitting, ticket.session ≠ id) :
    ∀ request ∈ session.queue, request.isReady = true := by
  intro request member
  have submitted : request.submitted = true := by
    cases waits : request.submitted with
    | true => rfl
    | false => exact absurd rfl (answered _ (reached.offered id session found request member waits))
  have settled : request.status.isSome = true := by
    cases pending : request.status with
    | some status => rfl
    | none => exact absurd (reached.attended.current found ⟨request, member, pending⟩) (ended _)
  rw [isReady, submitted, settled]
  rfl

/-- When the device has answered every post and nobody has anything to do, sessions that have ended
hold nothing. -/
theorem Reaches.handles_eq_nil {pipeline : Pipeline} (reached : Reaches events ⟨pipeline, []⟩)
    (idle : pipeline.nextWorker? = none) (ended : ∀ display, pipeline.hasSession display = false) :
    pipeline.handles = [] := by
  apply List.flatMap_eq_nil_iff.mpr
  intro entry member
  obtain ⟨id, session⟩ := entry
  have found : pipeline.sessions[id]? = some session :=
    Std.ExtTreeMap.mem_toList_iff_getElem?_eq_some.mp member
  have gone : pipeline.Ended id := by
    intro display shown
    have present := Pipeline.hasSession_iff.mpr ⟨id, shown⟩
    simp [ended] at present
  apply (reached.attended.attended found).handles_eq_nil (Pipeline.asleep_of_idle idle found)
  exact reached.ready gone found (by simp)

end CaptureState
end Scanout
