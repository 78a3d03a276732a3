import Scanout.Proofs.Captures.Line
import Scanout.Proofs.Captures.Steps

/-!
No capture is stuck. Whatever is accepted has a worker that attends to it, a worker sleeps only
while the front of its queue keeps it waiting, and whatever has no outcome yet can still be given
one, since it is in the session that its display has.
-/

namespace Scanout

namespace CaptureSession

open CaptureRequest

variable {session after : CaptureSession} {worker number : Nat} {request : CaptureRequest}

/-- The queue is attended to, and no two of its requests are for the same buffer. -/
structure Attended (session : CaptureSession) : Prop where
  staffed : session.Staffed
  served : ∀ request ∈ session.queue, request.submitted = true → session.workerRunning = true
  awaited : .asleep ∈ session.workers →
    ∃ front rest, session.queue = front :: rest ∧ front.isReady = false
  apart : session.queue.Pairwise fun first second => first.buffer.id ≠ second.buffer.id

/-- A request has no outcome yet. -/
def Unsettled (session : CaptureSession) : Prop :=
  ∃ request ∈ session.queue, request.status = none

theorem attended_fresh (display : DisplayId) : ({ display } : CaptureSession).Attended where
  staffed := rfl
  served _ member := absurd member List.not_mem_nil
  awaited asleep := absurd asleep List.not_mem_nil
  apart := .nil

/-- Waking everyone, where the requests that are queued are some of those before. -/
theorem Attended.wake {queue : List CaptureRequest} (attended : session.Attended)
    (kept : queue.Sublist session.queue) :
    Attended (wakeAll { session with queue }) where
  staffed := by
    have staffed := attended.staffed.wakeAll
    exact staffed
  served request member := attended.served request (kept.subset member)
  awaited asleep := absurd asleep (asleep_notMem_wakeAll _)
  apart := attended.apart.sublist kept

/-- Waking everyone, where requests came by an outcome. -/
theorem Attended.wake_settled {queue : List CaptureRequest} (attended : session.Attended)
    (same : queue.map unanswered = session.queue.map unanswered) :
    Attended (wakeAll { session with queue }) where
  staffed := by
    have staffed := attended.staffed.wakeAll
    exact staffed
  served request member submitted := by
    have listed : request.unanswered ∈ session.queue.map unanswered := by
      rw [← same]
      exact List.mem_map_of_mem member
    obtain ⟨origin, among, alike⟩ := List.mem_map.mp listed
    have marked := congrArg CaptureRequest.submitted alike
    exact attended.served origin among (Eq.trans marked submitted)
  awaited asleep := absurd asleep (asleep_notMem_wakeAll _)
  apart := by
    have mapped : (session.queue.map unanswered).Pairwise
        fun first second => first.buffer.id ≠ second.buffer.id := List.pairwise_map.mpr attended.apart
    rw [← same, List.pairwise_map] at mapped
    exact mapped

theorem Attended.withdraw (attended : session.Attended) :
    (session.withdraw number).1.Attended :=
  attended.wake List.eraseP_sublist

theorem Attended.complete {id : BufferId} {status : CaptureStatus} (attended : session.Attended)
    (completed : session.complete id status = some after) : after.Attended := by
  obtain ⟨place, _, rfl⟩ := complete_some completed
  exact attended.wake_settled (unanswered_modify session.queue place status)

theorem Attended.abandon (attended : session.Attended) : session.abandon.Attended :=
  attended.wake_settled (unanswered_map session.queue .failure)

theorem Attended.enqueue (attended : session.Attended)
    (unheld : session.holds request.buffer.id = false) (posted : request.submitted = false) :
    (session.enqueue request).Attended where
  staffed := attended.staffed
  served other member submitted := by
    obtain member | member := List.mem_append.mp member
    · exact attended.served other member submitted
    · obtain rfl := List.mem_singleton.mp member
      rw [posted] at submitted
      cases submitted
  awaited asleep := by
    obtain ⟨front, rest, queue, waits⟩ := attended.awaited asleep
    exact ⟨front, rest ++ [request], by rw [CaptureSession.enqueue, queue]; rfl, waits⟩
  apart := by
    refine List.pairwise_append.mpr ⟨attended.apart, List.pairwise_singleton _ _, ?_⟩
    intro earlier member last same
    obtain rfl := List.mem_singleton.mp same
    have none := List.any_eq_false.mp unheld earlier member
    simpa using none

theorem Attended.accept (attended : session.Attended) (number : Nat) :
    (session.accept number).Attended where
  staffed := attended.staffed.accept number
  served _ _ _ := rfl
  awaited asleep := absurd asleep (asleep_notMem_wakeAll _)
  apart := by
    refine List.pairwise_map.mpr (attended.apart.imp fun different => ?_)
    split <;> split <;> exact different

theorem Attended.look (attended : session.Attended)
    (awake : session.workers[worker]? = some .awake) : (session.look worker).Attended := by
  obtain ⟨present, _⟩ := List.getElem?_eq_some_iff.mp awake
  have staffed := attended.staffed.look present
  obtain ⟨_, ⟨queue, ended⟩ | ⟨front, rest, queue, ⟨_, taken⟩ | ⟨waits, slept⟩⟩⟩ :=
    attended.staffed.look_cases awake
  · rw [ended] at staffed ⊢
    have none (request : CaptureRequest) : request ∉ session.queue := by
      rw [queue]
      exact List.not_mem_nil
    exact ⟨staffed, fun request member => absurd member (none request), nofun, attended.apart⟩
  · rw [taken] at staffed ⊢
    have served := attended.served
    have apart := attended.apart
    rw [queue] at served apart
    refine ⟨staffed, fun request member => served request (List.mem_cons_of_mem _ member), ?_,
      apart.of_cons⟩
    intro asleep
    cases List.mem_singleton.mp asleep
  · rw [slept] at staffed ⊢
    exact ⟨staffed, attended.served, fun _ => ⟨front, rest, queue, waits⟩, attended.apart⟩

theorem Attended.resume (attended : session.Attended)
    (notifying : session.Notifying worker request) : (session.resume worker).Attended := by
  have staffed := attended.staffed.resume worker
  obtain ⟨_, resumed⟩ := attended.staffed.resume_eq notifying
  rw [resumed] at staffed ⊢
  refine ⟨staffed, attended.served, ?_, attended.apart⟩
  intro asleep
  cases List.mem_singleton.mp asleep

section Completion

/-- The request that a completion names is the only one of its buffer. -/
theorem modify_findIdx {queue : List CaptureRequest}
    (apart : queue.Pairwise fun first second => first.buffer.id ≠ second.buffer.id)
    (member : request ∈ queue) (pending : request.status = none)
    (change : CaptureRequest → CaptureRequest) :
    ∃ place,
      queue.findIdx? (fun other => other.status.isNone && other.buffer.id == request.buffer.id) =
          some place ∧
        queue.modify place change =
          queue.map (fun other => if other.buffer.id = request.buffer.id then change other else other) := by
  induction queue with
  | nil => cases member
  | cons first rest ih =>
      obtain ⟨others, further⟩ := List.pairwise_cons.mp apart
      obtain rfl | member := List.mem_cons.mp member
      · refine ⟨0, by simp [List.findIdx?_cons, pending], ?_⟩
        rw [List.modify_zero_cons, List.map_cons, if_pos rfl]
        refine congrArg (_ :: ·) ((List.map_congr_left fun other among => ?_).trans (List.map_id _)).symm
        exact if_neg (others other among).symm
      · obtain ⟨place, found, changed⟩ := ih further member
        have different := others request member
        refine ⟨place + 1, ?_, ?_⟩
        · rw [List.findIdx?_cons, if_neg (by simp [different]), found]
          rfl
        · rw [List.modify_succ_cons, changed, List.map_cons, if_neg different]

theorem Attended.complete_pending (attended : session.Attended) (member : request ∈ session.queue)
    (pending : request.status = none) (status : CaptureStatus) :
    session.complete request.buffer.id status =
      some (wakeAll { session with queue := session.queue.map fun other =>
        if other.buffer.id = request.buffer.id then other.finish status else other }) := by
  obtain ⟨place, found, changed⟩ := modify_findIdx attended.apart member pending (finish status)
  simp only [CaptureSession.complete, found, changed]

theorem Attended.complete_found (attended : session.Attended) (member : request ∈ session.queue)
    (pending : request.status = none) (status : CaptureStatus) :
    ∃ after, session.complete request.buffer.id status = some after ∧
      after.queue = session.queue.map fun other =>
        if other.buffer.id = request.buffer.id then other.finish status else other :=
  ⟨_, attended.complete_pending member pending status, rfl⟩

theorem pending_of_complete {id : BufferId} {status : CaptureStatus}
    (completed : session.complete id status = some after) :
    ∃ request ∈ session.queue, request.buffer.id = id ∧ request.status = none := by
  obtain ⟨place, found, -⟩ := complete_some completed
  obtain ⟨inside, waits, -⟩ := List.findIdx?_eq_some_iff_getElem.mp found
  refine ⟨session.queue[place], List.getElem_mem inside, ?_⟩
  simpa [and_comm] using waits

end Completion

section Unsettled

theorem Unsettled.of_withdraw (unsettled : (session.withdraw number).1.Unsettled) :
    session.Unsettled := by
  obtain ⟨request, member, none⟩ := unsettled
  exact ⟨request, List.eraseP_subset member, none⟩

theorem Unsettled.of_accept (unsettled : (session.accept number).Unsettled) :
    session.Unsettled := by
  obtain ⟨request, member, none⟩ := unsettled
  obtain ⟨origin, among, rfl⟩ := List.mem_map.mp member
  refine ⟨origin, among, ?_⟩
  split at none <;> exact none

theorem status_of_finish {status : CaptureStatus} :
    (request.finish status).status ≠ none := by
  unfold finish
  cases settled : request.status with
  | none => simp
  | some outcome => simp [settled]

theorem Unsettled.of_complete {id : BufferId} {status : CaptureStatus}
    (completed : session.complete id status = some after) (unsettled : after.Unsettled) :
    session.Unsettled := by
  obtain ⟨place, _, rfl⟩ := complete_some completed
  obtain ⟨request, member, none⟩ := unsettled
  obtain ⟨position, found⟩ := List.mem_iff_getElem?.mp member
  change (session.queue.modify place (finish status))[position]? = some request at found
  rw [List.getElem?_modify] at found
  cases entry : session.queue[position]? with
  | none => simp [entry] at found
  | some origin =>
      by_cases same : place = position
      · obtain rfl : origin.finish status = request := by simpa [entry, same] using found
        exact absurd none status_of_finish
      · obtain rfl : origin = request := by simpa [entry, same] using found
        exact ⟨origin, List.mem_of_getElem? entry, none⟩

theorem not_unsettled_abandon (session : CaptureSession) : ¬ session.abandon.Unsettled := by
  rintro ⟨request, member, none⟩
  obtain ⟨origin, _, rfl⟩ := List.mem_map.mp member
  exact status_of_finish none

theorem Unsettled.of_look (staffed : session.Staffed)
    (awake : session.workers[worker]? = some .awake)
    (unsettled : (session.look worker).Unsettled) : session.Unsettled := by
  obtain ⟨_, ⟨_, ended⟩ | ⟨front, rest, queue, ⟨_, taken⟩ | ⟨_, slept⟩⟩⟩ :=
    staffed.look_cases awake
  · rw [ended] at unsettled
    exact unsettled
  · rw [taken] at unsettled
    obtain ⟨request, member, none⟩ := unsettled
    exact ⟨request, by rw [queue]; exact List.mem_cons_of_mem _ member, none⟩
  · rw [slept] at unsettled
    exact unsettled

end Unsettled

end CaptureSession

namespace Pipeline

variable {pipeline : Pipeline} {id : SessionId} {session replaced : CaptureSession}
  {display : DisplayId}

/-- Every session is attended to, and one whose requests are not all settled is the one that its
display has. -/
structure Attended (pipeline : Pipeline) : Prop where
  attended : ∀ {id : SessionId} {session : CaptureSession},
    pipeline.sessions[id]? = some session → session.Attended
  current : ∀ {id : SessionId} {session : CaptureSession},
    pipeline.sessions[id]? = some session → session.Unsettled →
      pipeline.current[session.display]? = some id

theorem attended_empty : ({} : Pipeline).Attended where
  attended found := absurd found (by simp)
  current found := absurd found (by simp)

theorem Attended.putSession (attended : pipeline.Attended) (kept : session.Attended)
    (current : session.Unsettled → pipeline.current[session.display]? = some id) :
    (pipeline.putSession id session).Attended where
  attended {other entry} found := by
    rw [sessions_putSession] at found
    by_cases named : id = other
    · rw [if_pos named] at found
      cases found
      exact kept
    · rw [if_neg named] at found
      exact attended.attended found
  current {other entry} found unsettled := by
    rw [sessions_putSession] at found
    by_cases named : id = other
    · rw [if_pos named] at found
      cases found
      rw [← named]
      exact current unsettled
    · rw [if_neg named] at found
      exact attended.current found unsettled

/-- A change of one session that leaves nothing unsettled that was settled. -/
theorem Attended.replace (attended : pipeline.Attended)
    (found : pipeline.sessions[id]? = some replaced) (kept : session.Attended)
    (same : session.display = replaced.display)
    (settles : session.Unsettled → replaced.Unsettled) :
    (pipeline.putSession id session).Attended :=
  attended.putSession kept fun unsettled => by
    rw [same]
    exact attended.current found (settles unsettled)

theorem Attended.modifySession {change : CaptureSession → CaptureSession}
    (attended : pipeline.Attended) (found : pipeline.sessions[id]? = some session)
    (kept : (change session).Attended) (same : (change session).display = session.display)
    (settles : (change session).Unsettled → session.Unsettled) :
    (pipeline.modifySession id change).Attended := by
  rw [modifySession_found found]
  exact attended.replace found kept same settles

theorem Attended.opened (attended : pipeline.Attended) (display : DisplayId) :
    (pipeline.opened display).Attended := by
  unfold Pipeline.opened
  obtain ⟨_, _, opened⟩ | ⟨absent, opened⟩ := openSession_cases pipeline display
  · rw [opened]
    exact ⟨attended.attended, attended.current⟩
  rw [opened]
  constructor
  case attended =>
    intro other session found
    rw [Table.getElem?_insert] at found
    by_cases named : (⟨pipeline.nextSession⟩ : SessionId) = other
    · rw [if_pos named] at found
      cases found
      exact CaptureSession.attended_fresh display
    · rw [if_neg named] at found
      exact attended.attended found
  case current =>
    intro other session found unsettled
    rw [Table.getElem?_insert] at found
    by_cases named : (⟨pipeline.nextSession⟩ : SessionId) = other
    · rw [if_pos named] at found
      cases found
      obtain ⟨_, member, _⟩ := unsettled
      cases member
    · rw [if_neg named] at found
      -- An older session with something unsettled would be the display's, which has none.
      have shown := attended.current found unsettled
      rw [Table.getElem?_insert, if_neg]
      · exact shown
      · rintro rfl
        rw [absent] at shown
        cases shown

theorem current_opened (pipeline : Pipeline) (display : DisplayId) :
    (pipeline.opened display).current[display]? = some (pipeline.ticket display).session := by
  unfold Pipeline.opened Pipeline.ticket
  obtain ⟨id, shown, opened⟩ | ⟨_, opened⟩ := openSession_cases pipeline display
  · rw [opened]
    exact shown
  · rw [opened, Table.getElem?_insert, if_pos rfl]

theorem Attended.removeDisplay (attended : pipeline.Attended) (sound : pipeline.Sound)
    (display : DisplayId) : (pipeline.removeDisplay display).Attended := by
  cases entry : pipeline.current[display]? with
  | none => rwa [removeDisplay_absent entry]
  | some id =>
      obtain ⟨session, found, about⟩ := sound.located entry
      have abandoned := attended.replace found (attended.attended found).abandon rfl
        fun unsettled => absurd unsettled session.not_unsettled_abandon
      rw [removeDisplay_found entry, modifySession_found found]
      refine ⟨abandoned.attended, ?_⟩
      -- The one session that the display loses has nothing left that could still be completed.
      intro other kept located unsettled
      have shown := abandoned.current located unsettled
      refine (Table.getElem?_erase_of_ne ?_).trans shown
      rintro rfl
      obtain rfl : id = other := Option.some.inj (entry.symm.trans shown)
      rw [sessions_putSession, if_pos rfl] at located
      cases located
      exact session.not_unsettled_abandon unsettled

end Pipeline

namespace CaptureState

variable {state after : CaptureState} {display : DisplayId} {event : CaptureEvent}
  {events : List CaptureEvent}

theorem Step.attended (step : Step state display event after) (sound : state.pipeline.Sound)
    (attended : state.pipeline.Attended) : after.pipeline.Attended := by
  cases step with
  | queue queued =>
      obtain ⟨session, rfl, found, rfl, unheld, rfl⟩ := Pipeline.enqueue_some sound queued
      have opened := attended.opened session.display
      exact opened.putSession ((opened.attended found).enqueue unheld rfl) fun _ =>
        state.pipeline.current_opened session.display
  | decline declined =>
      obtain rfl := Pipeline.enqueue_none sound declined
      exact attended.opened display
  | accept waits found =>
      exact attended.modifySession found ((attended.attended found).accept _) rfl
        fun unsettled => unsettled.of_accept
  | refuse waits found =>
      rw [Pipeline.refuse_found found]
      exact attended.replace found (attended.attended found).withdraw rfl
        fun unsettled => unsettled.of_withdraw
  | complete completed =>
      obtain ⟨id, session, completion, _, found, outcome, rfl⟩ := Pipeline.complete_ok completed
      have same : completion.display = session.display := by
        obtain ⟨place, _, rfl⟩ := CaptureSession.complete_some outcome
        rfl
      exact attended.replace found ((attended.attended found).complete outcome) same
        fun unsettled => unsettled.of_complete outcome
  | remove => exact attended.removeDisplay sound display
  | look found awake =>
      have kept := attended.attended found
      exact attended.modifySession found (kept.look awake) (CaptureSession.display_look _ _)
        fun unsettled => unsettled.of_look kept.staffed awake
  | tell found notifying =>
      exact attended.modifySession found ((attended.attended found).resume notifying) rfl
        fun unsettled => unsettled

theorem Reaches.attended (reached : Reaches events state) : state.pipeline.Attended := by
  induction reached with
  | start => exact Pipeline.attended_empty
  | step reached next ih => exact next.attended reached.sound ih

/-- In every session, also of a display that went away: there is at most one worker; what the device
has accepted has one; a worker that sleeps waits for the front of the queue; and a request without an
outcome is found by the completion that names its buffer. -/
theorem no_capture_stuck (reached : Reaches events state) {id : SessionId}
    {session : CaptureSession} (found : state.pipeline.sessions[id]? = some session) :
    session.workers.length ≤ 1 ∧
      ((∃ request ∈ session.queue, request.submitted = true) →
        session.workerRunning = true ∧ session.workers.length = 1) ∧
      (.asleep ∈ session.workers → ∃ front rest, session.queue = front :: rest ∧
        ¬(front.submitted = true ∧ front.status.isSome = true)) ∧
      ∀ request ∈ session.queue, request.status = none →
        state.pipeline.current[session.display]? = some id ∧
          ∀ code, ∃ (after : Pipeline) (completed : CaptureSession),
            state.pipeline.complete session.display code request.buffer.id = .ok after ∧
              after.sessions[id]? = some completed ∧
              completed.queue = session.queue.map fun other =>
                if other.buffer.id = request.buffer.id then
                  other.finish (if code = 0 then .success else .failure)
                else other := by
  have attended := reached.attended.attended found
  refine ⟨attended.staffed.le_one, ?_, ?_, ?_⟩
  · rintro ⟨request, member, submitted⟩
    have running := attended.served request member submitted
    exact ⟨running, by rw [attended.staffed, running]; rfl⟩
  · intro asleep
    obtain ⟨front, rest, queue, waits⟩ := attended.awaited asleep
    refine ⟨front, rest, queue, ?_⟩
    rintro ⟨submitted, settled⟩
    rw [CaptureRequest.isReady, submitted, settled] at waits
    cases waits
  · intro request member pending
    have shown := reached.attended.current found ⟨request, member, pending⟩
    refine ⟨shown, fun code => ?_⟩
    obtain ⟨completed, outcome, queue⟩ := attended.complete_found member pending (.ofCode code)
    refine ⟨state.pipeline.putSession id completed, completed, ?_, ?_, queue⟩
    · simp only [Pipeline.complete, shown, found, Option.bind_some, outcome]
    · rw [Pipeline.sessions_putSession, if_pos rfl]

/-- A worker that looks at a queue whose front has not completed sleeps there. -/
theorem no_capture_stuck_asleep :
    ∃ (events : List CaptureEvent) (state : CaptureState) (session : CaptureSession),
      Reaches events state ∧ state.pipeline.sessions[(⟨0⟩ : SessionId)]? = some session ∧
        .asleep ∈ session.workers ∧ session.workers.length ≤ 1 := by
  have queued := Reaches.start.step (@Step.queue {} ⟨0⟩ {} (.owning ⟨⟨7⟩, [], []⟩) ⟨0⟩ _ _ rfl)
  have accepted := queued.step (.accept (List.mem_singleton_self _) rfl)
  have looked := accepted.step (@Step.look _ ⟨0⟩ 0 _ rfl rfl)
  let request : CaptureRequest := ⟨0, .owning ⟨⟨7⟩, [], []⟩, ⟨0⟩, {}, true, none⟩
  let session : CaptureSession := ⟨⟨0⟩, [request], true, [.asleep]⟩
  have attended := @no_capture_stuck _ _ looked ⟨0⟩ session rfl
  exact ⟨_, _, session, looked, rfl, List.mem_singleton_self _, attended.1⟩

end CaptureState
end Scanout
