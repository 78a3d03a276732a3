import Scanout.Proofs.Captures.Line
import Scanout.Proofs.Captures.Steps

/-!
Captures are told of in the order in which they were posted. Each step moves the line of one session
at most, and the log that the events leave of it agrees with what is in line.
-/

namespace Scanout

open CaptureRequest

namespace CaptureEvent

/-- The requests that were queued in a session, as they were posted. -/
def queuedIn (id : SessionId) (events : List CaptureEvent) : List CaptureRequest :=
  events.filterMap fun
    | queued ticket request => if ticket.session = id then some request else none
    | _ => none

/-- The numbers of those that the device accepted. -/
def acceptedIn (id : SessionId) (events : List CaptureEvent) : List Nat :=
  events.filterMap fun
    | accepted ticket => if ticket.session = id then some ticket.number else none
    | _ => none

/-- The numbers of those that the device refused. -/
def refusedIn (id : SessionId) (events : List CaptureEvent) : List Nat :=
  events.filterMap fun
    | refused ticket => if ticket.session = id then some ticket.number else none
    | _ => none

/-- Those that the listeners were told of. -/
def toldIn (id : SessionId) (events : List CaptureEvent) : List CaptureRequest :=
  events.filterMap fun
    | told session request => if session = id then some request else none
    | _ => none

variable {id : SessionId} {event : CaptureEvent}

theorem queuedIn_append (id : SessionId) (first second : List CaptureEvent) :
    queuedIn id (first ++ second) = queuedIn id first ++ queuedIn id second :=
  List.filterMap_append

theorem acceptedIn_append (id : SessionId) (first second : List CaptureEvent) :
    acceptedIn id (first ++ second) = acceptedIn id first ++ acceptedIn id second :=
  List.filterMap_append

theorem refusedIn_append (id : SessionId) (first second : List CaptureEvent) :
    refusedIn id (first ++ second) = refusedIn id first ++ refusedIn id second :=
  List.filterMap_append

theorem toldIn_append (id : SessionId) (first second : List CaptureEvent) :
    toldIn id (first ++ second) = toldIn id first ++ toldIn id second :=
  List.filterMap_append

/-- An event that moves nothing in the line of a session. -/
structure Silent (id : SessionId) (event : CaptureEvent) : Prop where
  queued : queuedIn id [event] = []
  accepted : acceptedIn id [event] = []
  refused : refusedIn id [event] = []
  told : toldIn id [event] = []

/-- The session whose line an event is about. -/
def session? : CaptureEvent → Option SessionId
  | queued ticket _ | accepted ticket | refused ticket => some ticket.session
  | told session _ => some session
  | declined | completed .. | removed _ | looked .. => none

theorem silent_of_ne (other : event.session? ≠ some id) : Silent id event := by
  cases event with
  | queued ticket request =>
      have different : ticket.session ≠ id := fun same => other (congrArg some same)
      exact ⟨by simp [queuedIn, different], rfl, rfl, rfl⟩
  | accepted ticket =>
      have different : ticket.session ≠ id := fun same => other (congrArg some same)
      exact ⟨rfl, by simp [acceptedIn, different], rfl, rfl⟩
  | refused ticket =>
      have different : ticket.session ≠ id := fun same => other (congrArg some same)
      exact ⟨rfl, rfl, by simp [refusedIn, different], rfl⟩
  | told session request =>
      have different : session ≠ id := fun same => other (congrArg some same)
      exact ⟨rfl, rfl, rfl, by simp [toldIn, different]⟩
  | _ => exact ⟨rfl, rfl, rfl, rfl⟩

end CaptureEvent

open CaptureEvent

namespace Pipeline

variable {pipeline : Pipeline} {id : SessionId} {session : CaptureSession}

/-- The line of a session, which is empty before it begins. -/
def line (pipeline : Pipeline) (id : SessionId) : List CaptureRequest :=
  (pipeline.sessions[id]?.map CaptureSession.line).getD []

theorem line_found (found : pipeline.sessions[id]? = some session) :
    pipeline.line id = session.line := by
  rw [line, found]
  rfl

theorem line_putSession (pipeline : Pipeline) (id other : SessionId) (session : CaptureSession) :
    (pipeline.putSession id session).line other =
      if id = other then session.line else pipeline.line other := by
  unfold line
  rw [sessions_putSession]
  split <;> rfl

theorem line_opened (sound : pipeline.Sound) (display : DisplayId) (id : SessionId) :
    (pipeline.opened display).line id = pipeline.line id := by
  unfold line opened
  obtain ⟨_, _, opened⟩ | ⟨_, opened⟩ := openSession_cases pipeline display
  · rw [opened]
  · rw [opened, Table.getElem?_insert]
    by_cases same : (⟨pipeline.nextSession⟩ : SessionId) = id
    · rw [if_pos same, ← same, sound.next_absent]
      rfl
    · rw [if_neg same]

theorem line_putSession_same {replaced : CaptureSession}
    (found : pipeline.sessions[id]? = some replaced) (same : session.line = replaced.line)
    (other : SessionId) : (pipeline.putSession id session).line other = pipeline.line other := by
  rw [line_putSession]
  by_cases named : id = other
  · rw [if_pos named, same, ← named, line_found found]
  · rw [if_neg named]

/-- Workers have taken only what was ready. -/
def Taken (pipeline : Pipeline) : Prop :=
  ∀ (id : SessionId) (session : CaptureSession), pipeline.sessions[id]? = some session →
    ∀ request ∈ session.inHand, request.isReady = true

theorem Taken.putSession (taken : pipeline.Taken)
    (ready : ∀ request ∈ session.inHand, request.isReady = true) :
    (pipeline.putSession id session).Taken := by
  intro other kept found
  rw [sessions_putSession] at found
  by_cases named : id = other
  · rw [if_pos named] at found
    cases found
    exact ready
  · rw [if_neg named] at found
    exact taken other kept found

theorem Taken.opened (taken : pipeline.Taken) (display : DisplayId) :
    (pipeline.opened display).Taken := by
  intro id session found
  unfold Pipeline.opened at found
  obtain ⟨_, _, opened⟩ | ⟨_, opened⟩ := openSession_cases pipeline display
  · rw [opened] at found
    exact taken id session found
  · rw [opened, Table.getElem?_insert] at found
    by_cases same : (⟨pipeline.nextSession⟩ : SessionId) = id
    · rw [if_pos same] at found
      cases found
      exact fun _ member => absurd member List.not_mem_nil
    · rw [if_neg same] at found
      exact taken id session found

end Pipeline

namespace CaptureState

/-- The log of a session and what is in line there agree. -/
def Agrees (events : List CaptureEvent) (pipeline : Pipeline) (id : SessionId) : Prop :=
  InLine (queuedIn id events) (toldIn id events) (pipeline.line id) (acceptedIn id events)
    (refusedIn id events)

/-- Every session has its requests in line. -/
structure InOrder (events : List CaptureEvent) (state : CaptureState) : Prop where
  taken : state.pipeline.Taken
  agrees : ∀ id, Agrees events state.pipeline id
  bounded : ∀ id, ∀ request ∈ queuedIn id events, request.number < state.pipeline.nextNumber
  waiting : ∀ ticket ∈ state.submitting,
    ticket.number ∈ (queuedIn ticket.session events).map CaptureRequest.number ∧
      ticket.number ∉ refusedIn ticket.session events ∧
      ticket.number ∉ acceptedIn ticket.session events
  distinct : state.submitting.Nodup

variable {state after : CaptureState} {display : DisplayId} {event : CaptureEvent}
  {events : List CaptureEvent}

theorem InOrder.start : InOrder [] {} where
  taken _ _ found := absurd found (by simp)
  agrees id := by
    rw [Agrees, show ({} : CaptureState).pipeline.line id = [] by simp [Pipeline.line]]
    exact .empty
  bounded _ _ member := absurd member List.not_mem_nil
  waiting _ member := absurd member List.not_mem_nil
  distinct := .nil

theorem Agrees.silent {before now : Pipeline} {id : SessionId} (agrees : Agrees events before id)
    (silent : Silent id event) (same : now.line id = before.line id) :
    Agrees (events ++ [event]) now id := by
  unfold Agrees
  rw [queuedIn_append, toldIn_append, acceptedIn_append, refusedIn_append, silent.queued,
    silent.told, silent.accepted, silent.refused, same]
  simp only [List.append_nil]
  exact agrees

section Quiet

variable {pipeline : Pipeline}

/-- Steps that move no line. -/
theorem InOrder.quiet (inOrder : state.InOrder events) (about : event.session? = none)
    (taken : pipeline.Taken) (lines : ∀ id, pipeline.line id = state.pipeline.line id)
    (numbers : state.pipeline.nextNumber ≤ pipeline.nextNumber) :
    InOrder (events ++ [event]) { state with pipeline } where
  taken := taken
  agrees id := (inOrder.agrees id).silent (silent_of_ne (by simp [about])) (lines id)
  bounded id request member := by
    have silent : Silent id event := silent_of_ne (by simp [about])
    rw [queuedIn_append, silent.queued, List.append_nil] at member
    exact (inOrder.bounded id request member).trans_le numbers
  waiting ticket member := by
    have silent : Silent ticket.session event := silent_of_ne (by simp [about])
    rw [queuedIn_append, acceptedIn_append, refusedIn_append, silent.queued, silent.accepted,
      silent.refused]
    simp only [List.append_nil]
    exact inOrder.waiting ticket member
  distinct := inOrder.distinct

theorem InOrder.decline (inOrder : state.InOrder events) (sound : state.pipeline.Sound) :
    InOrder (events ++ [.declined])
      { state with pipeline := state.pipeline.opened display } := by
  refine inOrder.quiet rfl ?_ (Pipeline.line_opened sound display) ?_
  · exact inOrder.taken.opened display
  · exact Nat.le_succ _

theorem InOrder.complete {code : Int} {buffer : BufferId} (inOrder : state.InOrder events)
    (completed : state.pipeline.complete display code buffer = .ok pipeline) :
    InOrder (events ++ [.completed display code buffer]) { state with pipeline } := by
  obtain ⟨id, session, completion, _, found, outcome, rfl⟩ := Pipeline.complete_ok completed
  obtain ⟨line, inHand⟩ := CaptureSession.line_complete outcome
  refine inOrder.quiet rfl ?_ (Pipeline.line_putSession_same found line) (Nat.le_refl _)
  exact inOrder.taken.putSession (by rw [inHand]; exact inOrder.taken id session found)

theorem InOrder.remove (inOrder : state.InOrder events) (sound : state.pipeline.Sound) :
    InOrder (events ++ [.removed display])
      { state with pipeline := state.pipeline.removeDisplay display } := by
  cases entry : state.pipeline.current[display]? with
  | none =>
      rw [Pipeline.removeDisplay_absent entry]
      exact inOrder.quiet rfl inOrder.taken (fun _ => rfl) (Nat.le_refl _)
  | some id =>
      obtain ⟨session, found, _⟩ := sound.located entry
      obtain ⟨line, inHand⟩ := session.line_abandon
      rw [Pipeline.removeDisplay_found entry, Pipeline.modifySession_found found]
      have taken : (state.pipeline.putSession id session.abandon).Taken :=
        inOrder.taken.putSession (by rw [inHand]; exact inOrder.taken id session found)
      exact inOrder.quiet rfl taken (Pipeline.line_putSession_same found line) (Nat.le_refl _)

theorem InOrder.look {id : SessionId} {worker : Nat} {session : CaptureSession}
    (inOrder : state.InOrder events) (sound : state.pipeline.Sound)
    (found : state.pipeline.sessions[id]? = some session)
    (awake : session.workers[worker]? = some .awake) :
    InOrder (events ++ [.looked id worker])
      { state with pipeline := state.pipeline.modifySession id (·.look worker) } := by
  have staffed := sound.staffed found
  rw [Pipeline.modifySession_found found]
  refine inOrder.quiet rfl ?_
    (Pipeline.line_putSession_same found (CaptureSession.line_look staffed awake)) (Nat.le_refl _)
  refine inOrder.taken.putSession fun request member => ?_
  exact CaptureSession.ready_of_look staffed awake member

end Quiet

section Moving

variable {base : Pipeline} {id : SessionId} {session : CaptureSession} {ticket : CaptureTicket}

/-- An event about one session, whose line goes on from the log, leaves the lines of the others as
they are. -/
theorem agrees_putSession (agrees : ∀ id, Agrees events base id) (about : event.session? = some id)
    (own : InLine (queuedIn id events ++ queuedIn id [event]) (toldIn id events ++ toldIn id [event])
      session.line (acceptedIn id events ++ acceptedIn id [event])
      (refusedIn id events ++ refusedIn id [event])) (other : SessionId) :
    Agrees (events ++ [event]) (base.putSession id session) other := by
  by_cases same : id = other
  · subst other
    rw [Agrees, Pipeline.line_putSession, if_pos rfl, queuedIn_append, toldIn_append,
      acceptedIn_append, refusedIn_append]
    exact own
  · refine (agrees other).silent (silent_of_ne ?_) ?_
    · rw [about]
      exact fun named => same (Option.some.inj named)
    · rw [Pipeline.line_putSession, if_neg same]

theorem InOrder.untold_nodup (inOrder : state.InOrder events)
    (found : state.pipeline.sessions[id]? = some session) :
    ((session.inHand ++ session.queue).map CaptureRequest.number).Nodup := by
  have agrees := inOrder.agrees id
  rw [Agrees, Pipeline.line_found found] at agrees
  have all := agrees.numbers_nodup
  rw [List.map_append] at all
  exact (List.nodup_append.mp all).2.1

theorem InOrder.queue_nodup (inOrder : state.InOrder events)
    (found : state.pipeline.sessions[id]? = some session) :
    (session.queue.map CaptureRequest.number).Nodup := by
  have all := inOrder.untold_nodup found
  rw [List.map_append] at all
  exact (List.nodup_append.mp all).2.1

theorem InOrder.bounded_of_unqueued (inOrder : state.InOrder events)
    (unqueued : ∀ id, queuedIn id [event] = []) (id : SessionId) (request : CaptureRequest)
    (member : request ∈ queuedIn id (events ++ [event])) :
    request.number < state.pipeline.nextNumber := by
  rw [queuedIn_append, unqueued, List.append_nil] at member
  exact inOrder.bounded id request member

/-- What still waits was queued, and the answer to another ticket does not change that. -/
theorem InOrder.waiting_erase (inOrder : state.InOrder events)
    (answer : event = .accepted ticket ∨ event = .refused ticket) :
    ∀ other ∈ state.submitting.erase ticket,
      other.number ∈ (queuedIn other.session (events ++ [event])).map CaptureRequest.number ∧
        other.number ∉ refusedIn other.session (events ++ [event]) ∧
        other.number ∉ acceptedIn other.session (events ++ [event]) := by
  intro other member
  obtain ⟨different, waits⟩ := inOrder.distinct.mem_erase_iff.mp member
  obtain ⟨known, unrefused, unaccepted⟩ := inOrder.waiting other waits
  -- Numbers are given out once, and a ticket waits once.
  have unlike (same : ticket.session = other.session) : other.number ≠ ticket.number := by
    rintro number
    exact different (by cases other; cases ticket; simp_all)
  rw [queuedIn_append, refusedIn_append, acceptedIn_append]
  obtain rfl | rfl := answer
  · refine ⟨by simpa [queuedIn] using known, by simpa [refusedIn] using unrefused, ?_⟩
    by_cases same : ticket.session = other.session
    · simpa [acceptedIn, same, unlike same] using unaccepted
    · simpa [acceptedIn, same] using unaccepted
  · refine ⟨by simpa [queuedIn] using known, ?_, by simpa [acceptedIn] using unaccepted⟩
    by_cases same : ticket.session = other.session
    · simpa [refusedIn, same, unlike same] using unrefused
    · simpa [refusedIn, same] using unrefused

theorem InOrder.accept (inOrder : state.InOrder events) (waits : ticket ∈ state.submitting)
    (found : state.pipeline.sessions[ticket.session]? = some session) :
    InOrder (events ++ [.accepted ticket])
      { pipeline := state.pipeline.accept ticket, submitting := state.submitting.erase ticket } := by
  obtain ⟨known, unrefused, unaccepted⟩ := inOrder.waiting ticket waits
  rw [Pipeline.accept, Pipeline.modifySession_found found]
  have taken := inOrder.taken ticket.session session found
  constructor
  case taken =>
    exact inOrder.taken.putSession (by rw [CaptureSession.inHand_accept]; exact taken)
  case agrees =>
    refine agrees_putSession inOrder.agrees rfl ?_
    have own := (inOrder.agrees ticket.session).accept known unrefused
    have submitted : ∀ request ∈ session.inHand, request.submitted = true :=
      fun request member => submitted_of_isReady (taken request member)
    rw [Pipeline.line_found found, ← CaptureSession.line_accept submitted] at own
    simpa [queuedIn, toldIn, refusedIn, acceptedIn] using own
  case bounded => exact inOrder.bounded_of_unqueued fun _ => rfl
  case waiting => exact inOrder.waiting_erase (.inl rfl)
  case distinct => exact inOrder.distinct.erase ticket

theorem InOrder.refuse (inOrder : state.InOrder events) (waits : ticket ∈ state.submitting)
    (found : state.pipeline.sessions[ticket.session]? = some session) :
    InOrder (events ++ [.refused ticket])
      { pipeline := (state.pipeline.refuse ticket).2,
        submitting := state.submitting.erase ticket } := by
  obtain ⟨known, unrefused, unaccepted⟩ := inOrder.waiting ticket waits
  rw [Pipeline.refuse_found found]
  have agrees := inOrder.agrees ticket.session
  rw [Agrees, Pipeline.line_found found] at agrees
  have taken := inOrder.taken ticket.session session found
  -- A worker takes only what was accepted, so what is refused is still in the queue.
  have absent : ∀ request ∈ session.inHand, request.number ≠ ticket.number := by
    intro request member same
    have among : request.unanswered ∈ session.line :=
      List.mem_map_of_mem (List.mem_append_left _ member)
    have submitted : request.submitted = true := submitted_of_isReady (taken request member)
    have accepted := agrees.accepted_of_submitted
      (List.mem_append_right (List.map unanswered _) among) submitted
    exact unaccepted (same ▸ accepted)
  constructor
  case taken =>
    exact inOrder.taken.putSession (by rw [CaptureSession.inHand_withdraw]; exact taken)
  case agrees =>
    refine agrees_putSession inOrder.agrees rfl ?_
    have own := agrees.refuse known unaccepted
    rw [← CaptureSession.line_withdraw absent (inOrder.queue_nodup found)] at own
    simpa [queuedIn, toldIn, refusedIn, acceptedIn] using own
  case bounded => exact inOrder.bounded_of_unqueued fun _ => rfl
  case waiting => exact inOrder.waiting_erase (.inr rfl)
  case distinct => exact inOrder.distinct.erase ticket

theorem InOrder.tell {worker : Nat} {request : CaptureRequest} (inOrder : state.InOrder events)
    (sound : state.pipeline.Sound) (found : state.pipeline.sessions[id]? = some session)
    (notifying : session.Notifying worker request) :
    InOrder (events ++ [.told id request])
      { state with pipeline := state.pipeline.modifySession id (·.resume worker) } := by
  have taken := inOrder.taken id session found
  have line := CaptureSession.line_resume (sound.staffed found) notifying
  have member := CaptureSession.mem_inHand notifying
  rw [Pipeline.modifySession_found found]
  constructor
  case taken =>
    refine inOrder.taken.putSession fun other among => taken other ?_
    exact CaptureSession.inHand_resume session worker among
  case agrees =>
    refine agrees_putSession inOrder.agrees rfl ?_
    have agrees := inOrder.agrees id
    rw [Agrees, Pipeline.line_found found, line] at agrees
    have own := agrees.tell (submitted_of_isReady (taken request member))
    simpa [queuedIn, toldIn, refusedIn, acceptedIn] using own
  case bounded => exact inOrder.bounded_of_unqueued fun _ => rfl
  case waiting =>
    intro ticket waits
    rw [queuedIn_append, refusedIn_append, acceptedIn_append]
    simpa [queuedIn, refusedIn, acceptedIn] using inOrder.waiting ticket waits
  case distinct => exact inOrder.distinct

theorem InOrder.unknown (inOrder : state.InOrder events) (id : SessionId) :
    state.pipeline.nextNumber ∉ (queuedIn id events).map CaptureRequest.number := by
  intro member
  obtain ⟨earlier, among, same⟩ := List.mem_map.mp member
  exact absurd (inOrder.bounded id earlier among) (by omega)

theorem InOrder.waiting_queue {request : CaptureRequest} (inOrder : state.InOrder events)
    (numbered : request.number = ticket.number) (next : ticket.number = state.pipeline.nextNumber) :
    ∀ other ∈ ticket :: state.submitting,
      other.number ∈ (queuedIn other.session (events ++ [.queued ticket request])).map
          CaptureRequest.number ∧
        other.number ∉ refusedIn other.session (events ++ [.queued ticket request]) ∧
        other.number ∉ acceptedIn other.session (events ++ [.queued ticket request]) := by
  intro other waits
  rw [queuedIn_append, refusedIn_append, acceptedIn_append, List.map_append]
  obtain rfl | waits := List.mem_cons.mp waits
  · have agrees := inOrder.agrees other.session
    have unknown := inOrder.unknown other.session
    rw [← next] at unknown
    have unrefused : other.number ∉ refusedIn other.session events :=
      fun member => unknown (agrees.refused _ member)
    have unaccepted : other.number ∉ acceptedIn other.session events :=
      fun member => unknown (agrees.accepted _ member).1
    exact ⟨List.mem_append_right _ (by simp [queuedIn, numbered]),
      by simpa [refusedIn] using unrefused, by simpa [acceptedIn] using unaccepted⟩
  · obtain ⟨known, unrefused, unaccepted⟩ := inOrder.waiting other waits
    exact ⟨List.mem_append_left _ known, by simpa [refusedIn] using unrefused,
      by simpa [acceptedIn] using unaccepted⟩

theorem InOrder.queue {config : CaptureConfig} {buffer : Handle} {listener : CaptureListener}
    {pipeline : Pipeline} (inOrder : state.InOrder events) (sound : state.pipeline.Sound)
    (queued : state.pipeline.enqueue display config buffer listener = (some ticket, pipeline)) :
    InOrder (events ++ [.queued ticket { number := ticket.number, buffer, listener, config }])
      { pipeline, submitting := ticket :: state.submitting } := by
  obtain ⟨session, rfl, found, _, _, rfl⟩ := Pipeline.enqueue_some sound queued
  constructor
  case taken =>
    have taken := inOrder.taken.opened display _ session found
    exact (inOrder.taken.opened display).putSession taken
  case agrees =>
    have agrees (id : SessionId) : Agrees events (state.pipeline.opened display) id := by
      rw [Agrees, Pipeline.line_opened sound]
      exact inOrder.agrees id
    refine agrees_putSession agrees rfl ?_
    have own := agrees (state.pipeline.ticket display).session
    rw [Agrees, Pipeline.line_found found] at own
    rw [CaptureSession.line_enqueue]
    have above (earlier : CaptureRequest)
        (member : earlier ∈ queuedIn (state.pipeline.ticket display).session events) :
        earlier.number < (CaptureRequest.mk (state.pipeline.ticket display).number buffer listener
          config false none).number := inOrder.bounded _ earlier member
    simpa [queuedIn, toldIn, refusedIn, acceptedIn, unanswered] using own.queue above rfl
  case bounded =>
    intro id request member
    rw [queuedIn_append] at member
    obtain member | member := List.mem_append.mp member
    · exact Nat.lt_succ_of_lt (inOrder.bounded id request member)
    · obtain ⟨_, rfl⟩ : _ ∧ _ = request := by simpa [queuedIn] using member
      exact Nat.lt_succ_self _
  case waiting => exact inOrder.waiting_queue rfl rfl
  case distinct =>
    refine List.nodup_cons.mpr ⟨fun waits => ?_, inOrder.distinct⟩
    exact inOrder.unknown _ (inOrder.waiting _ waits).1

theorem Step.inOrder (step : Step state display event after) (sound : state.pipeline.Sound)
    (inOrder : state.InOrder events) : after.InOrder (events ++ [event]) := by
  cases step with
  | queue queued => exact inOrder.queue sound queued
  | decline declined =>
      obtain rfl := Pipeline.enqueue_none sound declined
      exact inOrder.decline sound
  | accept waits found => exact inOrder.accept waits found
  | refuse waits found => exact inOrder.refuse waits found
  | complete completed => exact inOrder.complete completed
  | remove => exact inOrder.remove sound
  | look found awake => exact inOrder.look sound found awake
  | tell found notifying => exact inOrder.tell sound found notifying

theorem Reaches.inOrder (reached : Reaches events state) : state.InOrder events := by
  induction reached with
  | start => exact .start
  | step reached next ih => exact next.inOrder reached.sound ih

end Moving

/-- In every session, the requests that listeners were told of, the one that a worker has in hand and
those in the queue are, in this order, the requests that were queued without those that the device
refused. No listener is told twice or before the device has accepted, or after it has refused; no
accepted request is lost; and what happens on one display does not touch the captures of another. -/
theorem captures_told_in_order (reached : Reaches events state) :
    (∀ (id : SessionId) (session : CaptureSession), state.pipeline.sessions[id]? = some session →
      session.inHand.length ≤ 1 ∧
        (toldIn id events ++ (session.inHand ++ session.queue)).map posted =
          (queuedIn id events).filter (fun request => request.number ∉ refusedIn id events) ∧
        ∀ number ∈ acceptedIn id events,
          ((toldIn id events ++ (session.inHand ++ session.queue)).map
            CaptureRequest.number).count number = 1) ∧
      (∀ id, ((queuedIn id events).map CaptureRequest.number).Pairwise (· < ·) ∧
        ((toldIn id events).map CaptureRequest.number).Nodup ∧
        ∀ request ∈ toldIn id events,
          request.number ∈ acceptedIn id events ∧ request.number ∉ refusedIn id events) ∧
      ∀ display event after, Step state display event after →
        Elsewhere display state.pipeline after.pipeline := by
  have inOrder := reached.inOrder
  refine ⟨?_, ?_, fun display event after step => step.elsewhere reached.sound⟩
  · intro id session found
    have agrees := inOrder.agrees id
    rw [Agrees, Pipeline.line_found found] at agrees
    refine ⟨?_, agrees.posted_eq, fun number member => agrees.count_eq_one member⟩
    exact (List.length_filterMap_le _ _).trans (reached.sound.staffed found).le_one
  · intro id
    have agrees := inOrder.agrees id
    refine ⟨agrees.ascending, ?_, ?_⟩
    · have distinct := agrees.distinct
      rw [List.map_append, List.map_map] at distinct
      exact distinct.sublist (List.sublist_append_left _ _)
    · intro request member
      have accepted := agrees.accepted_of_told member
      exact ⟨accepted, (agrees.accepted _ accepted).2⟩

/-- Three captures of a display are posted before the device has answered. It takes the second and
completes it, declines the third, and completes the first only when a worker sleeps on it. The
listeners are told of the first and then of the second. -/
theorem captures_told_in_order_overlapping :
    let posted (number id : Nat) : CaptureRequest :=
      { number, buffer := .owning ⟨⟨id⟩, [], []⟩, listener := ⟨0⟩, config := {} }
    let first : CaptureRequest := { posted 0 7 with submitted := true, status := some .failure }
    let second : CaptureRequest := { posted 1 8 with submitted := true, status := some .success }
    let events : List CaptureEvent :=
      [.queued ⟨⟨0⟩, 0⟩ (posted 0 7), .queued ⟨⟨0⟩, 1⟩ (posted 1 8), .queued ⟨⟨0⟩, 2⟩ (posted 2 9),
        .accepted ⟨⟨0⟩, 1⟩, .completed ⟨0⟩ 0 ⟨8⟩, .refused ⟨⟨0⟩, 2⟩, .looked ⟨0⟩ 0,
        .accepted ⟨⟨0⟩, 0⟩, .completed ⟨0⟩ 5 ⟨7⟩, .looked ⟨0⟩ 0, .told ⟨0⟩ first, .looked ⟨0⟩ 0,
        .told ⟨0⟩ second]
    ∃ (state : CaptureState) (session : CaptureSession), Reaches events state ∧
      state.pipeline.sessions[(⟨0⟩ : SessionId)]? = some session ∧
      toldIn ⟨0⟩ events = [first, second] ∧
      (toldIn ⟨0⟩ events ++ (session.inHand ++ session.queue)).map CaptureRequest.posted =
        (queuedIn ⟨0⟩ events).filter fun request => request.number ∉ refusedIn ⟨0⟩ events := by
  intro posted first second events
  have one := Reaches.start.step (@Step.queue {} ⟨0⟩ {} (.owning ⟨⟨7⟩, [], []⟩) ⟨0⟩ _ _ rfl)
  have two := one.step (@Step.queue _ ⟨0⟩ {} (.owning ⟨⟨8⟩, [], []⟩) ⟨0⟩ _ _ rfl)
  have three := two.step (@Step.queue _ ⟨0⟩ {} (.owning ⟨⟨9⟩, [], []⟩) ⟨0⟩ _ _ rfl)
  have accepted := three.step (@Step.accept _ ⟨⟨0⟩, 1⟩ _ (by decide) rfl)
  have completed := accepted.step (@Step.complete _ ⟨0⟩ 0 ⟨8⟩ _ rfl)
  have refused := completed.step (@Step.refuse _ ⟨⟨0⟩, 2⟩ _ (by decide) rfl)
  have slept := refused.step (@Step.look _ ⟨0⟩ 0 _ rfl rfl)
  have submitted := slept.step (@Step.accept _ ⟨⟨0⟩, 0⟩ _ (by decide) rfl)
  have finished := submitted.step (@Step.complete _ ⟨0⟩ 5 ⟨7⟩ _ rfl)
  have taken := finished.step (@Step.look _ ⟨0⟩ 0 _ rfl rfl)
  have told := taken.step (@Step.tell _ ⟨0⟩ 0 _ first rfl rfl)
  have next := told.step (@Step.look _ ⟨0⟩ 0 _ rfl rfl)
  have reached : Reaches events _ := next.step (@Step.tell _ ⟨0⟩ 0 _ second rfl rfl)
  have ordered := (captures_told_in_order reached).1 ⟨0⟩ _ rfl
  exact ⟨_, _, reached, rfl, rfl, ordered.2.1⟩

end CaptureState
end Scanout
