import Scanout.Proofs.Captures.Completion
import Scanout.Proofs.Captures.Presence

/-!
What is still to come for a capture. Once the device has answered its post, nothing that happens
later changes how often its listener is told of it and with which outcome. In a session that has
ended, the worker alone brings it to its listener as soon as the device has answered all posts
there.
-/

namespace Scanout

open CaptureRequest CaptureSession CaptureEvent

/-- The event is a step of the session's worker. -/
def CaptureEvent.Worked (id : SessionId) : CaptureEvent → Prop
  | looked session _ | told session _ => session = id
  | queued .. | declined | accepted _ | refused _ | completed .. | removed _ => False

namespace InLine

variable {queued told waiting : List CaptureRequest} {accepted refused : List Nat}
  {request : CaptureRequest}

/-- An accepted request is in line as it was posted, but for its outcome. -/
theorem unanswered_of_accepted
    (inLine : InLine queued told (waiting.map unanswered) accepted refused)
    (member : request ∈ told ++ waiting) (submitted : request.number ∈ accepted) :
    ∃ origin ∈ queued, origin.number = request.number ∧
      request.unanswered = { origin with submitted := true } := by
  have ordered := inLine.ordered
  rw [← List.map_append] at ordered
  have listed : request.unanswered ∈ (told ++ waiting).map unanswered := List.mem_map_of_mem member
  rw [ordered] at listed
  obtain ⟨origin, among, same⟩ := List.mem_map.mp listed
  have number : origin.number = request.number := (CaptureRequest.mk.inj same).1
  refine ⟨origin, (List.mem_filter.mp among).1, number, ?_⟩
  rw [← same, number, decide_eq_true submitted]

theorem eq_of_number (inLine : InLine queued told waiting accepted refused)
    {other : CaptureRequest} (first : request ∈ queued) (second : other ∈ queued)
    (same : request.number = other.number) : request = other :=
  List.inj_on_of_nodup_map (inLine.ascending.imp fun less => Nat.ne_of_lt less) first second same

/-- What was refused is not in line. -/
theorem unlisted_of_refused
    (inLine : InLine queued told (waiting.map unanswered) accepted refused)
    (member : request ∈ told ++ waiting) : request.number ∉ refused := by
  have listed : request.posted ∈ (told ++ waiting).map posted := List.mem_map_of_mem member
  rw [inLine.posted_eq] at listed
  exact of_decide_eq_true (List.mem_filter.mp listed).2

end InLine

namespace CaptureState

/-- What happened from one state to another. -/
inductive Leads : CaptureState → List CaptureEvent → CaptureState → Prop where
  | stay (state : CaptureState) : Leads state [] state
  | step {state events middle display event after} (led : Leads state events middle)
      (next : Step middle display event after) : Leads state (events ++ [event]) after

variable {state middle after : CaptureState} {display : DisplayId} {event : CaptureEvent}
  {events more : List CaptureEvent} {id : SessionId} {session : CaptureSession}
  {ticket : CaptureTicket} {request : CaptureRequest} {number : Nat} {status : CaptureStatus}

theorem Leads.one (next : Step state display event after) : Leads state [event] after :=
  .step (.stay state) next

theorem Leads.trans (begins : Leads state events middle) (goesOn : Leads middle more after) :
    Leads state (events ++ more) after := by
  induction goesOn with
  | stay => rwa [List.append_nil]
  | step led next ih =>
      rw [← List.append_assoc]
      exact .step ih next

theorem Reaches.leads (reached : Reaches events state) (led : Leads state more after) :
    Reaches (events ++ more) after := by
  induction led with
  | stay => rwa [List.append_nil]
  | step led next ih =>
      rw [← List.append_assoc]
      exact .step ih next

theorem Leads.begun (reached : Reaches events state) (led : Leads state more after)
    (begun : state.pipeline.sessions[id]?.isSome) : after.pipeline.sessions[id]?.isSome := by
  induction led with
  | stay => exact begun
  | step led next ih => exact next.begun (reached.leads led).sound ih

theorem Step.untold_of_told (step : Step state display event after)
    (told : request ∈ toldIn id [event]) : ∃ session : CaptureSession,
      state.pipeline.sessions[id]? = some session ∧ request ∈ session.untold := by
  cases step with
  | tell found notifying =>
      obtain ⟨rfl, rfl⟩ : _ = id ∧ _ = request := by simpa [toldIn] using told
      exact ⟨_, found, List.mem_append_left _ (mem_inHand notifying)⟩
  | _ => cases told

/-- Of the requests in a session that have the number, the listeners are told of these from now on or
will be, and of no others, whatever happens. -/
def Destined (state : CaptureState) (ticket : CaptureTicket) (requests : List CaptureRequest) : Prop :=
  ∀ more after, Leads state more after → ∃ session,
    after.pipeline.sessions[ticket.session]? = some session ∧
      (toldIn ticket.session more ++ session.untold).filter (·.number = ticket.number) = requests

theorem destined_refused (reached : Reaches events state)
    (begun : state.pipeline.sessions[ticket.session]?.isSome)
    (refused : ticket.number ∈ refusedIn ticket.session events) : state.Destined ticket [] := by
  intro more after led
  obtain ⟨session, found⟩ := Option.isSome_iff_exists.mp (led.begun reached begun)
  refine ⟨session, found, ?_⟩
  have agrees := (reached.leads led).inOrder.agrees ticket.session
  rw [Agrees, Pipeline.line_found found, refusedIn_append, toldIn_append] at agrees
  apply List.filter_eq_nil_iff.mpr
  intro request member numbered
  have among : request ∈ (toldIn ticket.session events ++ toldIn ticket.session more) ++
      (session.inHand ++ session.queue) := by
    rw [List.append_assoc]
    exact List.mem_append_right _ member
  have unlisted := agrees.unlisted_of_refused among
  rw [of_decide_eq_true numbered] at unlisted
  exact unlisted (List.mem_append_left _ refused)

/-- Requests that have an outcome keep it until their listeners are told. -/
theorem Leads.settled (reached : Reaches events state) (led : Leads state more after)
    (known : number ∈ (queuedIn id events).map CaptureRequest.number)
    (settled : ∀ session, state.pipeline.sessions[id]? = some session →
      ∀ request ∈ session.untold, request.number = number → request.status = some status) :
    (∀ request ∈ toldIn id more, request.number = number → request.status = some status) ∧
      ∀ session, after.pipeline.sessions[id]? = some session →
        ∀ request ∈ session.untold, request.number = number → request.status = some status := by
  induction led with
  | stay => exact ⟨by simp [toldIn], settled⟩
  | @step more middle display event after led next ih =>
      obtain ⟨told, untold⟩ := ih
      have before := reached.leads led
      constructor
      · intro request member numbered
        rw [toldIn_append, List.mem_append] at member
        rcases member with earlier | now
        · exact told request earlier numbered
        · obtain ⟨session, found, among⟩ := next.untold_of_told now
          exact untold session found request among numbered
      · intro session found request member numbered
        have originates := next.originates before.sound before.attended before.inOrder.taken
        cases originates id session found request member with
        | queued now =>
            subst now
            refine absurd ?_ (next.unknown before id)
            rw [queuedIn_append, List.map_append, numbered]
            exact List.mem_append_left _ known
        | kept located about among same answered =>
            have origin := untold _ located _ among ((number_of_posted same).symm.trans numbered)
            rw [answered, origin]
            rfl

theorem unanswered_inj {other : CaptureRequest} (alike : request.unanswered = other.unanswered)
    (outcome : request.status = other.status) : request = other := by
  obtain ⟨number, buffer, listener, config, submitted, -⟩ := CaptureRequest.mk.inj alike
  cases request
  cases other
  simp_all

theorem destined_accepted (reached : Reaches events state)
    (found : state.pipeline.sessions[ticket.session]? = some session)
    (member : request ∈ session.untold) (numbered : request.number = ticket.number)
    (accepted : ticket.number ∈ acceptedIn ticket.session events)
    (settled : request.status = some status) : state.Destined ticket [request] := by
  intro more after led
  have begun : state.pipeline.sessions[ticket.session]?.isSome := by simp [found]
  obtain ⟨left, remains⟩ := Option.isSome_iff_exists.mp (led.begun reached begun)
  refine ⟨left, remains, ?_⟩
  have now := reached.inOrder.agrees ticket.session
  rw [Agrees, Pipeline.line_found found] at now
  have later := (reached.leads led).inOrder.agrees ticket.session
  rw [Agrees, Pipeline.line_found remains, acceptedIn_append, toldIn_append, queuedIn_append] at later
  have distinct := now.numbers_nodup
  rw [List.map_append] at distinct
  have known := (now.accepted _ accepted).1
  -- The listener was not told before, and is told once.
  have once : ∃ heir, (toldIn ticket.session more ++ left.untold).filter
      (·.number = ticket.number) = [heir] := by
    have before : ticket.number ∉ (toldIn ticket.session events).map CaptureRequest.number := by
      intro before
      refine List.disjoint_of_nodup_append distinct before ?_
      rw [← numbered]
      exact List.mem_map_of_mem member
    have count := later.count_eq_one (List.mem_append_left _ accepted)
    rw [List.append_assoc, List.map_append, List.count_append, List.count_eq_zero_of_not_mem before,
      Nat.zero_add, List.count, List.countP_map, List.countP_eq_length_filter] at count
    exact List.length_eq_one_iff.mp count
  obtain ⟨heir, only⟩ := once
  have listed : heir ∈ (toldIn ticket.session more ++ left.untold).filter
      (·.number = ticket.number) := by
    rw [only]
    exact List.mem_singleton_self heir
  obtain ⟨among, same⟩ := List.mem_filter.mp listed
  have same : heir.number = ticket.number := of_decide_eq_true same
  have outcome : heir.status = some status := by
    have before (kept : CaptureSession)
        (located : state.pipeline.sessions[ticket.session]? = some kept) (other : CaptureRequest)
        (there : other ∈ kept.untold) (alike : other.number = ticket.number) :
        other.status = some status := by
      rw [found] at located
      cases located
      have own := reached.inOrder.untold_nodup found
      rwa [List.inj_on_of_nodup_map own there member (alike.trans numbered.symm)]
    have lasting := led.settled reached known before
    rcases List.mem_append.mp among with told | untold
    · exact lasting.1 heir told same
    · exact lasting.2 left remains heir untold same
  have alike : heir.unanswered = request.unanswered := by
    have inLine : heir ∈ (toldIn ticket.session events ++ toldIn ticket.session more) ++
        (left.inHand ++ left.queue) := by
      rw [List.append_assoc]
      exact List.mem_append_right _ among
    obtain ⟨first, firstQueued, firstNumber, firstSame⟩ := later.unanswered_of_accepted inLine
      (by rw [same]; exact List.mem_append_left _ accepted)
    obtain ⟨second, secondQueued, secondNumber, secondSame⟩ := now.unanswered_of_accepted
      (List.mem_append_right _ member) (by rwa [numbered])
    have origin : first = second := later.eq_of_number firstQueued
      (List.mem_append_left _ secondQueued) (by rw [firstNumber, secondNumber, same, numbered])
    rw [firstSame, secondSame, origin]
  rw [only, unanswered_inj alike (outcome.trans settled.symm)]

section Drain

variable {front : CaptureRequest} {rest : List CaptureRequest}

theorem leads_look (found : state.pipeline.sessions[id]? = some session)
    (awake : session.workers = [.awake]) (queue : session.queue = front :: rest)
    (ready : front.isReady = true) : ∃ after, Leads state [.looked id 0] after ∧
      after.pipeline.sessions[id]? =
        some { session with queue := rest, workers := [.notifying front] } := by
  refine ⟨_, .one (.look found (by rw [awake]; rfl)), ?_⟩
  rw [Pipeline.modifySession_found found, Pipeline.sessions_putSession_self]
  simp [CaptureSession.look, queue, ready, awake]

theorem leads_tell (found : state.pipeline.sessions[id]? = some session)
    (notifying : session.workers = [.notifying request]) : ∃ after, Leads state [.told id request] after ∧
      after.pipeline.sessions[id]? = some { session with workers := [.awake] } := by
  have inHand : session.Notifying 0 request := by
    rw [CaptureSession.Notifying, notifying]
    rfl
  refine ⟨_, .one (.tell found inHand), ?_⟩
  rw [Pipeline.modifySession_found found, Pipeline.sessions_putSession_self]
  simp [CaptureSession.resume, notifying]

/-- A worker brings the requests of a session to their listeners, from the first to the one meant. -/
def Brings (state : CaptureState) (id : SessionId) (request : CaptureRequest) : Prop :=
  ∃ more after, Leads state more after ∧ (∀ event ∈ more, event.Worked id) ∧ request ∈ toldIn id more

theorem Brings.earlier (led : Leads state more middle) (worked : ∀ event ∈ more, event.Worked id)
    (brings : middle.Brings id request) : state.Brings id request := by
  obtain ⟨further, after, goesOn, works, heard⟩ := brings
  refine ⟨more ++ further, after, led.trans goesOn, ?_, ?_⟩
  · intro event member
    exact (List.mem_append.mp member).elim (worked event) (works event)
  · rw [toldIn_append]
    exact List.mem_append_right _ heard

theorem brings_inHand (found : state.pipeline.sessions[id]? = some session)
    (notifying : session.workers = [.notifying request]) : state.Brings id request := by
  obtain ⟨after, led, -⟩ := leads_tell found notifying
  exact ⟨_, after, led, by simp [Worked], by simp [toldIn]⟩

theorem brings_queued (found : state.pipeline.sessions[id]? = some session)
    (awake : session.workers = [.awake]) (ready : ∀ request ∈ session.queue, request.isReady = true)
    (member : request ∈ session.queue) : state.Brings id request := by
  -- Once its first request is told, the worker is awake again, with the rest of the queue.
  generalize queue : session.queue = line at ready member
  induction line generalizing state session with
  | nil => cases member
  | cons front rest ih =>
      obtain ⟨taken, looked, inHand⟩ := leads_look found awake queue (ready front List.mem_cons_self)
      refine .earlier looked (by simp [Worked]) ?_
      rcases List.mem_cons.mp member with rfl | later
      · exact brings_inHand inHand rfl
      · obtain ⟨resumed, told, again⟩ := leads_tell inHand rfl
        refine .earlier told (by simp [Worked]) ?_
        exact ih again rfl rfl (fun other among => ready other (List.mem_cons_of_mem _ among)) later

theorem brings_untold (attended : session.Attended)
    (found : state.pipeline.sessions[id]? = some session)
    (ready : ∀ request ∈ session.queue, request.isReady = true) (member : request ∈ session.untold) :
    state.Brings id request := by
  have single := attended.staffed.le_one
  cases workers : session.workers with
  | nil =>
      have running := attended.staffed
      rw [CaptureSession.Staffed, workers] at running
      rcases List.mem_append.mp member with inHand | queued
      · simp [CaptureSession.inHand, workers] at inHand
      · have submitted := submitted_of_isReady (ready request queued)
        simp [attended.served request queued submitted] at running
  | cons worker others =>
      obtain rfl : others = [] := by simpa [workers] using single
      cases worker with
      | awake =>
          have queued : request ∈ session.queue := by
            simpa [CaptureSession.untold, CaptureSession.inHand, workers, Worker.request?] using member
          exact brings_queued found workers ready queued
      | asleep =>
          -- It sleeps only while the first request waits for its outcome.
          obtain ⟨front, rest, queue, waits⟩ := attended.awaited (by simp [workers])
          simp [ready front (by simp [queue])] at waits
      | notifying first =>
          rcases List.mem_append.mp member with inHand | queued
          · obtain rfl : request = first := by
              simpa [CaptureSession.inHand, workers, Worker.request?] using inHand
            exact brings_inHand found workers
          · obtain ⟨resumed, told, again⟩ := leads_tell found workers
            exact .earlier told (by simp [Worked]) (brings_queued again rfl ready queued)

end Drain

section Ended

/-- A session that has ended does not come back. -/
theorem Step.ended (step : Step state display event after) (sound : state.pipeline.Sound)
    (begun : state.pipeline.sessions[id]?.isSome) (ended : state.pipeline.Ended id) :
    after.pipeline.Ended id := by
  obtain ⟨session, found⟩ := Option.isSome_iff_exists.mp begun
  have earlier := sound.begun found
  cases step with
  | queue queued =>
      obtain ⟨_, _, _, _, _, rfl⟩ := Pipeline.enqueue_some sound queued
      exact (ended.opened earlier _).of_same rfl
  | decline declined =>
      obtain rfl := Pipeline.enqueue_none sound declined
      exact ended.opened earlier _
  | accept => exact ended.of_same (Pipeline.current_modifySession _ _ _)
  | refuse waits located =>
      rw [Pipeline.refuse_found located]
      exact ended.of_same rfl
  | complete completed =>
      obtain ⟨_, _, _, _, _, _, rfl⟩ := Pipeline.complete_ok completed
      exact ended.of_same rfl
  | remove => exact ended.removeDisplay _
  | look => exact ended.of_same (Pipeline.current_modifySession _ _ _)
  | tell => exact ended.of_same (Pipeline.current_modifySession _ _ _)

theorem Leads.ended (reached : Reaches events state) (led : Leads state more after)
    (begun : state.pipeline.sessions[id]?.isSome) (ended : state.pipeline.Ended id) :
    after.pipeline.Ended id := by
  induction led with
  | stay => exact ended
  | step led next ih => exact next.ended (reached.leads led).sound (led.begun reached begun) ih

end Ended

/-- The listener of the request is still to be told of it, with its outcome and just once, and is told
by the session's worker as soon as the device has answered all posts there. -/
structure Owes (state : CaptureState) (id : SessionId) (request : CaptureRequest)
    (outcome : CaptureStatus) : Prop where
  settled : request.status = some outcome
  once : state.Destined ⟨id, request.number⟩ [request]
  heard {more : List CaptureEvent} {after : CaptureState} (led : Leads state more after)
    {session : CaptureSession} (found : after.pipeline.sessions[id]? = some session)
    {worker : Nat} {told : CaptureRequest} (notifying : session.Notifying worker told)
    (numbered : told.number = request.number) : ∃ resume,
      (Pipeline.work id worker).start after.pipeline =
        .ask (.captured session.display request.listener outcome request.buffer.native)
          after.pipeline resume
  comes {more : List CaptureEvent} {after : CaptureState} (led : Leads state more after)
    (answered : ∀ ticket ∈ after.submitting, ticket.session ≠ id) :
    request ∈ toldIn id more ∨ after.Brings id request

theorem owes_accepted (reached : Reaches events state) (ended : state.pipeline.Ended id)
    (found : state.pipeline.sessions[id]? = some session) (member : request ∈ session.untold)
    (accepted : request.number ∈ acceptedIn id events) (settled : request.status = some status) :
    state.Owes id request status := by
  have destined : state.Destined ⟨id, request.number⟩ [request] :=
    destined_accepted reached found member rfl accepted settled
  have begun : state.pipeline.sessions[id]?.isSome := by simp [found]
  constructor
  case settled => exact settled
  case once => exact destined
  case heard =>
    intro more after led left remains worker told notifying numbered
    obtain ⟨kept, located, only⟩ := destined more after led
    rw [remains] at located
    cases located
    have among : told ∈ (toldIn id more ++ left.untold).filter (·.number = request.number) :=
      List.mem_filter.mpr ⟨List.mem_append_right _ (List.mem_append_left _ (mem_inHand notifying)),
        decide_eq_true numbered⟩
    rw [only] at among
    obtain rfl := List.mem_singleton.mp among
    obtain ⟨outcome, same, asks⟩ := (reached.leads led).heard remains notifying
    rw [settled] at same
    cases same
    exact asks
  case comes =>
    intro more after led answered
    obtain ⟨left, remains, only⟩ := destined more after led
    have among : request ∈ (toldIn id more ++ left.untold).filter (·.number = request.number) := by
      rw [only]
      exact List.mem_singleton_self request
    have later := reached.leads led
    refine (List.mem_append.mp (List.mem_filter.mp among).1).imp_right fun untold => ?_
    exact brings_untold (later.attended.attended remains) remains
      (later.ready (led.ended reached begun ended) remains answered) untold

end CaptureState
end Scanout
