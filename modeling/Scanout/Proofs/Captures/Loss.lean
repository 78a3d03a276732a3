import Scanout.Proofs.Captures.Prospects

/-!
The loss of a display, and of one that the device is looking at a post for. The session that the
display had ends, and its requests fail. The post goes on in that session: a request that the device
refuses is taken out of it, and one that it accepts is failed as the others are.
-/

namespace Scanout

open CaptureRequest CaptureEvent

namespace CaptureSession

variable {session : CaptureSession} {request : CaptureRequest}

theorem abandon_enqueue_queue (session : CaptureSession) (request : CaptureRequest) :
    (session.enqueue request).abandon.queue =
      session.queue.map (finish .failure) ++ [request.finish .failure] := by
  change (session.queue ++ [request]).map (finish .failure) = _
  rw [List.map_append]
  rfl

theorem number_finish (status : CaptureStatus) (request : CaptureRequest) :
    (request.finish status).number = request.number := number_of_posted (posted_finish status request)

section

variable (fresh : ∀ other ∈ session.queue, other.number ≠ request.number)

include fresh

theorem queue_accept_abandon : ((session.enqueue request).abandon.accept request.number).queue =
    session.queue.map (finish .failure) ++ [(request.finish .failure).marked request.number] := by
  change (session.enqueue request).abandon.queue.map (marked request.number) = _
  rw [abandon_enqueue_queue, List.map_append, List.map_map]
  refine congrArg (· ++ _) (List.map_congr_left fun other member => ?_)
  refine if_neg ?_
  rw [number_finish]
  exact fresh other member

theorem withdraw_abandon : ((session.enqueue request).abandon.withdraw request.number).1.queue =
      session.queue.map (finish .failure) ∧
    ((session.enqueue request).abandon.withdraw request.number).2 =
      some (request.finish .failure) := by
  have others : ∀ other ∈ session.queue.map (finish .failure),
      ¬(other.number == request.number) = true := by
    intro other member
    obtain ⟨origin, among, rfl⟩ := List.mem_map.mp member
    rw [number_finish, beq_iff_eq]
    exact fresh origin among
  constructor
  · change (session.enqueue request).abandon.queue.eraseP _ = _
    rw [abandon_enqueue_queue, List.eraseP_append_right _ others]
    simp [number_finish]
  · change (session.enqueue request).abandon.queue.find? _ = _
    rw [abandon_enqueue_queue, List.find?_append, List.find?_eq_none.mpr others]
    simp [number_finish]

end

end CaptureSession

namespace Pipeline

variable {pipeline after : Pipeline} {display : DisplayId} {id : SessionId}
  {session : CaptureSession} {remaining : List CaptureRequest}

/-- A display has lost its session. The requests there have failed, and these have come behind them;
all others are as they were. -/
structure Loses (display : DisplayId) (remaining : List CaptureRequest) (before after : Pipeline) :
    Prop where
  ended : after.hasSession display = false
  current {other : DisplayId} (different : other ≠ display) :
    after.current[other]? = before.current[other]?
  kept {id : SessionId} {session : CaptureSession} (found : before.sessions[id]? = some session)
    (others : before.current[display]? ≠ some id) : after.sessions[id]? = some session
  failed {id : SessionId} {session : CaptureSession} (shown : before.current[display]? = some id)
    (found : before.sessions[id]? = some session) : ∃ left : CaptureSession,
      after.sessions[id]? = some left ∧ left.display = session.display ∧
        left.inHand = session.inHand ∧ left.queue = session.queue.map (finish .failure) ++ remaining
  begun {id : SessionId} {session : CaptureSession} (absent : before.sessions[id]? = none)
    (found : after.sessions[id]? = some session) : session.inHand = [] ∧ session.queue = remaining

/-- A session goes on in another form, and the display is without one. -/
def detach (pipeline : Pipeline) (display : DisplayId) (id : SessionId) (left : CaptureSession) :
    Pipeline :=
  { pipeline.putSession id left with current := pipeline.current.erase display }

theorem sessions_detach (pipeline : Pipeline) (display : DisplayId) (id other : SessionId)
    (left : CaptureSession) : (pipeline.detach display id left).sessions[other]? =
      if id = other then some left else pipeline.sessions[other]? :=
  sessions_putSession pipeline id other left

theorem detach_putSession (pipeline : Pipeline) (display : DisplayId) (id : SessionId)
    (session left : CaptureSession) :
    (pipeline.putSession id session).detach display id left = pipeline.detach display id left := by
  simp only [detach, putSession, Table.insert_insert]

theorem putSession_detach (pipeline : Pipeline) (display : DisplayId) (id : SessionId)
    (session left : CaptureSession) :
    (pipeline.detach display id session).putSession id left = pipeline.detach display id left := by
  simp only [detach, putSession, Table.insert_insert]

theorem removeDisplay_eq_detach (shown : pipeline.current[display]? = some id)
    (found : pipeline.sessions[id]? = some session) :
    pipeline.removeDisplay display = pipeline.detach display id session.abandon := by
  rw [removeDisplay_found shown, modifySession_found found]
  rfl

theorem loses_detach {left : CaptureSession} (shown : pipeline.current[display]? = some id)
    (found : pipeline.sessions[id]? = some session) (about : left.display = session.display)
    (hands : left.inHand = session.inHand)
    (queue : left.queue = session.queue.map (finish .failure) ++ remaining) :
    pipeline.Loses display remaining (pipeline.detach display id left) where
  ended := by
    rw [hasSession, detach, Table.contains_erase]
    simp
  current different := Table.getElem?_erase_of_ne different.symm
  kept {other entry} located others := by
    rw [sessions_detach, if_neg]
    · exact located
    · rintro rfl
      exact others shown
  failed {other entry} named located := by
    rw [shown] at named
    cases named
    rw [found] at located
    cases located
    exact ⟨left, by rw [sessions_detach, if_pos rfl], about, hands, queue⟩
  begun {other entry} absent there := by
    rw [sessions_detach, if_neg] at there
    · rw [absent] at there
      cases there
    · rintro rfl
      rw [found] at absent
      cases absent

theorem Sound.loses_removeDisplay (sound : pipeline.Sound) (display : DisplayId) :
    pipeline.Loses display [] (pipeline.removeDisplay display) := by
  cases entry : pipeline.current[display]? with
  | some id =>
      obtain ⟨session, found, rfl⟩ := sound.located entry
      rw [removeDisplay_eq_detach entry found]
      refine loses_detach entry found rfl session.line_abandon.2 ?_
      rw [List.append_nil]
      rfl
  | none =>
      rw [removeDisplay_absent entry]
      constructor
      case ended =>
        rw [hasSession, Std.ExtTreeMap.contains_eq_isSome_getElem?, entry]
        rfl
      case current => exact fun _ => rfl
      case kept => exact fun found _ => found
      case failed =>
        intro id session shown
        rw [entry] at shown
        cases shown
      case begun =>
        intro id session absent found
        rw [absent] at found
        cases found

section Opened

theorem opened_cases (pipeline : Pipeline) (display : DisplayId) :
    (pipeline.current[display]? = some (pipeline.ticket display).session ∧
        (pipeline.opened display).sessions = pipeline.sessions) ∨
      pipeline.current[display]? = none ∧
        (pipeline.ticket display).session = ⟨pipeline.nextSession⟩ ∧
        (pipeline.opened display).sessions =
          pipeline.sessions.insert ⟨pipeline.nextSession⟩ { display } := by
  unfold ticket opened
  obtain ⟨id, shown, opened⟩ | ⟨absent, opened⟩ := openSession_cases pipeline display
  · rw [opened]
    exact .inl ⟨shown, rfl⟩
  · rw [opened]
    exact .inr ⟨absent, rfl, rfl⟩

/-- It makes no difference to others that the display's session began with the post. -/
theorem Loses.of_opened (sound : pipeline.Sound)
    (loses : (pipeline.opened display).Loses display remaining after) :
    pipeline.Loses display remaining after where
  ended := loses.ended
  current different :=
    (loses.current different).trans ((CaptureState.elsewhere_opened sound display).current different)
  kept {id session} found others := by
    apply loses.kept (openSession_kept sound display found)
    rw [current_opened]
    rintro ⟨⟩
    obtain ⟨shown, _⟩ | ⟨_, fresh, _⟩ := opened_cases pipeline display
    · exact others shown
    · rw [fresh, sound.next_absent] at found
      cases found
  failed {id session} shown found := by
    obtain ⟨same, sessions⟩ | ⟨absent, _⟩ := opened_cases pipeline display
    · rw [same] at shown
      cases shown
      exact loses.failed (pipeline.current_opened display) (by rw [sessions, found])
    · rw [absent] at shown
      cases shown
  begun {id session} absent found := by
    obtain ⟨_, sessions⟩ | ⟨_, fresh, sessions⟩ := opened_cases pipeline display
    · exact loses.begun (by rw [sessions, absent]) found
    · by_cases same : (⟨pipeline.nextSession⟩ : SessionId) = id
      · have shown := pipeline.current_opened display
        rw [fresh, same] at shown
        have empty : (pipeline.opened display).sessions[id]? = some { display } := by
          rw [sessions, Table.getElem?_insert, if_pos same]
        obtain ⟨left, there, _, hands, queue⟩ := loses.failed shown empty
        rw [found] at there
        cases there
        exact ⟨hands, queue⟩
      · refine loses.begun ?_ found
        rw [sessions, Table.getElem?_insert, if_neg same, absent]

end Opened

/-- The session of a display that is lost is not another's. -/
theorem Sound.ended_removeDisplay (sound : pipeline.Sound) (shown : pipeline.current[display]? = some id) :
    (pipeline.removeDisplay display).Ended id := by
  intro other
  rw [removeDisplay_found shown, Table.getElem?_erase]
  split
  · exact nofun
  · next different =>
      intro named
      obtain ⟨session, found, about⟩ := sound.located shown
      exact different (about.symm.trans (sound.display_eq named found))

end Pipeline

namespace CaptureState

variable {state : CaptureState} {queued : Pipeline} {display : DisplayId} {config : CaptureConfig}
  {buffer : Handle} {listener : CaptureListener} {ticket : CaptureTicket}
  {events : List CaptureEvent}

open Pipeline

section

variable (reached : Reaches events state)
  (enqueued : state.pipeline.enqueue display config buffer listener = (some ticket, queued))

include reached enqueued

/-- What there is when a display is lost while the device looks at a post for it. -/
theorem lost_eq : ∃ session : CaptureSession,
    (state.pipeline.opened display).current[display]? = some ticket.session ∧
      (state.pipeline.opened display).sessions[ticket.session]? = some session ∧
      (∀ other ∈ session.queue, other.number ≠ ticket.number) ∧
      queued.removeDisplay display = (state.pipeline.opened display).detach display ticket.session
        (session.enqueue { number := ticket.number, buffer, listener, config }).abandon := by
  have next := reached.step (.queue enqueued)
  obtain ⟨session, rfl, found, _, _, rfl⟩ := enqueue_some reached.sound enqueued
  have shown := state.pipeline.current_opened display
  have located := sessions_putSession_self (state.pipeline.opened display)
    (state.pipeline.ticket display).session (session.enqueue
      { number := (state.pipeline.ticket display).number, buffer, listener, config })
  refine ⟨session, shown, found, ?_, ?_⟩
  · have distinct := next.inOrder.queue_nodup located
    rw [CaptureSession.enqueue, List.map_append, List.nodup_append] at distinct
    intro other member
    exact distinct.2.2 _ (List.mem_map_of_mem member) _ (List.mem_singleton_self _)
  · rw [← detach_putSession _ _ _ _ (CaptureSession.abandon _)]
    exact removeDisplay_eq_detach shown located

/-- The session is there when the device answers, and nobody's. -/
theorem lost_begun : ∃ session : CaptureSession,
    (queued.removeDisplay display).sessions[ticket.session]? = some session ∧
      (queued.removeDisplay display).Ended ticket.session := by
  obtain ⟨session, shown, found, _, lost⟩ := lost_eq reached enqueued
  have next := reached.step (.queue enqueued)
  refine ⟨_, by rw [lost, sessions_detach, if_pos rfl], ?_⟩
  obtain ⟨_, rfl, _, _, _, rfl⟩ := enqueue_some reached.sound enqueued
  exact next.sound.ended_removeDisplay shown

/-- The device accepts the post all the same. -/
theorem lost_accepted :
    let final := (queued.removeDisplay display).accept ticket
    let request : CaptureRequest :=
      { number := ticket.number, buffer, listener, config, submitted := true, status := some .failure }
    state.pipeline.Loses display [request] final ∧
      Owes ⟨final, state.submitting⟩ ticket.session request .failure := by
  intro final request
  obtain ⟨session, shown, found, fresh, lost⟩ := lost_eq reached enqueued
  obtain ⟨_, there, ended⟩ := lost_begun reached enqueued
  -- The request is queued, the display lost, and then the post accepted.
  have accepted := ((reached.step (.queue enqueued)).step (@Step.remove _ display)).step
    (.accept List.mem_cons_self there)
  rw [List.erase_cons_head] at accepted
  let posted : CaptureRequest := { number := ticket.number, buffer, listener, config }
  let left := (session.enqueue posted).abandon.accept ticket.number
  have same : final = (state.pipeline.opened display).detach display ticket.session left := by
    rw [lost, sessions_detach, if_pos rfl] at there
    cases there
    change (queued.removeDisplay display).modifySession _ _ = _
    rw [lost, modifySession_found (by rw [sessions_detach, if_pos rfl]), putSession_detach]
  have queue : left.queue = session.queue.map (finish .failure) ++ [request] := by
    have marks : (posted.finish .failure).marked ticket.number = request := if_pos rfl
    rw [← marks]
    exact @CaptureSession.queue_accept_abandon session posted fresh
  constructor
  · rw [same]
    apply Loses.of_opened reached.sound
    refine loses_detach shown found rfl ?_ queue
    exact (CaptureSession.inHand_accept _ _).trans (CaptureSession.line_abandon _).2
  · have remains : final.sessions[ticket.session]? = some left := by
      rw [same, sessions_detach, if_pos rfl]
    have member : request ∈ left.untold := by
      rw [CaptureSession.untold, queue]
      simp
    refine owes_accepted accepted ?_ remains member (by simp [acceptedIn, request]) rfl
    exact ended.of_same (current_modifySession _ _ _)

/-- The device refuses the post. -/
theorem lost_refused :
    let answer := (queued.removeDisplay display).refuse ticket
    answer.1.map CaptureRequest.buffer = some buffer ∧
      state.pipeline.Loses display [] answer.2 ∧
      Destined ⟨answer.2, state.submitting⟩ ticket [] := by
  intro answer
  obtain ⟨session, shown, found, fresh, lost⟩ := lost_eq reached enqueued
  obtain ⟨_, there, _⟩ := lost_begun reached enqueued
  have refused := ((reached.step (.queue enqueued)).step (@Step.remove _ display)).step
    (.refuse List.mem_cons_self there)
  rw [List.erase_cons_head] at refused
  let posted : CaptureRequest := { number := ticket.number, buffer, listener, config }
  let left := (session.enqueue posted).abandon.withdraw ticket.number
  have same : answer =
      (left.2, (state.pipeline.opened display).detach display ticket.session left.1) := by
    change (queued.removeDisplay display).refuse ticket = _
    rw [lost, refuse_found (by rw [sessions_detach, if_pos rfl]), putSession_detach]
  obtain ⟨queue, request⟩ : left.1.queue = session.queue.map (finish .failure) ∧
      left.2 = some (posted.finish .failure) := @CaptureSession.withdraw_abandon session posted fresh
  refine ⟨?_, ?_, ?_⟩
  · rw [same, request]
    rfl
  · rw [same]
    apply Loses.of_opened reached.sound
    refine loses_detach shown found rfl ?_ (by rw [queue, List.append_nil])
    exact (CaptureSession.inHand_withdraw _ _).trans (CaptureSession.line_abandon _).2
  · apply destined_refused refused
    · change answer.2.sessions[ticket.session]?.isSome
      rw [same, sessions_detach, if_pos rfl]
      rfl
    · simp [refusedIn]

end

end CaptureState

end Scanout
