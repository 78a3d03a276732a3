import Scanout.Proofs.Captures.Pipeline
import Scanout.Proofs.References.Displays

/-!
Captures keep the account. A post takes a reference in and leaves it with the queued request; the
request takes it along, through the refusal of the device or the hands of a worker, to the place
where it is given back.
-/

namespace Scanout

namespace CaptureSession

variable {session after : CaptureSession}

theorem heldBy_handles (session : CaptureSession) :
    heldBy session.handles =
      heldBy ((session.workers.filterMap Worker.request?).map CaptureRequest.buffer) +
        heldBy (session.queue.map CaptureRequest.buffer) := by
  rw [handles, List.map_append, heldBy_append]

@[simp] theorem handles_wakeAll (session : CaptureSession) :
    session.wakeAll.handles = session.handles := by
  have same : (fun worker : Worker => worker.wake.request?) = Worker.request? :=
    funext Worker.request?_wake
  simp only [handles, wakeAll, List.filterMap_map, Function.comp_def, same]

theorem heldBy_enqueue (session : CaptureSession) (request : CaptureRequest) :
    heldBy (session.enqueue request).handles =
      heldBy session.handles + heldBy [request.buffer] := by
  rw [heldBy_handles, heldBy_handles, add_assoc, ← heldBy_append]
  simp [enqueue]

theorem heldBy_withdraw (session : CaptureSession) (number : Nat) :
    heldBy (session.withdraw number).1.handles +
        heldBy ((session.withdraw number).2.map CaptureRequest.buffer).toList =
      heldBy session.handles := by
  have split (queue : List CaptureRequest) :
      heldBy ((queue.eraseP fun request => request.number == number).map CaptureRequest.buffer) +
          heldBy ((queue.find? fun request => request.number == number).map
            CaptureRequest.buffer).toList =
        heldBy (queue.map CaptureRequest.buffer) := by
    induction queue with
    | nil => rfl
    | cons first rest ih =>
        rw [List.map_cons, heldBy_cons]
        rw [List.eraseP_cons, List.find?_cons]
        cases first.number == number with
        | true => exact add_comm _ _
        | false =>
            rw [← ih, ← add_assoc]
            exact congrArg (· + _) (heldBy_cons ..)
  rw [withdraw, handles_wakeAll, heldBy_handles, heldBy_handles, add_assoc]
  exact congrArg (_ + ·) (split session.queue)

/-- Requests that are marked in some way keep their buffers. -/
theorem heldBy_of_same (buffers : after.queue.map CaptureRequest.buffer =
      session.queue.map CaptureRequest.buffer)
    (workers : after.workers.filterMap Worker.request? =
      session.workers.filterMap Worker.request?) :
    heldBy after.handles = heldBy session.handles := by
  rw [heldBy_handles, heldBy_handles, buffers, workers]

@[simp] theorem buffer_finish (request : CaptureRequest) (status : CaptureStatus) :
    (request.finish status).buffer = request.buffer := by
  unfold CaptureRequest.finish
  split <;> rfl

theorem heldBy_accept (session : CaptureSession) (number : Nat) :
    heldBy (session.accept number).handles = heldBy session.handles := by
  rw [accept, handles_wakeAll]
  refine heldBy_of_same ?_ ?_
  · rw [List.map_map]
    refine List.map_congr_left fun request _ => ?_
    simp only [Function.comp]
    split <;> rfl
  · cases session.workerRunning <;> simp [Worker.request?]

theorem heldBy_complete {id : BufferId} {status : CaptureStatus}
    (completed : session.complete id status = some after) :
    heldBy after.handles = heldBy session.handles := by
  obtain ⟨place, _, rfl⟩ := complete_some completed
  rw [handles_wakeAll]
  refine heldBy_of_same ?_ rfl
  refine List.ext_getElem? fun position => ?_
  rw [List.getElem?_map, List.getElem?_map, List.getElem?_modify]
  cases session.queue[position]? with
  | none => rfl
  | some request =>
      simp only [Option.map_some]
      split <;> simp

theorem heldBy_abandon (session : CaptureSession) :
    heldBy session.abandon.handles = heldBy session.handles := by
  rw [abandon, handles_wakeAll]
  refine heldBy_of_same ?_ rfl
  rw [List.map_map]
  exact List.map_congr_left fun request _ => buffer_finish request _

theorem heldBy_look {worker : Nat} (staffed : session.Staffed)
    (awake : session.workers[worker]? = some .awake) :
    heldBy (session.look worker).handles = heldBy session.handles := by
  obtain ⟨single, ⟨queue, ended⟩ | ⟨front, rest, queue, ⟨_, taken⟩ | ⟨_, slept⟩⟩⟩ :=
    staffed.look_cases awake
  · rw [ended, heldBy_handles, heldBy_handles session, single]
    rfl
  · rw [taken, heldBy_handles, heldBy_handles session, single, queue, List.map_cons,
      heldBy_cons front.buffer]
    exact (zero_add _).symm
  · rw [slept, heldBy_handles, heldBy_handles session, single]
    rfl

theorem heldBy_resume {worker : Nat} {request : CaptureRequest} (staffed : session.Staffed)
    (notifying : session.Notifying worker request) :
    heldBy (session.resume worker).handles + heldBy [request.buffer] =
      heldBy session.handles := by
  obtain ⟨single, resumed⟩ := staffed.resume_eq notifying
  rw [resumed, heldBy_handles, heldBy_handles session, add_right_comm, single]
  exact congrArg (· + _) (zero_add _)

end CaptureSession

namespace Pipeline

variable {pipeline after : Pipeline} {id : SessionId} {session replaced : CaptureSession}

theorem heldBy_handles (pipeline : Pipeline) :
    heldBy pipeline.handles =
      Table.gather (fun session : CaptureSession => heldBy session.handles) pipeline.sessions :=
  heldBy_flatMap _ _

theorem heldBy_putSession {outgoing incoming : Multiset NativeHandle}
    (found : pipeline.sessions[id]? = some replaced)
    (exchanged : heldBy session.handles + outgoing = heldBy replaced.handles + incoming) :
    heldBy (pipeline.putSession id session).handles + outgoing =
      heldBy pipeline.handles + incoming := by
  rw [heldBy_handles, heldBy_handles]
  exact Table.gather_exchange _ found exchanged

theorem heldBy_putSession_out {outgoing : Multiset NativeHandle}
    (found : pipeline.sessions[id]? = some replaced)
    (same : heldBy session.handles + outgoing = heldBy replaced.handles) :
    heldBy pipeline.handles = heldBy (pipeline.putSession id session).handles + outgoing := by
  rw [← add_zero (heldBy replaced.handles)] at same
  rw [heldBy_putSession found same, add_zero]

theorem heldBy_putSession_same (found : pipeline.sessions[id]? = some replaced)
    (same : heldBy session.handles = heldBy replaced.handles) :
    heldBy (pipeline.putSession id session).handles = heldBy pipeline.handles := by
  have placed := heldBy_putSession found (congrArg (· + 0) same)
  rwa [add_zero, add_zero] at placed

theorem heldBy_modifySession {change : CaptureSession → CaptureSession}
    (same : ∀ session, pipeline.sessions[id]? = some session →
      heldBy (change session).handles = heldBy session.handles) :
    heldBy (pipeline.modifySession id change).handles = heldBy pipeline.handles := by
  cases entry : pipeline.sessions[id]? with
  | none => rw [modifySession_absent entry]
  | some session =>
      rw [modifySession_found entry]
      exact heldBy_putSession_same entry (same session entry)

theorem heldBy_opened (sound : pipeline.Sound) (display : DisplayId) :
    heldBy (pipeline.opened display).handles = heldBy pipeline.handles := by
  rw [heldBy_handles, heldBy_handles, opened]
  obtain ⟨_, _, opened⟩ | ⟨_, opened⟩ := openSession_cases pipeline display
  · rw [opened]
  · rw [opened]
    exact (Table.gather_of_absent sound.next_absent).trans (add_zero _)

theorem heldBy_enqueue (sound : pipeline.Sound) (display : DisplayId) (config : CaptureConfig)
    (buffer : Handle) (listener : CaptureListener) :
    heldBy pipeline.handles + heldBy [buffer] =
      heldBy (pipeline.enqueue display config buffer listener).2.handles +
        if (pipeline.enqueue display config buffer listener).1.isSome then 0
        else heldBy [buffer] := by
  obtain ⟨session, found, _, ⟨_, queued⟩ | ⟨_, queued⟩⟩ :=
    enqueue_cases sound display config buffer listener
  · rw [queued, heldBy_opened sound]
    rfl
  · rw [queued, ← heldBy_opened sound display]
    have placed := heldBy_putSession found
      ((add_zero _).trans (session.heldBy_enqueue ⟨pipeline.nextNumber, buffer, listener, config,
        false, none⟩))
    exact placed.symm

theorem heldBy_refuse (pipeline : Pipeline) (ticket : CaptureTicket) :
    heldBy pipeline.handles =
      heldBy (pipeline.refuse ticket).2.handles +
        heldBy ((pipeline.refuse ticket).1.map CaptureRequest.buffer).toList := by
  cases entry : pipeline.sessions[ticket.session]? with
  | none =>
      rw [refuse_absent entry]
      exact (add_zero _).symm
  | some session =>
      rw [refuse_found entry]
      exact heldBy_putSession_out entry (session.heldBy_withdraw ticket.number)

theorem heldBy_complete {display : DisplayId} {code : Int} {buffer : BufferId}
    (completed : pipeline.complete display code buffer = .ok after) :
    heldBy after.handles = heldBy pipeline.handles := by
  obtain ⟨id, session, completion, _, found, outcome, rfl⟩ := complete_ok completed
  exact heldBy_putSession_same found (CaptureSession.heldBy_complete outcome)

theorem heldBy_removeDisplay (pipeline : Pipeline) (display : DisplayId) :
    heldBy (pipeline.removeDisplay display).handles = heldBy pipeline.handles := by
  cases entry : pipeline.current[display]? with
  | none => rw [removeDisplay_absent entry]
  | some id =>
      rw [removeDisplay_found entry]
      exact heldBy_modifySession fun session _ => session.heldBy_abandon

/-- The account of the captures, kept by a worker or by anything else. -/
def books (own : Option (SessionId × Nat)) (relies : Pipeline → Prop) : Books Pipeline where
  owned pipeline := heldBy pipeline.handles
  Sound := Sound
  Relies := relies
  Permits := Undisturbed own
  refl := .refl own
  trans := .trans

theorem books_stable (own : Option (SessionId × Nat)) : (books own fun _ => True).Stable :=
  fun _ _ => trivial

section Post

variable {own : Option (SessionId × Nat)}

/-- The reference of a request that is queued stays with it. -/
theorem carries_enqueue (display : DisplayId) (config : CaptureConfig) (buffer : Handle)
    (listener : CaptureListener) :
    (modifyGet (·.enqueue display config buffer listener) :
        Action Pipeline (Option CaptureTicket)).Carries (books own fun _ => True)
      (heldBy [buffer]) fun ticket rest => rest = if ticket.isSome then 0 else heldBy [buffer] :=
  .modifyGet fun _ sound _ => ⟨Sound.enqueue sound, .enqueue sound, _, rfl,
    heldBy_enqueue sound display config buffer listener⟩

theorem neutral_accept (ticket : CaptureTicket) :
    (modify (·.accept ticket) : Action Pipeline Unit).Neutral (books own fun _ => True) := by
  refine .modify fun pipeline sound _ => ⟨?_, ?_, ?_⟩
  · exact sound.modifySession (fun _ _ staffed => .accept staffed _) fun _ _ => rfl
  · exact .modifySession fun _ _ _ _ _ notifying => .accept notifying _
  · exact heldBy_modifySession fun session _ => session.heldBy_accept ticket.number

theorem carries_refuse (ticket : CaptureTicket) :
    (modifyGet (·.refuse ticket) : Action Pipeline (Option CaptureRequest)).Carries
      (books own fun _ => True) 0 fun request rest =>
        rest = heldBy (request.map CaptureRequest.buffer).toList :=
  .modifyGet fun pipeline sound _ => ⟨sound.refuse ticket, .refuse pipeline ticket, _, rfl,
    (add_zero _).trans (pipeline.heldBy_refuse ticket)⟩

theorem neutral_post (display : DisplayId) (config : CaptureConfig) (buffer : NativeHandle)
    (listener : CaptureListener) :
    (post display config buffer listener).Neutral (books own fun _ => True) := by
  have stable : (books own fun _ => True).Stable := books_stable own
  unfold post
  cases buffer.id.isAnonymous with
  | true => exact .pure _
  | false =>
      refine Action.Carries.bind stable (.importBuffer buffer) ?_
      rintro reply _ rfl
      rw [zero_add]
      cases reply with
      | error reason => exact .pure rfl
      | ok _ =>
          refine .bind stable (carries_enqueue display config (.owning buffer) listener) ?_
          rintro ticket _ rfl
          cases ticket with
          | none => exact .release_pure stable [.owning buffer] _
          | some ticket =>
              refine .bind stable (.call _) ?_
              rintro answer _ rfl
              cases answer with
              | ok _ =>
                  refine .bind stable (neutral_accept ticket) ?_
                  rintro _ _ rfl
                  exact .pure rfl
              | error status =>
                  refine .bind stable (carries_refuse ticket) ?_
                  rintro request _ rfl
                  exact .release_pure stable _ _

end Post

section Work

/-- What a worker relies on: the request that it began with is in its hand. -/
def Keeping (start : Pipeline) (id : SessionId) (worker : Nat) (pipeline : Pipeline) : Prop :=
  ∀ request, start.Notifying id worker request → pipeline.Notifying id worker request

theorem heldBy_look {worker : Nat} (sound : pipeline.Sound)
    (found : pipeline.sessions[id]? = some session)
    (awake : session.workers[worker]? = some .awake) :
    heldBy (pipeline.modifySession id (·.look worker)).handles = heldBy pipeline.handles := by
  refine heldBy_modifySession fun other located => ?_
  rw [found] at located
  cases located
  exact CaptureSession.heldBy_look (sound.staffed found) awake

theorem heldBy_resume {worker : Nat} {request : CaptureRequest} (sound : pipeline.Sound)
    (notifying : pipeline.Notifying id worker request) :
    heldBy pipeline.handles =
      heldBy (pipeline.modifySession id (·.resume worker)).handles + heldBy [request.buffer] := by
  obtain ⟨session, found, inHand⟩ := notifying
  rw [modifySession_found found]
  exact heldBy_putSession_out found (CaptureSession.heldBy_resume (sound.staffed found) inHand)

variable {start : Pipeline} {worker : Nat}

/-- The account of a worker, which never has a reference in hand at a request. -/
def WorkerAccounts (start : Pipeline) (id : SessionId) (worker : Nat) (run : Run Pipeline Unit)
    (pipeline : Pipeline) (total : Multiset NativeHandle) : Prop :=
  run.Accounts (books (some (id, worker)) (start.Keeping id worker)) (· = 0)
    (fun _ after total => total = heldBy after.handles) pipeline total

/-- A worker that finishes with its request takes it out of the pipeline. -/
theorem accounts_resume (sound : pipeline.Sound) :
    WorkerAccounts start id worker
      ((modify (·.modifySession id (·.resume worker)) : Action Pipeline Unit).start pipeline)
      pipeline (heldBy (pipeline.modifySession id (·.resume worker)).handles) := by
  refine ⟨sound.modifySession (fun session _ staffed => .resume staffed _) (fun _ _ => rfl),
    .modifySession ?_, rfl⟩
  intro _ _ _ _ others inHand
  exact .resume inHand fun same => others (by rw [same])

/-- The request is in the pipeline while its buffer is given back. -/
theorem accounts_release {request : CaptureRequest} (kept : start.Notifying id worker request)
    (sound : pipeline.Sound) (keeping : start.Keeping id worker pipeline) :
    WorkerAccounts start id worker
      ((do
        Action.release [request.buffer]
        modify (·.modifySession id (·.resume worker)) : Action Pipeline Unit).start pipeline)
      pipeline (heldBy pipeline.handles) := by
  have balance := heldBy_resume sound (keeping request kept)
  cases imported : request.buffer.imported with
  | false =>
      have none : referencesOf [request.buffer] = [] := by
        simp [referencesOf, Handle.references, imported]
      have nothing : heldBy [request.buffer] = 0 := congrArg _ none
      rw [balance, nothing, add_zero, Action.release, none]
      exact accounts_resume sound
  | true =>
      have one : referencesOf [request.buffer] = [request.buffer.native] := by
        simp [referencesOf, Handle.references, imported]
      have single : heldBy [request.buffer] = {request.buffer.native} := congrArg _ one
      rw [Action.release, one]
      refine ⟨sound, Undisturbed.refl _ _, keeping, 0, rfl, (add_zero _).symm, ?_⟩
      intro _ after soundAfter keptAfter
      have freed := heldBy_resume soundAfter (keptAfter request kept)
      rw [single] at freed
      exact ⟨_, ((add_zero _).trans (add_zero _)).trans freed, accounts_resume soundAfter⟩

theorem accounts_look (sound : start.Sound) (found : start.sessions[id]? = some session)
    (awake : session.workers[worker]? = some .awake) :
    WorkerAccounts start id worker
      ((modify (·.modifySession id (·.look worker)) : Action Pipeline Unit).start start)
      start (heldBy start.handles) := by
  obtain ⟨present, _⟩ := List.getElem?_eq_some_iff.mp awake
  refine ⟨sound.modifySession ?_ ?_, .modifySession ?_, (heldBy_look sound found awake).symm⟩
  · intro other located staffed
    rw [found] at located
    cases located
    exact .look staffed present
  · intro other _
    exact CaptureSession.display_look other worker
  · intro other located place request others inHand
    rw [found] at located
    cases located
    exact .look inHand (sound.staffed found) present fun same => others (by rw [same])

theorem accounts_work (sound : start.Sound) (id : SessionId) (worker : Nat) :
    WorkerAccounts start id worker ((work id worker).start start) start
      (heldBy start.handles) := by
  have idle : WorkerAccounts start id worker ((pure () : Action Pipeline Unit).start start) start
      (heldBy start.handles) := ⟨sound, Undisturbed.refl _ _, rfl⟩
  rw [work, Action.start_bind, Action.start_get, Run.done_andThen]
  cases found : start.sessions[id]? with
  | none => exact idle
  | some session =>
      cases entry : session.workers[worker]? with
      | none => simpa only [entry] using idle
      | some doing =>
          cases doing with
          | asleep => simpa only [entry] using idle
          | awake =>
              simp only [entry]
              exact accounts_look sound found entry
          | notifying request =>
              simp only [entry]
              refine ⟨sound, Undisturbed.refl _ _, fun _ kept => kept, 0, rfl,
                (add_zero _).symm, ?_⟩
              intro _ after soundAfter keptAfter
              exact ⟨heldBy after.handles, congrArg (· + 0) (add_zero _),
                accounts_release ⟨session, found, entry⟩ soundAfter keptAfter⟩

end Work

end Pipeline
end Scanout
