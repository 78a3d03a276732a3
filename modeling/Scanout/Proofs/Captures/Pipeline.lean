import Scanout.Capture.Pipeline
import Scanout.Proofs.Captures.Session
import Scanout.Proofs.Table

/-!
What the operations on a pipeline do to its sessions. Each changes one session, if any, and begins
one at most. The sessions that have begun are numbered in order, and the session that a display has
is one of its own.
-/

namespace Scanout.Pipeline

variable {pipeline after : Pipeline} {id other : SessionId} {session replaced : CaptureSession}
  {display : DisplayId} {worker : Nat} {request : CaptureRequest}

/-- The sessions are staffed and accounted for. -/
structure Sound (pipeline : Pipeline) : Prop where
  staffed : ∀ {id : SessionId} {session : CaptureSession},
    pipeline.sessions[id]? = some session → session.Staffed
  begun : ∀ {id : SessionId} {session : CaptureSession},
    pipeline.sessions[id]? = some session → id.raw < pipeline.nextSession
  located : ∀ {display : DisplayId} {id : SessionId}, pipeline.current[display]? = some id →
    ∃ session : CaptureSession, pipeline.sessions[id]? = some session ∧ session.display = display

/-- A worker of a session has a request in hand. -/
def Notifying (pipeline : Pipeline) (id : SessionId) (worker : Nat) (request : CaptureRequest) :
    Prop :=
  ∃ session : CaptureSession,
    pipeline.sessions[id]? = some session ∧ session.Notifying worker request

/-- Every worker but one keeps the request that it has in hand. -/
def Undisturbed (own : Option (SessionId × Nat)) (before after : Pipeline) : Prop :=
  ∀ id worker request, own ≠ some (id, worker) → before.Notifying id worker request →
    after.Notifying id worker request

theorem Undisturbed.refl (own : Option (SessionId × Nat)) (pipeline : Pipeline) :
    Undisturbed own pipeline pipeline := fun _ _ _ _ notifying => notifying

theorem Undisturbed.trans {own : Option (SessionId × Nat)} {first second third : Pipeline}
    (begins : Undisturbed own first second) (goesOn : Undisturbed own second third) :
    Undisturbed own first third := fun id worker request others notifying =>
  goesOn id worker request others (begins id worker request others notifying)

theorem Undisturbed.of_kept {own : Option (SessionId × Nat)}
    (kept : ∀ (id : SessionId) (session : CaptureSession),
      pipeline.sessions[id]? = some session → after.sessions[id]? = some session) :
    Undisturbed own pipeline after := by
  rintro id worker request _ ⟨session, found, notifying⟩
  exact ⟨session, kept id session found, notifying⟩

theorem sound_empty : ({} : Pipeline).Sound where
  staffed found := absurd found (by simp)
  begun found := absurd found (by simp)
  located found := absurd found (by simp)

theorem sessions_putSession (pipeline : Pipeline) (id other : SessionId)
    (session : CaptureSession) :
    (pipeline.putSession id session).sessions[other]? =
      if id = other then some session else pipeline.sessions[other]? :=
  Table.getElem?_insert _ _ _ _

theorem sessions_putSession_self (pipeline : Pipeline) (id : SessionId) (session : CaptureSession) :
    (pipeline.putSession id session).sessions[id]? = some session := by
  rw [sessions_putSession, if_pos rfl]

theorem modifySession_found (found : pipeline.sessions[id]? = some session)
    (change : CaptureSession → CaptureSession) :
    pipeline.modifySession id change = pipeline.putSession id (change session) := by
  simp only [modifySession, found]

theorem modifySession_absent (absent : pipeline.sessions[id]? = none)
    (change : CaptureSession → CaptureSession) : pipeline.modifySession id change = pipeline := by
  simp only [modifySession, absent]

section PutSession

theorem Sound.putSession (sound : pipeline.Sound) (found : pipeline.sessions[id]? = some replaced)
    (staffed : session.Staffed) (same : session.display = replaced.display) :
    (pipeline.putSession id session).Sound where
  staffed {other kept} entry := by
    rw [sessions_putSession] at entry
    by_cases named : id = other
    · rw [if_pos named] at entry
      cases entry
      exact staffed
    · rw [if_neg named] at entry
      exact sound.staffed entry
  begun {other kept} entry := by
    rw [sessions_putSession] at entry
    by_cases named : id = other
    · rw [← named]
      exact sound.begun found
    · rw [if_neg named] at entry
      exact sound.begun entry
  located {display other} entry := by
    obtain ⟨kept, located, about⟩ := sound.located entry
    rw [sessions_putSession]
    by_cases named : id = other
    · rw [if_pos named]
      rw [← named, found] at located
      cases located
      exact ⟨session, rfl, same.trans about⟩
    · rw [if_neg named]
      exact ⟨kept, located, about⟩

theorem Undisturbed.putSession {own : Option (SessionId × Nat)}
    (found : pipeline.sessions[id]? = some replaced)
    (kept : ∀ worker request, own ≠ some (id, worker) → replaced.Notifying worker request →
      session.Notifying worker request) :
    Undisturbed own pipeline (pipeline.putSession id session) := by
  rintro other worker request others ⟨entry, located, notifying⟩
  unfold Notifying
  rw [sessions_putSession]
  by_cases named : id = other
  · subst other
    rw [found] at located
    cases located
    rw [if_pos rfl]
    exact ⟨session, rfl, kept worker request others notifying⟩
  · rw [if_neg named]
    exact ⟨entry, located, notifying⟩

end PutSession

/-- The display goes on with its session, or one begins for it. -/
theorem openSession_cases (pipeline : Pipeline) (display : DisplayId) :
    (∃ id, pipeline.current[display]? = some id ∧ pipeline.openSession display = (id, pipeline)) ∨
      pipeline.current[display]? = none ∧
        pipeline.openSession display = (⟨pipeline.nextSession⟩,
          { pipeline with
            sessions := pipeline.sessions.insert ⟨pipeline.nextSession⟩ { display }
            current := pipeline.current.insert display ⟨pipeline.nextSession⟩
            nextSession := pipeline.nextSession + 1 }) := by
  cases entry : pipeline.current[display]? with
  | some id => exact .inl ⟨id, rfl, by simp only [openSession, entry]⟩
  | none => exact .inr ⟨rfl, by simp only [openSession, entry]⟩

theorem Sound.next_absent (sound : pipeline.Sound) :
    pipeline.sessions[(⟨pipeline.nextSession⟩ : SessionId)]? = none := by
  cases entry : pipeline.sessions[(⟨pipeline.nextSession⟩ : SessionId)]? with
  | none => rfl
  | some session => exact absurd (sound.begun entry) (Nat.lt_irrefl _)

theorem Sound.display_eq (sound : pipeline.Sound) (shown : pipeline.current[display]? = some id)
    (found : pipeline.sessions[id]? = some session) : session.display = display := by
  obtain ⟨kept, located, about⟩ := sound.located shown
  rw [found] at located
  cases located
  exact about

theorem Sound.openSession (sound : pipeline.Sound) (display : DisplayId) :
    (pipeline.openSession display).2.Sound := by
  obtain ⟨id, _, opened⟩ | ⟨absent, opened⟩ := openSession_cases pipeline display
  · rw [opened]
    exact sound
  rw [opened]
  constructor
  case staffed =>
    intro other session entry
    rw [Table.getElem?_insert] at entry
    by_cases named : (⟨pipeline.nextSession⟩ : SessionId) = other
    · rw [if_pos named] at entry
      cases entry
      rfl
    · rw [if_neg named] at entry
      exact sound.staffed entry
  case begun =>
    intro other session entry
    rw [Table.getElem?_insert] at entry
    by_cases named : (⟨pipeline.nextSession⟩ : SessionId) = other
    · rw [← named]
      exact Nat.lt_succ_self _
    · rw [if_neg named] at entry
      exact Nat.lt_succ_of_lt (sound.begun entry)
  case located =>
    intro shown other entry
    rw [Table.getElem?_insert] at entry
    rw [Table.getElem?_insert]
    by_cases same : display = shown
    · rw [if_pos same] at entry
      cases entry
      exact ⟨{ display }, if_pos rfl, same⟩
    · rw [if_neg same] at entry
      obtain ⟨session, located, about⟩ := sound.located entry
      have named : (⟨pipeline.nextSession⟩ : SessionId) ≠ other := by
        rintro rfl
        exact absurd (sound.begun located) (Nat.lt_irrefl _)
      exact ⟨session, (if_neg named).trans located, about⟩

theorem openSession_kept (sound : pipeline.Sound) (display : DisplayId)
    (found : pipeline.sessions[id]? = some session) :
    (pipeline.openSession display).2.sessions[id]? = some session := by
  obtain ⟨_, _, opened⟩ | ⟨_, opened⟩ := openSession_cases pipeline display
  · rw [opened]
    exact found
  · rw [opened, Table.getElem?_insert, if_neg]
    · exact found
    · rintro rfl
      exact absurd (sound.begun found) (Nat.lt_irrefl _)

theorem openSession_found (sound : pipeline.Sound) (display : DisplayId) :
    ∃ session : CaptureSession,
      (pipeline.openSession display).2.sessions[(pipeline.openSession display).1]? = some session ∧
        session.display = display := by
  obtain ⟨id, entry, opened⟩ | ⟨_, opened⟩ := openSession_cases pipeline display
  · rw [opened]
    exact sound.located entry
  · rw [opened]
    exact ⟨{ display }, (Table.getElem?_insert _ _ _ _).trans (if_pos rfl), rfl⟩

/-- Where a post for a display queues its request. -/
def ticket (pipeline : Pipeline) (display : DisplayId) : CaptureTicket :=
  ⟨(pipeline.openSession display).1, pipeline.nextNumber⟩

/-- The pipeline with a session for the display and the next number given out. -/
def opened (pipeline : Pipeline) (display : DisplayId) : Pipeline :=
  { (pipeline.openSession display).2 with nextNumber := pipeline.nextNumber + 1 }

theorem nextNumber_openSession (pipeline : Pipeline) (display : DisplayId) :
    (pipeline.openSession display).2.nextNumber = pipeline.nextNumber := by
  obtain ⟨_, _, opened⟩ | ⟨_, opened⟩ := openSession_cases pipeline display <;> rw [opened]

theorem Sound.opened (sound : pipeline.Sound) (display : DisplayId) :
    (pipeline.opened display).Sound where
  staffed := (sound.openSession display).staffed
  begun := (sound.openSession display).begun
  located := (sound.openSession display).located

theorem Undisturbed.opened {own : Option (SessionId × Nat)} (sound : pipeline.Sound)
    (display : DisplayId) : Undisturbed own pipeline (pipeline.opened display) :=
  .of_kept fun _ _ found => openSession_kept sound display found

section Enqueue

variable {config : CaptureConfig} {buffer : Handle} {listener : CaptureListener}

/-- A request is queued at the end of its display's session, if the session queues none for the
same buffer. -/
theorem enqueue_cases (sound : pipeline.Sound) (display : DisplayId) (config : CaptureConfig)
    (buffer : Handle) (listener : CaptureListener) :
    ∃ session : CaptureSession,
      (pipeline.opened display).sessions[(pipeline.ticket display).session]? = some session ∧
        session.display = display ∧
        (session.holds buffer.id = true ∧
            pipeline.enqueue display config buffer listener = (none, pipeline.opened display) ∨
          session.holds buffer.id = false ∧
            pipeline.enqueue display config buffer listener =
              (some (pipeline.ticket display),
                (pipeline.opened display).putSession (pipeline.ticket display).session
                  (session.enqueue
                    { number := pipeline.nextNumber, buffer, listener, config }))) := by
  obtain ⟨session, found, about⟩ := openSession_found sound display
  refine ⟨session, found, about, ?_⟩
  have queued : pipeline.enqueue display config buffer listener =
      if session.holds buffer.id then (none, pipeline.opened display)
      else (some (pipeline.ticket display),
        (pipeline.opened display).putSession (pipeline.ticket display).session
          (session.enqueue { number := pipeline.nextNumber, buffer, listener, config })) := by
    simp only [enqueue, found, nextNumber_openSession, ticket, opened]
  cases held : session.holds buffer.id with
  | true => exact .inl ⟨rfl, by rw [queued, held, if_pos rfl]⟩
  | false => exact .inr ⟨rfl, by rw [queued, held, if_neg Bool.false_ne_true]⟩

theorem enqueue_some {ticket : CaptureTicket} (sound : pipeline.Sound)
    (queued : pipeline.enqueue display config buffer listener = (some ticket, after)) :
    ∃ session : CaptureSession, ticket = pipeline.ticket display ∧
      (pipeline.opened display).sessions[ticket.session]? = some session ∧
      session.display = display ∧ session.holds buffer.id = false ∧
      after = (pipeline.opened display).putSession ticket.session
        (session.enqueue { number := ticket.number, buffer, listener, config }) := by
  obtain ⟨session, found, about, ⟨_, outcome⟩ | ⟨unheld, outcome⟩⟩ :=
    enqueue_cases sound display config buffer listener
  · rw [outcome] at queued
    cases queued
  · rw [outcome] at queued
    cases queued
    exact ⟨session, rfl, found, about, unheld, rfl⟩

theorem enqueue_none (sound : pipeline.Sound)
    (declined : pipeline.enqueue display config buffer listener = (none, after)) :
    after = pipeline.opened display := by
  obtain ⟨session, _, _, ⟨_, outcome⟩ | ⟨_, outcome⟩⟩ :=
    enqueue_cases sound display config buffer listener
  · rw [outcome] at declined
    cases declined
    rfl
  · rw [outcome] at declined
    cases declined

theorem Sound.enqueue (sound : pipeline.Sound) :
    (pipeline.enqueue display config buffer listener).2.Sound := by
  obtain ⟨session, found, _, ⟨_, queued⟩ | ⟨_, queued⟩⟩ :=
    enqueue_cases sound display config buffer listener
  · rw [queued]
    exact sound.opened display
  · rw [queued]
    have staffed := (sound.opened display).staffed found
    exact (sound.opened display).putSession found staffed rfl

theorem Sound.enqueue_eq {ticket? : Option CaptureTicket} (sound : pipeline.Sound)
    (queued : pipeline.enqueue display config buffer listener = (ticket?, after)) :
    after.Sound := by
  have kept : (pipeline.enqueue display config buffer listener).2.Sound := sound.enqueue
  rwa [queued] at kept

theorem Undisturbed.enqueue {own : Option (SessionId × Nat)} (sound : pipeline.Sound) :
    Undisturbed own pipeline (pipeline.enqueue display config buffer listener).2 := by
  obtain ⟨session, found, _, ⟨_, queued⟩ | ⟨_, queued⟩⟩ :=
    enqueue_cases sound display config buffer listener
  · rw [queued]
    exact .opened sound display
  · rw [queued]
    exact (Undisturbed.opened sound display).trans
      (.putSession found fun _ _ _ notifying => notifying)

theorem Undisturbed.enqueue_eq {own : Option (SessionId × Nat)} {ticket? : Option CaptureTicket}
    (sound : pipeline.Sound)
    (queued : pipeline.enqueue display config buffer listener = (ticket?, after)) :
    Undisturbed own pipeline after := by
  have kept : Undisturbed own pipeline (pipeline.enqueue display config buffer listener).2 :=
    .enqueue sound
  rwa [queued] at kept

end Enqueue

section Answers

variable {ticket : CaptureTicket} {own : Option (SessionId × Nat)}

theorem Sound.modifySession (sound : pipeline.Sound) {change : CaptureSession → CaptureSession}
    (staffed : ∀ session : CaptureSession, pipeline.sessions[id]? = some session →
      session.Staffed → (change session).Staffed)
    (same : ∀ session : CaptureSession, pipeline.sessions[id]? = some session →
      (change session).display = session.display) :
    (pipeline.modifySession id change).Sound := by
  cases entry : pipeline.sessions[id]? with
  | none => rwa [modifySession_absent entry]
  | some session =>
      rw [modifySession_found entry]
      exact sound.putSession entry (staffed session entry (sound.staffed entry))
        (same session entry)

theorem Undisturbed.modifySession {change : CaptureSession → CaptureSession}
    (kept : ∀ session : CaptureSession, pipeline.sessions[id]? = some session →
      ∀ worker request, own ≠ some (id, worker) → session.Notifying worker request →
        (change session).Notifying worker request) :
    Undisturbed own pipeline (pipeline.modifySession id change) := by
  cases entry : pipeline.sessions[id]? with
  | none =>
      rw [modifySession_absent entry]
      exact .refl own pipeline
  | some session =>
      rw [modifySession_found entry]
      exact .putSession entry (kept session entry)

theorem refuse_found (found : pipeline.sessions[ticket.session]? = some session) :
    pipeline.refuse ticket =
      ((session.withdraw ticket.number).2,
        pipeline.putSession ticket.session (session.withdraw ticket.number).1) := by
  simp only [refuse, found]

theorem refuse_absent (absent : pipeline.sessions[ticket.session]? = none) :
    pipeline.refuse ticket = (none, pipeline) := by
  simp only [refuse, absent]

theorem Sound.refuse (sound : pipeline.Sound) (ticket : CaptureTicket) :
    (pipeline.refuse ticket).2.Sound := by
  cases entry : pipeline.sessions[ticket.session]? with
  | none => rwa [refuse_absent entry]
  | some session =>
      rw [refuse_found entry]
      exact sound.putSession entry (.withdraw (sound.staffed entry)) rfl

theorem Undisturbed.refuse (pipeline : Pipeline) (ticket : CaptureTicket) :
    Undisturbed own pipeline (pipeline.refuse ticket).2 := by
  cases entry : pipeline.sessions[ticket.session]? with
  | none =>
      rw [refuse_absent entry]
      exact .refl own pipeline
  | some session =>
      rw [refuse_found entry]
      exact .putSession entry fun _ _ _ notifying => .withdraw notifying

/-- A completion that is not stale changes the session that the display has. -/
theorem complete_ok {code : Int} {buffer : BufferId}
    (completed : pipeline.complete display code buffer = .ok after) :
    ∃ (id : SessionId) (session completion : CaptureSession),
      pipeline.current[display]? = some id ∧ pipeline.sessions[id]? = some session ∧
        session.complete buffer (.ofCode code) = some completion ∧
        after = pipeline.putSession id completion := by
  unfold complete at completed
  cases entry : pipeline.current[display]? with
  | none => simp [entry] at completed
  | some id =>
      cases found : pipeline.sessions[id]? with
      | none => simp [entry, found] at completed
      | some session =>
          cases outcome : session.complete buffer (.ofCode code) with
          | none => simp [entry, found, outcome] at completed
          | some completion =>
              simp only [entry, found, outcome, Option.bind_some, Except.ok.injEq] at completed
              exact ⟨id, session, completion, rfl, found, outcome, completed.symm⟩

theorem Sound.complete {code : Int} {buffer : BufferId} (sound : pipeline.Sound)
    (completed : pipeline.complete display code buffer = .ok after) : after.Sound := by
  obtain ⟨id, session, completion, _, found, outcome, rfl⟩ := complete_ok completed
  obtain ⟨place, _, rfl⟩ := CaptureSession.complete_some outcome
  exact sound.putSession found (sound.staffed found).wakeAll rfl

theorem Undisturbed.complete {code : Int} {buffer : BufferId}
    (completed : pipeline.complete display code buffer = .ok after) :
    Undisturbed own pipeline after := by
  obtain ⟨id, session, completion, _, found, outcome, rfl⟩ := complete_ok completed
  obtain ⟨place, _, rfl⟩ := CaptureSession.complete_some outcome
  exact .putSession found fun _ _ _ notifying => notifying.wakeAll

end Answers

theorem removeDisplay_absent (absent : pipeline.current[display]? = none) :
    pipeline.removeDisplay display = pipeline := by
  simp only [removeDisplay, absent]

theorem removeDisplay_found (found : pipeline.current[display]? = some id) :
    pipeline.removeDisplay display =
      { pipeline.modifySession id .abandon with current := pipeline.current.erase display } := by
  simp only [removeDisplay, found]

theorem current_modifySession (pipeline : Pipeline) (id : SessionId)
    (change : CaptureSession → CaptureSession) :
    (pipeline.modifySession id change).current = pipeline.current := by
  unfold modifySession
  split <;> rfl

theorem Sound.removeDisplay (sound : pipeline.Sound) (display : DisplayId) :
    (pipeline.removeDisplay display).Sound := by
  cases entry : pipeline.current[display]? with
  | none => rwa [removeDisplay_absent entry]
  | some id =>
      have abandoned : (pipeline.modifySession id .abandon).Sound := sound.modifySession
        (fun session _ staffed => staffed.wakeAll) (fun session _ => rfl)
      rw [removeDisplay_found entry]
      refine ⟨abandoned.staffed, abandoned.begun, ?_⟩
      intro other named kept
      rw [Table.getElem?_erase] at kept
      by_cases same : display = other
      · rw [if_pos same] at kept
        cases kept
      · rw [if_neg same] at kept
        exact abandoned.located (by rwa [current_modifySession])

theorem Undisturbed.removeDisplay {own : Option (SessionId × Nat)} (pipeline : Pipeline)
    (display : DisplayId) : Undisturbed own pipeline (pipeline.removeDisplay display) := by
  cases entry : pipeline.current[display]? with
  | none =>
      rw [removeDisplay_absent entry]
      exact .refl own pipeline
  | some id =>
      rw [removeDisplay_found entry]
      have kept : Undisturbed own pipeline (pipeline.modifySession id .abandon) :=
        .modifySession fun _ _ _ _ _ notifying => notifying.wakeAll
      exact kept

end Scanout.Pipeline
