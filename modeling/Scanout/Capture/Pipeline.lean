import Scanout.Action
import Scanout.Capture.Session

/-!
The captures of all displays. A display's session begins with its first post and ends when the
display is removed; requests that are queued then are failed, and the session lives on without a
display until its worker has told of them. A new post begins a new session.

Posting turns to the device between queueing the request and marking it as submitted. Other
operations may happen in between: the capture may complete, other captures of the display may be
posted, or the display may be removed, so that the post goes on in a session that has ended.
-/

namespace Scanout

/-- Identifies a session, counted as sessions begin. -/
structure SessionId where
  raw : Nat
  deriving DecidableEq, Repr, Inhabited

namespace SessionId

instance : Ord SessionId := ⟨compareOn raw⟩

instance : Std.TransOrd SessionId := inferInstanceAs (Std.TransCmp (compareOn raw))

instance : Std.LawfulEqOrd SessionId where
  eq_of_compare {first second} same := by
    have numbers : compare first.raw second.raw = .eq := same
    cases first; cases second
    exact congrArg mk (Std.compare_eq_iff_eq.mp numbers)

end SessionId

structure Pipeline where
  sessions : Table SessionId CaptureSession := ∅
  current : Table DisplayId SessionId := ∅
  nextSession : Nat := 0
  nextNumber : Nat := 0

structure CaptureTicket where
  session : SessionId
  number : Nat
  deriving DecidableEq, Repr

namespace Pipeline

instance : Inhabited Pipeline := ⟨{}⟩

def handles (pipeline : Pipeline) : List Handle :=
  pipeline.sessions.toList.flatMap fun (_, session) => session.handles

def session? (pipeline : Pipeline) (display : DisplayId) : Option CaptureSession :=
  (pipeline.current[display]?).bind fun id => pipeline.sessions[id]?

def hasSession (pipeline : Pipeline) (display : DisplayId) : Bool :=
  pipeline.current.contains display

def pending (pipeline : Pipeline) (display : DisplayId) : Nat :=
  ((pipeline.session? display).map (·.queue.length)).getD 0

def putSession (pipeline : Pipeline) (id : SessionId) (session : CaptureSession) : Pipeline :=
  { pipeline with sessions := pipeline.sessions.insert id session }

def modifySession (pipeline : Pipeline) (id : SessionId)
    (change : CaptureSession → CaptureSession) : Pipeline :=
  match pipeline.sessions[id]? with
  | some session => pipeline.putSession id (change session)
  | none => pipeline

/-- The session of a display, which begins now if there is none. -/
def openSession (pipeline : Pipeline) (display : DisplayId) : SessionId × Pipeline :=
  match pipeline.current[display]? with
  | some id => (id, pipeline)
  | none =>
      let id : SessionId := ⟨pipeline.nextSession⟩
      (id, { pipeline with
        sessions := pipeline.sessions.insert id { display }
        current := pipeline.current.insert display id
        nextSession := pipeline.nextSession + 1 })

/-- Queues a request, unless one for the same buffer is queued already. -/
def enqueue (pipeline : Pipeline) (display : DisplayId) (config : CaptureConfig) (buffer : Handle)
    (listener : CaptureListener) : Option CaptureTicket × Pipeline :=
  let (id, opened) := pipeline.openSession display
  let number := opened.nextNumber
  let numbered := { opened with nextNumber := number + 1 }
  match numbered.sessions[id]? with
  | none => (none, numbered)
  | some session =>
      if session.holds buffer.id then (none, numbered)
      else
        (some ⟨id, number⟩,
          numbered.putSession id (session.enqueue { number, buffer, listener, config }))

def accept (pipeline : Pipeline) (ticket : CaptureTicket) : Pipeline :=
  pipeline.modifySession ticket.session (·.accept ticket.number)

def refuse (pipeline : Pipeline) (ticket : CaptureTicket) : Option CaptureRequest × Pipeline :=
  match pipeline.sessions[ticket.session]? with
  | none => (none, pipeline)
  | some session =>
      let (remaining, request) := session.withdraw ticket.number
      (request, pipeline.putSession ticket.session remaining)

def complete (pipeline : Pipeline) (display : DisplayId) (code : Int) (buffer : BufferId) :
    Except Status Pipeline :=
  match pipeline.current[display]? with
  | none => .error .badParameter
  | some id =>
      match (pipeline.sessions[id]?).bind (·.complete buffer (.ofCode code)) with
      | none => .error .badParameter
      | some session => .ok (pipeline.putSession id session)

/-- Ends the session of a display that went away. -/
def removeDisplay (pipeline : Pipeline) (display : DisplayId) : Pipeline :=
  match pipeline.current[display]? with
  | none => pipeline
  | some id =>
      { pipeline.modifySession id .abandon with current := pipeline.current.erase display }

/-- Queues a capture of a display and submits it to the device. A request that the device refuses
is taken back, whatever has happened to it meanwhile. -/
def post (display : DisplayId) (config : CaptureConfig) (buffer : NativeHandle)
    (listener : CaptureListener) : Action Pipeline (Except Status Unit) := do
  if buffer.id.isAnonymous then return .error .badParameter
  match ← Action.ask (.importBuffer buffer) with
  | .error reason => return .error reason.status
  | .ok () =>
  match ← modifyGet (·.enqueue display config (.owning buffer) listener) with
  | none =>
      Action.release [.owning buffer]
      return .error .badParameter
  | some ticket =>
  match ← Action.call (.submitCapture display buffer config) with
  | .ok () =>
      modify (·.accept ticket)
      return .ok ()
  | .error status =>
      let request ← modifyGet (·.refuse ticket)
      Action.release (request.map CaptureRequest.buffer).toList
      return .error status

/-- The first worker that has something to do, by session and number. -/
def nextWorker? (pipeline : Pipeline) : Option (SessionId × Nat) :=
  pipeline.sessions.toList.findSome? fun (id, session) =>
    (session.workers.findIdx? (· != .asleep)).map (id, ·)

/-- One step of a worker: a look at the queue, or telling the listener of the request in its hand
and giving back the buffer. -/
def work (id : SessionId) (worker : Nat) : Action Pipeline Unit := do
  match (← get).sessions[id]? with
  | none => return ()
  | some session =>
      match session.workers[worker]? with
      | none | some .asleep => return ()
      | some .awake => modify (·.modifySession id (·.look worker))
      | some (.notifying request) =>
          Action.ask (.captured session.display request.listener (request.status.getD .failure)
            request.buffer.native)
          Action.release [request.buffer]
          modify (·.modifySession id (·.resume worker))

end Pipeline
end Scanout
