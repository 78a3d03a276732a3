import Scanout.Capture.Basic

/-!
The captures of one display. They wait in the order in which they were posted, while the device may
complete them in any other. A worker thread tells their listeners, strictly from the front, once
the front has been both submitted and completed; it sleeps while the front is not, and ends when
the queue is empty. Whatever could make the front ready or the queue empty wakes it.

Each operation here is one step under the session's lock.
-/

namespace Scanout

structure CaptureRequest where
  /-- Tells requests for the same buffer apart. -/
  number : Nat
  buffer : Handle
  listener : CaptureListener
  config : CaptureConfig
  /-- The device has accepted the request. -/
  submitted : Bool := false
  status : Option CaptureStatus := none
  deriving DecidableEq, Repr

namespace CaptureRequest

def isReady (request : CaptureRequest) : Bool := request.submitted && request.status.isSome

/-- Gives an outcome to a request that has none. -/
def finish (status : CaptureStatus) (request : CaptureRequest) : CaptureRequest :=
  if request.status.isNone then { request with status := some status } else request

end CaptureRequest

inductive Worker where
  /-- About to look at the queue. -/
  | awake
  /-- Waiting for a change, of which there has been none since it fell asleep. -/
  | asleep
  /-- Telling the listener of a request that it took from the queue. -/
  | notifying (request : CaptureRequest)
  deriving DecidableEq, Repr

namespace Worker

def wake : Worker → Worker
  | asleep => awake
  | worker => worker

def request? : Worker → Option CaptureRequest
  | notifying request => some request
  | awake | asleep => none

end Worker

structure CaptureSession where
  display : DisplayId
  queue : List CaptureRequest := []
  /-- Set when a worker is started, cleared by the worker that finds the queue empty. -/
  workerRunning : Bool := false
  workers : List Worker := []
  deriving DecidableEq, Repr

namespace CaptureSession

/-- What the session holds: the buffers of the requests that are queued or being told of. -/
def handles (session : CaptureSession) : List Handle :=
  (session.workers.filterMap Worker.request? ++ session.queue).map CaptureRequest.buffer

def wakeAll (session : CaptureSession) : CaptureSession :=
  { session with workers := session.workers.map Worker.wake }

def holds (session : CaptureSession) (id : BufferId) : Bool :=
  session.queue.any fun request => request.buffer.id == id

def enqueue (session : CaptureSession) (request : CaptureRequest) : CaptureSession :=
  { session with queue := session.queue ++ [request] }

/-- Takes a request back that the device refused. -/
def withdraw (session : CaptureSession) (number : Nat) :
    CaptureSession × Option CaptureRequest :=
  let remaining := session.queue.eraseP fun request => request.number == number
  (wakeAll { session with queue := remaining },
    session.queue.find? fun request => request.number == number)

/-- Marks a request as accepted by the device, and starts a worker if none is running. -/
def accept (session : CaptureSession) (number : Nat) : CaptureSession :=
  wakeAll { session with
    queue := session.queue.map fun request =>
      if request.number = number then { request with submitted := true } else request
    workers := if session.workerRunning then session.workers else session.workers ++ [.awake]
    workerRunning := true }

/-- Records how the capture into a buffer ended: that of the first queued request for it that has
no outcome. Without one the completion is stale. -/
def complete (session : CaptureSession) (id : BufferId) (status : CaptureStatus) :
    Option CaptureSession :=
  let waits (request : CaptureRequest) := request.status.isNone && request.buffer.id == id
  match session.queue.findIdx? waits with
  | none => none
  | some place =>
      some (wakeAll { session with queue := session.queue.modify place (.finish status) })

/-- Fails every request that has no outcome, since the display is gone. -/
def abandon (session : CaptureSession) : CaptureSession :=
  wakeAll { session with queue := session.queue.map (.finish .failure) }

/-- A worker's look at the queue: it takes the front if that is ready, sleeps if it is not, and
ends if there is none. -/
def look (session : CaptureSession) (worker : Nat) : CaptureSession :=
  match session.queue with
  | [] =>
      { session with workers := session.workers.eraseIdx worker, workerRunning := false }
  | front :: rest =>
      if front.isReady then
        { session with queue := rest, workers := session.workers.set worker (.notifying front) }
      else { session with workers := session.workers.set worker .asleep }

def resume (session : CaptureSession) (worker : Nat) : CaptureSession :=
  { session with workers := session.workers.set worker .awake }

end CaptureSession
end Scanout
