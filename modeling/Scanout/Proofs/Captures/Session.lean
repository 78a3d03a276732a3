import Mathlib.Data.List.Basic
import Scanout.Capture.Session

/-!
What the operations on a session do to its workers. A session has one worker while its flag says
that one is running and none otherwise, and a worker that is telling a listener of a request is
disturbed by nothing but its own next step.
-/

namespace Scanout

@[simp] theorem Worker.request?_wake (worker : Worker) : worker.wake.request? = worker.request? := by
  cases worker <;> rfl

theorem Worker.wake_ne_asleep (worker : Worker) : worker.wake ≠ .asleep := by
  cases worker <;> exact nofun

namespace CaptureSession

variable {session after : CaptureSession} {worker place : Nat} {request : CaptureRequest}

/-- The flag of the session agrees with its workers. -/
def Staffed (session : CaptureSession) : Prop :=
  session.workers.length = session.workerRunning.toNat

/-- A worker has taken a request from the queue and not finished with it. -/
def Notifying (session : CaptureSession) (worker : Nat) (request : CaptureRequest) : Prop :=
  session.workers[worker]? = some (.notifying request)

theorem Staffed.running (staffed : session.Staffed) (present : worker < session.workers.length) :
    session.workerRunning = true := by
  unfold Staffed at staffed
  cases running : session.workerRunning with
  | true => rfl
  | false =>
      rw [running, Bool.toNat_false] at staffed
      omega

theorem Staffed.le_one (staffed : session.Staffed) : session.workers.length ≤ 1 := by
  rw [staffed]
  exact Bool.toNat_le _

/-- Only worker zero exists. -/
theorem Staffed.only (staffed : session.Staffed) (present : worker < session.workers.length) :
    worker = 0 ∧ ∃ only, session.workers = [only] := by
  have one : session.workers.length = 1 := by
    rw [staffed, staffed.running present, Bool.toNat_true]
  exact ⟨by omega, List.length_eq_one_iff.mp one⟩

theorem Notifying.present (notifying : session.Notifying worker request) :
    worker < session.workers.length := by
  obtain ⟨bound, _⟩ := List.getElem?_eq_some_iff.mp notifying
  exact bound

theorem Staffed.wakeAll (staffed : session.Staffed) : session.wakeAll.Staffed := by
  simpa [Staffed, CaptureSession.wakeAll] using staffed

theorem Notifying.wakeAll (notifying : session.Notifying worker request) :
    session.wakeAll.Notifying worker request := by
  unfold Notifying at notifying
  simp [Notifying, CaptureSession.wakeAll, notifying, Worker.wake]

theorem asleep_notMem_wakeAll (session : CaptureSession) : .asleep ∉ session.wakeAll.workers := by
  intro member
  obtain ⟨worker, _, woken⟩ := List.mem_map.mp member
  exact worker.wake_ne_asleep woken

theorem complete_some {id : BufferId} {status : CaptureStatus}
    (completed : session.complete id status = some after) :
    ∃ place, session.queue.findIdx?
        (fun request => request.status.isNone && request.buffer.id == id) = some place ∧
      after = wakeAll { session with queue := session.queue.modify place (.finish status) } := by
  unfold complete at completed
  cases found : session.queue.findIdx?
      (fun request => request.status.isNone && request.buffer.id == id) with
  | none => simp [found] at completed
  | some place =>
      simp only [found, Option.some.injEq] at completed
      exact ⟨place, rfl, completed.symm⟩

theorem Staffed.withdraw {number : Nat} (staffed : session.Staffed) :
    (session.withdraw number).1.Staffed := by
  simpa [Staffed, CaptureSession.withdraw, CaptureSession.wakeAll] using staffed

theorem Notifying.withdraw {number : Nat} (notifying : session.Notifying worker request) :
    (session.withdraw number).1.Notifying worker request := by
  have kept := notifying.wakeAll
  exact kept

theorem Staffed.accept (staffed : session.Staffed) (number : Nat) :
    (session.accept number).Staffed := by
  unfold Staffed at staffed
  cases running : session.workerRunning <;>
    simp [Staffed, CaptureSession.accept, CaptureSession.wakeAll, running, staffed]

theorem Notifying.accept (notifying : session.Notifying worker request) (number : Nat) :
    (session.accept number).Notifying worker request := by
  refine Notifying.wakeAll ?_
  unfold Notifying at notifying
  cases running : session.workerRunning with
  | true => simpa [Notifying, running] using notifying
  | false =>
      have present := Notifying.present notifying
      simp [Notifying, List.getElem?_append_left present, notifying]

/-- What comes of the look that the worker takes at the queue. -/
theorem Staffed.look_cases (staffed : session.Staffed)
    (awake : session.workers[worker]? = some .awake) :
    session.workers = [.awake] ∧
      (session.queue = [] ∧
          session.look worker = { session with workers := [], workerRunning := false } ∨
        ∃ front rest, session.queue = front :: rest ∧
          (front.isReady = true ∧
              session.look worker = { session with queue := rest, workers := [.notifying front] } ∨
            front.isReady = false ∧
              session.look worker = { session with workers := [.asleep] })) := by
  obtain ⟨present, _⟩ := List.getElem?_eq_some_iff.mp awake
  obtain ⟨rfl, only, single⟩ := staffed.only present
  obtain rfl : only = .awake := by simpa [single] using awake
  refine ⟨single, ?_⟩
  unfold CaptureSession.look
  cases queue : session.queue with
  | nil =>
      refine .inl ⟨rfl, ?_⟩
      rw [single]
      rfl
  | cons front rest =>
      refine .inr ⟨front, rest, rfl, ?_⟩
      dsimp only
      rw [single]
      cases ready : front.isReady with
      | true => exact .inl ⟨rfl, if_pos rfl⟩
      | false => exact .inr ⟨rfl, if_neg Bool.false_ne_true⟩

/-- The worker is through with the request that it has in hand. -/
theorem Staffed.resume_eq (staffed : session.Staffed)
    (notifying : session.Notifying worker request) :
    session.workers = [.notifying request] ∧
      session.resume worker = { session with workers := [.awake] } := by
  obtain ⟨rfl, only, single⟩ := staffed.only notifying.present
  obtain rfl : only = .notifying request := by simpa [Notifying, single] using notifying
  refine ⟨single, ?_⟩
  rw [CaptureSession.resume, single]
  rfl

theorem display_look (session : CaptureSession) (worker : Nat) :
    (session.look worker).display = session.display := by
  unfold look
  split
  · rfl
  · split <;> rfl

theorem Staffed.look (staffed : session.Staffed) (present : worker < session.workers.length) :
    (session.look worker).Staffed := by
  obtain ⟨rfl, only, single⟩ := staffed.only present
  have running := staffed.running present
  unfold CaptureSession.look
  cases queue : session.queue with
  | nil => simp [Staffed, single]
  | cons front rest =>
      cases ready : front.isReady <;> simp [Staffed, single, running, ready]

/-- A worker's own step leaves every other worker with its request. -/
theorem Notifying.look (notifying : session.Notifying worker request) (staffed : session.Staffed)
    (present : place < session.workers.length) (other : place ≠ worker) :
    (session.look place).Notifying worker request := by
  have first := (staffed.only present).1
  have second := (staffed.only notifying.present).1
  omega

theorem Staffed.resume (staffed : session.Staffed) (worker : Nat) :
    (session.resume worker).Staffed := by
  simpa [Staffed, CaptureSession.resume] using staffed

theorem Notifying.resume (notifying : session.Notifying worker request) (other : place ≠ worker) :
    (session.resume place).Notifying worker request := by
  unfold Notifying at notifying
  simp [Notifying, CaptureSession.resume, other, notifying]

end CaptureSession
end Scanout
