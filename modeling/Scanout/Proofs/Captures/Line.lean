import Mathlib.Data.List.Nodup
import Scanout.Proofs.Captures.Session

/-!
The line of a session: the request that a worker has in hand, then the queue. Requests join the line
at its end, as they are posted, and leave it at its front, as their listeners are told; only a
refusal takes one out of the middle, and only before the device has accepted it. `InLine` keeps the
log of a line, in numbers and requests alone.
-/

namespace Scanout

namespace CaptureRequest

/-- The request without its outcome. -/
def unanswered (request : CaptureRequest) : CaptureRequest := { request with status := none }

/-- The request as it was posted. -/
def posted (request : CaptureRequest) : CaptureRequest :=
  { request with submitted := false, status := none }

/-- The request once the device has accepted what has the number. -/
def marked (number : Nat) (request : CaptureRequest) : CaptureRequest :=
  if request.number = number then { request with submitted := true } else request

theorem unanswered_finish (status : CaptureStatus) (request : CaptureRequest) :
    (request.finish status).unanswered = request.unanswered := by
  unfold finish
  split <;> rfl

theorem unanswered_marked (number : Nat) (request : CaptureRequest) :
    (request.marked number).unanswered = request.unanswered.marked number := by
  unfold marked
  by_cases same : request.number = number
  · rw [if_pos same, if_pos (show request.unanswered.number = number from same)]
    rfl
  · rw [if_neg same, if_neg (show request.unanswered.number ≠ number from same)]

theorem marked_of_submitted {request : CaptureRequest} (submitted : request.submitted = true)
    (number : Nat) : request.marked number = request := by
  unfold marked
  split
  · rw [← submitted]
  · rfl

theorem submitted_of_isReady {request : CaptureRequest} (ready : request.isReady = true) :
    request.submitted = true := (Bool.and_eq_true_iff.mp ready).1

theorem isSome_of_isReady {request : CaptureRequest} (ready : request.isReady = true) :
    request.status.isSome = true := (Bool.and_eq_true_iff.mp ready).2

end CaptureRequest

open CaptureRequest

namespace CaptureSession

variable {session after : CaptureSession} {worker number : Nat} {request : CaptureRequest}

/-- The requests that workers have taken from the queue. -/
def inHand (session : CaptureSession) : List CaptureRequest :=
  session.workers.filterMap Worker.request?

/-- The requests that listeners are still to be told of, in order and without their outcomes. -/
def line (session : CaptureSession) : List CaptureRequest :=
  (session.inHand ++ session.queue).map unanswered

theorem line_eq (session : CaptureSession) :
    session.line = session.inHand.map unanswered ++ session.queue.map unanswered :=
  List.map_append

theorem line_of_same (hands : after.inHand = session.inHand)
    (queues : after.queue.map unanswered = session.queue.map unanswered) :
    after.line = session.line := by
  rw [line_eq, line_eq, hands, queues]

@[simp] theorem inHand_wakeAll (session : CaptureSession) :
    session.wakeAll.inHand = session.inHand := by
  have same : (fun worker : Worker => worker.wake.request?) = Worker.request? :=
    funext Worker.request?_wake
  simp only [inHand, wakeAll, List.filterMap_map, Function.comp_def, same]

@[simp] theorem line_wakeAll (session : CaptureSession) : session.wakeAll.line = session.line := by
  rw [line, inHand_wakeAll]
  rfl

theorem line_enqueue (session : CaptureSession) (request : CaptureRequest) :
    (session.enqueue request).line = session.line ++ [request.unanswered] := by
  rw [line_eq, line_eq, List.append_assoc]
  simp [enqueue, inHand]

theorem inHand_accept (session : CaptureSession) (number : Nat) :
    (session.accept number).inHand = session.inHand := by
  rw [accept, inHand_wakeAll]
  cases session.workerRunning <;> simp [inHand, Worker.request?]

theorem line_accept (taken : ∀ request ∈ session.inHand, request.submitted = true) (number : Nat) :
    (session.accept number).line = session.line.map (marked number) := by
  have kept : (session.inHand.map unanswered).map (marked number) =
      session.inHand.map unanswered := by
    rw [List.map_map]
    refine List.map_congr_left fun request member => ?_
    have accepted : request.unanswered.submitted = true := taken request member
    exact marked_of_submitted accepted number
  rw [line_eq, line_eq, inHand_accept, List.map_append, kept, List.map_map]
  change _ ++ (session.queue.map (marked number)).map unanswered = _
  rw [List.map_map]
  exact congrArg (_ ++ ·) (List.map_congr_left fun request _ => unanswered_marked number request)

theorem unanswered_modify (queue : List CaptureRequest) (place : Nat) (status : CaptureStatus) :
    (queue.modify place (finish status)).map unanswered = queue.map unanswered := by
  refine List.ext_getElem? fun position => ?_
  rw [List.getElem?_map, List.getElem?_map, List.getElem?_modify]
  cases queue[position]? with
  | none => rfl
  | some request =>
      simp only [Option.map_some]
      split
      · exact congrArg some (unanswered_finish status request)
      · rfl

theorem unanswered_map (queue : List CaptureRequest) (status : CaptureStatus) :
    (queue.map (finish status)).map unanswered = queue.map unanswered := by
  rw [List.map_map]
  exact List.map_congr_left fun request _ => unanswered_finish status request

theorem line_complete {id : BufferId} {status : CaptureStatus}
    (completed : session.complete id status = some after) :
    after.line = session.line ∧ after.inHand = session.inHand := by
  obtain ⟨place, _, rfl⟩ := complete_some completed
  rw [line_wakeAll, inHand_wakeAll]
  exact ⟨line_of_same rfl (unanswered_modify session.queue place status), rfl⟩

theorem line_abandon (session : CaptureSession) :
    session.abandon.line = session.line ∧ session.abandon.inHand = session.inHand := by
  rw [abandon, line_wakeAll, inHand_wakeAll]
  exact ⟨line_of_same rfl (unanswered_map session.queue .failure), rfl⟩

theorem inHand_withdraw (session : CaptureSession) (number : Nat) :
    (session.withdraw number).1.inHand = session.inHand :=
  inHand_wakeAll _

theorem eraseP_eq_filter {queue : List CaptureRequest}
    (distinct : (queue.map CaptureRequest.number).Nodup) (number : Nat) :
    queue.eraseP (fun request => request.number == number) =
      queue.filter fun request => request.number ≠ number := by
  induction queue with
  | nil => rfl
  | cons first rest ih =>
      rw [List.map_cons, List.nodup_cons] at distinct
      by_cases same : first.number = number
      · have others : ∀ request ∈ rest, request.number ≠ number := by
          rintro request member rfl
          exact distinct.1 (same ▸ List.mem_map_of_mem member)
        rw [List.eraseP_cons, beq_iff_eq.mpr same, cond_true, List.filter_cons_of_neg (by simp [same]),
          List.filter_eq_self.mpr fun request member => decide_eq_true (others request member)]
      · rw [List.eraseP_cons, beq_eq_false_iff_ne.mpr same, cond_false, ih distinct.2,
          List.filter_cons_of_pos (by simp [same])]

theorem line_withdraw (absent : ∀ request ∈ session.inHand, request.number ≠ number)
    (distinct : (session.queue.map CaptureRequest.number).Nodup) :
    (session.withdraw number).1.line =
      session.line.filter fun request => request.number ≠ number := by
  rw [withdraw, line_wakeAll, line_eq, line_eq, List.filter_append, List.filter_map,
    List.filter_map]
  change _ ++ (session.queue.eraseP _).map unanswered = _
  rw [eraseP_eq_filter distinct]
  refine congrArg (· ++ _) ?_
  have kept := List.filter_eq_self.mpr fun request member => decide_eq_true (absent request member)
  exact congrArg (List.map unanswered) kept.symm

theorem line_look (staffed : session.Staffed) (awake : session.workers[worker]? = some .awake) :
    (session.look worker).line = session.line := by
  obtain ⟨single, ⟨queue, ended⟩ | ⟨front, rest, queue, ⟨_, taken⟩ | ⟨_, slept⟩⟩⟩ :=
    staffed.look_cases awake
  · rw [ended, line, line, inHand, inHand, single]
    rfl
  · rw [taken, line, line, inHand, inHand, single, queue]
    rfl
  · rw [slept, line, line, inHand, inHand, single]
    rfl

theorem ready_of_look (staffed : session.Staffed)
    (awake : session.workers[worker]? = some .awake)
    (member : request ∈ (session.look worker).inHand) : request.isReady = true := by
  obtain ⟨_, ⟨_, ended⟩ | ⟨front, rest, _, ⟨ready, taken⟩ | ⟨_, slept⟩⟩⟩ :=
    staffed.look_cases awake
  · rw [ended] at member
    cases member
  · rw [taken] at member
    obtain rfl := List.mem_singleton.mp member
    exact ready
  · rw [slept] at member
    cases member

theorem mem_inHand (notifying : session.Notifying worker request) : request ∈ session.inHand :=
  List.mem_filterMap.mpr ⟨.notifying request, List.mem_of_getElem? notifying, rfl⟩

theorem inHand_resume (session : CaptureSession) (worker : Nat)
    (member : request ∈ (session.resume worker).inHand) : request ∈ session.inHand := by
  obtain ⟨doing, among, kept⟩ := List.mem_filterMap.mp member
  obtain among | rfl := List.mem_or_eq_of_mem_set among
  · exact List.mem_filterMap.mpr ⟨doing, among, kept⟩
  · cases kept

theorem line_resume (staffed : session.Staffed) (notifying : session.Notifying worker request) :
    session.line = request.unanswered :: (session.resume worker).line := by
  obtain ⟨single, resumed⟩ := staffed.resume_eq notifying
  rw [resumed, line, line, inHand, inHand, single]
  rfl

end CaptureSession

/-- What came of the requests that were queued in a session: some were accepted and some refused, by
their numbers, some were told of, and the others are in line, all in the order of their posts. -/
structure InLine (queued told line : List CaptureRequest) (accepted refused : List Nat) : Prop where
  ordered : told.map unanswered ++ line =
    (queued.filter fun request => request.number ∉ refused).map fun request =>
      { request with submitted := decide (request.number ∈ accepted) }
  ascending : (queued.map CaptureRequest.number).Pairwise (· < ·)
  fresh : ∀ request ∈ queued, request.posted = request
  told : ∀ request ∈ told, request.submitted = true
  accepted : ∀ number ∈ accepted, number ∈ queued.map CaptureRequest.number ∧ number ∉ refused
  refused : ∀ number ∈ refused, number ∈ queued.map CaptureRequest.number

namespace InLine

variable {queued told line : List CaptureRequest} {accepted refused : List Nat} {number : Nat}
  {request : CaptureRequest}

theorem empty : InLine [] [] [] [] [] where
  ordered := rfl
  ascending := .nil
  fresh _ member := absurd member List.not_mem_nil
  told _ member := absurd member List.not_mem_nil
  accepted _ member := absurd member List.not_mem_nil
  refused _ member := absurd member List.not_mem_nil

/-- No two requests that were not refused have the same number. -/
theorem distinct (inLine : InLine queued told line accepted refused) :
    ((told.map unanswered ++ line).map CaptureRequest.number).Nodup := by
  rw [inLine.ordered, List.map_map]
  have sub : ((queued.filter fun request => request.number ∉ refused).map
      CaptureRequest.number).Sublist (queued.map CaptureRequest.number) :=
    List.filter_sublist.map _
  exact (inLine.ascending.sublist sub).imp fun less => Nat.ne_of_lt less

theorem posted_eq {waiting : List CaptureRequest}
    (inLine : InLine queued told (waiting.map unanswered) accepted refused) :
    (told ++ waiting).map posted = queued.filter fun request => request.number ∉ refused := by
  have same := congrArg (List.map posted) inLine.ordered
  rw [← List.map_append, List.map_map, List.map_map] at same
  refine same.trans ?_
  refine (List.map_congr_left fun request member => ?_).trans (List.map_id _)
  exact inLine.fresh request (List.mem_of_mem_filter member)

theorem numbers_nodup {waiting : List CaptureRequest}
    (inLine : InLine queued told (waiting.map unanswered) accepted refused) :
    ((told ++ waiting).map CaptureRequest.number).Nodup := by
  have distinct := inLine.distinct
  rwa [← List.map_append, List.map_map] at distinct

/-- An accepted request was told of or is in line, once. -/
theorem count_eq_one {waiting : List CaptureRequest}
    (inLine : InLine queued told (waiting.map unanswered) accepted refused)
    (member : number ∈ accepted) :
    ((told ++ waiting).map CaptureRequest.number).count number = 1 := by
  obtain ⟨known, unrefused⟩ := inLine.accepted number member
  obtain ⟨request, among, rfl⟩ := List.mem_map.mp known
  have kept : request ∈ (told ++ waiting).map posted := by
    rw [inLine.posted_eq]
    exact List.mem_filter.mpr ⟨among, decide_eq_true unrefused⟩
  obtain ⟨origin, present, rfl⟩ := List.mem_map.mp kept
  have listed : origin.number ∈ (told ++ waiting).map CaptureRequest.number :=
    List.mem_map_of_mem present
  exact List.count_eq_one_of_mem inLine.numbers_nodup listed

theorem queue (inLine : InLine queued told line accepted refused)
    (above : ∀ earlier ∈ queued, earlier.number < request.number)
    (fresh : request.posted = request) :
    InLine (queued ++ [request]) told (line ++ [request]) accepted refused where
  ordered := by
    have unknown (numbers : List Nat)
        (known : ∀ number ∈ numbers, number ∈ queued.map CaptureRequest.number) :
        request.number ∉ numbers := by
      intro member
      obtain ⟨earlier, among, same⟩ := List.mem_map.mp (known _ member)
      exact absurd (above earlier among) (by omega)
    have unrefused := unknown refused inLine.refused
    have unaccepted := unknown accepted fun number member => (inLine.accepted number member).1
    have unsubmitted : request.submitted = false := by rw [← fresh]; rfl
    rw [← List.append_assoc, inLine.ordered, List.filter_append, List.map_append]
    congr 1
    simp [unrefused, unaccepted, ← unsubmitted]
  ascending := by
    rw [List.map_append, List.pairwise_append]
    refine ⟨inLine.ascending, List.pairwise_singleton _ _, ?_⟩
    intro number member last same
    obtain ⟨earlier, among, rfl⟩ := List.mem_map.mp member
    obtain rfl : last = request.number := by simpa using same
    exact above earlier among
  fresh earlier member := by
    obtain member | member := List.mem_append.mp member
    · exact inLine.fresh earlier member
    · obtain rfl := List.mem_singleton.mp member
      exact fresh
  told := inLine.told
  accepted number member := by
    obtain ⟨known, kept⟩ := inLine.accepted number member
    rw [List.map_append]
    exact ⟨List.mem_append_left _ known, kept⟩
  refused number member := by
    rw [List.map_append]
    exact List.mem_append_left _ (inLine.refused number member)

theorem accept (inLine : InLine queued told line accepted refused)
    (known : number ∈ queued.map CaptureRequest.number) (kept : number ∉ refused) :
    InLine queued told (line.map (marked number)) (accepted ++ [number]) refused where
  ordered := by
    have settled : (told.map unanswered).map (marked number) = told.map unanswered := by
      rw [List.map_map]
      refine List.map_congr_left fun request member => ?_
      have taken : request.unanswered.submitted = true := inLine.told request member
      exact marked_of_submitted taken number
    rw [← settled, ← List.map_append, inLine.ordered, List.map_map]
    refine List.map_congr_left fun request _ => ?_
    unfold marked
    by_cases same : request.number = number
    · simp [same]
    · simp [same]
  ascending := inLine.ascending
  fresh := inLine.fresh
  told := inLine.told
  accepted other member := by
    obtain member | member := List.mem_append.mp member
    · exact inLine.accepted other member
    · obtain rfl := List.mem_singleton.mp member
      exact ⟨known, kept⟩
  refused := inLine.refused

theorem accepted_of_submitted (inLine : InLine queued told line accepted refused)
    (among : request ∈ told.map unanswered ++ line) (submitted : request.submitted = true) :
    request.number ∈ accepted := by
  rw [inLine.ordered] at among
  obtain ⟨origin, _, rfl⟩ := List.mem_map.mp among
  exact of_decide_eq_true submitted

theorem accepted_of_told (inLine : InLine queued told line accepted refused)
    (member : request ∈ told) : request.number ∈ accepted := by
  have among : request.unanswered ∈ told.map unanswered ++ line :=
    List.mem_append_left _ (List.mem_map_of_mem member)
  have accepted := inLine.accepted_of_submitted among (inLine.told request member)
  exact accepted

theorem refuse (inLine : InLine queued told line accepted refused)
    (known : number ∈ queued.map CaptureRequest.number) (waits : number ∉ accepted) :
    InLine queued told (line.filter fun request => request.number ≠ number) accepted
      (refused ++ [number]) where
  ordered := by
    have kept : (told.map unanswered).filter (fun request => request.number ≠ number) =
        told.map unanswered := by
      refine List.filter_eq_self.mpr fun request member => decide_eq_true ?_
      obtain ⟨origin, among, rfl⟩ := List.mem_map.mp member
      rintro rfl
      exact waits (show origin.number ∈ accepted from inLine.accepted_of_told among)
    rw [← kept, ← List.filter_append, inLine.ordered, List.filter_map, List.filter_filter]
    refine congrArg (List.map _) (List.filter_congr fun request _ => ?_)
    simp [not_or, and_comm]
  ascending := inLine.ascending
  fresh := inLine.fresh
  told := inLine.told
  accepted other member := by
    obtain ⟨queuedAs, kept⟩ := inLine.accepted other member
    refine ⟨queuedAs, ?_⟩
    intro gone
    obtain gone | gone := List.mem_append.mp gone
    · exact kept gone
    · obtain rfl := List.mem_singleton.mp gone
      exact waits member
  refused other member := by
    obtain member | member := List.mem_append.mp member
    · exact inLine.refused other member
    · obtain rfl := List.mem_singleton.mp member
      exact known

theorem tell (inLine : InLine queued told (request.unanswered :: line) accepted refused)
    (submitted : request.submitted = true) :
    InLine queued (told ++ [request]) line accepted refused where
  ordered := by
    rw [List.map_append, List.append_assoc]
    exact inLine.ordered
  ascending := inLine.ascending
  fresh := inLine.fresh
  told earlier member := by
    obtain member | member := List.mem_append.mp member
    · exact inLine.told earlier member
    · obtain rfl := List.mem_singleton.mp member
      exact submitted
  accepted := inLine.accepted
  refused := inLine.refused

end InLine

end Scanout
