import Scanout.Engine.Commit

/-!
What a commit step is made of. It calls the device about its own display, writes payloads, and
changes the commit tracker of that display; of the registry it does not touch anything else. What
is kept by each of these is kept by every commit step.
-/

namespace Scanout

open EngineAction

/-- Changes the commit tracker of a display, or fails if it is gone. -/
def EngineAction.retrack (display : DisplayId) (change : CommitTracker → CommitTracker) :
    EngineAction (Except Status Unit) := do
  match (← registry).updateCommit display change with
  | .error status => return .error status
  | .ok changed =>
      setRegistry changed
      return .ok ()

/-- The commit tracker of a display, if it is there. -/
def EngineAction.tracker (display : DisplayId) : EngineAction (Except Status CommitTracker) :=
  lift do return (← get).commitTracker display

/-- Has the device accept the changes, which are settled then. -/
def EngineAction.accept (display : DisplayId) : EngineAction (Except Status Unit) := do
  match ← call (.acceptChanges display) with
  | .error status => return .error status
  | .ok () => retrack display (.validated false)

theorem EngineAction.acceptChanges_eq (display : DisplayId) : acceptChanges display = (do
    match ← tracker display with
    | .error status => return .error status
    | .ok kept => if !kept.pendingChanges then return .ok () else accept display) := rfl

section Retrack

variable {display : DisplayId} {change : CommitTracker → CommitTracker} {before after : Registry}

theorem EngineAction.start_registry {α : Type} (next : Registry → EngineAction α) (engine : Engine)
    (before : Registry) :
    ((registry >>= next).run engine).start before = ((next before).run engine).start before := rfl

theorem EngineAction.retrack_ok (updated : before.updateCommit display change = .ok after)
    (engine : Engine) :
    ((retrack display change).run engine).start before = .done (.ok (), engine) after := by
  rw [retrack, start_registry, updated]
  rfl

theorem EngineAction.retrack_error {status : Status}
    (failed : before.updateCommit display change = .error status) (engine : Engine) :
    ((retrack display change).run engine).start before = .done (.error status, engine) before := by
  rw [retrack, start_registry, failed]
  rfl

theorem EngineAction.track_eq (display : DisplayId) (change : CommitTracker → CommitTracker) :
    track display change = (retrack display change >>= fun _ => pure ()) := by
  refine StateT.ext fun engine => Action.ext fun before => ?_
  rw [track, start_registry, StateT.run_bind, Action.start_bind]
  cases outcome : before.updateCommit display change with
  | error status =>
      rw [retrack_error outcome]
      rfl
  | ok after =>
      rw [retrack_ok outcome]
      rfl

end Retrack

/-- The display whose frame a payload is about. Errors go by the number of their entry. -/
def Payload.display? : Payload → Option DisplayId
  | .error .. => none
  | .changedCompositions display _ | .displayRequest display .. | .presentFence display _
  | .releaseFences display _ | .presentOutcome display _ | .targetProperty display .. => some display

/-- The actions that a commit step of a display is made of. What the device says to a setting is
recorded and not looked at otherwise. -/
inductive CommitStep (display : DisplayId) : {α : Type} → EngineAction α → Prop where
  | pure {α : Type} (value : α) : CommitStep display (pure value)
  | bind {α β : Type} {first : EngineAction α} {next : α → EngineAction β}
      (begins : CommitStep display first) (goesOn : ∀ value, CommitStep display (next value)) :
      CommitStep display (first >>= next)
  | call (call : DeviceCall) (about : call.display? = some display) (asks : call.isSetter = false) :
      CommitStep display (EngineAction.call call)
  | tell (setting : DisplaySetting) :
      CommitStep display (EngineAction.call (.setDisplay display setting) >>= record)
  | tracker : CommitStep display (EngineAction.tracker display)
  | write (payload : Payload) (about : payload.display? = some display) :
      CommitStep display (write (·.write payload))
  | record (result : Except Status Unit) : CommitStep display (record result)
  | retrack (change : CommitTracker → CommitTracker) :
      CommitStep display (retrack display change)

namespace CommitStep

variable {display : DisplayId}

theorem track (change : CommitTracker → CommitTracker) :
    CommitStep display (EngineAction.track display change) := by
  rw [track_eq]
  exact .bind (.retrack change) fun _ => .pure ()

theorem writePresentFence (fence : Option Fence) :
    CommitStep display (EngineAction.write (·.writePresentFence display fence)) := by
  cases fence with
  | none => exact .pure ()
  | some fence => exact .write (.presentFence display fence) rfl

theorem querySized {α : Type} [Inhabited α] {count : EngineAction (Except Status Nat)}
    {fill : Nat → EngineAction (Except Status (Filled α))} (counts : CommitStep display count)
    (fills : ∀ room, CommitStep display (fill room)) :
    CommitStep display (Scanout.querySized count fill) := by
  refine .bind counts fun answer => ?_
  match answer with
  | .error status => exact .pure _
  | .ok 0 => exact .pure _
  | .ok (room + 1) =>
      refine .bind (fills (room + 1)) fun filled => ?_
      cases filled <;> exact .pure _

theorem collectRequests : CommitStep display (Scanout.collectRequests display) := by
  refine .bind (.call _ rfl rfl) fun answer => ?_
  match answer with
  | .error status => exact .pure _
  | .ok (mask, 0) => exact .pure _
  | .ok (mask, room + 1) =>
      refine .bind (.call (.layerRequests display (room + 1)) rfl rfl) fun filled => ?_
      cases filled <;> exact .pure _

theorem collectValidation (hasChanges : Bool) :
    CommitStep display (Scanout.collectValidation display hasChanges) := by
  refine .bind (querySized (.call _ rfl rfl) fun room => .call _ rfl rfl) fun changed => ?_
  cases changed with
  | error status => exact .pure _
  | ok changed =>
      refine .bind collectRequests fun requests => ?_
      match requests with
      | .error status => exact .pure _
      | .ok (mask, requests) =>
          refine .bind (.call (.targetProperty display) rfl rfl) fun property => ?_
          match property with
          | .error status => exact .pure _
          | .ok property =>
              refine .bind (.write _ rfl) fun _ => ?_
              refine .bind (.write _ rfl) fun _ => ?_
              refine .bind (.write _ rfl) fun _ => ?_
              exact .bind (.track _) fun _ => .pure _

theorem validate : CommitStep display (Scanout.validate display) := by
  refine .bind (.track _) fun _ => ?_
  refine .bind (.call (.commitOrPrepare display true) rfl rfl) fun outcome => ?_
  match outcome with
  | .error status => exact .bind (.track _) fun _ => .pure _
  | .ok outcome =>
      refine .bind (collectValidation outcome.hasChanges) fun collected => ?_
      cases collected with
      | error status => exact .bind (.track _) fun _ => .pure _
      | ok _ => exact .pure _

theorem accept : CommitStep display (EngineAction.accept display) := by
  refine .bind (.call (.acceptChanges display) rfl rfl) fun answer => ?_
  cases answer with
  | error status => exact .pure _
  | ok _ => exact .retrack _

theorem acceptChanges : CommitStep display (Scanout.acceptChanges display) := by
  rw [EngineAction.acceptChanges_eq]
  refine .bind .tracker fun answer => ?_
  cases answer with
  | error status => exact .pure _
  | ok kept =>
      obtain ⟨state, pendingChanges⟩ := kept
      cases pendingChanges with
      | false => exact .pure _
      | true => exact accept

theorem finishPresent (presentFence : Option Fence) :
    CommitStep display (Scanout.finishPresent display presentFence) := by
  refine .bind (.track _) fun _ => ?_
  refine .bind (querySized (.call _ rfl rfl) fun room => .call _ rfl rfl) fun fences => ?_
  cases fences with
  | error status => exact .pure _
  | ok fences => exact .bind (writePresentFence presentFence) fun _ => .write _ rfl

theorem present : CommitStep display (Scanout.present display) := by
  refine .bind (.track _) fun _ => ?_
  refine .bind (.call (.present display) rfl rfl) fun answer => ?_
  match answer with
  | .error status => exact .bind (.track _) fun _ => .pure _
  | .ok fence => exact .bind (finishPresent fence) fun _ => .pure _

theorem presentOrValidate : CommitStep display (Scanout.presentOrValidate display) := by
  refine .bind (.track _) fun _ => ?_
  refine .bind (.call (.commitOrPrepare display false) rfl rfl) fun outcome => ?_
  match outcome with
  | .error status => exact .bind (.track _) fun _ => .record _
  | .ok ⟨hasChanges, true, presentFence⟩ =>
      refine .bind (collectValidation hasChanges) fun collected => ?_
      cases collected with
      | error status => exact .bind (.track _) fun _ => .record _
      | ok _ => exact .write _ rfl
  | .ok ⟨true, false, presentFence⟩ =>
      refine .bind (collectValidation true) fun collected => ?_
      cases collected with
      | error status => exact .bind (.write _ rfl) fun _ => finishPresent presentFence
      | ok _ =>
          refine .bind (.call (.acceptChanges display) rfl rfl) fun _ => ?_
          exact .bind (.write _ rfl) fun _ => finishPresent presentFence
  | .ok ⟨false, false, presentFence⟩ =>
      exact .bind (.write _ rfl) fun _ => finishPresent presentFence

theorem forwardPresentTime (time : Option Int) :
    CommitStep display (Scanout.forwardPresentTime display time) := by
  cases time with
  | none => exact .pure _
  | some time => exact .tell _

theorem commit (command : CommitCommand) (presentTime : Option Int) :
    CommitStep display (Scanout.commit display command presentTime) := by
  cases command with
  | validate =>
      refine .bind (forwardPresentTime presentTime) fun _ => ?_
      exact .bind validate fun _ => .record _
  | acceptChanges => exact .bind acceptChanges fun _ => .record _
  | present => exact .bind present fun _ => .record _
  | presentOrValidate => exact .bind (forwardPresentTime presentTime) fun _ => presentOrValidate

end CommitStep
end Scanout
