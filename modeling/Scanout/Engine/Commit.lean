import Scanout.Command
import Scanout.Engine.Basic
import Scanout.Query

/-!
The commit step of an entry. Validation collects what the device wants changed and writes three
payloads, all of them or none. Presenting writes the fences of the frame. A display goes from idle
through validating to validated, with changes that the client has to accept or without, and through
presenting to presented; whatever fails puts it back to idle.
-/

namespace Scanout

open EngineAction

/-- The brightness that goes with the property of a client target. -/
def clientTargetBrightness : Binary32 := .one

namespace CommitTracker

def enter (state : CommitState) (tracker : CommitTracker) : CommitTracker := { tracker with state }

/-- Idle, and without the changes of an earlier validation. -/
def reset (_ : CommitTracker) : CommitTracker := {}

def validated (pendingChanges : Bool) (_ : CommitTracker) : CommitTracker where
  state := if pendingChanges then .validatedWithChanges else .validated
  pendingChanges

def presented (_ : CommitTracker) : CommitTracker := { state := .presented }

end CommitTracker

/-- What the device asks of the display and its layers. The mask is that of the last call that
succeeded; when the second call fails there is no mask and no request. -/
def collectRequests (display : DisplayId) :
    EngineAction (Except Status (Flags × List LayerRequest)) := do
  match ← call (.layerRequestCount display) with
  | .error status => return .error status
  | .ok (mask, 0) => return .ok (mask, [])
  | .ok (_, room) =>
      match ← call (.layerRequests display room) with
      | .error _ => return .ok (.empty, [])
      | .ok (mask, filled) => return .ok (mask, filled.entries room)

/-- Collects the results of a validation and writes them, even where there are none. -/
def collectValidation (display : DisplayId) (hasChanges : Bool) :
    EngineAction (Except Status Unit) := do
  match ← querySized (call (.changedCompositionCount display))
      (fun room => call (.changedCompositions display room)) with
  | .error status => return .error status
  | .ok changed =>
  match ← collectRequests display with
  | .error status => return .error status
  | .ok (mask, requests) =>
  match ← call (.targetProperty display) with
  | .error status => return .error status
  | .ok property =>
      write fun writer => writer.write (.changedCompositions display changed)
      write fun writer => writer.write (.displayRequest display mask requests)
      write fun writer =>
        writer.write (.targetProperty display property clientTargetBrightness .none)
      track display (.validated (hasChanges || !changed.isEmpty))
      return .ok ()

def validate (display : DisplayId) : EngineAction (Except Status Unit) := do
  track display (.enter .validating)
  match ← call (.commitOrPrepare display true) with
  | .error status =>
      track display .reset
      return .error status
  | .ok outcome =>
      match ← collectValidation display outcome.hasChanges with
      | .error status =>
          track display .reset
          return .error status
      | .ok () => return .ok ()

/-- Accepts the changes of the last validation, if there are any. -/
def acceptChanges (display : DisplayId) : EngineAction (Except Status Unit) := do
  match (← registry).commitTracker display with
  | .error status => return .error status
  | .ok tracker =>
      if !tracker.pendingChanges then return .ok ()
      match ← call (.acceptChanges display) with
      | .error status => return .error status
      | .ok () =>
          match (← registry).updateCommit display (.validated false) with
          | .error status => return .error status
          | .ok changed =>
              setRegistry changed
              return .ok ()

/-- Ends a frame. The fences are written together; when the release fences cannot be had, none
is. -/
def finishPresent (display : DisplayId) (presentFence : Option Fence) : EngineAction Unit := do
  track display .presented
  match ← querySized (call (.releaseFenceCount display))
      (fun room => call (.releaseFences display room)) with
  | .error _ => return ()
  | .ok fences =>
      write fun writer => writer.writePresentFence display presentFence
      write fun writer => writer.writeReleaseFences display fences

def present (display : DisplayId) : EngineAction (Except Status Unit) := do
  track display (.enter .presenting)
  match ← call (.present display) with
  | .error status =>
      track display (.enter .idle)
      return .error status
  | .ok fence =>
      finishPresent display fence
      return .ok ()

/-- Lets the device present the frame at once where it can. A frame that still needs its commit is
validated only; one that was committed has its fences written after the outcome. -/
def presentOrValidate (display : DisplayId) : EngineAction Unit := do
  track display (.enter .validating)
  match ← call (.commitOrPrepare display false) with
  | .error status =>
      track display .reset
      record (.error status)
  | .ok outcome =>
      if outcome.needsCommit then
        match ← collectValidation display outcome.hasChanges with
        | .ok () => write fun writer => writer.write (.presentOutcome display .validated)
        | .error status =>
            track display .reset
            record (.error status)
      else
        if outcome.hasChanges then
          if let .ok () ← collectValidation display true then
            let _ ← call (.acceptChanges display)
          write fun writer => writer.write (.presentOutcome display .validatedWithChanges)
        else
          write fun writer => writer.write (.presentOutcome display .presented)
        finishPresent display outcome.presentFence

/-- Tells the device when the frame should be shown, if the entry gives a time. Times before zero
count as zero. -/
def forwardPresentTime (display : DisplayId) (time : Option Int) : EngineAction Unit := do
  match time with
  | none => return ()
  | some time => record (← call (.setDisplay display (.expectedPresentTime time.toNat)))

def commit (display : DisplayId) (command : CommitCommand) (presentTime : Option Int) :
    EngineAction Unit := do
  match command with
  | .validate =>
      forwardPresentTime display presentTime
      record (← validate display)
  | .acceptChanges => record (← acceptChanges display)
  | .present => record (← present display)
  | .presentOrValidate =>
      forwardPresentTime display presentTime
      presentOrValidate display

end Scanout
