import Scanout.Simulation.Rule

/-!
A simulated device. It accepts every setter, answers the rest from a script, and fails the calls
that its rules pick.
-/

namespace Scanout

/-- A list that a simulated device can be asked for. The counts in its two answers follow from the
list unless the script gives them. -/
structure ScriptedList (α : Type) where
  entries : List α := []
  count : Option Nat := none
  reported : Option Nat := none

namespace ScriptedList

variable {α : Type}

instance : Inhabited (ScriptedList α) := ⟨{}⟩

def size (list : ScriptedList α) : Nat := list.count.getD list.entries.length

def fill (list : ScriptedList α) (room : Nat) : Filled α where
  written := list.entries.take room
  reported := list.reported.getD (min room list.entries.length)

end ScriptedList

/-- What a simulated device answers about one display. -/
structure DisplayScript where
  outcome : CommitOutcome := {}
  presentFence : Option Fence := none
  changed : ScriptedList ChangedLayer := {}
  requests : ScriptedList LayerRequest := {}
  fences : ScriptedList ReleaseFence := {}
  maskAtCount : Flags := {}
  maskAtFill : Flags := {}
  property : TargetProperty := {}
  deriving Inhabited

structure SimulatedDevice where
  failures : List (CallRule Status) := []
  capabilities : ScriptedList Int := {}
  /-- For the displays without a script of their own. -/
  script : DisplayScript := {}
  scripts : Table DisplayId DisplayScript := ∅
  /-- Identities to give out before the device counts. -/
  layerIds : List LayerId := []
  nextLayer : Int := 1
  displayIds : List DisplayId := []
  nextDisplay : Int := 101
  /-- The format of virtual displays, if not the one asked for. -/
  virtualFormat : Option PixelFormat := none

namespace SimulatedDevice

instance : Inhabited SimulatedDevice := ⟨{}⟩

def scriptOf (device : SimulatedDevice) (display : DisplayId) : DisplayScript :=
  device.scripts[display]?.getD device.script

def modifyScript (device : SimulatedDevice) (display : Option DisplayId)
    (change : DisplayScript → DisplayScript) : SimulatedDevice :=
  match display with
  | none => { device with script := change device.script }
  | some display =>
      { device with scripts := device.scripts.insert display (change (device.scriptOf display)) }

def newLayer (device : SimulatedDevice) : LayerId × SimulatedDevice :=
  match device.layerIds with
  | layer :: rest => (layer, { device with layerIds := rest })
  | [] => (⟨device.nextLayer⟩, { device with nextLayer := device.nextLayer + 1 })

def newDisplay (device : SimulatedDevice) : DisplayId × SimulatedDevice :=
  match device.displayIds with
  | display :: rest => (display, { device with displayIds := rest })
  | [] => (⟨device.nextDisplay⟩, { device with nextDisplay := device.nextDisplay + 1 })

/-- Answers a call that no rule fails. -/
def succeed (device : SimulatedDevice) (call : DeviceCall) : call.Reply × SimulatedDevice :=
  match call with
  | .setEventReceiver _ => ((), device)
  | .capabilityCount => (device.capabilities.size, device)
  | .capabilities room => (device.capabilities.fill room, device)
  | .createLayer _ => let (layer, after) := device.newLayer; (.ok layer, after)
  | .createVirtualDisplay _ _ format =>
      let (display, after) := device.newDisplay
      (.ok (display, device.virtualFormat.getD format), after)
  | .commitOrPrepare display _ => (.ok (device.scriptOf display).outcome, device)
  | .present display => (.ok (device.scriptOf display).presentFence, device)
  | .changedCompositionCount display => (.ok (device.scriptOf display).changed.size, device)
  | .changedCompositions display room =>
      (.ok ((device.scriptOf display).changed.fill room), device)
  | .layerRequestCount display =>
      let script := device.scriptOf display
      (.ok (script.maskAtCount, script.requests.size), device)
  | .layerRequests display room =>
      let script := device.scriptOf display
      (.ok (script.maskAtFill, script.requests.fill room), device)
  | .releaseFenceCount display => (.ok (device.scriptOf display).fences.size, device)
  | .releaseFences display room => (.ok ((device.scriptOf display).fences.fill room), device)
  | .targetProperty display => (.ok (device.scriptOf display).property, device)
  | .destroyLayer .. | .destroyVirtualDisplay _ | .acceptChanges _ | .refresh _ | .setDisplay ..
  | .setLayer .. | .submitCapture .. => (.ok (), device)

/-- The answer to a call that a rule fails. Calls that cannot fail are answered all the same. -/
def fail (device : SimulatedDevice) (status : Status) (call : DeviceCall) :
    call.Reply × SimulatedDevice :=
  match call with
  | .setEventReceiver _ => ((), device)
  | .capabilityCount => (device.capabilities.size, device)
  | .capabilities room => (device.capabilities.fill room, device)
  | .createLayer _ | .createVirtualDisplay .. | .commitOrPrepare .. | .present _
  | .changedCompositionCount _ | .changedCompositions .. | .layerRequestCount _
  | .layerRequests .. | .releaseFenceCount _ | .releaseFences .. | .targetProperty _
  | .destroyLayer .. | .destroyVirtualDisplay _ | .acceptChanges _ | .refresh _ | .setDisplay ..
  | .setLayer .. | .submitCapture .. => (.error status, device)

def answer (device : SimulatedDevice) (call : DeviceCall) : call.Reply × SimulatedDevice :=
  let (failure, rules) := CallRule.strikeFirst call device.failures
  let struck := { device with failures := rules }
  match failure with
  | some status => struck.fail status call
  | none => struck.succeed call

end SimulatedDevice
end Scanout
