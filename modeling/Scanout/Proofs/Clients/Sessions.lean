import Mathlib
import Scanout.Proofs.Clients.Calls

/-!
Capture sessions and the displays that they are of. A display that is disconnected, or destroyed, or
retired as a virtual one takes its session with it. A client that departs with a physical display
leaves the session of that display behind, with the captures that are pending there.
-/

namespace Scanout

namespace Registry

@[simp] theorem handles_empty : (∅ : Registry).handles = [] := by
  have none : (∅ : Table DisplayId Display).toList = [] := Std.ExtTreeMap.toList_eq_nil_iff.mpr rfl
  exact congrArg (List.flatMap fun entry => entry.2.handles) none

end Registry

namespace World

variable {settings : Settings} {world : World}

/-- The display is one that a client is there for, or was left behind by one that departed. -/
def Accounted (world : World) (display : DisplayId) : Prop :=
  (∃ id, world.occupant = some id ∧ world.Houses id display) ∨ LeftBehind display world.history

theorem Accounted.leftBehind {display : DisplayId} (accounted : world.Accounted display)
    (vacant : world.occupant = none) : LeftBehind display world.history := by
  apply accounted.resolve_left
  intro there
  obtain ⟨id, occupied, -⟩ := there
  simp [vacant] at occupied

theorem Tidy.accounted {submitting : List CaptureTicket} (tidy : world.Tidy submitting)
    {display : DisplayId} (session : world.service.captures.hasSession display = true) :
    world.Accounted display := by
  apply (tidy.shown display session).imp_left
  intro there
  obtain ⟨id, there⟩ := there
  exact ⟨id, tidy.housed id display there, there⟩

/-- In a world with no client, nothing left behind and nothing to do nobody holds a buffer. -/
theorem Reached.owned_eq_zero (reached : Reached settings world) (vacant : world.occupant = none)
    (settled : ∀ display, ¬LeftBehind display world.history)
    (idle : world.service.captures.nextWorker? = none) : world.service.owned = 0 := by
  obtain ⟨tidy, -⟩ := reached.tidy
  have ended (display : DisplayId) : world.service.captures.hasSession display = false := by
    cases session : world.service.captures.hasSession display with
    | false => rfl
    | true => exact absurd ((tidy.accounted session).leftBehind vacant) (settled display)
  obtain ⟨events, captured⟩ := tidy.captures
  have uncaptured : heldBy world.service.captures.handles = 0 := by
    rw [captured.handles_eq_nil idle ended]
    rfl
  have unslotted : Table.gather (fun client : Client => heldBy client.registry.handles)
      world.service.clients = 0 := by
    apply Table.gather_eq_zero
    intro id client found
    have registry : client.registry = ∅ := by
      rw [← registry_of_vacant tidy vacant id, Service.registry, Service.client, found]
      rfl
    rw [registry, Registry.handles_empty]
    rfl
  rw [Service.owned, uncaptured, unslotted, add_zero]

/-- Between two calls at the top, a capture session belongs to a display that the client has, or to a
physical display that a departed client left behind and that has not been reported lost since. The
captures that wait for the device are in such sessions. When there is no client and no display was
left behind, then once the workers have nothing more to do no buffer is referenced. -/
theorem sessions_accounted (reached : Reached settings world) :
    (∀ display, world.service.captures.hasSession display = true → world.Accounted display) ∧
      (∀ (id : SessionId) (session : CaptureSession),
        world.service.captures.sessions[id]? = some session →
          ∀ request ∈ session.queue, request.status = none → world.Accounted session.display) ∧
      (world.occupant = none → (∀ display, ¬LeftBehind display world.history) →
        world.service.captures.nextWorker? = none → world.service.owned = 0) := by
  obtain ⟨tidy, -⟩ := reached.tidy
  refine ⟨fun display => tidy.accounted, ?_, reached.owned_eq_zero⟩
  intro id session found request queued pending
  obtain ⟨events, captured⟩ := tidy.captures
  have shown := captured.attended.current found ⟨request, queued, pending⟩
  exact tidy.accounted (Pipeline.hasSession_iff.mpr ⟨id, shown⟩)

/-- A capture waits on when its client departs, as the physical display is left behind. When the
display was disconnected before, the worker tells of the capture and lets go of its buffer. -/
theorem sessions_accounted_departed :
    (∃ world, Reached {} world ∧ world.occupant = none ∧
      world.service.captures.hasSession ⟨0⟩ = true ∧ world.service.captures.pending ⟨0⟩ = 1 ∧
        LeftBehind ⟨0⟩ world.history) ∧
      ∃ world, Reached {} world ∧ world.service.captures.sessions.size = 1 ∧
        world.service.owned = 0 := by
  let replies := SimulatedDevice.replies {} fun _ => false
  have created : Reached {} _ := Reached.performed ⟨0, rfl⟩ .createClient trivial replies
  have listening := created.performed (.registerListener ⟨0⟩ ⟨0⟩) (created.serves (by cbv)) replies
  have connected := listening.performed (.receive ⟨0⟩ ⟨⟨0⟩, .hotplug true⟩) trivial replies
  have posted := connected.performed (.postCapture ⟨0⟩ ⟨0⟩ {} ⟨⟨1⟩, [10], [0]⟩ ⟨0⟩)
    (connected.serves (by cbv)) replies
  constructor
  · have departed := posted.performed (.dropClient ⟨0⟩) (posted.departs (by cbv)) replies
    obtain ⟨accounted, -⟩ := sessions_accounted departed
    have behind := (accounted ⟨0⟩ (by cbv)).leftBehind (by cbv)
    refine ⟨_, departed, ?_, ?_, ?_, behind⟩ <;> cbv
  · have lost := posted.performed (.receive ⟨0⟩ ⟨⟨0⟩, .hotplug false⟩) trivial replies
    have departed := lost.performed (.dropClient ⟨0⟩) (lost.departs (by cbv)) replies
    have told := departed.performed (.work ⟨0⟩ 0) (departed.rests ⟨0⟩ 0) replies
    have freed := told.performed (.work ⟨0⟩ 0) (told.rests ⟨0⟩ 0) replies
    have ended := freed.performed (.work ⟨0⟩ 0) (freed.rests ⟨0⟩ 0) replies
    obtain ⟨world, ended, vacant, history, one, idle⟩ : ∃ world, Reached {} world ∧
        world.occupant = none ∧
        world.history = [.displayAdded ⟨0⟩ ⟨0⟩ false, .displayRemoved ⟨0⟩ ⟨0⟩] ∧
        world.service.captures.sessions.size = 1 ∧ world.service.captures.nextWorker? = none :=
      ⟨_, ended, by cbv, by cbv, by cbv, by cbv⟩
    have settled (display : DisplayId) : ¬LeftBehind display world.history := by
      intro behind
      obtain ⟨earlier, _, later, split, ⟨client, rfl⟩, -⟩ := behind
      have member : .retired client display false ∈ world.history := by simp [split]
      simp [history] at member
    obtain ⟨-, -, free⟩ := sessions_accounted ended
    exact ⟨world, ended, one, free vacant settled idle⟩

end World
end Scanout
