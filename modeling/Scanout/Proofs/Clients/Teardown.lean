import Scanout.Proofs.Clients.Sessions

/-!
What the device sees of a client that departs. The displays that are torn down, and the layers on
each, are those that the notes on the client's calls and events leave it with.
-/

namespace Scanout.World

variable {settings : Settings} {world after : World} {id : ClientId}

/-- The displays that a client has, and the layers that it has on each, both ascending. -/
structure Roster (history : List Note) (client : ClientId)
    (roster : List (DisplayId × Bool × List LayerId)) : Prop where
  ascending : roster.Pairwise fun first second => first.1.raw < second.1.raw
  layersAscending : ∀ entry ∈ roster, entry.2.2.Pairwise fun first second => first.raw < second.raw
  displays : ∀ display isVirtual, (∃ layers, (display, isVirtual, layers) ∈ roster) ↔
    HasDisplay client display isVirtual history
  layers : ∀ display isVirtual layers, (display, isVirtual, layers) ∈ roster →
    ∀ layer, layer ∈ layers ↔ HasLayer client display layer history

theorem Roster.of_lists {history : List Note} {roster : List (DisplayId × Bool × List LayerId)}
    (lists : Registry.Lists (recorded id history) roster) : Roster history id roster where
  ascending := lists.ascending
  layersAscending := lists.layersAscending
  displays display isVirtual := by
    rw [hasDisplay_iff]
    exact lists.displays display isVirtual
  layers display isVirtual layers listed layer := by
    rw [hasLayer_iff]
    exact lists.layers display isVirtual layers listed layer

/-- When a client departs, the device sees the event receiver go and then, display by display, what
the client has there: its layers and the virtual display, or the last frame of a physical one. What
the device answers makes no difference but that an invalid last frame is not shown. In the end the
client has no display left and holds no buffer. -/
theorem client_torn_down {depth : Nat} {exchanges : List Exchange}
    (reached : Reached settings world) (occupant : world.occupant = some id)
    (finished : ((ServiceCall.dropClient id).action.start world).Finishes
      (Request.Meddles (Happens depth)) exchanges () after) :
    (∃ roster rest, Roster world.history id roster ∧
        calls exchanges = ⟨.device (.setEventReceiver none), ()⟩ :: rest ∧ TornDown roster rest) ∧
      after.occupant = none ∧ after.service.registry id = ∅ ∧
        (after.service.registry id).handles = [] := by
  obtain ⟨tidy, idle⟩ := reached.tidy
  have proceeds := finished.imp fun _ _ _ meddled => meddled.imp fun _ _ => proceeds_of_happens
  obtain ⟨-, vacant, unoutlined, roster, rest, lists, asked, tornDown⟩ :=
    assures_dropClient tidy (reached.serves occupant) (by simp [idle]) _ _ _ proceeds
  have tracked : (world.service.registry id).outline = recorded id world.history :=
    funext (tidy.tracked id (by simp [idle]))
  have empty := Registry.eq_empty_of_outline unoutlined
  rw [tracked] at lists
  refine ⟨⟨roster, rest, .of_lists lists, asked, tornDown⟩, vacant, empty, ?_⟩
  rw [empty, Registry.handles_empty]

/-- A client has a layer on a physical display and departs. -/
theorem client_torn_down_layer : ∃ world exchanges after, Reached {} world ∧
    ((ServiceCall.dropClient ⟨0⟩).action.start world).Finishes (Request.Meddles (Happens 0))
      exchanges () after ∧
    HasLayer ⟨0⟩ ⟨0⟩ ⟨1⟩ world.history ∧
    exchanges.map Exchange.request =
      [.device (.setEventReceiver none), .device (.destroyLayer ⟨0⟩ ⟨1⟩),
        .device (.commitOrPrepare ⟨0⟩ true), .device (.acceptChanges ⟨0⟩), .device (.present ⟨0⟩)] ∧
    after.service.registry ⟨0⟩ = ∅ := by
  let replies := SimulatedDevice.replies {} fun _ => false
  have created : Reached {} _ := Reached.performed ⟨0, rfl⟩ .createClient trivial replies
  have listening := created.performed (.registerListener ⟨0⟩ ⟨0⟩) (created.serves (by cbv)) replies
  have connected := listening.performed (.receive ⟨0⟩ ⟨⟨0⟩, .hotplug true⟩) trivial replies
  have layered := connected.performed (.createLayer ⟨0⟩ ⟨0⟩ 1) (connected.serves (by cbv)) replies
  obtain ⟨world, layered, occupant, history, asked⟩ : ∃ world, Reached {} world ∧
      world.occupant = some ⟨0⟩ ∧
      world.history = [.displayAdded ⟨0⟩ ⟨0⟩ false, .layerCreated ⟨0⟩ ⟨0⟩ ⟨1⟩] ∧
      ((ServiceCall.dropClient ⟨0⟩).action.perform replies.quiet world).requests =
        [.device (.setEventReceiver none), .device (.destroyLayer ⟨0⟩ ⟨1⟩),
          .device (.commitOrPrepare ⟨0⟩ true), .device (.acceptChanges ⟨0⟩),
          .device (.present ⟨0⟩)] :=
    ⟨_, layered, by cbv, by cbv, by cbv⟩
  have finished := finishes_performed (happens_refl 0) world (.dropClient ⟨0⟩) replies
  obtain ⟨-, -, empty, -⟩ := client_torn_down layered occupant finished
  have layer : HasLayer ⟨0⟩ ⟨0⟩ ⟨1⟩ world.history := by
    rw [history, hasLayer_iff]
    exact ⟨_, rfl, rfl⟩
  exact ⟨world, _, _, layered, finished, layer, asked, empty⟩

end Scanout.World
