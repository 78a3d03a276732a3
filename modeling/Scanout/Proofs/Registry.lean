import Scanout.Display.Registry
import Scanout.Proofs.Table

/-!
What the operations on displays came to, once they have succeeded: where they found what they work
on, and what they made of it.
-/

namespace Scanout

theorem bind_ok {ε α β : Type} {first : Except ε α} {next : α → Except ε β} {result : β}
    (finished : (first >>= next) = .ok result) :
    ∃ value, first = .ok value ∧ next value = .ok result := by
  cases first with
  | error reason => cases finished
  | ok value => exact ⟨value, rfl, finished⟩

theorem mapError_ok {ε δ α : Type} {attempt : Except ε α} {explain : ε → δ} {result : α}
    (finished : attempt.mapError explain = .ok result) : attempt = .ok result := by
  cases attempt with
  | error reason => cases finished
  | ok value =>
      cases finished
      rfl

namespace SlotCache

theorem put_ok {cache after : SlotCache} {slot : Nat} {content held : Option Handle}
    (stored : cache.put slot content = .ok (after, held)) :
    cache.slots[slot]? = some held ∧ after = ⟨cache.slots.set slot content⟩ := by
  unfold put get at stored
  cases found : cache.slots[slot]? with
  | none => simp [found, Except.map] at stored
  | some place =>
      simp only [found, Except.map, Except.ok.injEq, Prod.mk.injEq] at stored
      exact ⟨by rw [stored.2], stored.1.symm⟩

end SlotCache

namespace Display

variable {display after : Display} {kind : BufferKind} {slot : Nat} {content held : Option Handle}

theorem layer_ok {id : LayerId} {layer : Layer} (found : display.layer id = .ok layer) :
    display.layers[id]? = some layer := by
  unfold Display.layer at found
  cases entry : display.layers[id]? with
  | none => simp [entry] at found
  | some value => simpa [entry] using found

/-- Puts a layer in the place of the one with the same identity. -/
def putLayer (display : Display) (id : LayerId) (layer : Layer) : Display :=
  { display with layers := display.layers.insert id layer }

/-- What a display has become when a handle was stored in one of its slots, and what the slot
held. -/
inductive Stored (display : Display) (slot : Nat) (content : Option Handle) :
    BufferKind → Display → Option Handle → Prop where
  | clientTarget {cache held} (put : display.clientTargets.put slot content = .ok (cache, held)) :
      Stored display slot content .clientTarget { display with clientTargets := cache } held
  | outputBuffer {cache held} (put : display.outputBuffers.put slot content = .ok (cache, held)) :
      Stored display slot content .outputBuffer { display with outputBuffers := cache } held
  | layerBuffer {id layer cache held} (found : display.layer id = .ok layer)
      (put : layer.buffers.put slot content = .ok (cache, held)) :
      Stored display slot content (.layerBuffer id)
        (display.putLayer id { layer with buffers := cache }) held
  | sidebandStream {id layer} (found : display.layer id = .ok layer) (only : slot = 0) :
      Stored display slot content (.sidebandStream id)
        (display.putLayer id { layer with sidebandStream := content }) layer.sidebandStream

theorem store_ok (stored : display.store kind slot content = .ok (after, held)) :
    display.Stored slot content kind after held := by
  cases kind with
  | clientTarget =>
      obtain ⟨⟨cache, before⟩, put, finished⟩ := bind_ok stored
      cases finished
      exact .clientTarget (mapError_ok put)
  | outputBuffer =>
      obtain ⟨⟨cache, before⟩, put, finished⟩ := bind_ok stored
      cases finished
      exact .outputBuffer (mapError_ok put)
  | layerBuffer id =>
      obtain ⟨layer, found, stored⟩ := bind_ok stored
      obtain ⟨⟨cache, before⟩, put, finished⟩ := bind_ok stored
      cases finished
      exact .layerBuffer found (mapError_ok put)
  | sidebandStream id =>
      obtain ⟨layer, found, stored⟩ := bind_ok stored
      by_cases only : slot = 0
      · rw [if_pos only] at stored
        cases stored
        exact .sidebandStream found only
      · rw [if_neg only] at stored
        cases stored

end Display

namespace Registry

variable {registry after : Registry} {id : DisplayId} {released : List Handle}

theorem display_ok {display : Display} (found : registry.display id = .ok display) :
    registry.displays[id]? = some display := by
  unfold Registry.display at found
  cases entry : registry.displays[id]? with
  | none => simp [entry] at found
  | some value => simpa [entry] using found

theorem removeDisplay_ok (removed : registry.removeDisplay id = .ok (after, released)) :
    ∃ display, registry.display id = .ok display ∧ after = ⟨registry.displays.erase id⟩ ∧
      released = display.handles := by
  obtain ⟨display, found, finished⟩ := bind_ok removed
  cases finished
  exact ⟨display, found, rfl, rfl⟩

theorem addLayer_ok {layer : LayerId} {slots : Nat}
    (added : registry.addLayer id layer slots = .ok (after, released)) :
    ∃ display, registry.display id = .ok display ∧
      after = registry.putDisplay id (display.putLayer layer (.ofSize slots)) ∧
      released = (display.layers[layer]?.map Layer.handles).getD [] := by
  obtain ⟨display, found, finished⟩ := bind_ok added
  cases finished
  exact ⟨display, found, rfl, rfl⟩

theorem removeLayer_ok {layer : LayerId}
    (removed : registry.removeLayer id layer = .ok (after, released)) :
    ∃ display gone, registry.display id = .ok display ∧ display.layer layer = .ok gone ∧
      after = registry.putDisplay id { display with layers := display.layers.erase layer } ∧
      released = gone.handles := by
  obtain ⟨display, found, removed⟩ := bind_ok removed
  obtain ⟨gone, present, finished⟩ := bind_ok removed
  cases finished
  exact ⟨display, gone, found, present, rfl, rfl⟩

theorem resizeClientTargets_ok {count : Nat}
    (resized : registry.resizeClientTargets id count = .ok (after, released)) :
    ∃ display, registry.display id = .ok display ∧
      after = registry.putDisplay id
        { display with clientTargets := (display.clientTargets.resize count).1 } ∧
      released = (display.clientTargets.resize count).2 := by
  obtain ⟨display, found, finished⟩ := bind_ok resized
  cases finished
  exact ⟨display, found, rfl, rfl⟩

theorem resizeLayerBuffers_ok {layer : LayerId} {count : Nat}
    (resized : registry.resizeLayerBuffers id layer count = .ok (after, released)) :
    ∃ display kept, registry.display id = .ok display ∧ display.layer layer = .ok kept ∧
      after = registry.putDisplay id
        (display.putLayer layer { kept with buffers := (kept.buffers.resize count).1 }) ∧
      released = (kept.buffers.resize count).2 := by
  obtain ⟨display, found, resized⟩ := bind_ok resized
  obtain ⟨kept, present, finished⟩ := bind_ok resized
  cases finished
  exact ⟨display, kept, found, present, rfl, rfl⟩

theorem store_ok {kind : BufferKind} {slot : Nat} {content held : Option Handle}
    (stored : registry.store id kind slot content = .ok (after, held)) :
    ∃ display changed, registry.display id = .ok display ∧
      display.Stored slot content kind changed held ∧ after = registry.putDisplay id changed := by
  obtain ⟨display, found, stored⟩ := bind_ok stored
  obtain ⟨⟨changed, before⟩, put, finished⟩ := bind_ok stored
  cases finished
  exact ⟨display, changed, found, Display.store_ok put, rfl⟩

theorem updateCommit_ok {change : CommitTracker → CommitTracker}
    (updated : registry.updateCommit id change = .ok after) :
    ∃ display, registry.display id = .ok display ∧
      after = registry.putDisplay id { display with commit := change display.commit } := by
  obtain ⟨display, found, finished⟩ := bind_ok updated
  cases finished
  exact ⟨display, found, rfl⟩

end Registry
end Scanout
