import Scanout.Proofs.Batches.Stretches

/-!
The outline of a registry: which displays there are, which of them are virtual, and which layers
each has. Displays and layers come and go by the operations named so; slots, commit steps and
batches leave the outline alone.
-/

namespace Scanout

/-- A display as far as the client's calls and events go, without slots and tracker. -/
structure Outline where
  isVirtual : Bool
  layers : LayerId → Bool

def Display.outline (display : Display) : Outline :=
  { display with layers := display.layers.contains }

namespace Registry

def outline (registry : Registry) (id : DisplayId) : Option Outline :=
  registry.displays[id]?.map Display.outline

/-- The outline is the same. -/
def SameOutline (before after : Registry) : Prop := ∀ id, after.outline id = before.outline id

variable {registry after : Registry} {id : DisplayId} {display changed : Display}
  {released : List Handle}

@[simp] theorem outline_empty (id : DisplayId) : (∅ : Registry).outline id = none :=
  congrArg (Option.map Display.outline) Std.ExtTreeMap.getElem?_empty

theorem contains_eq (registry : Registry) (id : DisplayId) :
    registry.contains id = (registry.outline id).isSome := by
  rw [contains, outline, Option.isSome_map, Std.ExtTreeMap.contains_eq_isSome_getElem?]

/-- A registry without any display in its outline is empty. -/
theorem eq_empty_of_outline (nothing : ∀ id, registry.outline id = none) : registry = ∅ := by
  obtain ⟨displays⟩ := registry
  apply congrArg Registry.mk
  apply Std.ExtTreeMap.ext_getElem?
  intro id
  rw [Std.ExtTreeMap.getElem?_empty]
  simpa [outline] using nothing id

theorem outline_of_display (found : registry.display id = .ok display) :
    registry.outline id = some display.outline := by
  rw [outline, display_ok found]
  rfl

theorem outline_putDisplay (registry : Registry) (id other : DisplayId) (display : Display) :
    (registry.putDisplay id display).outline other =
      if id = other then some display.outline else registry.outline other := by
  unfold outline putDisplay
  rw [Table.getElem?_insert]
  split <;> rfl

theorem sameOutline_putDisplay (found : registry.display id = .ok display)
    (same : changed.outline = display.outline) :
    registry.SameOutline (registry.putDisplay id changed) := by
  intro other
  rw [outline_putDisplay]
  by_cases named : id = other
  · rw [if_pos named, same, ← named, outline_of_display found]
  · rw [if_neg named]

theorem outline_putLayer {layer : LayerId} {kept : Layer}
    (found : display.layer layer = .ok kept) (replacement : Layer) :
    (display.putLayer layer replacement).outline = display.outline := by
  have present := Display.layer_ok found
  have same (other : LayerId) : (display.layers.insert layer replacement).contains other =
      display.layers.contains other := by
    rw [Table.contains_insert]
    by_cases named : other = layer
    · simp [named, Std.ExtTreeMap.contains_eq_isSome_getElem?, present]
    · simp [named]
  exact congrArg (Outline.mk display.isVirtual) (funext same)

/-- Batches leave the outline alone. -/
theorem allows_sameOutline : Allows SameOutline where
  refl _ _ := rfl
  trans first second id := (second id).trans (first id)
  store stored := by
    obtain ⟨display, changed, found, placed, rfl⟩ := store_ok stored
    apply sameOutline_putDisplay found
    cases placed with
    | clientTarget put => rfl
    | outputBuffer put => rfl
    | layerBuffer present put => exact outline_putLayer present _
    | sidebandStream present only => exact outline_putLayer present _
  track updated := by
    obtain ⟨display, found, rfl⟩ := updateCommit_ok updated
    exact sameOutline_putDisplay found rfl

theorem sameOutline_resizeClientTargets {count : Nat}
    (resized : registry.resizeClientTargets id count = .ok (after, released)) :
    registry.SameOutline after := by
  obtain ⟨display, found, rfl, -⟩ := resizeClientTargets_ok resized
  exact sameOutline_putDisplay found rfl

theorem sameOutline_resizeLayerBuffers {layer : LayerId} {count : Nat}
    (resized : registry.resizeLayerBuffers id layer count = .ok (after, released)) :
    registry.SameOutline after := by
  obtain ⟨display, kept, found, present, rfl, -⟩ := resizeLayerBuffers_ok resized
  exact sameOutline_putDisplay found (outline_putLayer present _)

/-- A display that is added has no layers. One that is there already stays as it is. -/
theorem outline_addDisplay (registry : Registry) (id : DisplayId) (isVirtual : Bool)
    (clientTargetSlots outputSlots : Nat) (other : DisplayId) :
    (registry.addDisplay id isVirtual clientTargetSlots outputSlots).2.outline other =
      if id = other ∧ registry.outline other = none then some ⟨isVirtual, fun _ => false⟩
      else registry.outline other := by
  have empty : (Display.ofSize isVirtual clientTargetSlots outputSlots).outline =
      ⟨isVirtual, fun _ => false⟩ :=
    congrArg (Outline.mk isVirtual) (funext fun _ => Std.ExtTreeMap.contains_empty)
  unfold addDisplay
  rw [contains_eq]
  by_cases named : id = other
  · rw [named]
    cases present : registry.outline other <;> simp [outline_putDisplay, empty, present]
  · cases registry.outline id <;> simp [outline_putDisplay, named]

theorem outline_of_failed_removal {status : Status} (failed : registry.removeDisplay id = .error status) :
    registry.outline id = none := by
  cases found : registry.display id with
  | ok display => simp [removeDisplay, found, bind, Except.bind] at failed
  | error status =>
      unfold Registry.display at found
      unfold outline
      cases entry : registry.displays[id]? with
      | none => rfl
      | some display => simp [entry] at found

theorem outline_removeDisplay (removed : registry.removeDisplay id = .ok (after, released))
    (other : DisplayId) : after.outline other = if id = other then none else registry.outline other := by
  obtain ⟨display, -, rfl, -⟩ := removeDisplay_ok removed
  unfold outline
  rw [Table.getElem?_erase]
  split <;> rfl

theorem outline_addLayer {layer : LayerId} {slots : Nat}
    (added : registry.addLayer id layer slots = .ok (after, released)) (other : DisplayId) :
    after.outline other =
      if id = other then
        (registry.outline other).map fun outline =>
          { outline with layers := fun kept => kept == layer || outline.layers kept }
      else registry.outline other := by
  obtain ⟨display, found, rfl, -⟩ := addLayer_ok added
  have layers : (display.putLayer layer (.ofSize slots)).outline =
      { display.outline with layers := fun kept => kept == layer || display.outline.layers kept } :=
    congrArg (Outline.mk display.isVirtual) (funext fun _ => Table.contains_insert _ _ _ _)
  rw [outline_putDisplay, layers]
  by_cases named : id = other
  · rw [if_pos named, if_pos named, ← named, outline_of_display found]
    rfl
  · rw [if_neg named, if_neg named]

theorem outline_removeLayer {layer : LayerId}
    (removed : registry.removeLayer id layer = .ok (after, released)) (other : DisplayId) :
    after.outline other =
      if id = other then
        (registry.outline other).map fun outline =>
          { outline with layers := fun kept => kept != layer && outline.layers kept }
      else registry.outline other := by
  obtain ⟨display, gone, found, -, rfl, -⟩ := removeLayer_ok removed
  have layers : Display.outline { display with layers := display.layers.erase layer } =
      { display.outline with layers := fun kept => kept != layer && display.outline.layers kept } :=
    congrArg (Outline.mk display.isVirtual) (funext fun _ => Table.contains_erase _ _ _)
  rw [outline_putDisplay, layers]
  by_cases named : id = other
  · rw [if_pos named, if_pos named, ← named, outline_of_display found]
    rfl
  · rw [if_neg named, if_neg named]

section Snapshot

/-- The displays are listed with their layers, both ascending. -/
structure Lists (known : DisplayId → Option Outline)
    (roster : List (DisplayId × Bool × List LayerId)) : Prop where
  ascending : roster.Pairwise fun first second => first.1.raw < second.1.raw
  layersAscending : ∀ entry ∈ roster, entry.2.2.Pairwise fun first second => first.raw < second.raw
  displays : ∀ id isVirtual, (∃ layers, (id, isVirtual, layers) ∈ roster) ↔
    ∃ outline, known id = some outline ∧ outline.isVirtual = isVirtual
  layers : ∀ id isVirtual layers, (id, isVirtual, layers) ∈ roster →
    ∀ layer, layer ∈ layers ↔ ∃ outline, known id = some outline ∧ outline.layers layer = true

theorem mem_snapshot {isVirtual : Bool} {layers : List LayerId} :
    (id, isVirtual, layers) ∈ registry.snapshot ↔ ∃ display : Display,
      registry.displays[id]? = some display ∧ display.isVirtual = isVirtual ∧
        display.layers.keys = layers := by
  simp [snapshot, Std.ExtTreeMap.mem_toList_iff_getElem?_eq_some]

theorem lists_snapshot (registry : Registry) : Lists registry.outline registry.snapshot where
  ascending := by
    apply List.pairwise_map.mpr
    apply Std.ExtTreeMap.ordered_keys_toList.imp
    intro first second less
    exact Int.compare_eq_lt.mp less
  layersAscending entry listed := by
    obtain ⟨display, -, -, same⟩ := mem_snapshot.mp listed
    rw [← same]
    apply Std.ExtTreeMap.ordered_keys.imp
    intro first second less
    exact Int.compare_eq_lt.mp less
  displays id isVirtual := by
    simp [mem_snapshot, outline, Display.outline]
  layers id isVirtual layers listed layer := by
    obtain ⟨display, found, -, rfl⟩ := mem_snapshot.mp listed
    simp [outline, found, Display.outline]

end Snapshot

end Registry
end Scanout
