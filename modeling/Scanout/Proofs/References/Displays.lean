import Scanout.Proofs.Registry
import Scanout.Proofs.References.Books

/-!
The references that displays hold. Every operation that replaces, drops or adds handles hands out
the displaced ones, and together with what it keeps they hold what there was before. A sideband
stream holds a copy, which comes without a reference, as long as nothing else is stored in its
place.
-/

namespace Scanout

theorem heldBy_set {slots : List (Option Handle)} {slot : Nat} {held : Option Handle}
    (found : slots[slot]? = some held) (content : Option Handle) :
    heldBy ((slots.set slot content).filterMap fun place => place) + heldBy held.toList =
      heldBy (slots.filterMap fun place => place) + heldBy content.toList := by
  have split (places : List (Option Handle)) (place : Option Handle) :
      heldBy ((place :: places).filterMap fun place => place) =
        heldBy place.toList + heldBy (places.filterMap fun place => place) := by
    cases place with
    | none => simp
    | some handle => exact heldBy_cons handle _
  induction slots generalizing slot with
  | nil => cases found
  | cons first rest ih =>
      cases slot with
      | zero =>
          obtain rfl : first = held := by simpa using found
          rw [List.set_cons_zero, split, split]
          abel
      | succ slot =>
          rw [List.set_cons_succ, split, split, add_assoc, ih (by simpa using found), add_assoc]

/-- The references gathered from the entries of a map are those of all handles in a row. -/
theorem heldBy_flatMap {κ α : Type} [Ord κ] [Std.TransOrd κ] (table : Table κ α)
    (handles : α → List Handle) :
    heldBy (table.toList.flatMap fun (_, entry) => handles entry) =
      Table.gather (fun entry => heldBy (handles entry)) table := by
  unfold Table.gather
  induction table.toList with
  | nil => rfl
  | cons entry rest ih =>
      rw [List.flatMap_cons, heldBy_append, ih, List.map_cons, List.sum_cons]

namespace SlotCache

theorem heldBy_put {cache after : SlotCache} {slot : Nat} {content held : Option Handle}
    (stored : cache.put slot content = .ok (after, held)) :
    heldBy after.handles + heldBy held.toList =
      heldBy cache.handles + heldBy content.toList := by
  obtain ⟨found, rfl⟩ := put_ok stored
  exact heldBy_set found content

theorem heldBy_resize (cache : SlotCache) (count : Nat) :
    heldBy (cache.resize count).1.handles + heldBy (cache.resize count).2 =
      heldBy cache.handles := by
  have empty (places : Nat) :
      (List.replicate places (none : Option Handle)).filterMap (fun place => place) = [] := by
    simp
  simp only [resize, handles, List.filterMap_append, empty, List.append_nil]
  rw [← heldBy_append, ← List.filterMap_append, List.take_append_drop]

@[simp] theorem handles_ofSize (count : Nat) : (ofSize count).handles = [] := by
  simp [ofSize, handles]

end SlotCache

namespace Layer

@[simp] theorem handles_ofSize (count : Nat) : (Layer.ofSize count).handles = [] := by
  simp [Layer.ofSize, Layer.handles]

theorem heldBy_handles (layer : Layer) :
    heldBy layer.handles = heldBy layer.buffers.handles + heldBy layer.sidebandStream.toList :=
  heldBy_append _ _

/-- The stream of the layer, if it has one, came without a reference. -/
def StreamCopied (layer : Layer) : Prop :=
  ∀ handle ∈ layer.sidebandStream, handle.imported = false

end Layer

namespace Display

variable {display after : Display} {kind : BufferKind} {slot : Nat} {content held : Option Handle}

theorem heldBy_handles (display : Display) :
    heldBy display.handles =
      Table.gather (fun layer : Layer => heldBy layer.handles) display.layers +
        (heldBy display.clientTargets.handles + heldBy display.outputBuffers.handles) := by
  rw [handles, heldBy_append, heldBy_append, heldBy_flatMap, add_assoc]

@[simp] theorem heldBy_ofSize (isVirtual : Bool) (clientTargetSlots outputSlots : Nat) :
    heldBy (ofSize isVirtual clientTargetSlots outputSlots).handles = 0 := by
  rw [heldBy_handles]
  simp [ofSize]

theorem heldBy_putLayer {id : LayerId} {layer replaced : Layer}
    {outgoing incoming : Multiset NativeHandle} (found : display.layer id = .ok replaced)
    (exchanged : heldBy layer.handles + outgoing = heldBy replaced.handles + incoming) :
    heldBy (display.putLayer id layer).handles + outgoing =
      heldBy display.handles + incoming := by
  have gathered := Table.gather_exchange (fun layer : Layer => heldBy layer.handles)
    (layer_ok found) exchanged
  rw [heldBy_handles, heldBy_handles, add_right_comm]
  change Table.gather _ (display.layers.insert id layer) + _ + _ = _
  rw [gathered, add_right_comm]
  rfl

theorem heldBy_stored (stored : display.Stored slot content kind after held) :
    heldBy after.handles + heldBy held.toList =
      heldBy display.handles + heldBy content.toList := by
  cases stored with
  | clientTarget put =>
      have placed := SlotCache.heldBy_put put
      rw [heldBy_handles, heldBy_handles, add_assoc, add_right_comm _ _ (heldBy held.toList), placed]
      abel
  | outputBuffer put =>
      have placed := SlotCache.heldBy_put put
      rw [heldBy_handles, heldBy_handles, add_assoc, add_assoc _ _ (heldBy held.toList), placed]
      abel
  | layerBuffer found put =>
      have placed := SlotCache.heldBy_put put
      refine heldBy_putLayer found ?_
      rw [Layer.heldBy_handles, Layer.heldBy_handles, add_right_comm, placed, add_right_comm]
  | sidebandStream found only =>
      refine heldBy_putLayer found ?_
      rw [Layer.heldBy_handles, Layer.heldBy_handles]
      exact add_right_comm _ _ _

def StreamsCopied (display : Display) : Prop :=
  ∀ (id : LayerId) (layer : Layer), display.layers[id]? = some layer → layer.StreamCopied

theorem StreamsCopied.putLayer (copied : display.StreamsCopied) {id : LayerId} {layer : Layer}
    (copy : layer.StreamCopied) : (display.putLayer id layer).StreamsCopied := by
  intro other found entry
  change (display.layers.insert id layer)[other]? = some found at entry
  rw [Table.getElem?_insert] at entry
  by_cases same : id = other
  · rw [if_pos same] at entry
    cases entry
    exact copy
  · rw [if_neg same] at entry
    exact copied other found entry

/-- Whether a handle may be stored as a buffer of some kind: imported ones are not for streams. -/
def Suits (kind : BufferKind) (content : Option Handle) : Prop :=
  ∀ layer, kind = .sidebandStream layer → ∀ handle ∈ content, handle.imported = false

theorem StreamsCopied.stored (copied : display.StreamsCopied) (suits : Suits kind content)
    (stored : display.Stored slot content kind after held) : after.StreamsCopied := by
  cases stored with
  | clientTarget put => exact copied
  | outputBuffer put => exact copied
  | @layerBuffer id layer cache held found put =>
      exact copied.putLayer (copied id layer (layer_ok found))
  | @sidebandStream id layer found only => exact copied.putLayer (suits id rfl)

end Display

namespace Registry

variable {registry after : Registry} {id : DisplayId}

theorem heldBy_handles (registry : Registry) :
    heldBy registry.handles =
      Table.gather (fun display : Display => heldBy display.handles) registry.displays :=
  heldBy_flatMap _ _

theorem heldBy_putDisplay {display replaced : Display}
    {outgoing incoming : Multiset NativeHandle} (found : registry.display id = .ok replaced)
    (exchanged : heldBy display.handles + outgoing = heldBy replaced.handles + incoming) :
    heldBy (registry.putDisplay id display).handles + outgoing =
      heldBy registry.handles + incoming := by
  rw [heldBy_handles, heldBy_handles]
  exact Table.gather_exchange _ (display_ok found) exchanged

/-- A display in the place of one that held the same and what is handed out. -/
theorem heldBy_putDisplay_out {display replaced : Display} {outgoing : Multiset NativeHandle}
    (found : registry.display id = .ok replaced)
    (same : heldBy display.handles + outgoing = heldBy replaced.handles) :
    heldBy (registry.putDisplay id display).handles + outgoing = heldBy registry.handles := by
  rw [← add_zero (heldBy replaced.handles)] at same
  rw [heldBy_putDisplay found same, add_zero]

def StreamsCopied (registry : Registry) : Prop :=
  ∀ (id : DisplayId) (display : Display), registry.displays[id]? = some display →
    display.StreamsCopied

theorem streamsCopied_empty : (∅ : Registry).StreamsCopied := by
  intro id display found
  cases Std.ExtTreeMap.getElem?_empty.symm.trans found

theorem StreamsCopied.putDisplay (copied : registry.StreamsCopied) {display : Display}
    (copies : display.StreamsCopied) : (registry.putDisplay id display).StreamsCopied := by
  intro other found entry
  change (registry.displays.insert id display)[other]? = some found at entry
  rw [Table.getElem?_insert] at entry
  by_cases same : id = other
  · rw [if_pos same] at entry
    cases entry
    exact copies
  · rw [if_neg same] at entry
    exact copied other found entry

theorem heldBy_store {kind : BufferKind} {slot : Nat} {content held : Option Handle}
    (finished : registry.store id kind slot content = .ok (after, held)) :
    heldBy after.handles + heldBy held.toList =
      heldBy registry.handles + heldBy content.toList := by
  obtain ⟨display, changed, found, stored, rfl⟩ := store_ok finished
  exact heldBy_putDisplay found (Display.heldBy_stored stored)

theorem StreamsCopied.store {kind : BufferKind} {slot : Nat} {content held : Option Handle}
    (copied : registry.StreamsCopied) (suits : Display.Suits kind content)
    (finished : registry.store id kind slot content = .ok (after, held)) :
    after.StreamsCopied := by
  obtain ⟨display, changed, found, stored, rfl⟩ := store_ok finished
  exact copied.putDisplay ((copied id display (display_ok found)).stored suits stored)

/-- An operation hands out what it displaces. -/
structure Conserves (operation : Registry → Except Status (Registry × List Handle)) : Prop where
  held : ∀ {registry after released}, operation registry = .ok (after, released) →
    heldBy after.handles + heldBy released = heldBy registry.handles
  copied : ∀ {registry after released}, operation registry = .ok (after, released) →
    registry.StreamsCopied → after.StreamsCopied

theorem conserves_removeDisplay (id : DisplayId) : Conserves (·.removeDisplay id) where
  held removed := by
    obtain ⟨display, found, rfl, rfl⟩ := removeDisplay_ok removed
    rw [heldBy_handles, heldBy_handles, Table.gather_of_found (display_ok found), add_comm]
  copied removed copied := by
    obtain ⟨display, found, rfl, rfl⟩ := removeDisplay_ok removed
    intro other kept entry
    rw [Table.getElem?_erase] at entry
    by_cases same : id = other
    · rw [if_pos same] at entry
      cases entry
    · rw [if_neg same] at entry
      exact copied other kept entry

theorem conserves_addLayer (id : DisplayId) (layer : LayerId) (slots : Nat) :
    Conserves (·.addLayer id layer slots) where
  held added := by
    obtain ⟨display, found, rfl, rfl⟩ := addLayer_ok added
    refine heldBy_putDisplay_out found ?_
    cases entry : display.layers[layer]? with
    | none =>
        rw [Display.heldBy_handles, Display.heldBy_handles]
        change Table.gather _ (display.layers.insert layer (.ofSize slots)) + _ + _ = _
        rw [Table.gather_of_absent entry, Layer.handles_ofSize, heldBy_nil, add_zero]
        exact add_zero _
    | some replaced =>
        have present : display.layer layer = .ok replaced := by simp [Display.layer, entry]
        refine (Display.heldBy_putLayer present ?_).trans (add_zero _)
        rw [Layer.handles_ofSize]
        exact (zero_add _).trans (add_zero _).symm
  copied added copied := by
    obtain ⟨display, found, rfl, rfl⟩ := addLayer_ok added
    exact copied.putDisplay ((copied id display (display_ok found)).putLayer nofun)

theorem conserves_removeLayer (id : DisplayId) (layer : LayerId) :
    Conserves (·.removeLayer id layer) where
  held removed := by
    obtain ⟨display, gone, found, present, rfl, rfl⟩ := removeLayer_ok removed
    refine heldBy_putDisplay_out found ?_
    rw [Display.heldBy_handles, Display.heldBy_handles,
      Table.gather_of_found (Display.layer_ok present)]
    abel
  copied removed copied := by
    obtain ⟨display, gone, found, present, rfl, rfl⟩ := removeLayer_ok removed
    refine copied.putDisplay ?_
    intro other kept entry
    rw [Table.getElem?_erase] at entry
    by_cases same : layer = other
    · rw [if_pos same] at entry
      cases entry
    · rw [if_neg same] at entry
      exact copied id display (display_ok found) other kept entry

theorem conserves_resizeClientTargets (id : DisplayId) (count : Nat) :
    Conserves (·.resizeClientTargets id count) where
  held resized := by
    obtain ⟨display, found, rfl, rfl⟩ := resizeClientTargets_ok resized
    refine heldBy_putDisplay_out found ?_
    rw [Display.heldBy_handles, Display.heldBy_handles,
      ← SlotCache.heldBy_resize display.clientTargets count]
    abel
  copied resized copied := by
    obtain ⟨display, found, rfl, rfl⟩ := resizeClientTargets_ok resized
    exact copied.putDisplay (copied id display (display_ok found))

theorem conserves_resizeLayerBuffers (id : DisplayId) (layer : LayerId) (count : Nat) :
    Conserves (·.resizeLayerBuffers id layer count) where
  held resized := by
    obtain ⟨display, kept, found, present, rfl, rfl⟩ := resizeLayerBuffers_ok resized
    refine heldBy_putDisplay_out found ?_
    refine (Display.heldBy_putLayer present ?_).trans (add_zero _)
    rw [Layer.heldBy_handles, Layer.heldBy_handles, ← SlotCache.heldBy_resize kept.buffers count]
    abel
  copied resized copied := by
    obtain ⟨display, kept, found, present, rfl, rfl⟩ := resizeLayerBuffers_ok resized
    have copies := copied id display (display_ok found)
    exact copied.putDisplay (copies.putLayer (copies layer kept (Display.layer_ok present)))

theorem heldBy_addDisplay (registry : Registry) (id : DisplayId) (isVirtual : Bool)
    (clientTargetSlots outputSlots : Nat) :
    heldBy (registry.addDisplay id isVirtual clientTargetSlots outputSlots).2.handles =
      heldBy registry.handles := by
  unfold addDisplay
  by_cases present : registry.contains id = true
  · rw [if_pos present]
  · rw [if_neg present, heldBy_handles, heldBy_handles]
    change Table.gather _ (registry.displays.insert id _) = _
    rw [Table.gather_of_absent (Std.ExtTreeMap.getElem?_eq_none_of_contains_eq_false
      (Bool.eq_false_iff.mpr present)), Display.heldBy_ofSize, add_zero]

theorem StreamsCopied.addDisplay (copied : registry.StreamsCopied) (isVirtual : Bool)
    (clientTargetSlots outputSlots : Nat) :
    (registry.addDisplay id isVirtual clientTargetSlots outputSlots).2.StreamsCopied := by
  unfold Registry.addDisplay
  by_cases present : registry.contains id = true
  · rw [if_pos present]
    exact copied
  · rw [if_neg present]
    refine copied.putDisplay ?_
    intro layer kept entry
    simp [Display.ofSize] at entry

theorem heldBy_updateCommit {change : CommitTracker → CommitTracker}
    (updated : registry.updateCommit id change = .ok after) :
    heldBy after.handles = heldBy registry.handles := by
  obtain ⟨display, found, rfl⟩ := updateCommit_ok updated
  exact (add_zero _).symm.trans (heldBy_putDisplay_out found (add_zero _))

theorem StreamsCopied.updateCommit {change : CommitTracker → CommitTracker}
    (copied : registry.StreamsCopied) (updated : registry.updateCommit id change = .ok after) :
    after.StreamsCopied := by
  obtain ⟨display, found, rfl⟩ := updateCommit_ok updated
  exact copied.putDisplay (copied id display (display_ok found))

end Registry
end Scanout
