import Scanout.Proofs.Slots.Abstraction

/-!
What each operation on the registry comes to for the slots. An operation and its counterpart on the
map of slots succeed together or fail together with the same status, and the caches of the registry
afterwards are the slots of the map.
-/

namespace Scanout.Registry

variable {registry after : Registry} {id : DisplayId} {display changed : Display}

/-- The chosen caches were replaced by empty ones and no other cache changed. -/
theorem slots_renewed {chosen : DisplayId → BufferKind → Bool} {count : BufferKind → Nat}
    {live : DisplayId → Bool} {layered : DisplayId → LayerId → Bool}
    (displays : ∀ other, after.contains other = live other)
    (layers : ∀ other layer, after.hasLayer other layer = layered other layer)
    (caches : ∀ other kind, after.cache other kind =
      if chosen other kind then .ofSize (count kind) else registry.cache other kind) :
    after.slots =
      { registry.slots.renew chosen count with displays := live, layers := layered } := by
  refine SlotMap.ext (funext displays) (funext fun other => funext (layers other)) ?_ ?_
  · funext other kind
    simp only [slots, SlotMap.renew, caches]
    by_cases new : chosen other kind
    · rw [if_pos new, if_pos new, SlotCache.size_ofSize]
    · rw [if_neg new, if_neg new]
  · funext address
    simp only [slots, SlotMap.renew, caches]
    by_cases new : chosen address.display address.kind
    · rw [if_pos new, if_pos new, SlotCache.entry_ofSize]
    · rw [if_neg new, if_neg new]

/-- The buffers and the stream of one layer were replaced, and nothing outside the layer changed. -/
theorem slots_layerRenewed {layer : LayerId} {count : BufferKind → Nat}
    {layered : DisplayId → LayerId → Bool} (found : registry.display id = .ok display)
    (layers : ∀ other named, (if other = id then changed.layers.contains named
      else registry.hasLayer other named) = layered other named)
    (caches : ∀ kind, changed.cache kind =
      if kind.layer? == some layer then .ofSize (count kind) else display.cache kind) :
    (registry.putDisplay id changed).slots =
      { registry.slots.renew (fun other kind => other == id && kind.layer? == some layer) count with
        layers := layered } := by
  refine slots_renewed (contains_put_found found) ?_ ?_
  · intro other named
    rw [hasLayer_putDisplay, layers]
  · intro other kind
    rw [cache_putDisplay]
    by_cases same : other = id
    · subst other
      simp only [beq_self_eq_true, Bool.true_and, if_true, caches, cache_of_found found]
    · simp only [beq_false_of_ne same, same, Bool.false_and, Bool.false_eq_true, if_false]

theorem slots_resized {resized : BufferKind} {count : Nat} (found : registry.display id = .ok display)
    (layers : ∀ layer, changed.layers.contains layer = display.layers.contains layer)
    (caches : ∀ kind, changed.cache kind =
      if kind = resized then ((display.cache kind).resize count).1 else display.cache kind) :
    (registry.putDisplay id changed).slots = registry.slots.resize id resized count := by
  have same (other : DisplayId) (kind : BufferKind) :
      (registry.putDisplay id changed).cache other kind =
        if other = id ∧ kind = resized then ((registry.cache other kind).resize count).1
        else registry.cache other kind := by
    rw [cache_putDisplay]
    by_cases here : other = id
    · subst other
      simp only [caches, cache_of_found found, true_and, if_true]
    · simp only [here, false_and, if_false]
  refine SlotMap.ext ?_ ?_ ?_ ?_
  · funext other
    exact contains_put_found found other
  · funext other layer
    exact hasLayer_put_found found layers other layer
  · funext other kind
    simp only [slots, SlotMap.resize, same]
    by_cases meant : other = id ∧ kind = resized
    · rw [if_pos meant, if_pos meant, SlotCache.size_resize]
    · rw [if_neg meant, if_neg meant]
  · funext address
    simp only [slots, SlotMap.resize, same]
    by_cases meant : address.display = id ∧ address.kind = resized
    · rw [if_pos meant, if_pos meant, SlotCache.entry_resize]
    · rw [if_neg meant, if_neg meant]

/-- One slot of a display was stored into, and no other slot and no layer changed. -/
theorem slots_stored {kind : BufferKind} {slot : Nat} {content held : Option Handle}
    (found : registry.display id = .ok display)
    (stored : display.Stored slot content kind changed held) :
    (registry.putDisplay id changed).slots =
      registry.slots.put ⟨id, kind, slot⟩ (content.map Handle.native) := by
  obtain ⟨cache, put, caches⟩ := stored.caches
  -- Displays, layers and counts are as before; only one entry of one cache differs.
  refine SlotMap.ext ?_ ?_ ?_ ?_
  · funext other
    exact contains_put_found found other
  · funext other layer
    exact hasLayer_put_found found stored.contains other layer
  · funext other named
    simp only [slots, SlotMap.put, cache_putDisplay, caches]
    by_cases here : other = id
    · subst other
      rw [if_pos rfl, cache_of_found found]
      by_cases same : named = kind
      · rw [if_pos same, same, SlotCache.size_put put]
      · rw [if_neg same]
    · rw [if_neg here]
  · funext address
    obtain ⟨other, named, place⟩ := address
    simp only [slots, SlotMap.put, cache_putDisplay, caches, SlotAddress.mk.injEq]
    by_cases here : other = id
    · subst other
      rw [if_pos rfl, cache_of_found found]
      by_cases same : named = kind
      · simp only [same, if_true, true_and, SlotCache.entry_put put]
      · simp only [same, if_false, false_and, and_false]
    · simp only [here, false_and, if_false]

theorem slots_addDisplay (registry : Registry) (id : DisplayId) (isVirtual : Bool)
    (clientTargetSlots outputSlots : Nat) :
    ((registry.addDisplay id isVirtual clientTargetSlots outputSlots).1,
        (registry.addDisplay id isVirtual clientTargetSlots outputSlots).2.slots) =
      registry.slots.addDisplay id clientTargetSlots outputSlots := by
  unfold addDisplay SlotMap.addDisplay
  change _ = if registry.contains id then _ else _
  by_cases live : registry.contains id
  · rw [if_pos live, if_pos live]
  · rw [if_neg live, if_neg live, Prod.mk.injEq]
    refine ⟨rfl, slots_renewed ?_ ?_ ?_⟩
    · intro other
      exact contains_putDisplay registry id other _
    · intro other layer
      rw [hasLayer_putDisplay]
      by_cases same : other = id
      · simp [same, Display.ofSize]
      · simp [same, slots]
    · intro other kind
      rw [cache_putDisplay]
      by_cases same : other = id
      · simp only [same, beq_self_eq_true, if_true]
        cases kind <;> simp [Display.cache, Display.ofSize, SlotCache.ofSize]
      · simp [same]

theorem slots_removeDisplay (registry : Registry) (id : DisplayId) :
    (registry.removeDisplay id).map (fun outcome => outcome.1.slots) =
      registry.slots.removeDisplay id := by
  refine map_display fun display found => congrArg Except.ok (slots_renewed ?_ ?_ ?_)
  · intro other
    exact Table.contains_erase registry.displays id other
  · intro other layer
    simp only [hasLayer, Table.getElem?_erase]
    by_cases same : other = id
    · simp [same]
    · simp [same, Ne.symm same, slots, hasLayer]
  · intro other kind
    simp only [cache, Table.getElem?_erase]
    by_cases same : other = id
    · simp [same, SlotCache.ofSize]
    · simp [same, Ne.symm same]

theorem slots_addLayer (registry : Registry) (id : DisplayId) (layer : LayerId) (slotCount : Nat) :
    (registry.addLayer id layer slotCount).map (fun outcome => outcome.1.slots) =
      registry.slots.addLayer id layer slotCount := by
  refine map_display fun display found => congrArg Except.ok (slots_layerRenewed found ?_ ?_)
  · intro other named
    rw [Table.contains_insert]
    by_cases same : other = id
    · subst other
      simp [slots, hasLayer_of_found found]
    · simp [same, slots]
  · intro kind
    change (display.putLayer layer (.ofSize slotCount)).cache kind = _
    rw [Display.cache_putLayer]
    cases kind <;> simp [BufferKind.layer?, Layer.ofSize, SlotCache.ofSize]

theorem slots_removeLayer (registry : Registry) (id : DisplayId) (layer : LayerId) :
    (registry.removeLayer id layer).map (fun outcome => outcome.1.slots) =
      registry.slots.removeLayer id layer := by
  refine map_display fun display found => Display.map_layer fun gone present => ?_
  refine congrArg Except.ok (slots_layerRenewed found ?_ (Display.cache_eraseLayer display layer))
  intro other named
  rw [Table.contains_erase]
  by_cases same : other = id
  · subst other
    simp [slots, hasLayer_of_found found, bne]
  · simp [same, slots]

theorem slots_resizeClientTargets (registry : Registry) (id : DisplayId) (count : Nat) :
    (registry.resizeClientTargets id count).map (fun outcome => outcome.1.slots) =
      registry.slots.resizeClientTargets id count := by
  refine map_display fun display found => congrArg Except.ok ?_
  refine slots_resized found (fun _ => rfl) ?_
  intro kind
  cases kind <;> rfl

theorem slots_resizeLayerBuffers (registry : Registry) (id : DisplayId) (layer : LayerId)
    (count : Nat) :
    (registry.resizeLayerBuffers id layer count).map (fun outcome => outcome.1.slots) =
      registry.slots.resizeLayerBuffers id layer count := by
  refine map_display fun display found => Display.map_layer fun kept present => congrArg Except.ok ?_
  refine slots_resized found (Display.contains_put_found present _) ?_
  intro kind
  change (display.putLayer layer _).cache kind = _
  rw [Display.cache_putLayer]
  by_cases meant : kind = .layerBuffer layer
  · rw [if_pos meant, if_pos meant, meant, Display.cache_layerBuffer present]
    rfl
  · rw [if_neg meant, if_neg meant]
    by_cases stream : kind = .sidebandStream layer
    · rw [if_pos stream, stream, Display.cache_sidebandStream present]
    · rw [if_neg stream]

/-- Storing fails where looking up fails, and for the same reason. -/
theorem store_held (registry : Registry) (id : DisplayId) (kind : BufferKind) (slot : Nat)
    (content : Option Handle) :
    (registry.store id kind slot content).map Prod.snd = registry.content id kind slot := by
  unfold store Registry.content
  cases registry.display id with
  | error status => rfl
  | ok display =>
      simp only [bind, Except.bind]
      rw [← Display.store_held display kind slot content]
      cases display.store kind slot content <;> rfl

/-- Reading an address of the map is looking up the content of the slot. -/
theorem content_native (registry : Registry) (id : DisplayId) (kind : BufferKind) (slot : Nat) :
    (registry.content id kind slot).map (Option.map Handle.native) =
      registry.slots.read ⟨id, kind, slot⟩ := by
  refine map_display fun display found => ?_
  rw [Display.content_native, ← cache_of_found found]
  rfl

theorem slots_store (registry : Registry) (id : DisplayId) (kind : BufferKind) (slot : Nat)
    (content : Option Handle) :
    (registry.store id kind slot content).map (fun outcome => outcome.1.slots) =
      registry.slots.write ⟨id, kind, slot⟩ (content.map Handle.native) := by
  unfold SlotMap.write
  rw [← content_native, ← store_held registry id kind slot content]
  cases stored : registry.store id kind slot content with
  | error status => rfl
  | ok outcome =>
      obtain ⟨after, held⟩ := outcome
      obtain ⟨display, changed, found, placed, rfl⟩ := store_ok stored
      exact congrArg Except.ok (slots_stored found placed)

end Scanout.Registry
