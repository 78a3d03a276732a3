import Scanout.Proofs.Registry
import Scanout.Proofs.Slots.Map

/-!
The caches of the service as one partial map of slots. Each kind of buffer of a display has one
cache, where a stream counts as a cache with a single slot, and what is not there has no slots.
Every change of a registry is followed cache by cache.
-/

namespace Scanout

namespace SlotCache

/-- What a slot holds, as the device knows it. -/
def entry (cache : SlotCache) (slot : Nat) : Option (Option NativeHandle) :=
  cache.slots[slot]?.map (Option.map Handle.native)

theorem isSome_entry (cache : SlotCache) (slot : Nat) :
    (cache.entry slot).isSome = decide (slot < cache.size) := by
  rw [entry, Option.isSome_map, Bool.eq_iff_iff, decide_eq_true_iff]
  by_cases inside : slot < cache.slots.length <;> simp [size, inside]

theorem entry_ofSize (count slot : Nat) :
    (ofSize count).entry slot = if slot < count then some none else none := by
  by_cases inside : slot < count <;> simp [ofSize, entry, inside]

theorem entry_resize (cache : SlotCache) (count slot : Nat) :
    (cache.resize count).1.entry slot =
      if slot < count then some (cache.entry slot).join else none := by
  simp only [resize, entry]
  -- The slot was there already, or it is one of those that were added.
  by_cases kept : slot < cache.slots.length
  · by_cases inside : slot < count
    · rw [List.getElem?_append_left (by rw [List.length_take]; omega), List.getElem?_take_of_lt inside,
        List.getElem?_eq_getElem kept, if_pos inside]
      rfl
    · rw [List.getElem?_eq_none, if_neg inside, Option.map_none]
      simp only [List.length_append, List.length_take, List.length_replicate, size]
      omega
  · rw [List.getElem?_append_right (by rw [List.length_take]; omega), List.getElem?_replicate,
      List.getElem?_eq_none (Nat.le_of_not_lt kept), List.length_take, size]
    by_cases inside : slot < count
    · rw [if_pos (by omega), if_pos inside]
      rfl
    · rw [if_neg (by omega), if_neg inside]
      rfl

theorem entry_put {cache after : SlotCache} {slot : Nat} {content held : Option Handle}
    (stored : cache.put slot content = .ok (after, held)) (other : Nat) :
    after.entry other =
      if other = slot then (cache.entry other).map fun _ => content.map Handle.native
      else cache.entry other := by
  obtain ⟨found, rfl⟩ := put_ok stored
  by_cases same : other = slot
  · subst other
    obtain ⟨inside, -⟩ := List.getElem?_eq_some_iff.mp found
    simp [entry, List.getElem?_set_self inside, found]
  · rw [if_neg same, entry, List.getElem?_set_ne (Ne.symm same)]
    rfl

theorem get_eq (cache : SlotCache) (slot : Nat) :
    (cache.get slot).mapError BufferError.status =
      cache.slots[slot]?.elim (.error .badParameter) .ok := by
  cases found : cache.slots[slot]? <;> simp [get, found, Except.mapError, BufferError.status]

/-- Storing fails where reading fails, and for the same reason. -/
theorem put_held (cache : SlotCache) (slot : Nat) (content : Option Handle) :
    (cache.put slot content).map Prod.snd = cache.get slot := by
  unfold put
  cases cache.get slot <;> rfl

end SlotCache

namespace Display

/-- The cache of one kind of buffer. -/
def cache (display : Display) : BufferKind → SlotCache
  | .clientTarget => display.clientTargets
  | .outputBuffer => display.outputBuffers
  | .layerBuffer id => (display.layers[id]?.map Layer.buffers).getD {}
  | .sidebandStream id => ⟨(display.layers[id]?.map Layer.sidebandStream).toList⟩

variable {display after : Display} {kind : BufferKind} {slot : Nat} {content held : Option Handle}

theorem cache_putLayer (display : Display) (id : LayerId) (layer : Layer) (kind : BufferKind) :
    (display.putLayer id layer).cache kind =
      if kind = .layerBuffer id then layer.buffers
      else if kind = .sidebandStream id then ⟨[layer.sidebandStream]⟩
      else display.cache kind := by
  cases kind with
  | clientTarget => rfl
  | outputBuffer => rfl
  | layerBuffer other =>
      by_cases same : id = other
      · simp [putLayer, cache, same]
      · simp [putLayer, cache, Table.getElem?_insert, same, Ne.symm same]
  | sidebandStream other =>
      by_cases same : id = other
      · simp [putLayer, cache, same]
      · simp [putLayer, cache, Table.getElem?_insert, same, Ne.symm same]

theorem cache_eraseLayer (display : Display) (id : LayerId) (kind : BufferKind) :
    ({ display with layers := display.layers.erase id } : Display).cache kind =
      if kind.layer? == some id then .ofSize 0 else display.cache kind := by
  cases kind with
  | clientTarget => rfl
  | outputBuffer => rfl
  | layerBuffer other =>
      by_cases same : id = other
      · simp [cache, BufferKind.layer?, same, SlotCache.ofSize]
      · simp [cache, BufferKind.layer?, Table.getElem?_erase, same, Ne.symm same]
  | sidebandStream other =>
      by_cases same : id = other
      · simp [cache, BufferKind.layer?, same, SlotCache.ofSize]
      · simp [cache, BufferKind.layer?, Table.getElem?_erase, same, Ne.symm same]

theorem contains_of_found {id : LayerId} {layer : Layer} (found : display.layer id = .ok layer) :
    display.layers.contains id = true := by
  rw [Std.ExtTreeMap.contains_eq_isSome_getElem?, layer_ok found, Option.isSome_some]

/-- What is done with a layer fails where there is none. -/
theorem bind_layer {α : Type} {id : LayerId} {next : Layer → Except Status α}
    {result : Except Status α}
    (agrees : ∀ layer, display.layer id = .ok layer → next layer = result) :
    (display.layer id >>= next) =
      if (some id).any fun layer => !display.layers.contains layer then .error .badLayer
      else result := by
  rw [Option.any_some, Std.ExtTreeMap.contains_eq_isSome_getElem?]
  cases entry : display.layers[id]? with
  | none =>
      have missing : display.layer id = .error .badLayer := by rw [Display.layer, entry]
      rw [missing]
      rfl
  | some layer =>
      have found : display.layer id = .ok layer := by rw [Display.layer, entry]
      rw [found]
      exact agrees layer found

theorem map_layer {α β : Type} {id : LayerId} {next : Layer → Except Status α} {view : α → β}
    {result : Except Status β}
    (agrees : ∀ layer, display.layer id = .ok layer → (next layer).map view = result) :
    (display.layer id >>= next).map view =
      if (some id).any fun layer => !display.layers.contains layer then .error .badLayer
      else result := by
  rw [← bind_layer agrees]
  cases display.layer id <;> rfl

/-- A layer in the place of one with the same identity leaves the set of layers as it is. -/
theorem contains_put_found {id : LayerId} {layer : Layer} (found : display.layer id = .ok layer)
    (replacement : Layer) (other : LayerId) :
    (display.putLayer id replacement).layers.contains other = display.layers.contains other := by
  rw [putLayer, Table.contains_insert]
  by_cases same : other = id
  · subst other
    rw [contains_of_found found, Bool.or_true]
  · rw [beq_false_of_ne same, Bool.false_or]

theorem cache_layerBuffer {id : LayerId} {layer : Layer} (found : display.layer id = .ok layer) :
    display.cache (.layerBuffer id) = layer.buffers := by
  rw [cache, layer_ok found]
  rfl

theorem cache_sidebandStream {id : LayerId} {layer : Layer} (found : display.layer id = .ok layer) :
    display.cache (.sidebandStream id) = ⟨[layer.sidebandStream]⟩ := by
  rw [cache, layer_ok found]
  rfl

theorem content_eq (display : Display) (kind : BufferKind) (slot : Nat) :
    display.content kind slot =
      if kind.layer?.any fun layer => !display.layers.contains layer then .error .badLayer
      else (display.cache kind).slots[slot]?.elim (.error .badParameter) .ok := by
  cases kind with
  | clientTarget => exact SlotCache.get_eq display.clientTargets slot
  | outputBuffer => exact SlotCache.get_eq display.outputBuffers slot
  | layerBuffer id =>
      refine bind_layer fun layer found => ?_
      rw [cache_layerBuffer found]
      exact SlotCache.get_eq layer.buffers slot
  | sidebandStream id =>
      refine bind_layer fun layer found => ?_
      rw [cache_sidebandStream found]
      cases slot <;> rfl

theorem content_native (display : Display) (kind : BufferKind) (slot : Nat) :
    (display.content kind slot).map (Option.map Handle.native) =
      if kind.layer?.any fun layer => !display.layers.contains layer then .error .badLayer
      else ((display.cache kind).entry slot).elim (.error .badParameter) .ok := by
  rw [content_eq, SlotCache.entry]
  split
  · rfl
  · cases (display.cache kind).slots[slot]? <;> rfl

theorem store_held (display : Display) (kind : BufferKind) (slot : Nat) (content : Option Handle) :
    (display.store kind slot content).map Prod.snd = display.content kind slot := by
  cases kind with
  | clientTarget =>
      simp only [store, Display.content, bind, Except.bind]
      rw [← SlotCache.put_held display.clientTargets slot content]
      cases display.clientTargets.put slot content <;> rfl
  | outputBuffer =>
      simp only [store, Display.content, bind, Except.bind]
      rw [← SlotCache.put_held display.outputBuffers slot content]
      cases display.outputBuffers.put slot content <;> rfl
  | layerBuffer id =>
      simp only [store, Display.content, bind, Except.bind]
      cases display.layer id with
      | error status => rfl
      | ok layer =>
          simp only
          rw [← SlotCache.put_held layer.buffers slot content]
          cases layer.buffers.put slot content <;> rfl
  | sidebandStream id =>
      simp only [store, Display.content, bind, Except.bind]
      cases display.layer id with
      | error status => rfl
      | ok layer =>
          by_cases only : slot = 0
          · simp only [if_pos only]
            rfl
          · simp only [if_neg only]
            rfl

namespace Stored

theorem contains (stored : display.Stored slot content kind after held) (layer : LayerId) :
    after.layers.contains layer = display.layers.contains layer := by
  cases stored with
  | clientTarget put => rfl
  | outputBuffer put => rfl
  | layerBuffer found put => exact contains_put_found found _ layer
  | sidebandStream found only => exact contains_put_found found _ layer

/-- Only the cache of the named kind was stored into. -/
theorem caches (stored : display.Stored slot content kind after held) :
    ∃ cache, (display.cache kind).put slot content = .ok (cache, held) ∧
      ∀ other, after.cache other = if other = kind then cache else display.cache other := by
  cases stored with
  | clientTarget put => exact ⟨_, put, fun other => by cases other <;> rfl⟩
  | outputBuffer put => exact ⟨_, put, fun other => by cases other <;> rfl⟩
  | @layerBuffer id layer cache _ found put =>
      refine ⟨cache, by rw [cache_layerBuffer found, put], fun other => ?_⟩
      rw [cache_putLayer]
      by_cases stream : other = .sidebandStream id
      · simp only [stream, reduceCtorEq, if_true, if_false, cache_sidebandStream found]
      · simp only [stream, if_false]
  | @sidebandStream id layer found only =>
      refine ⟨⟨[content]⟩, ?_, fun other => ?_⟩
      -- A stream is the one slot of its cache.
      · rw [cache_sidebandStream found, only]
        rfl
      · rw [cache_putLayer]
        by_cases buffers : other = .layerBuffer id
        · simp only [buffers, reduceCtorEq, if_true, if_false, cache_layerBuffer found]
        · simp only [buffers, if_false]

end Stored
end Display

namespace Registry

variable {registry after : Registry} {id : DisplayId} {display changed : Display}

/-- The cache of one kind of buffer of a display. -/
def cache (registry : Registry) (id : DisplayId) (kind : BufferKind) : SlotCache :=
  (registry.displays[id]?.map fun display => display.cache kind).getD {}

def hasLayer (registry : Registry) (id : DisplayId) (layer : LayerId) : Bool :=
  registry.displays[id]?.any fun display => display.layers.contains layer

/-- The slots of all displays. -/
def slots (registry : Registry) : SlotMap where
  displays := registry.contains
  layers := registry.hasLayer
  count id kind := (registry.cache id kind).size
  content address := (registry.cache address.display address.kind).entry address.slot
  domain _ := SlotCache.isSome_entry _ _

theorem cache_empty (id : DisplayId) (kind : BufferKind) :
    (∅ : Registry).cache id kind = ({} : SlotCache) := by
  have absent : (∅ : Registry).displays[id]? = none := Std.ExtTreeMap.getElem?_empty
  rw [cache, absent]
  rfl

theorem slots_empty : (∅ : Registry).slots = ∅ := by
  refine SlotMap.ext ?_ ?_ ?_ ?_
  · funext id
    change (∅ : Table DisplayId Display).contains id = false
    simp
  · funext id layer
    have absent : (∅ : Registry).displays[id]? = none := Std.ExtTreeMap.getElem?_empty
    change (∅ : Registry).hasLayer id layer = false
    rw [hasLayer, absent]
    rfl
  · funext id kind
    simp only [slots, cache_empty]
    rfl
  · funext address
    simp only [slots, cache_empty]
    rfl

theorem contains_of_found (found : registry.display id = .ok display) :
    registry.contains id = true := by
  rw [contains, Std.ExtTreeMap.contains_eq_isSome_getElem?, display_ok found]
  rfl

/-- What is done on a display fails where there is none. -/
theorem map_display {α β : Type} {next : Display → Except Status α} {view : α → β}
    {layer? : Option LayerId} {result : Except Status β}
    (agrees : ∀ display, registry.display id = .ok display → (next display).map view =
      if layer?.any fun layer => !display.layers.contains layer then .error .badLayer else result) :
    (registry.display id >>= next).map view = registry.slots.located id layer? result := by
  change _ = if !registry.contains id then _
    else if layer?.any fun layer => !registry.hasLayer id layer then _ else _
  rw [contains, Std.ExtTreeMap.contains_eq_isSome_getElem?]
  cases entry : registry.displays[id]? with
  | none =>
      have missing : registry.display id = .error .badDisplay := by rw [Registry.display, entry]
      rw [missing]
      rfl
  | some display =>
      have found : registry.display id = .ok display := by rw [Registry.display, entry]
      rw [found]
      simp only [hasLayer, entry, Option.any_some]
      exact agrees display found

theorem cache_of_found (found : registry.display id = .ok display) (kind : BufferKind) :
    registry.cache id kind = display.cache kind := by
  rw [cache, display_ok found]
  rfl

theorem hasLayer_of_found (found : registry.display id = .ok display) (layer : LayerId) :
    registry.hasLayer id layer = display.layers.contains layer := by
  rw [hasLayer, display_ok found]
  rfl

theorem cache_putDisplay (registry : Registry) (id other : DisplayId) (display : Display)
    (kind : BufferKind) :
    (registry.putDisplay id display).cache other kind =
      if other = id then display.cache kind else registry.cache other kind := by
  rw [cache, putDisplay, Table.getElem?_insert]
  by_cases same : other = id
  · rw [if_pos same, if_pos same.symm]
    rfl
  · rw [if_neg same, if_neg (Ne.symm same)]
    rfl

theorem contains_putDisplay (registry : Registry) (id other : DisplayId) (display : Display) :
    (registry.putDisplay id display).contains other = (other == id || registry.contains other) := by
  rw [contains, putDisplay, Table.contains_insert]
  rfl

theorem hasLayer_putDisplay (registry : Registry) (id other : DisplayId) (display : Display)
    (layer : LayerId) :
    (registry.putDisplay id display).hasLayer other layer =
      if other = id then display.layers.contains layer else registry.hasLayer other layer := by
  rw [hasLayer, putDisplay, Table.getElem?_insert]
  by_cases same : other = id
  · rw [if_pos same, if_pos same.symm]
    rfl
  · rw [if_neg same, if_neg (Ne.symm same)]
    rfl

/-- Putting a live display in its own place adds no display. -/
theorem contains_put_found (found : registry.display id = .ok display) (other : DisplayId) :
    (registry.putDisplay id changed).contains other = registry.contains other := by
  rw [contains_putDisplay]
  by_cases same : other = id
  · subst other
    rw [contains_of_found found, Bool.or_true]
  · rw [beq_false_of_ne same, Bool.false_or]

theorem hasLayer_put_found (found : registry.display id = .ok display)
    (layers : ∀ layer, changed.layers.contains layer = display.layers.contains layer)
    (other : DisplayId) (layer : LayerId) :
    (registry.putDisplay id changed).hasLayer other layer = registry.hasLayer other layer := by
  rw [hasLayer_putDisplay]
  by_cases same : other = id
  · subst other
    rw [if_pos rfl, layers, hasLayer_of_found found]
  · rw [if_neg same]

end Registry
end Scanout
