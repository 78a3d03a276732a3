import Scanout.Proofs.Batches.Attempts
import Scanout.Proofs.Outline

/-!
What a batch cannot touch. Its entries store handles only where one of their fields brings one,
change only the trackers of displays that they commit, and speak to the device and to the client
only about displays that they name. Displays, layers and slot counts stay as they are. An extended
batch brings nothing and commits nothing, so it changes nothing at all.
-/

namespace Scanout

open EngineAction

namespace Entry

def fields : Entry → List Field
  | regular command => command.fields
  | extended command => command.fields

def commit? : Entry → Option CommitCommand
  | regular command => command.commit
  | extended _ => none

/-- A field of the entry brings a handle for the slot. -/
def Brings (entry : Entry) (address : SlotAddress) : Prop :=
  ∃ field ∈ entry.fields, ∃ use, field.buffer? = some use ∧ use.reuse = false ∧
    use.handle.isSome ∧ use.address entry.display = address

/-- The entry has nothing to store and nothing to commit. -/
def Idle (entry : Entry) : Prop := entry.commit? = none ∧ ∀ address, ¬entry.Brings address

theorem mem_attempts {entry : Entry} {field : Field} :
    .field field ∈ entry.attempts ↔ field ∈ entry.fields := by
  cases entry <;> simp [attempts, fields]

theorem brings_of_fresh {entry : Entry} {field : Field} {use : BufferRequest}
    (among : field ∈ entry.fields) (buffered : field.buffer? = some use)
    (fresh : use.reuse = false) : entry.Brings (use.address entry.display) := by
  have proper := entry.proper (mem_attempts.mpr among) buffered
  obtain ⟨native, given⟩ : ∃ native, use.handle = some native := by
    simpa [BufferRequest.Proper, fresh] using proper
  exact ⟨field, among, use, buffered, fresh, by simp [given], rfl⟩

theorem idle_extended (command : ExtendedDisplayCommand) : (extended command).Idle := by
  refine ⟨rfl, ?_⟩
  rintro address ⟨field, among, use, buffered, fresh, -⟩
  simp [ExtendedDisplayCommand.reuses among buffered] at fresh

end Entry

namespace Registry

variable {before middle after : Registry} {id : DisplayId} {kind : BufferKind} {slot : Nat}
  {content held : Option Handle} {change : CommitTracker → CommitTracker}

/-- What can be read from a slot depends on the outline and on what is in the slot. -/
theorem content_congr (outline : before.SameOutline after)
    (same : (after.cache id kind).slots[slot]? = (before.cache id kind).slots[slot]?) :
    after.content id kind slot = before.content id kind slot := by
  have shape := outline id
  unfold Registry.outline at shape
  unfold Registry.content
  unfold cache at same
  cases absent : before.displays[id]? with
  | none =>
      rw [absent] at shape
      simp [Registry.display, absent, Option.map_eq_none_iff.mp shape]
  | some display =>
      rw [absent] at shape
      obtain ⟨changed, there, alike⟩ := Option.map_eq_some_iff.mp shape
      simp only [absent, there, Option.map_some, Option.getD_some] at same
      have layers (layer : LayerId) :
          changed.layers.contains layer = display.layers.contains layer :=
        congrFun (congrArg Outline.layers alike) layer
      simp only [Registry.display, absent, there, bind, Except.bind, Display.content_eq, layers,
        same]

theorem find?_putDisplay (registry : Registry) (id other : DisplayId) (display : Display) :
    (registry.putDisplay id display).find? other =
      if id = other then some display else registry.find? other :=
  Table.getElem?_insert ..

theorem slot_store (stored : before.store id kind slot content = .ok (after, held))
    {address : SlotAddress} (elsewhere : address ≠ ⟨id, kind, slot⟩) :
    (after.cache address.display address.kind).slots[address.slot]? =
      (before.cache address.display address.kind).slots[address.slot]? := by
  obtain ⟨display, changed, found, placed, rfl⟩ := store_ok stored
  obtain ⟨cache, put, caches⟩ := placed.caches
  obtain ⟨-, rfl⟩ := SlotCache.put_ok put
  obtain ⟨other, named, place⟩ := address
  rw [cache_putDisplay]
  by_cases here : other = id
  · subst other
    rw [if_pos rfl, cache_of_found found, caches]
    by_cases same : named = kind
    · subst named
      have different : slot ≠ place := by
        rintro rfl
        exact elsewhere rfl
      rw [if_pos rfl, List.getElem?_set_ne different]
    · rw [if_neg same]
  · rw [if_neg here]

/-- Only what the entries may change has changed. -/
structure Spares (entries : List Entry) (before after : Registry) : Prop where
  outline : before.SameOutline after
  count : ∀ id kind, (after.cache id kind).size = (before.cache id kind).size
  content : ∀ address, (∀ entry ∈ entries, ¬entry.Brings address) →
    after.content address.display address.kind address.slot =
      before.content address.display address.kind address.slot
  tracker : ∀ id, (∀ entry ∈ entries, entry.display = id → entry.commit? = none) →
    after.commitTracker id = before.commitTracker id
  idle : ∀ id, (∀ entry ∈ entries, entry.display = id → entry.Idle) →
    after.find? id = before.find? id

namespace Spares

variable {entries : List Entry} {entry : Entry}

theorem refl (registry : Registry) : Spares entries registry registry where
  outline := allows_sameOutline.refl registry
  count _ _ := rfl
  content _ _ := rfl
  tracker _ _ := rfl
  idle _ _ := rfl

theorem trans (first : Spares entries before middle) (second : Spares entries middle after) :
    Spares entries before after where
  outline := allows_sameOutline.trans first.outline second.outline
  count id kind := (second.count id kind).trans (first.count id kind)
  content address none := (second.content address none).trans (first.content address none)
  tracker id none := (second.tracker id none).trans (first.tracker id none)
  idle id none := (second.idle id none).trans (first.idle id none)

theorem store (among : entry ∈ entries) (brings : entry.Brings ⟨entry.display, kind, slot⟩)
    (stored : before.store entry.display kind slot content = .ok (after, held)) :
    Spares entries before after := by
  have outline := allows_sameOutline.store stored
  refine ⟨outline, fun id other => ?count, fun address none => ?content, fun id none => ?tracker,
    fun id none => ?idle⟩
  case count =>
    obtain ⟨display, changed, found, placed, rfl⟩ := store_ok stored
    exact congrArg (fun map => map.count id other) (slots_stored found placed)
  case content =>
    apply content_congr outline
    apply slot_store stored
    rintro rfl
    exact none entry among brings
  case tracker => exact commitTracker_store stored id
  case idle =>
    obtain ⟨display, changed, found, placed, rfl⟩ := store_ok stored
    rw [find?_putDisplay, if_neg]
    rintro rfl
    exact (none entry among rfl).2 _ brings

theorem track (among : entry ∈ entries) (commits : entry.commit?.isSome)
    (updated : before.updateCommit entry.display change = .ok after) :
    Spares entries before after := by
  have outline := allows_sameOutline.track updated
  have others (id : DisplayId) (different : entry.display ≠ id) :
      after.find? id = before.find? id := by
    obtain ⟨display, found, rfl⟩ := updateCommit_ok updated
    rw [find?_putDisplay, if_neg different]
  have unnamed (id : DisplayId) (none : entry.display = id → entry.commit? = none) :
      entry.display ≠ id := by
    intro same
    simp [none same] at commits
  refine ⟨outline, fun id kind => ?count, fun address none => ?content, fun id none => ?tracker,
    fun id none => ?idle⟩
  case count => exact congrArg (fun map => map.count id kind) (slots_updateCommit updated)
  case content =>
    apply content_congr outline
    rw [cache_updateCommit updated]
  case tracker =>
    have same := others id (unnamed id (none entry among))
    unfold commitTracker
    rw [display_eq, display_eq, same]
  case idle => exact others id (unnamed id fun same => (none entry among same).1)

end Spares
end Registry

/-- The request is about a display that is named, or one to the importer of a batch that brings a
handle. -/
def Request.Allowed (entries : List Entry) (request : Request) : Prop :=
  (∃ entry ∈ entries, request.display? = some entry.display) ∨
    request.isReference = true ∧ ∃ entry ∈ entries, ∃ address, entry.Brings address

/-- What the entries may ask for, write and change. -/
structure Footprint (entries : List Entry) (exchanges : List Exchange) (payloads : List Payload)
    (before after : Registry) : Prop where
  asked : ∀ exchange ∈ exchanges, exchange.request.Allowed entries
  written : ∀ payload ∈ payloads, ∀ id, payload.display? = some id →
    ∃ entry ∈ entries, entry.display = id
  spares : Registry.Spares entries before after

namespace Footprint

variable {entries : List Entry} {exchanges more : List Exchange} {payloads others : List Payload}
  {before middle after : Registry}

theorem nil (registry : Registry) : Footprint entries [] [] registry registry where
  asked := List.forall_mem_nil _
  written := List.forall_mem_nil _
  spares := .refl registry

theorem append (first : Footprint entries exchanges payloads before middle)
    (second : Footprint entries more others middle after) :
    Footprint entries (exchanges ++ more) (payloads ++ others) before after where
  asked := List.forall_mem_append.mpr ⟨first.asked, second.asked⟩
  written := List.forall_mem_append.mpr ⟨first.written, second.written⟩
  spares := first.spares.trans second.spares

theorem of_spares (spares : Registry.Spares entries before after) :
    Footprint entries [] [] before after where
  asked := List.forall_mem_nil _
  written := List.forall_mem_nil _
  spares

theorem of_asked (asked : ∀ exchange ∈ exchanges, exchange.request.Allowed entries)
    (registry : Registry) : Footprint entries exchanges [] registry registry where
  asked
  written := List.forall_mem_nil _
  spares := .refl registry

end Footprint

section Fields

variable {entries : List Entry} {entry : Entry} {before : Registry} {use : BufferRequest}

theorem Request.allowed_reference {request : Request} {address : SlotAddress}
    (among : entry ∈ entries) (brings : entry.Brings address)
    (reference : request.isReference = true) : request.Allowed entries :=
  .inr ⟨reference, entry, among, address, brings⟩

theorem Footprint.of_frees {exchanges : List Exchange} {handles : List NativeHandle}
    {address : SlotAddress} (among : entry ∈ entries) (brings : entry.Brings address)
    (frees : exchanges.map Exchange.request = handles.map Request.freeBuffer)
    (registry : Registry) : Footprint entries exchanges [] registry registry := by
  apply of_asked
  intro exchange member
  have listed : exchange.request ∈ handles.map Request.freeBuffer := by
    rw [← frees]
    exact List.mem_map_of_mem member
  obtain ⟨native, -, same⟩ := List.mem_map.mp listed
  exact Request.allowed_reference among brings (same ▸ rfl)

theorem BufferRequest.Finds.footprint {exchanges : List Exchange}
    {answer : Except Status (Option NativeHandle)} (among : entry ∈ entries)
    (brings : use.reuse = false → entry.Brings (use.address entry.display))
    (finds : use.Finds entry.display before.slots exchanges answer) :
    Footprint entries exchanges [] before before := by
  apply Footprint.of_asked
  cases finds with
  | reused reuse => exact List.forall_mem_nil _
  | missing fresh missing => exact List.forall_mem_nil _
  | copied fresh given stream => exact List.forall_mem_nil _
  | imported fresh given buffer =>
      rw [List.forall_mem_singleton]
      exact Request.allowed_reference among (brings fresh) rfl
  | declined reason fresh given buffer reported =>
      rw [List.forall_mem_singleton]
      exact Request.allowed_reference among (brings fresh) rfl

theorem Registry.update_footprint {buffer : ResolvedBuffer} (among : entry ∈ entries)
    (brings : use.reuse = false → entry.Brings (use.address entry.display))
    (brought : use.Brings buffer) :
    (update entry.display use.kind use.slot use.reuse buffer).Ensures Eq before
      fun freed _ after => Footprint entries freed [] before after := by
  unfold update
  cases reuse : use.reuse with
  | true =>
      have nothing : buffer.handle? = none := by
        simpa [BufferRequest.Brings, reuse] using brought
      rw [nothing]
      exact .pure (.nil before)
  | false =>
      refine .get ?_
      cases stored : before.store entry.display use.kind use.slot buffer.handle? with
      | error status =>
          exact .releasing _ fun freed frees => .of_frees among (brings reuse) frees before
      | ok result =>
          obtain ⟨after, held⟩ := result
          refine .set (.releasing _ fun freed frees => ?_)
          have spares := Spares.store among (brings reuse) stored
          exact (Footprint.of_spares spares).append (.of_frees among (brings reuse) frees after)

theorem Setting.footprint (setting : Setting) (registry : Registry) (among : entry ∈ entries)
    (answer : Except Status Unit) :
    Footprint entries [setting.told entry.display answer] [] registry registry := by
  apply Footprint.of_asked
  rw [List.forall_mem_singleton]
  refine .inl ⟨entry, among, ?_⟩
  cases setting <;> rfl

theorem Field.footprint {field : Field} (among : entry ∈ entries) (listed : field ∈ entry.fields)
    (before : Registry) :
    (field.apply entry.display).Ensures Eq before fun exchanges _ after =>
      Footprint entries exchanges [] before after := by
  cases buffered : field.buffer? with
  | none =>
      cases checked : field.check with
      | true =>
          rw [apply_of_plain checked buffered]
          exact (field.setting none).tell_ensures ((field.setting none).footprint before among)
      | false =>
          rw [apply_of_unchecked checked]
          exact .pure (.nil before)
  | some use =>
      have brings := Entry.brings_of_fresh listed buffered
      rw [apply_of_buffer buffered]
      refine .bind (Registry.lookup_ensures.imp ?_)
      rintro sought (status | buffer) after ⟨rfl, finds, brought⟩
      · refine .pure ?_
        rw [List.append_nil]
        exact finds.footprint among brings
      · have found := finds.footprint among brings
        refine .bind ((field.setting buffer.native).tell_ensures fun answer => ?_)
        have told := found.append ((field.setting buffer.native).footprint after among answer)
        refine .bind ((Registry.update_footprint among brings (brought buffer rfl)).imp ?_)
        intro freed result final stored
        have whole := told.append stored
        cases answer <;> refine .pure ?_ <;> simpa using whole

end Fields

namespace EngineAction

variable {α β : Type} {entries : List Entry} {entry : Entry}

/-- Whatever is replied, the action does no more than the entries may. -/
def Within (entries : List Entry) (action : EngineAction α) : Prop :=
  ∀ engine before, action.Ensures Eq engine before fun exchanges payloads _ after =>
    Footprint entries exchanges payloads before after

theorem Within.pure (value : α) : (pure value : EngineAction α).Within entries :=
  fun _ before => .pure (.nil before)

theorem Within.bind {first : EngineAction α} {next : α → EngineAction β}
    (begins : first.Within entries) (goesOn : ∀ value, (next value).Within entries) :
    (first >>= next).Within entries := by
  intro engine before
  apply Ensures.bind
  apply (begins engine before).imp
  intro exchanges payloads value middle first
  apply (goesOn value _ middle).imp
  intro more others result after second
  exact first.append second

theorem Within.forM {run : β → EngineAction Unit} (list : List β)
    (each : ∀ part ∈ list, (run part).Within entries) : (list.forM run).Within entries := by
  induction list with
  | nil => exact .pure ()
  | cons part rest ih =>
      obtain ⟨here, later⟩ := List.forall_mem_cons.mp each
      exact .bind here fun _ => ih later

theorem Within.call {call : DeviceCall} (among : entry ∈ entries)
    (about : call.display? = some entry.display) : (EngineAction.call call).Within entries := by
  intro engine before
  apply Ensures.call
  rintro reply after rfl
  apply Footprint.of_asked
  rw [List.forall_mem_singleton]
  exact .inl ⟨entry, among, about⟩

theorem Within.record (result : Except Status Unit) :
    (EngineAction.record result).Within entries := by
  intro engine before
  apply Ensures.record
  refine ⟨List.forall_mem_nil _, ?_, .refl before⟩
  cases result <;> simp [errorsOf, Payload.display?]

theorem Within.write {payload : Payload} (among : entry ∈ entries)
    (about : payload.display? = some entry.display) :
    (EngineAction.write (·.write payload)).Within entries := by
  intro engine before
  apply Ensures.write
  refine ⟨List.forall_mem_nil _, ?_, .refl before⟩
  rw [List.forall_mem_singleton]
  rintro id named
  exact ⟨entry, among, Option.some.inj (about.symm.trans named)⟩

theorem Within.retrack (among : entry ∈ entries) (commits : entry.commit?.isSome)
    (change : CommitTracker → CommitTracker) :
    (EngineAction.retrack entry.display change).Within entries := by
  intro engine before
  exact .retrack (fun _ _ => .nil before) fun after updated =>
    .of_spares (.track among commits updated)

theorem within_of_commitStep {action : EngineAction α} (among : entry ∈ entries)
    (commits : entry.commit?.isSome) (step : CommitStep entry.display action) :
    action.Within entries := by
  induction step with
  | pure value => exact .pure value
  | bind _ _ begins goesOn => exact .bind begins goesOn
  | call call about _ => exact .call among about
  | tell setting => exact .bind (.call among rfl) .record
  | tracker => exact fun _ before => .lift (.get (.pure (.nil before)))
  | write payload about => exact .write among about
  | record result => exact .record result
  | retrack change => exact .retrack among commits change

theorem within_field {field : Field} (among : entry ∈ entries) (listed : field ∈ entry.fields) :
    (lift (field.apply entry.display) >>= record).Within entries :=
  .bind (fun _ before => .lift (field.footprint among listed before)) .record

theorem within_entry (among : entry ∈ entries) : entry.execute.Within entries := by
  have fields : (entry.fields.forM fun field =>
      lift (field.apply entry.display) >>= record).Within entries :=
    .forM _ fun field listed => within_field among listed
  cases entry with
  | extended command => exact fields
  | regular command =>
      apply Within.bind fields
      intro _
      cases commits : command.commit with
      | none => exact .pure ()
      | some step =>
          exact within_of_commitStep among (by simp [Entry.commit?, commits]) (.commit step _)

end EngineAction

section Turns

variable {entries : List Entry} {replies : Replies} {registry final : Registry}

theorem Entry.footprint {entry : Entry} (among : entry ∈ entries) (past : List Request) :
    let turn := entry.alone.play replies past registry
    Footprint entries turn.exchanges turn.value registry turn.state := by
  have ensured : entry.alone.Ensures Eq registry fun exchanges payloads after =>
      Footprint entries exchanges payloads registry after := by
    apply Action.Ensures.bind
    refine Action.Ensures.imp (within_entry among {} registry) ?_
    rintro exchanges ⟨_, reached⟩ after ⟨payloads, written, footprint⟩
    obtain rfl : reached = Engine.append {} payloads := written
    apply Action.Ensures.pure
    simpa using footprint
  exact ensured _ _ _ (Run.ends_play _ past)

theorem Turns.footprint {past : List Request} {turns : List Entry} {groups : List (List Payload)}
    {exchanges : List Exchange} (taken : Turns replies past registry turns groups exchanges final)
    (among : ∀ entry ∈ turns, entry ∈ entries) :
    Footprint entries exchanges groups.flatten registry final := by
  induction taken with
  | nil => exact .nil _
  | @cons past registry entry rest groups exchanges final turn played further ih =>
      obtain ⟨here, later⟩ := List.forall_mem_cons.mp among
      subst played
      exact (Entry.footprint here past).append (ih later)

theorem Payload.display?_under (payload : Payload) (entry : Nat) :
    (payload.under entry).display? = payload.display? := by
  cases payload <;> rfl

theorem mem_numbered {groups : List (List Payload)} {start : Nat} {payload : Payload}
    (member : payload ∈ numbered start groups) :
    ∃ written ∈ groups.flatten, written.display? = payload.display? := by
  induction groups generalizing start with
  | nil => cases member
  | cons group rest ih =>
      rw [numbered_cons, List.mem_append] at member
      cases member with
      | inl here =>
          obtain ⟨written, among, rfl⟩ := List.mem_map.mp here
          exact ⟨written, by simp [among], (written.display?_under start).symm⟩
      | inr later =>
          obtain ⟨written, among, same⟩ := ih later
          exact ⟨written, by simp_all, same⟩

end Turns

/-- What a batch does stays within what its entries name. -/
structure Batch.Confined (batch : Batch) (registry : Registry)
    (performance : Performance Registry (Except Status (List Payload))) : Prop where
  outline : registry.SameOutline performance.state
  count : ∀ id kind, (performance.state.cache id kind).size = (registry.cache id kind).size
  /-- A display that no entry names is the same with all that it has. -/
  unnamed : ∀ id, (∀ entry ∈ batch.entries, entry.display ≠ id) →
    performance.state.find? id = registry.find? id
  content : ∀ address, (∀ entry ∈ batch.entries, ¬entry.Brings address) →
    performance.state.content address.display address.kind address.slot =
      registry.content address.display address.kind address.slot
  tracker : ∀ id, (∀ entry ∈ batch.entries, entry.display = id → entry.commit? = none) →
    performance.state.commitTracker id = registry.commitTracker id
  asked : ∀ request ∈ performance.requests, request.isReference = true ∨
    ∃ entry ∈ batch.entries, request.display? = some entry.display
  answered : ∀ payloads, performance.value = .ok payloads → ∀ payload ∈ payloads,
    ∀ id, payload.display? = some id → ∃ entry ∈ batch.entries, entry.display = id

/-- Whatever the batch and whatever is replied, it touches nothing but what its entries name; an
extended batch touches neither the registry nor the importer. -/
theorem Batch.confined (batch : Batch) (replies : Replies) (registry : Registry) :
    let performance := batch.action.perform replies.quiet registry
    batch.Confined registry performance ∧
      ∀ commands, batch = .extended commands → performance.state = registry ∧
        ∀ request ∈ performance.requests, request.isReference = false := by
  intro performance
  obtain ⟨groups, turns, answered⟩ := batch.turns replies registry
  obtain ⟨asked, written, spares⟩ := turns.footprint fun entry member => member
  have requested : ∀ request ∈ performance.requests, request.Allowed batch.entries := by
    simpa [Performance.requests] using asked
  constructor
  · refine ⟨spares.outline, spares.count, ?unnamed, spares.content, spares.tracker, ?asked,
      ?answered⟩
    case unnamed =>
      intro id unnamed
      exact spares.idle id fun entry member named => absurd named (unnamed entry member)
    case asked =>
      intro request member
      cases requested request member with
      | inl named => exact .inr named
      | inr reference => exact .inl reference.1
    case answered =>
      intro payloads finished payload member id about
      have numbering : numbered 0 groups = payloads := by
        rw [answered, answer] at finished
        split at finished
        · contradiction
        · exact Except.ok.inj finished
      obtain ⟨before, among, same⟩ := mem_numbered (numbering ▸ member)
      exact written before among id (same.trans about)
  · rintro commands rfl
    have idle : ∀ entry ∈ (Batch.extended commands).entries, entry.Idle := by
      intro entry member
      obtain ⟨command, -, rfl⟩ := List.mem_map.mp member
      exact Entry.idle_extended command
    constructor
    · apply Registry.ext_find
      intro id
      exact spares.idle id fun entry member _ => idle entry member
    · intro request member
      cases requested request member with
      | inl named =>
          obtain ⟨entry, -, about⟩ := named
          cases request <;> simp_all [Request.display?, Request.isReference]
      | inr reference =>
          obtain ⟨-, entry, among, address, brings⟩ := reference
          exact absurd brings ((idle entry among).2 address)

end Scanout
