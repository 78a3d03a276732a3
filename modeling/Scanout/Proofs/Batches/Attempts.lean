import Scanout.Proofs.Batches.Order
import Scanout.Proofs.Batches.Turns

/-!
What one attempt of a batch does to the slots. A field that reuses a slot hands the device what the
slot holds. One that brings a handle hands over that handle and stores it, whatever the device says
to it; where the importer declines it, nothing is told and nothing is stored. Commit steps do not
touch the slots.
-/

namespace Scanout

open EngineAction

namespace ExtendedLayerCommand

def Gives (command : ExtendedLayerCommand) : LayerField → Prop
  | .layerType type => command.layerType = some type
  | .layerFlags flags => command.layerFlags = some flags
  | _ => False

def Lists (command : ExtendedLayerCommand) : List LayerField → Prop :=
  LayerField.Listed command.Gives

theorem lists_fields (command : ExtendedLayerCommand) : command.Lists command.fields := by
  constructor
  · cases type : command.layerType <;> cases flags : command.layerFlags <;>
      simp [fields, type, flags, LayerField.place]
  · intro field
    cases field <;> simp [fields, Gives]

end ExtendedLayerCommand

/-- What a vendor entry asks for, in order. Its client target is always the slot's own. -/
inductive ExtendedDisplayCommand.Prescribes (command : ExtendedDisplayCommand) :
    List Attempt → Prop where
  | inOrder {layerFields : List Field} (layers : LayersGive ExtendedLayerCommand.layer
        ExtendedLayerCommand.Lists command.layers layerFields) :
      Prescribes command ((layerFields ++
        (command.clientTarget.map (Field.clientTarget · true)).toList ++
        (command.elapsedTime.map Field.elapsedTime).toList).map .field)

inductive Entry.Prescribes : Entry → List Attempt → Prop where
  | regular {command attempts} (prescribed : DisplayCommand.Prescribes command attempts) :
      Prescribes (.regular command) attempts
  | extended {command attempts} (prescribed : ExtendedDisplayCommand.Prescribes command attempts) :
      Prescribes (.extended command) attempts

/-- What entries ask for, one after the other, each on its display. -/
inductive EntriesPrescribe : List Entry → List (DisplayId × Attempt) → Prop where
  | nil : EntriesPrescribe [] []
  | cons {entry rest attempts others} (prescribed : Entry.Prescribes entry attempts)
      (further : EntriesPrescribe rest others) :
      EntriesPrescribe (entry :: rest) (attempts.map (entry.display, ·) ++ others)

namespace Entry

/-- What the entry asks for, as it is carried out. -/
def attempts : Entry → List Attempt
  | regular command => command.fields.map .field ++
      (command.commit.map (.commit · command.expectedPresentTime)).toList
  | extended command => command.fields.map .field

theorem execute_eq (entry : Entry) :
    entry.execute = entry.attempts.forM (Attempt.run entry.display) := by
  cases entry with
  | extended command =>
      change command.execute = List.forM (command.fields.map .field) (Attempt.run command.display)
      rw [List.forM_eq_forM, List.forM_map]
      rfl
  | regular command => exact command.execute_eq

theorem prescribes_attempts (entry : Entry) : entry.Prescribes entry.attempts := by
  cases entry with
  | extended command =>
      exact .extended (.inOrder (layersGive_fields ExtendedLayerCommand.lists_fields command.layers))
  | regular command => exact .regular command.prescribes_fields

end Entry

theorem entriesPrescribe_attempts (entries : List Entry) : EntriesPrescribe entries
    (entries.flatMap fun entry => entry.attempts.map (entry.display, ·)) := by
  induction entries with
  | nil => exact .nil
  | cons entry rest ih => exact .cons entry.prescribes_attempts ih

def BufferKind.isStream : BufferKind → Bool
  | sidebandStream _ => true
  | clientTarget | outputBuffer | layerBuffer _ => false

/-- The importer granted a reference to the handle. -/
def Exchange.grants (native : NativeHandle) : Exchange → Bool
  | ⟨.importBuffer asked, .ok ()⟩ => asked == native
  | _ => false

namespace BufferRequest

/-- The handle that is to be stored: one that came along and, unless it is that of a stream, was
imported. -/
def brought (use : BufferRequest) (exchanges : List Exchange) : Option NativeHandle :=
  if use.reuse then none
  else use.handle.filter fun native => use.kind.isStream || exchanges.any (·.grants native)

/-- The buffer is the slot's own, or one that comes along. -/
def Proper (use : BufferRequest) : Prop :=
  use.reuse = true ∨ ∃ native, use.handle = some native

theorem proper_of_isNone {kind : BufferKind} {slot : Nat} (handle : Option NativeHandle) :
    Proper ⟨kind, slot, handle.isNone, handle⟩ := by
  cases handle with
  | none => exact .inl rfl
  | some native => exact .inr ⟨native, rfl⟩

end BufferRequest

section Fields

variable {field : Field} {use : BufferRequest}

theorem ExtendedDisplayCommand.reuses {command : ExtendedDisplayCommand}
    (among : field ∈ command.fields) (buffered : field.buffer? = some use) :
    use.reuse = true := by
  simp only [fields, List.mem_append, List.mem_flatMap, List.mem_map, Option.mem_toList,
    Option.map_eq_some_iff] at among
  rcases among with (⟨layer, -, part, among, rfl⟩ | ⟨target, -, rfl⟩) | ⟨time, -, rfl⟩
  · simp only [ExtendedLayerCommand.fields, List.mem_append, Option.mem_toList,
      Option.map_eq_some_iff] at among
    rcases among with ⟨type, -, rfl⟩ | ⟨flags, -, rfl⟩ <;> cases buffered
  · cases buffered
    rfl
  · cases buffered

theorem DisplayCommand.proper {command : DisplayCommand} (among : field ∈ command.fields)
    (buffered : field.buffer? = some use) : use.Proper := by
  simp only [fields, List.mem_append, List.mem_flatMap, List.mem_map, Option.mem_toList,
    Option.map_eq_some_iff] at among
  rcases among with (((⟨brightness, -, rfl⟩ | ⟨layer, -, part, -, rfl⟩) | ⟨matrix, -, rfl⟩) |
    ⟨target, -, rfl⟩) | ⟨output, -, rfl⟩
  · cases buffered
  · cases part with
    | buffer given =>
        cases buffered
        exact BufferRequest.proper_of_isNone given.handle
    | sidebandStream stream =>
        cases buffered
        exact .inr ⟨stream, rfl⟩
    | _ => cases buffered
  · cases buffered
  · cases buffered
    exact BufferRequest.proper_of_isNone target.buffer.handle
  · cases buffered
    exact BufferRequest.proper_of_isNone output.handle

theorem Entry.proper {entry : Entry} (among : .field field ∈ entry.attempts)
    (buffered : field.buffer? = some use) : use.Proper := by
  cases entry with
  | regular command =>
      have listed : field ∈ command.fields := by
        simpa [attempts] using among
      exact DisplayCommand.proper listed buffered
  | extended command =>
      have listed : field ∈ command.fields := by
        simpa [attempts] using among
      exact .inl (ExtendedDisplayCommand.reuses listed buffered)

end Fields

namespace Registry

variable {registry after : Registry} {display : DisplayId}

theorem cache_updateCommit {change : CommitTracker → CommitTracker}
    (updated : registry.updateCommit display change = .ok after) (other : DisplayId)
    (kind : BufferKind) : after.cache other kind = registry.cache other kind := by
  obtain ⟨kept, found, rfl⟩ := updateCommit_ok updated
  rw [cache_putDisplay]
  by_cases same : other = display
  · rw [if_pos same, same, cache_of_found found]
    cases kind <;> rfl
  · rw [if_neg same]

theorem slots_updateCommit {change : CommitTracker → CommitTracker}
    (updated : registry.updateCommit display change = .ok after) : after.slots = registry.slots := by
  have caches := cache_updateCommit updated
  obtain ⟨kept, found, rfl⟩ := updateCommit_ok updated
  refine SlotMap.ext ?_ ?_ ?_ ?_
  · funext other
    exact contains_put_found found other
  · funext other layer
    have layers (layer : LayerId) :
        ({ kept with commit := change kept.commit } : Display).layers.contains layer =
          kept.layers.contains layer := rfl
    exact hasLayer_put_found found layers other layer
  · funext other kind
    exact congrArg SlotCache.size (caches other kind)
  · funext address
    exact congrArg (SlotCache.entry · address.slot) (caches address.display address.kind)

/-- What is in a slot can be read: its display and its layer are there. -/
theorem read_of_content {address : SlotAddress} {held : Option NativeHandle}
    (content : registry.slots.content address = some held) :
    registry.slots.read address = .ok held := by
  obtain ⟨id, kind, slot⟩ := address
  change (registry.cache id kind).entry slot = some held at content
  cases missing : registry.displays[id]? with
  | none =>
      rw [cache, missing] at content
      cases content
  | some display =>
      have found : registry.display id = .ok display := by rw [Registry.display, missing]
      rw [cache_of_found found] at content
      rw [← content_native, Registry.content, found]
      change (display.content kind slot).map _ = _
      rw [Display.content_native, content]
      have layered : (kind.layer?.any fun layer => !display.layers.contains layer) = false := by
        rw [Option.any_eq_false]
        intro layer named
        cases present : display.layers[layer]? with
        | none => cases kind <;> cases named <;>
            simp [Display.cache, present, SlotCache.entry] at content
        | some kept =>
            have there : display.layer layer = .ok kept := by rw [Display.layer, present]
            rw [Display.contains_of_found there]
            rfl
      rw [layered]
      rfl

end Registry

theorem SlotMap.content_of_read {map : SlotMap} {address : SlotAddress}
    {held : Option NativeHandle} (read : map.read address = .ok held) :
    map.content address = some held := by
  unfold SlotMap.read located at read
  split at read
  · cases read
  · split at read
    · cases read
    · cases content : map.content address with
      | none => simp [content] at read
      | some found =>
          rw [content] at read
          cases read
          rfl

namespace EngineAction

variable {display : DisplayId} {before : Registry}

/-- Commit steps leave the slots alone. -/
theorem slots_of_commitStep {α : Type} {action : EngineAction α} (step : CommitStep display action)
    (engine : Engine) :
    action.Ensures Eq engine before fun _ _ _ after => after.slots = before.slots := by
  induction step generalizing engine before with
  | pure value => exact .pure rfl
  | bind _ _ first further =>
      apply Ensures.bind
      apply (first engine).imp
      intro _ payloads value middle same
      apply (further value (engine.append payloads)).imp
      intro _ _ _ after unchanged
      exact unchanged.trans same
  | call call about asks =>
      apply Ensures.call
      intro reply after same
      rw [same]
  | tell setting =>
      apply Ensures.bind
      apply Ensures.call
      intro reply after same
      apply Ensures.record
      rw [same]
  | tracker => exact .lift (.get (.pure rfl))
  | write payload about => exact .write rfl
  | record result => exact .record rfl
  | retrack change =>
      exact .retrack (fun _ _ => rfl) fun _ updated => Registry.slots_updateCommit updated

end EngineAction

/-- An attempt that was carried out: the slots that it found, what it exchanged, and the slots that
it left. -/
structure Attempted where
  display : DisplayId
  attempt : Attempt
  found : SlotMap
  exchanges : List Exchange
  left : SlotMap

namespace Attempted

def asked (attempted : Attempted) : DisplayId × Attempt := (attempted.display, attempted.attempt)

/-- The handle that was to be stored in the slot. -/
def brought (attempted : Attempted) (address : SlotAddress) : Option NativeHandle :=
  match attempted.attempt with
  | .commit .. => none
  | .field field => field.buffer?.bind fun use =>
      if use.address attempted.display = address then use.brought attempted.exchanges else none

/-- The attempt was on a field with a buffer. -/
structure Needs (attempted : Attempted) (field : Field) (use : BufferRequest) : Prop where
  asked : attempted.attempt = .field field
  buffered : field.buffer? = some use

/-- The device was told of this handle, and of nothing else. -/
def Hands (attempted : Attempted) (field : Field) (native : Option NativeHandle) : Prop :=
  ∃ answer, calls attempted.exchanges = [(field.setting native).told attempted.display answer]

structure Lawful (attempted : Attempted) : Prop where
  reused {field : Field} {use : BufferRequest} (needs : attempted.Needs field use)
    (reuse : use.reuse = true) :
    match attempted.found.content (use.address attempted.display) with
    | none => calls attempted.exchanges = []
    | some held => attempted.Hands field held
  supplied {field : Field} {use : BufferRequest} {native : NativeHandle}
    (needs : attempted.Needs field use)
    (brought : use.brought attempted.exchanges = some native) : attempted.Hands field (some native)
  refused {field : Field} {use : BufferRequest} {native : NativeHandle} {reason : BufferError}
    (needs : attempted.Needs field use)
    (refused : ⟨.importBuffer native, Except.error reason⟩ ∈ attempted.exchanges) :
    calls attempted.exchanges = [] ∧ attempted.left = attempted.found
  contents (address : SlotAddress) : attempted.left.content address =
    (attempted.found.content address).map ((attempted.brought address).or ·)

end Attempted

@[simp] theorem Setting.calls_told (setting : Setting) (display : DisplayId)
    (answer : Except Status Unit) (rest : List Exchange) :
    calls (setting.told display answer :: rest) = setting.told display answer :: calls rest := by
  cases setting <;> rfl

theorem calls_of_onlyFrees {freed : List Exchange} (frees : OnlyFrees (freed.map Exchange.request)) :
    calls freed = [] := by
  apply calls_of_references
  intro exchange member
  obtain ⟨native, given⟩ := frees _ (List.mem_map_of_mem member)
  rw [given]
  rfl

namespace BufferRequest

variable {use : BufferRequest} {display : DisplayId} {slots : SlotMap} {sought : List Exchange}

theorem brought_of_reuse (reuse : use.reuse = true) (exchanges : List Exchange) :
    use.brought exchanges = none := by
  rw [brought, if_pos reuse]

theorem brought_of_given {native : NativeHandle} {exchanges : List Exchange}
    (fresh : use.reuse = false) (given : use.handle = some native)
    (granted : use.kind.isStream || exchanges.any (·.grants native)) :
    use.brought exchanges = some native := by
  rw [brought, fresh, given, if_neg Bool.false_ne_true, Option.filter_some, if_pos granted]

theorem isStream_of_buffer (buffer : ∀ layer, use.kind ≠ .sidebandStream layer) :
    use.kind.isStream = false := by
  cases kind : use.kind with
  | sidebandStream layer => exact absurd kind (buffer layer)
  | _ => rfl

namespace Finds

theorem calls_eq {answer : Except Status (Option NativeHandle)}
    (finds : use.Finds display slots sought answer) : calls sought = [] := by
  cases finds <;> rfl

theorem of_reuse {answer : Except Status (Option NativeHandle)}
    (finds : use.Finds display slots sought answer) (reuse : use.reuse = true) :
    sought = [] ∧ answer = slots.read (use.address display) := by
  cases finds with
  | reused => exact ⟨rfl, rfl⟩
  | missing fresh | copied fresh | imported fresh | declined _ fresh =>
      rw [reuse] at fresh
      cases fresh

/-- What was found for a field that brings its own handle is that handle. -/
theorem brought_eq {native : Option NativeHandle} (finds : use.Finds display slots sought (.ok native))
    (proper : use.Proper) (fresh : use.reuse = false) (rest : List Exchange) :
    ∃ handle, native = some handle ∧ use.brought (sought ++ rest) = some handle := by
  generalize answered : Except.ok native = answer at finds
  cases finds with
  | reused reuse => simp [fresh] at reuse
  | missing _ missing => simp [Proper, fresh, missing] at proper
  | copied _ given stream =>
      cases answered
      refine ⟨_, rfl, brought_of_given fresh given ?_⟩
      rw [stream]
      rfl
  | imported _ given buffer =>
      cases answered
      refine ⟨_, rfl, brought_of_given fresh given ?_⟩
      simp [Exchange.grants]
  | declined => cases answered

theorem not_brought {status : Status} (finds : use.Finds display slots sought (.error status)) :
    use.brought sought = none := by
  generalize answered : Except.error status = answer at finds
  cases finds with
  | reused reuse => exact brought_of_reuse reuse _
  | declined reason fresh given buffer reported =>
      rw [brought, fresh, given, isStream_of_buffer buffer]
      rfl
  | _ => cases answered

theorem not_refused {answer : Except Status (Option NativeHandle)} {native : NativeHandle}
    {reason : BufferError} (finds : use.Finds display slots sought answer)
    (refused : ⟨.importBuffer native, Except.error reason⟩ ∈ sought) :
    ∃ status, answer = .error status := by
  cases finds with
  | declined reason => exact ⟨_, rfl⟩
  | imported => simp at refused
  | _ => cases refused

end Finds
end BufferRequest

namespace SlotMap

theorem content_put (map : SlotMap) (address other : SlotAddress) (native : NativeHandle) :
    (map.put address (some native)).content other =
      (map.content other).map ((if address = other then some native else none).or ·) := by
  by_cases same : other = address
  · simp [put, same]
  · simp [put, same, Ne.symm same]

end SlotMap

section Lawful

variable {field : Field} {display : DisplayId} {before after : Registry}
  {exchanges : List Exchange}

/-- A handle that was stored is in its slot, if there is such a slot. No other slot changes. -/
theorem Registry.content_settled {address : SlotAddress} {native : NativeHandle}
    {result : Except Status Unit} {requests : List Request}
    (settled : before.slots.Settles (before.slots.write address (some native)) result requests
      after.slots) (other : SlotAddress) :
    after.slots.content other =
      (before.slots.content other).map ((if address = other then some native else none).or ·) := by
  obtain ⟨-, settled⟩ := settled
  unfold SlotMap.write at settled
  cases read : before.slots.read address with
  | error status =>
      rw [read] at settled
      rw [settled.2]
      by_cases same : address = other
      · -- There is no such slot.
        subst other
        cases content : before.slots.content address with
        | none => rfl
        | some held =>
            have readable := read_of_content content
            rw [read] at readable
            cases readable
      · simp [same]
  | ok held =>
      rw [read] at settled
      rw [settled.2]
      exact before.slots.content_put address other native

theorem Field.buffer_of_outside (outside : ¬field.InDomain) : field.buffer? = none := by
  cases field with
  | layer id part => cases part <;> simp_all [InDomain, buffer?]
  | _ => simp_all [InDomain, buffer?]

namespace Attempted

/-- What does not attempt a field with a buffer leaves the slots alone. -/
theorem lawful_of_needless {attempted : Attempted}
    (needless : ∀ field use, ¬attempted.Needs field use)
    (same : attempted.left = attempted.found) : attempted.Lawful := by
  constructor
  case reused => exact fun needs => (needless _ _ needs).elim
  case supplied => exact fun needs => (needless _ _ needs).elim
  case refused => exact fun needs => (needless _ _ needs).elim
  case contents =>
    intro address
    have nothing : attempted.brought address = none := by
      cases asked : attempted.attempt with
      | commit => simp [brought, asked]
      | field field =>
          cases buffered : field.buffer? with
          | none => simp [brought, asked, buffered]
          | some use => exact (needless field use ⟨asked, buffered⟩).elim
    simp [nothing, same]

theorem lawful_of_plain (plain : field.buffer? = none) :
    Lawful ⟨display, .field field, before.slots, exchanges, before.slots⟩ := by
  refine lawful_of_needless ?_ rfl
  rintro _ use ⟨⟨⟩, buffered⟩
  rw [plain] at buffered
  cases buffered

/-- An attempt of a field with a buffer needs this buffer and no other. -/
theorem lawful_of_buffered {use : BufferRequest} {left : SlotMap} (buffered : field.buffer? = some use)
    (reused : use.reuse = true → match before.slots.content (use.address display) with
      | none => calls exchanges = []
      | some held => Hands ⟨display, .field field, before.slots, exchanges, left⟩ field held)
    (supplied : ∀ native, use.brought exchanges = some native →
      Hands ⟨display, .field field, before.slots, exchanges, left⟩ field (some native))
    (refused : ∀ native reason, ⟨.importBuffer native, Except.error reason⟩ ∈ exchanges →
      calls exchanges = [] ∧ left = before.slots)
    (contents : ∀ address, left.content address = (before.slots.content address).map
      ((if use.address display = address then use.brought exchanges else none).or ·)) :
    Lawful ⟨display, .field field, before.slots, exchanges, left⟩ := by
  have meant {other : Field} {used : BufferRequest}
      (needs : Needs ⟨display, .field field, before.slots, exchanges, left⟩ other used) :
      other = field ∧ used = use := by
    obtain ⟨⟨⟩, needed⟩ := needs
    exact ⟨rfl, Option.some.inj (needed.symm.trans buffered)⟩
  constructor
  case reused =>
    intro _ _ needs reuse
    obtain ⟨rfl, rfl⟩ := meant needs
    exact reused reuse
  case supplied =>
    intro _ _ native needs stored
    obtain ⟨rfl, rfl⟩ := meant needs
    exact supplied native stored
  case refused => exact fun _ => refused _ _
  case contents =>
    intro address
    simpa only [brought, buffered, Option.bind_some] using contents address

theorem lawful_of_unfound {use : BufferRequest} {status : Status}
    (buffered : field.buffer? = some use)
    (declined : use.Finds display before.slots exchanges (.error status)) :
    Lawful ⟨display, .field field, before.slots, exchanges, before.slots⟩ := by
  apply lawful_of_buffered buffered
  case reused =>
    intro reuse
    cases content : before.slots.content (use.address display) with
    | none => exact declined.calls_eq
    | some held =>
        obtain ⟨-, read⟩ := declined.of_reuse reuse
        rw [Registry.read_of_content content] at read
        cases read
  case supplied =>
    intro native stored
    rw [declined.not_brought] at stored
    cases stored
  case refused => exact fun _ _ _ => ⟨declined.calls_eq, rfl⟩
  case contents => simp [declined.not_brought]

theorem lawful_of_stored {use : BufferRequest} {native : Option NativeHandle}
    {sought freed : List Exchange} {result : Except Status Unit}
    (buffered : field.buffer? = some use) (proper : use.Proper)
    (found : use.Finds display before.slots sought (.ok native)) (answer : Except Status Unit)
    (settled : before.slots.Settles (use.stored display before.slots native) result
      (freed.map Exchange.request) after.slots) :
    Lawful ⟨display, .field field, before.slots,
      sought ++ (field.setting native).told display answer :: freed, after.slots⟩ := by
  have called : calls (sought ++ (field.setting native).told display answer :: freed) =
      [(field.setting native).told display answer] := by
    rw [calls_append, found.calls_eq, Setting.calls_told, calls_of_onlyFrees settled.1]
    rfl
  apply lawful_of_buffered buffered
  case reused =>
    intro reuse
    obtain ⟨-, read⟩ := found.of_reuse reuse
    rw [SlotMap.content_of_read read.symm]
    exact ⟨answer, called⟩
  case supplied =>
    intro given stored
    cases reuse : use.reuse with
    | true =>
        rw [BufferRequest.brought_of_reuse reuse] at stored
        cases stored
    | false =>
        obtain ⟨handle, rfl, brought⟩ := found.brought_eq proper reuse
          ((field.setting native).told display answer :: freed)
        obtain rfl : handle = given := Option.some.inj (brought.symm.trans stored)
        exact ⟨answer, called⟩
  case refused =>
    intro handle reason refused
    rcases List.mem_append.mp refused with refused | member
    · obtain ⟨status, failed⟩ := found.not_refused refused
      cases failed
    · rcases List.mem_cons.mp member with same | member
      · have asked := congrArg Exchange.request same
        cases setting : field.setting native <;> rw [setting] at asked <;> cases asked
      · obtain ⟨given, freeing⟩ := settled.1 _ (List.mem_map_of_mem member)
        cases freeing
  case contents =>
    intro address
    cases reuse : use.reuse with
    | true =>
        rw [BufferRequest.stored, if_pos reuse] at settled
        rw [settled.2.2]
        simp [BufferRequest.brought_of_reuse reuse]
    | false =>
        obtain ⟨handle, rfl, stored⟩ := found.brought_eq proper reuse
          ((field.setting native).told display answer :: freed)
        rw [BufferRequest.stored, if_neg (by simp [reuse])] at settled
        rw [Registry.content_settled settled address, stored]

end Attempted

theorem Field.Effect.lawful {result : Except Status Unit}
    (effect : field.Effect display before exchanges result after)
    (proper : ∀ use, field.buffer? = some use → use.Proper) :
    Attempted.Lawful ⟨display, .field field, before.slots, exchanges, after.slots⟩ := by
  cases effect with
  | refused outside => exact Attempted.lawful_of_plain (buffer_of_outside outside)
  | told inside plain answer => exact Attempted.lawful_of_plain plain
  | unfound buffered declined => exact Attempted.lawful_of_unfound buffered declined
  | stored buffered found answer settled trackers =>
      exact Attempted.lawful_of_stored buffered (proper _ buffered) found answer settled

/-- Whatever the importer and the device answer, an attempt of an entry is lawful. -/
theorem Entry.attempts_lawful {entry : Entry} {attempt : Attempt} (among : attempt ∈ entry.attempts)
    (engine : Engine) :
    ((attempt.run entry.display).run engine).Ensures Eq before fun exchanges _ after =>
      Attempted.Lawful ⟨entry.display, attempt, before.slots, exchanges, after.slots⟩ := by
  refine Action.Ensures.imp (attempt.run_ensures engine before) ?_
  intro exchanges result after executed
  obtain ⟨payloads, -, effect⟩ := executed
  cases effect with
  | field effect => exact effect.lawful fun use buffered => entry.proper among buffered
  | @commit step time _ _ _ first numbered ends =>
      have same : after.slots = before.slots := by
        obtain ⟨-, -, same⟩ := slots_of_commitStep (.commit step time) first _ _ _ ends
        exact same
      refine Attempted.lawful_of_needless ?_ same
      rintro _ _ ⟨⟨⟩, -⟩

end Lawful

end Scanout
