import Scanout.Proofs.Slots.Changes
import Scanout.Proofs.Surroundings

/-!
The registry refines the map of slots. Operations on displays, layers and slots are carried through
one after the other, with surroundings that answer imports as they like and do not work on the
registry themselves. Whatever the sequence, each operation answers as the map prescribes, asks for
no more than the map permits, and leaves the slots that the map goes on with.
-/

namespace Scanout

/-- An operation on displays, layers or slots. -/
inductive SlotOperation where
  | addDisplay (id : DisplayId) (isVirtual : Bool) (clientTargetSlots outputSlots : Nat)
  | removeDisplay (id : DisplayId)
  | addLayer (id : DisplayId) (layer : LayerId) (slots : Nat)
  | removeLayer (id : DisplayId) (layer : LayerId)
  | resizeClientTargets (id : DisplayId) (count : Nat)
  | resizeLayerBuffers (id : DisplayId) (layer : LayerId) (count : Nat)
  | lookup (address : SlotAddress) (reuse : Bool) (handle : Option NativeHandle)
  | update (address : SlotAddress) (reuse : Bool) (buffer : ResolvedBuffer)

namespace SlotOperation

abbrev Answer : SlotOperation → Type
  | addDisplay .. => Bool
  | lookup .. => Except Status ResolvedBuffer
  | removeDisplay _ | addLayer .. | removeLayer .. | resizeClientTargets ..
  | resizeLayerBuffers .. | update .. => Except Status Unit

/-- What the service does for an operation. -/
def action : (operation : SlotOperation) → Action Registry operation.Answer
  | addDisplay id isVirtual clientTargetSlots outputSlots =>
      modifyGet (·.addDisplay id isVirtual clientTargetSlots outputSlots)
  | removeDisplay id => Registry.change (·.removeDisplay id)
  | addLayer id layer slots => Registry.change (·.addLayer id layer slots)
  | removeLayer id layer => Registry.change (·.removeLayer id layer)
  | resizeClientTargets id count => Registry.change (·.resizeClientTargets id count)
  | resizeLayerBuffers id layer count => Registry.change (·.resizeLayerBuffers id layer count)
  | lookup address reuse handle =>
      Registry.lookup address.display address.kind address.slot reuse handle
  | update address reuse buffer =>
      Registry.update address.display address.kind address.slot reuse buffer

end SlotOperation

/-- Notes a request and replies to it. The state stays as it is. -/
def Replies.answer {σ : Type} (replies : Replies) (request : Request) (state : σ) :
    StateM (List Request) (request.Reply × σ) :=
  fun asked => ((replies asked request, state), asked ++ [request])

/-- An operation that was carried through: how it answered and what it asked for. -/
structure SlotEvent where
  operation : SlotOperation
  answer : operation.Answer
  requests : List Request

/-- Carries one operation through. -/
def SlotOperation.perform (operation : SlotOperation) (replies : Replies) (registry : Registry) :
    SlotEvent × Registry :=
  let ((answer, after), requests) := (operation.action.start registry).interpret replies.answer []
  (⟨operation, answer, requests⟩, after)

/-- Carries operations through, one after the other. -/
def Registry.history (registry : Registry) :
    List (SlotOperation × Replies) → List SlotEvent × Registry
  | [] => ([], registry)
  | (operation, replies) :: rest =>
      let (event, after) := operation.perform replies registry
      let (events, final) := after.history rest
      (event :: events, final)

/-- No request is more than a reference given back. -/
def OnlyFrees (requests : List Request) : Prop :=
  ∀ request ∈ requests, ∃ native, request = .freeBuffer native

/-- The status under which a failed import or a missing slot is reported. Only a slot can be the fault
of the request; a buffer that is not to be had is a want of resources. -/
inductive BufferError.ReportedAs : BufferError → Status → Prop where
  | missing {slot length} : ReportedAs (.slotOutOfRange slot length) .badParameter
  | invalid {id reason} : ReportedAs (.invalidHandle id reason) .noResources
  | refused {id reason} : ReportedAs (.importFailed id reason) .noResources
  | full {limit} : ReportedAs (.capacityExceeded limit) .noResources

theorem BufferError.reportedAs_status (reason : BufferError) : reason.ReportedAs reason.status := by
  cases reason <;> constructor

/-- A lookup that brings its own handle, which does not touch the slots. -/
def Resolves (kind : BufferKind) (handle : Option NativeHandle)
    (answer : Except Status ResolvedBuffer) (requests : List Request) : Prop :=
  match handle, kind with
  | none, _ => answer = .ok .empty ∧ requests = []
  | some native, .sidebandStream _ => answer = .ok (.owned (.copying native)) ∧ requests = []
  | some native, _ => requests = [.importBuffer native] ∧
      (answer = .ok (.owned (.owning native)) ∨
        ∃ (reason : BufferError) (status : Status), reason.ReportedAs status ∧
          answer = .error status)

namespace SlotMap

/-- An operation that changes the slots as attempted, or fails and changes nothing. -/
def Settles (map : SlotMap) (attempt : Except Status SlotMap) (answer : Except Status Unit)
    (requests : List Request) (after : SlotMap) : Prop :=
  OnlyFrees requests ∧ match attempt with
    | .ok changed => answer = .ok () ∧ after = changed
    | .error status => answer = .error status ∧ after = map

/-- What may happen on these slots, and which slots there are afterwards. -/
def Permits (map : SlotMap) : SlotEvent → SlotMap → Prop
  | ⟨.addDisplay id _ clientTargetSlots outputSlots, answer, requests⟩, after =>
      (answer, after) = map.addDisplay id clientTargetSlots outputSlots ∧ requests = []
  | ⟨.removeDisplay id, answer, requests⟩, after =>
      map.Settles (map.removeDisplay id) answer requests after
  | ⟨.addLayer id layer slots, answer, requests⟩, after =>
      map.Settles (map.addLayer id layer slots) answer requests after
  | ⟨.removeLayer id layer, answer, requests⟩, after =>
      map.Settles (map.removeLayer id layer) answer requests after
  | ⟨.resizeClientTargets id count, answer, requests⟩, after =>
      map.Settles (map.resizeClientTargets id count) answer requests after
  | ⟨.resizeLayerBuffers id layer count, answer, requests⟩, after =>
      map.Settles (map.resizeLayerBuffers id layer count) answer requests after
  | ⟨.lookup address true _, answer, requests⟩, after =>
      answer = (map.read address).map .cached ∧ requests = [] ∧ after = map
  | ⟨.lookup address false handle, answer, requests⟩, after =>
      Resolves address.kind handle answer requests ∧ after = map
  | ⟨.update _ true _, answer, requests⟩, after =>
      map.Settles (.ok map) answer requests after
  | ⟨.update address false buffer, answer, requests⟩, after =>
      map.Settles (map.write address (buffer.handle?.map Handle.native)) answer requests after

/-- A sequence of events that the map permits one after the other. -/
inductive Follows : SlotMap → List SlotEvent → SlotMap → Prop where
  | nil {map} : Follows map [] map
  | cons {map next final event events} (permitted : map.Permits event next)
      (rest : next.Follows events final) : Follows map (event :: events) final

end SlotMap

namespace Registry

theorem onlyFrees_release (handles : List Handle) :
    OnlyFrees ((referencesOf handles).map Request.freeBuffer) := by
  intro request asked
  obtain ⟨native, _, rfl⟩ := List.mem_map.mp asked
  exact ⟨native, rfl⟩

theorem interpret_release {σ α : Type} (replies : Replies) (handles : List Handle) (value : α)
    (state : σ) (asked : List Request) :
    ((Action.release handles >>= fun _ => pure value : Action σ α).start state).interpret
        replies.answer asked =
      ((value, state), asked ++ (referencesOf handles).map Request.freeBuffer) := by
  unfold Action.release
  induction referencesOf handles generalizing asked with
  | nil =>
      rw [List.map_nil, List.append_nil]
      rfl
  | cons native natives ih =>
      rw [List.map_cons, List.append_cons]
      exact ih (asked ++ [.freeBuffer native])

theorem settles_release {map : SlotMap} {attempt : Except Status SlotMap}
    {answer : Except Status Unit} {changed : Registry}
    (settled : map.Settles attempt answer [] changed.slots) (replies : Replies)
    (released : List Handle) :
    let outcome := ((Action.release released >>= fun _ => pure answer :
      Action Registry (Except Status Unit)).start changed).interpret replies.answer []
    map.Settles attempt outcome.1.1 outcome.2 outcome.1.2.slots := by
  simp only [interpret_release, List.nil_append]
  exact ⟨onlyFrees_release released, settled.2⟩

theorem onlyFrees_nil : OnlyFrees [] := fun _ asked => absurd asked List.not_mem_nil

/-- A change settles as its counterpart on the map does, and gives back what it dropped. -/
theorem change_settles {operation : Registry → Except Status (Registry × List Handle)}
    {registry : Registry} {attempt : Except Status SlotMap}
    (commutes : (operation registry).map (fun outcome => outcome.1.slots) = attempt)
    (replies : Replies) :
    let outcome := ((change operation).start registry).interpret replies.answer []
    registry.slots.Settles attempt outcome.1.1 outcome.2 outcome.1.2.slots := by
  subst commutes
  rw [change, Action.start_bind, Action.start_get, Run.done_andThen]
  cases operation registry with
  | error status => exact ⟨onlyFrees_nil, rfl, rfl⟩
  | ok result =>
      obtain ⟨changed, released⟩ := result
      have settled : registry.slots.Settles (.ok changed.slots) (.ok ()) [] changed.slots :=
        ⟨onlyFrees_nil, rfl, rfl⟩
      exact settles_release settled replies released

theorem update_settles (id : DisplayId) (kind : BufferKind) (slot : Nat) (buffer : ResolvedBuffer)
    (registry : Registry) (replies : Replies) :
    let outcome := ((update id kind slot false buffer).start registry).interpret replies.answer []
    registry.slots.Settles
      (registry.slots.write ⟨id, kind, slot⟩ (buffer.handle?.map Handle.native))
      outcome.1.1 outcome.2 outcome.1.2.slots := by
  rw [← slots_store, update, if_neg Bool.false_ne_true, Action.start_bind, Action.start_get,
    Run.done_andThen]
  cases registry.store id kind slot buffer.handle? with
  | error status =>
      have settled : registry.slots.Settles (.error status) (.error status) [] registry.slots :=
        ⟨onlyFrees_nil, rfl, rfl⟩
      exact settles_release settled replies buffer.handle?.toList
  | ok result =>
      obtain ⟨changed, held⟩ := result
      have settled : registry.slots.Settles (.ok changed.slots) (.ok ()) [] changed.slots :=
        ⟨onlyFrees_nil, rfl, rfl⟩
      exact settles_release settled replies held.toList

theorem lookup_resolves (id : DisplayId) (kind : BufferKind) (slot : Nat)
    (handle : Option NativeHandle) (registry : Registry) (replies : Replies) :
    let outcome := ((lookup id kind slot false handle).start registry).interpret replies.answer []
    Resolves kind handle outcome.1.1 outcome.2 ∧ outcome.1.2.slots = registry.slots := by
  cases handle with
  | none => cases kind <;> exact ⟨⟨rfl, rfl⟩, rfl⟩
  | some native =>
      cases kind with
      | sidebandStream layer => exact ⟨⟨rfl, rfl⟩, rfl⟩
      -- All other kinds ask for an import, and the answer is up to the importer.
      | _ =>
          unfold lookup
          rw [if_neg Bool.false_ne_true, Action.start_bind, Action.start_ask]
          simp only [Run.andThen, Run.interpret, Replies.answer, bind, StateT.bind]
          cases replies [] (.importBuffer native) with
          | ok granted => exact ⟨⟨rfl, .inl rfl⟩, rfl⟩
          | error reason =>
              exact ⟨⟨rfl, .inr ⟨reason, _, reason.reportedAs_status, rfl⟩⟩, rfl⟩

theorem perform_permitted (operation : SlotOperation) (replies : Replies) (registry : Registry) :
    registry.slots.Permits (operation.perform replies registry).1
      (operation.perform replies registry).2.slots := by
  cases operation with
  | addDisplay id isVirtual clientTargetSlots outputSlots =>
      exact ⟨slots_addDisplay registry id isVirtual clientTargetSlots outputSlots, rfl⟩
  | removeDisplay id => exact change_settles (slots_removeDisplay registry id) replies
  | addLayer id layer slots => exact change_settles (slots_addLayer registry id layer slots) replies
  | removeLayer id layer => exact change_settles (slots_removeLayer registry id layer) replies
  | resizeClientTargets id count =>
      exact change_settles (slots_resizeClientTargets registry id count) replies
  | resizeLayerBuffers id layer count =>
      exact change_settles (slots_resizeLayerBuffers registry id layer count) replies
  | lookup address reuse handle =>
      cases reuse with
      | true =>
          refine ⟨?_, rfl, rfl⟩
          rw [← content_native]
          change (registry.content address.display address.kind address.slot).map _ = _
          cases registry.content address.display address.kind address.slot <;> rfl
      | false =>
          exact lookup_resolves address.display address.kind address.slot handle registry replies
  | update address reuse buffer =>
      cases reuse with
      | true =>
          have settled : registry.slots.Settles (.ok registry.slots) (.ok ()) [] registry.slots :=
            ⟨onlyFrees_nil, rfl, rfl⟩
          exact settles_release settled replies buffer.handle?.toList
      | false =>
          exact update_settles address.display address.kind address.slot buffer registry replies

/-- Operations that were carried through have happened as the map of slots permits, whatever their
sequence and whatever the surroundings replied. -/
theorem slots_follow_history (registry : Registry) (operations : List (SlotOperation × Replies)) :
    (∅ : Registry).slots = ∅ ∧
      (registry.history operations).1.map SlotEvent.operation = operations.map Prod.fst ∧
      registry.slots.Follows (registry.history operations).1
        (registry.history operations).2.slots := by
  refine ⟨slots_empty, ?_⟩
  induction operations generalizing registry with
  | nil => exact ⟨rfl, .nil⟩
  | cons first rest ih =>
      obtain ⟨operation, replies⟩ := first
      obtain ⟨listed, followed⟩ := ih (operation.perform replies registry).2
      refine ⟨?_, .cons (perform_permitted operation replies registry) followed⟩
      exact congrArg (operation :: ·) listed

end Registry
end Scanout
