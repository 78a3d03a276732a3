import Scanout.Proofs.Batches.Writing
import Scanout.Proofs.Field
import Scanout.Proofs.Play
import Scanout.Proofs.Registry

/-!
What the entries of a batch depend on. An entry reads and changes its own display and nothing else of
the registry, asks the device about that display only, and its place in the batch shows in nothing
but the number of its errors.
-/

namespace Scanout

variable {α β : Type} {display : DisplayId}

def Request.display? : Request → Option DisplayId
  | .device call => call.display?
  | .importBuffer _ | .freeBuffer _ | .notify .. | .captured .. | .awaitDeparture _ => none

/-- The request is about the display, or one to the importer. -/
def Request.Concerns (display : DisplayId) (request : Request) : Prop :=
  request.isReference = true ∨ request.display? = some display

namespace Registry

def find? (display : DisplayId) (registry : Registry) : Option Display :=
  registry.displays[display]?

/-- The registry with the display as given, or without it. -/
def place (display : DisplayId) (entry : Option Display) (registry : Registry) : Registry :=
  match entry with
  | some entry => registry.putDisplay display entry
  | none => ⟨registry.displays.erase display⟩

theorem ext_find {first second : Registry}
    (same : ∀ display, first.find? display = second.find? display) : first = second := by
  obtain ⟨one⟩ := first
  obtain ⟨two⟩ := second
  exact congrArg Registry.mk (Std.ExtTreeMap.ext_getElem? same)

theorem find?_place (entry : Option Display) (registry : Registry) (other : DisplayId) :
    (registry.place display entry).find? other =
      if display = other then entry else registry.find? other := by
  cases entry with
  | none => exact Table.getElem?_erase ..
  | some entry => exact Table.getElem?_insert ..

theorem lens_find (display : DisplayId) : Lens (find? display) (place display) where
  part_replace entry registry := by simp [find?_place]
  replace_replace entry other registry := by
    apply ext_find
    intro named
    simp only [find?_place]
    split <;> rfl
  replace_part registry := by
    apply ext_find
    intro named
    rw [find?_place]
    by_cases same : display = named
    · rw [if_pos same, same]
    · rw [if_neg same]

theorem display_eq (registry : Registry) :
    registry.display display = (registry.find? display).elim (.error .badDisplay) .ok := by
  unfold Registry.display find?
  cases registry.displays[display]? <;> rfl

end Registry

namespace Action

/-- The action works on the entry of one display, and asks about nothing else. -/
def Local (display : DisplayId) (action : Action Registry α) : Prop :=
  ∃ own : Action (Option Display) α, own.Asks (Request.Concerns display) ∧
    action = own.within (Registry.find? display) (Registry.place display)

/-- The action makes no request. -/
theorem Local.of_done {action : Action Registry α} (own : Option Display → α × Option Display)
    (done : ∀ registry, action.start registry = .done (own (registry.find? display)).1
      (registry.place display (own (registry.find? display)).2)) : action.Local display :=
  ⟨fun entry => .done (own entry).1 (own entry).2, fun _ => trivial, ext done⟩

/-- The action looks at the display and leaves it as it is. -/
theorem Local.of_look {action : Action Registry α} (own : Option Display → α)
    (done : ∀ registry, action.start registry = .done (own (registry.find? display)) registry) :
    action.Local display := by
  apply Local.of_done fun entry => (own entry, entry)
  intro registry
  rw [done, (Registry.lens_find display).replace_part]

theorem Local.pure (value : α) : (pure value : Action Registry α).Local display :=
  .of_look (fun _ => value) fun _ => rfl

theorem Local.bind {first : Action Registry α} {next : α → Action Registry β}
    (begins : first.Local display) (goesOn : ∀ value, (next value).Local display) :
    (first >>= next).Local display := by
  obtain ⟨own, asks, rfl⟩ := begins
  choose further asked same using goesOn
  refine ⟨own >>= further, asks.bind asked, ?_⟩
  rw [within_bind (Registry.lens_find display).toFocus]
  exact congrArg _ (funext same)

theorem Local.ask {request : Request} (concerns : request.Concerns display) :
    (ask request : Action Registry _).Local display := by
  refine ⟨Action.ask request, fun _ => ⟨concerns, fun _ _ => trivial⟩, ?_⟩
  exact (within_ask (Registry.lens_find display) request).symm

theorem Local.release (handles : List Handle) :
    (release handles : Action Registry Unit).Local display := by
  unfold Action.release
  induction referencesOf handles with
  | nil => exact .pure ()
  | cons native natives ih => exact .bind (.ask (.inl rfl)) fun _ => ih

end Action

section Fields

theorem Registry.local_import (native : NativeHandle) : (do
    match ← Action.ask (.importBuffer native) with
    | .ok () => return .ok (.owned (.owning native))
    | .error reason => return .error reason.status :
      Action Registry (Except Status ResolvedBuffer)).Local display := by
  apply Action.Local.bind (.ask (.inl rfl))
  intro reply
  cases reply with
  | error reason => exact .pure _
  | ok _ => exact .pure _

theorem Registry.local_lookup (kind : BufferKind) (slot : Nat) (reuse : Bool)
    (handle : Option NativeHandle) : (lookup display kind slot reuse handle).Local display := by
  unfold lookup
  cases reuse with
  | true =>
      apply Action.Local.of_look fun entry =>
        ((entry.elim (.error .badDisplay) .ok : Except Status Display) >>= (·.content kind slot)).map
          fun held => ResolvedBuffer.cached (held.map Handle.native)
      intro registry
      rw [← display_eq]
      rfl
  | false =>
      cases handle with
      | none => cases kind <;> exact .pure _
      | some native =>
          cases kind with
          | sidebandStream layer => exact .pure _
          | _ => exact local_import native

/-- Puts a buffer into its slot, and says what the slot held. -/
def Registry.exchange (display : DisplayId) (kind : BufferKind) (slot : Nat)
    (content : Option Handle) : Action Registry (Except Status (Option Handle)) := do
  match (← get).store display kind slot content with
  | .ok (registry, held) =>
      set registry
      return .ok held
  | .error status => return .error status

theorem Registry.local_exchange (kind : BufferKind) (slot : Nat) (content : Option Handle) :
    (exchange display kind slot content).Local display := by
  apply Action.Local.of_done fun entry =>
    match entry with
    | none => (.error .badDisplay, none)
    | some kept =>
        match kept.store kind slot content with
        | .ok (changed, held) => (.ok held, some changed)
        | .error status => (.error status, some kept)
  intro registry
  unfold exchange
  rw [Action.start_bind, Action.start_get, Run.done_andThen]
  have same := (lens_find display).replace_part registry
  unfold store
  rw [display_eq]
  cases found : registry.find? display with
  | none =>
      rw [found] at same
      exact congrArg _ same.symm
  | some kept =>
      rw [found] at same
      simp only [Option.elim, bind, Except.bind]
      cases stored : kept.store kind slot content with
      | error status => exact congrArg _ same.symm
      | ok result => rfl

theorem Registry.local_update (kind : BufferKind) (slot : Nat) (reuse : Bool)
    (buffer : ResolvedBuffer) : (update display kind slot reuse buffer).Local display := by
  cases reuse with
  | true => exact .bind (.release _) fun _ => .pure _
  | false =>
      have exchanges : update display kind slot false buffer =
          exchange display kind slot buffer.handle? >>= fun answer =>
            match answer with
            | .ok held => Action.release held.toList >>= fun _ => pure (.ok ())
            | .error status =>
                Action.release buffer.handle?.toList >>= fun _ => pure (.error status) := by
        apply Action.ext
        intro registry
        unfold update exchange
        simp only [Bool.false_eq_true, if_false, Action.start_bind, Action.start_get,
          Run.done_andThen]
        cases registry.store display kind slot buffer.handle? <;> rfl
      rw [exchanges]
      apply Action.Local.bind (local_exchange kind slot buffer.handle?)
      intro answer
      cases answer with
      | ok held => exact .bind (.release _) fun _ => .pure _
      | error status => exact .bind (.release _) fun _ => .pure _

theorem Setting.local_tell (setting : Setting) : (setting.tell display).Local display := by
  cases setting with
  | display setting => exact .ask (.inr rfl)
  | layer id setting => exact .ask (.inr rfl)

theorem FieldShape.isLocal {action : Action Registry (Except Status Unit)}
    (shape : FieldShape display action) : action.Local display := by
  cases shape with
  | refused => exact .pure _
  | setter setting => exact setting.local_tell
  | buffer use setting =>
      apply Action.Local.bind (Registry.local_lookup use.kind use.slot use.reuse use.handle)
      intro found
      cases found with
      | error status => exact .pure _
      | ok buffer =>
          apply Action.Local.bind (setting buffer.native).local_tell
          intro told
          apply Action.Local.bind (Registry.local_update use.kind use.slot use.reuse buffer)
          intro stored
          cases told <;> exact .pure _

end Fields

/-- The payload with the number of the entry, if it is an error. -/
def Payload.under (entry : Nat) : Payload → Payload
  | .error _ status => .error entry status
  | payload => payload

theorem Payload.under_of_display {payload : Payload} (about : payload.display? = some display)
    (entry : Nat) : payload.under entry = payload := by
  cases payload with
  | error => cases about
  | _ => rfl

theorem map_under_errorsOf (entry other : Nat) (result : Except Status Unit) :
    (errorsOf other result).map (·.under entry) = errorsOf entry result := by
  cases result <;> rfl

namespace EngineAction

/-- The action works on one display, and the engine shows only in the number of its errors. -/
def Local (display : DisplayId) (action : EngineAction α) : Prop :=
  ∃ own : Action Registry (α × List Payload), own.Local display ∧
    ∀ engine : Engine, action.run engine = (do
      let (value, payloads) ← own
      return (value, engine.append (payloads.map (·.under engine.entry))))

/-- The action does nothing but write. -/
theorem Local.of_written {action : EngineAction α} (value : α) (payloads : List Payload)
    (written : ∀ engine before, (action.run engine).start before =
      .done (value, engine.append (payloads.map (·.under engine.entry))) before) :
    action.Local display :=
  ⟨pure (value, payloads), .pure _, fun engine => Action.ext (written engine)⟩

theorem Local.pure (value : α) : (pure value : EngineAction α).Local display := by
  apply Local.of_written value []
  intro engine before
  rw [List.map_nil, Engine.append_nil]
  rfl

theorem Local.bind {first : EngineAction α} {next : α → EngineAction β}
    (begins : first.Local display) (goesOn : ∀ value, (next value).Local display) :
    (first >>= next).Local display := by
  obtain ⟨own, isLocal, runs⟩ := begins
  choose further furtherLocal furtherRuns using goesOn
  refine ⟨do
    let (value, payloads) ← own
    let (result, more) ← further value
    return (result, payloads ++ more), ?_, ?_⟩
  · exact isLocal.bind fun _ => (furtherLocal _).bind fun _ => .pure _
  · intro engine
    rw [StateT.run_bind, runs]
    simp [furtherRuns]

theorem Local.lift {action : Action Registry α} (isLocal : action.Local display) :
    (EngineAction.lift action).Local display := by
  refine ⟨do return (← action, []), isLocal.bind fun _ => .pure _, ?_⟩
  intro engine
  simp only [bind_assoc, pure_bind, List.map_nil, Engine.append_nil]
  rfl

theorem Local.record (result : Except Status Unit) : (EngineAction.record result).Local display := by
  apply Local.of_written () (errorsOf 0 result)
  intro engine before
  rw [start_record, map_under_errorsOf]

theorem Local.write {payload : Payload} (about : payload.display? = some display) :
    (EngineAction.write (·.write payload)).Local display := by
  apply Local.of_written () [payload]
  intro engine before
  rw [start_write, List.map_singleton, Payload.under_of_display about]

/-- The action makes no request and writes nothing. -/
theorem Local.of_done {action : EngineAction α} (own : Option Display → α × Option Display)
    (done : ∀ engine registry, (action.run engine).start registry =
      .done ((own (registry.find? display)).1, engine)
        (registry.place display (own (registry.find? display)).2)) : action.Local display := by
  refine ⟨fun registry => .done ((own (registry.find? display)).1, [])
    (registry.place display (own (registry.find? display)).2), ?_, ?_⟩
  · exact .of_done (fun entry => (((own entry).1, []), (own entry).2)) fun _ => rfl
  · intro engine
    apply Action.ext
    intro registry
    rw [done]
    exact congrArg (fun reached => Run.done (_, reached) _) engine.append_nil.symm

theorem Local.tracker : (EngineAction.tracker display).Local display := by
  apply Local.of_done fun entry =>
    ((entry.elim (.error .badDisplay) .ok : Except Status Display) >>= fun kept => .ok kept.commit,
      entry)
  intro engine registry
  rw [(Registry.lens_find display).replace_part, ← Registry.display_eq]
  rfl

theorem Local.retrack (change : CommitTracker → CommitTracker) :
    (EngineAction.retrack display change).Local display := by
  apply Local.of_done fun entry =>
    match entry with
    | none => (.error .badDisplay, none)
    | some kept => (.ok (), some { kept with commit := change kept.commit })
  intro engine registry
  have same := (Registry.lens_find display).replace_part registry
  cases found : registry.find? display with
  | none =>
      have failed : registry.updateCommit display change = .error .badDisplay := by
        rw [Registry.updateCommit, Registry.display_eq, found]
        rfl
      rw [found] at same
      rw [retrack_error failed]
      exact congrArg _ same.symm
  | some kept =>
      have updated : registry.updateCommit display change =
          .ok (registry.putDisplay display { kept with commit := change kept.commit }) := by
        rw [Registry.updateCommit, Registry.display_eq, found]
        rfl
      rw [retrack_ok updated]
      rfl

theorem Local.forM {run : α → EngineAction Unit} (entries : List α)
    (each : ∀ entry, (run entry).Local display) : (entries.forM run).Local display := by
  induction entries with
  | nil => exact .pure ()
  | cons entry rest ih => exact .bind (each entry) fun _ => ih

theorem local_of_commitStep {action : EngineAction α} (step : CommitStep display action) :
    action.Local display := by
  induction step with
  | pure value => exact .pure value
  | bind _ _ begins goesOn => exact .bind begins goesOn
  | call call about _ => exact .lift (.ask (.inr about))
  | tell setting => exact .bind (.lift (.ask (.inr rfl))) .record
  | tracker => exact .tracker
  | write payload about => exact .write about
  | record result => exact .record result
  | retrack change => exact .retrack change

theorem local_field (field : Field) : (lift (field.apply display) >>= record).Local display :=
  .bind (.lift (field.shape display).isLocal) .record

theorem local_displayCommand (command : DisplayCommand) : command.execute.Local command.display := by
  apply Local.bind (.forM _ local_field)
  intro _
  cases command.commit with
  | none => exact .pure ()
  | some step => exact local_of_commitStep (.commit step _)

theorem local_extendedDisplayCommand (command : ExtendedDisplayCommand) :
    command.execute.Local command.display := .forM _ local_field

end EngineAction
end Scanout
