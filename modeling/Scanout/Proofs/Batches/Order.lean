import Scanout.Proofs.Batches.Fields
import Scanout.Proofs.Commits.Payloads

/-!
What a batch does, in order. The entries come one after the other; of each, the fields that are
present in their documented order and the commit last. Nothing is left out for what failed before
it.
-/

namespace Scanout

/-- The place of a field among those of its layer. -/
def LayerField.place : LayerField → Nat
  | .cursorPosition _ => 0
  | .buffer _ => 1
  | .damage _ => 2
  | .blendMode _ => 3
  | .composition _ => 4
  | .color _ => 5
  | .dataspace _ => 6
  | .displayFrame _ => 7
  | .planeAlpha _ => 8
  | .sidebandStream _ => 9
  | .sourceCrop _ => 10
  | .visibleRegion _ => 11
  | .transform _ => 12
  | .zOrder _ => 13
  | .metadata _ => 14
  | .metadataBlobs _ => 15
  | .brightness _ => 16
  | .blockingRegion _ => 17
  | .layerType _ => 18
  | .layerFlags _ => 19

/-- Just the fields that are given, each at its place. -/
structure LayerField.Listed (gives : LayerField → Prop) (fields : List LayerField) : Prop where
  ordered : fields.Pairwise fun first second => first.place < second.place
  given (field : LayerField) : field ∈ fields ↔ gives field

namespace LayerCommand

def Gives (command : LayerCommand) : LayerField → Prop
  | .cursorPosition position => command.cursorPosition = some position
  | .buffer use => command.buffer = some use
  | .damage region => command.damage = some region
  | .blendMode mode => command.blendMode = some mode
  | .composition value => command.composition = some value
  | .color value => command.color = some value
  | .dataspace value => command.dataspace = some value
  | .displayFrame frame => command.displayFrame = some frame
  | .planeAlpha alpha => command.planeAlpha = some alpha
  | .sidebandStream stream => command.sidebandStream = some stream
  | .sourceCrop crop => command.sourceCrop = some crop
  | .visibleRegion region => command.visibleRegion = some region
  | .transform value => command.transform = some value
  | .zOrder order => command.zOrder = some order
  | .metadata entries => command.metadata = some entries
  | .metadataBlobs entries => command.metadataBlobs = some entries
  | .brightness value => command.brightness = some value
  | .blockingRegion region => command.blockingRegion = some region
  | .layerType _ | .layerFlags _ => False

/-- These are the fields that the command has. -/
def Lists (command : LayerCommand) : List LayerField → Prop := LayerField.Listed command.Gives

theorem pairwise_of_placed {sections : List (Option LayerField)} (start : Nat)
    (placed : ∀ entry ∈ sections.zipIdx start, ∀ field, entry.1 = some field →
      field.place = entry.2) :
    ((sections.filterMap fun field => field).Pairwise fun first second =>
        first.place < second.place) ∧
      ∀ field ∈ sections.filterMap fun field => field, start ≤ field.place := by
  induction sections generalizing start with
  | nil => exact ⟨.nil, nofun⟩
  | cons first rest ih =>
      rw [List.zipIdx_cons] at placed
      obtain ⟨here, later⟩ := List.forall_mem_cons.mp placed
      obtain ⟨ordered, above⟩ := ih (start + 1) later
      cases first with
      | none => exact ⟨ordered, fun field member => Nat.le_of_succ_le (above field member)⟩
      | some field =>
          have place : field.place = start := here field rfl
          have listed : ((some field :: rest).filterMap fun field => field) =
              field :: rest.filterMap fun field => field := List.filterMap_cons_some rfl
          rw [listed, List.pairwise_cons, List.forall_mem_cons, place]
          refine ⟨⟨above, ordered⟩, Nat.le_refl start, ?_⟩
          intro other member
          exact Nat.le_of_succ_le (above other member)

theorem lists_fields (command : LayerCommand) : command.Lists command.fields := by
  constructor
  · refine (pairwise_of_placed 0 ?_).1
    simp [LayerField.place]
  · intro field
    cases field <;> simp [fields, Gives]

end LayerCommand

/-- The fields of the layers of an entry, layer by layer, from what the command for one layer lists. -/
inductive LayersGive {α : Type} (layer : α → LayerId) (lists : α → List LayerField → Prop) :
    List α → List Field → Prop where
  | nil : LayersGive layer lists [] []
  | cons {command rest fields others} (listed : lists command fields)
      (further : LayersGive layer lists rest others) :
      LayersGive layer lists (command :: rest) (fields.map (.layer (layer command)) ++ others)

theorem layersGive_fields {α : Type} {layer : α → LayerId} {lists : α → List LayerField → Prop}
    {fields : α → List LayerField} (listed : ∀ command, lists command (fields command))
    (commands : List α) : LayersGive layer lists commands
      (commands.flatMap fun command => (fields command).map (.layer (layer command))) := by
  induction commands with
  | nil => exact .nil
  | cons command rest ih => exact .cons (listed command) ih

inductive Attempt where
  | field (field : Field)
  | commit (step : CommitCommand) (presentTime : Option Int)

/-- What an entry asks for, in order. -/
inductive DisplayCommand.Prescribes (command : DisplayCommand) : List Attempt → Prop where
  | inOrder {layerFields : List Field}
      (layers : LayersGive LayerCommand.layer LayerCommand.Lists command.layers layerFields) :
      Prescribes command
        (((command.brightness.map Field.brightness).toList ++ layerFields ++
            (command.colorTransform.map Field.colorTransform).toList ++
            (command.clientTarget.map fun target =>
              Field.clientTarget target target.buffer.handle.isNone).toList ++
            (command.outputBuffer.map Field.outputBuffer).toList).map .field ++
          (command.commit.map (.commit · command.expectedPresentTime)).toList)

/-- What an attempt exchanges and writes, and the registry it leaves. A field writes the error of
its result, if that is one; a commit step runs on its own terms. -/
inductive Attempt.Effect (display : DisplayId) (entry : Nat) (before : Registry) :
    Attempt → List Exchange → List Payload → Registry → Prop where
  | field {field exchanges result after}
      (effect : Field.Effect field display before exchanges result after) :
      Effect display entry before (.field field) exchanges (errorsOf entry result) after
  | commit {step time exchanges payloads after} {engine : Engine} (numbered : engine.entry = entry)
      (ends : (((Scanout.commit display step time).run engine).start before).Ends Eq exchanges
        ((), engine.append payloads) after) :
      Effect display entry before (.commit step time) exchanges payloads after

inductive Carried (display : DisplayId) (entry : Nat) :
    List Attempt → Registry → List Exchange → List Payload → Registry → Prop where
  | nil {state} : Carried display entry [] state [] [] state
  | cons {attempt rest before middle after exchanges more payloads others}
      (effect : Attempt.Effect display entry before attempt exchanges payloads middle)
      (further : Carried display entry rest middle more others after) :
      Carried display entry (attempt :: rest) before (exchanges ++ more) (payloads ++ others) after

/-- Entries that were executed one after the other, under their numbers. -/
inductive Executes :
    List (DisplayCommand × Nat) → Registry → List Exchange → List Payload → Registry → Prop where
  | nil {state} : Executes [] state [] [] state
  | cons {command entry rest attempts before middle after exchanges more payloads others}
      (prescribed : DisplayCommand.Prescribes command attempts)
      (carried : Carried command.display entry attempts before exchanges payloads middle)
      (further : Executes rest middle more others after) :
      Executes ((command, entry) :: rest) before (exchanges ++ more) (payloads ++ others) after

section

open EngineAction

variable {display : DisplayId}

def Attempt.run (display : DisplayId) : Attempt → EngineAction Unit
  | .field part => do record (← lift (part.apply display))
  | .commit step time => Scanout.commit display step time

theorem Attempt.run_ensures (attempt : Attempt) (engine : Engine) (before : Registry) :
    (attempt.run display).Ensures Eq engine before fun exchanges payloads _ after =>
      attempt.Effect display engine.entry before exchanges payloads after := by
  cases attempt with
  | field part =>
      refine .bind (.lift ((part.apply_ensures display before).imp ?_))
      intro exchanges result after effect
      refine .record ?_
      rw [List.append_nil]
      exact .field effect
  | commit step time =>
      rintro exchanges ⟨_, reached⟩ after ends
      obtain ⟨payloads, written, _⟩ :=
        commit_ensures step time _ _ _ (ends.imp fun _ _ _ => trivial)
      obtain rfl : reached = engine.append payloads := written
      exact ⟨payloads, rfl, .commit rfl ends⟩

theorem carried_ensures (attempts : List Attempt) (engine : Engine) (before : Registry) :
    (attempts.forM (Attempt.run display)).Ensures Eq engine before fun exchanges payloads _ after =>
      Carried display engine.entry attempts before exchanges payloads after := by
  induction attempts generalizing engine before with
  | nil => exact .pure .nil
  | cons attempt rest ih =>
      refine .bind ((attempt.run_ensures engine before).imp ?_)
      intro exchanges payloads _ middle effect
      refine (ih (engine.append payloads) middle).imp ?_
      intro more others _ after further
      exact .cons effect further

/-- What a command asks for is attempted field by field, and the commit after that. -/
theorem DisplayCommand.execute_eq (command : DisplayCommand) :
    command.execute = List.forM (command.fields.map .field ++
      (command.commit.map (.commit · command.expectedPresentTime)).toList)
        (Attempt.run command.display) := by
  rw [List.forM_eq_forM, List.forM_append, List.forM_map, DisplayCommand.execute]
  cases command.commit with
  | none => rfl
  | some step =>
      simp only [Option.map_some, Option.toList_some, List.forM_cons, List.forM_nil, bind_pure_unit]
      rfl

theorem DisplayCommand.prescribes_fields (command : DisplayCommand) :
    command.Prescribes (command.fields.map .field ++
      (command.commit.map (.commit · command.expectedPresentTime)).toList) :=
  .inOrder (layersGive_fields LayerCommand.lists_fields command.layers)

theorem DisplayCommand.execute_ensures (command : DisplayCommand) (engine : Engine)
    (before : Registry) :
    command.execute.Ensures Eq engine before fun exchanges payloads _ after =>
      ∃ attempts, command.Prescribes attempts ∧
        Carried command.display engine.entry attempts before exchanges payloads after := by
  rw [command.execute_eq]
  refine (carried_ensures _ engine before).imp ?_
  intro exchanges payloads _ after carried
  exact ⟨_, command.prescribes_fields, carried⟩

theorem executes_ensures (entries : List (DisplayCommand × Nat)) (engine : Engine)
    (before : Registry) :
    ((runEntries DisplayCommand.execute entries).run engine).Ensures Eq before
      fun exchanges result after => ∃ payloads,
        result.2.writer.pending = engine.writer.pending ++ payloads ∧
          Executes entries before exchanges payloads after := by
  induction entries generalizing engine before with
  | nil => exact .pure ⟨[], (List.append_nil _).symm, .nil⟩
  | cons first rest ih =>
      obtain ⟨command, entry⟩ := first
      -- Entering an entry only sets its number; the command then writes to what is there.
      change Action.Ensures Eq before _ (command.execute.run { engine with entry } >>= fun result =>
        (runEntries DisplayCommand.execute rest).run result.2)
      have executed := command.execute_ensures { engine with entry } before
      refine .bind (Action.Ensures.imp executed ?_)
      rintro exchanges ⟨_, reached⟩ middle ⟨payloads, written, attempts, prescribed, carried⟩
      obtain rfl : reached = Engine.append { engine with entry } payloads := written
      refine (ih _ middle).imp ?_
      rintro more result after ⟨others, pending, further⟩
      refine ⟨payloads ++ others, ?_, .cons prescribed carried further⟩
      rw [pending, Engine.pending_append, List.append_assoc]

end

/-- A batch is refused without a call if it is empty. Otherwise it returns what its entries have
written, and has done what they prescribe, in order, whatever the importer and the device
answered. -/
theorem Registry.execute_in_order (registry : Registry) (commands : List DisplayCommand)
    (replies : Replies) :
    let performance := (Batch.regular commands).action.perform replies.quiet registry
    (commands = [] ∧ performance.value = .error .badParameter ∧ performance.exchanges = [] ∧
        performance.state = registry) ∨
      (commands ≠ [] ∧ ∃ payloads, performance.value = .ok payloads ∧
        Executes commands.zipIdx registry performance.exchanges payloads performance.state) := by
  intro performance
  have ended : ((Batch.regular commands).action.start registry).Ends Eq performance.exchanges
      performance.value performance.state :=
    Action.perform_ends (fun _ _ _ => rfl) _ registry
  by_cases empty : commands = []
  · subst empty
    cases ended
    exact .inl ⟨rfl, rfl, rfl, rfl⟩
  · have executed : ((Batch.regular commands).action.start registry).Ensures Eq
        fun exchanges value after => ∃ payloads, value = .ok payloads ∧
          Executes commands.zipIdx registry exchanges payloads after := by
      change Run.Ensures Eq _
        (((EngineAction.batch DisplayCommand.execute commands).run' {}).start registry)
      rw [EngineAction.start_batch _ empty]
      refine Run.Ensures.andThen ((executes_ensures commands.zipIdx {} registry).imp ?_)
      rintro exchanges ⟨_, reached⟩ after ⟨payloads, written, carried⟩
      refine .done ⟨payloads, congrArg Except.ok written, ?_⟩
      rwa [List.append_nil]
    exact .inr ⟨empty, executed _ _ _ ended⟩

end Scanout
