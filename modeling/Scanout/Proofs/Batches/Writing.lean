import Scanout.Engine.Batch
import Scanout.Proofs.Commit
import Scanout.Proofs.Coupling

/-!
What engine actions write. An engine goes on writing where it stopped: what an action writes is
appended, and does not depend on what is there already. `EngineAction.Ensures` speaks of the
exchanges and the payloads of one action, so that those of a sequence are put together from its
parts.
-/

namespace Scanout

def Engine.append (engine : Engine) (payloads : List Payload) : Engine :=
  { engine with writer := ⟨engine.writer.pending ++ payloads⟩ }

namespace Engine

@[simp] theorem append_nil (engine : Engine) : engine.append [] = engine := by
  simp [append]

@[simp] theorem append_append (engine : Engine) (first second : List Payload) :
    (engine.append first).append second = engine.append (first ++ second) := by
  simp [append]

@[simp] theorem entry_append (engine : Engine) (payloads : List Payload) :
    (engine.append payloads).entry = engine.entry := rfl

@[simp] theorem pending_append (engine : Engine) (payloads : List Payload) :
    (engine.append payloads).writer.pending = engine.writer.pending ++ payloads := rfl

end Engine

/-- The payloads that report a result: an error under the number of its entry, if it is one. -/
def errorsOf (entry : Nat) : Except Status Unit → List Payload
  | .ok () => []
  | .error status => [.error entry status]

/-- The registry after the commit tracker of a display has changed, if the display is there. -/
def Registry.tracked (registry : Registry) (display : DisplayId)
    (change : CommitTracker → CommitTracker) : Registry :=
  match registry.updateCommit display change with
  | .ok changed => changed
  | .error _ => registry

namespace EngineAction

variable {α β : Type} {display : DisplayId} {engine : Engine} {before : Registry}

theorem start_bind (first : EngineAction α) (next : α → EngineAction β) (engine : Engine)
    (before : Registry) :
    ((first >>= next).run engine).start before =
      ((first.run engine).start before).andThen fun result =>
        ((next result.1).run result.2).start := rfl

theorem start_write (payload : Payload) (engine : Engine) (before : Registry) :
    ((write (·.write payload)).run engine).start before =
      .done ((), engine.append [payload]) before := rfl

theorem start_record (result : Except Status Unit) (engine : Engine) (before : Registry) :
    ((record result).run engine).start before =
      .done ((), engine.append (errorsOf engine.entry result)) before := by
  cases result with
  | error status => rfl
  | ok _ =>
      rw [errorsOf, Engine.append_nil]
      rfl

theorem start_track (change : CommitTracker → CommitTracker) (engine : Engine) (before : Registry) :
    ((track display change).run engine).start before =
      .done ((), engine) (before.tracked display change) := by
  rw [track, start_registry, Registry.tracked]
  cases before.updateCommit display change <;> rfl

/-- However the action ends, it exchanges, writes, results in and leaves what is stated. -/
def Ensures (meddles : Registry → Registry → Prop) (engine : Engine) (before : Registry)
    (post : List Exchange → List Payload → α → Registry → Prop) (action : EngineAction α) : Prop :=
  (action.run engine).Ensures meddles before fun exchanges result after =>
    ∃ payloads, result.2 = engine.append payloads ∧ post exchanges payloads result.1 after

section Ensures

variable {meddles : Registry → Registry → Prop}
  {post : List Exchange → List Payload → α → Registry → Prop}

theorem Ensures.of_done {action : EngineAction α} {value : α} {payloads : List Payload}
    {after : Registry}
    (finished : (action.run engine).start before = .done (value, engine.append payloads) after)
    (holds : post [] payloads value after) : action.Ensures meddles engine before post := by
  rw [Ensures, Action.Ensures, finished]
  exact Run.Ensures.done ⟨payloads, rfl, holds⟩

theorem Ensures.pure {value : α} (holds : post [] [] value before) :
    (pure value : EngineAction α).Ensures meddles engine before post := by
  refine .of_done ?_ holds
  rw [Engine.append_nil]
  rfl

theorem Ensures.bind {first : EngineAction α} {next : α → EngineAction β}
    {last : List Exchange → List Payload → β → Registry → Prop}
    (ensured : first.Ensures meddles engine before fun exchanges payloads value middle =>
      (next value).Ensures meddles (engine.append payloads) middle fun rest more =>
        last (exchanges ++ rest) (payloads ++ more)) :
    (first >>= next).Ensures meddles engine before last := by
  refine Action.Ensures.bind (Action.Ensures.imp ensured ?_)
  rintro exchanges ⟨value, reached⟩ middle ⟨payloads, rfl, further⟩
  refine Action.Ensures.imp further ?_
  rintro rest ⟨result, final⟩ after ⟨more, rfl, holds⟩
  exact ⟨payloads ++ more, engine.append_append payloads more, holds⟩

theorem Ensures.imp {action : EngineAction α}
    {other : List Exchange → List Payload → α → Registry → Prop}
    (ensured : action.Ensures meddles engine before post)
    (implies : ∀ exchanges payloads value after, post exchanges payloads value after →
      other exchanges payloads value after) :
    action.Ensures meddles engine before other := by
  refine Action.Ensures.imp ensured ?_
  rintro exchanges ⟨value, reached⟩ after ⟨payloads, same, holds⟩
  exact ⟨payloads, same, implies _ _ _ _ holds⟩

theorem Ensures.lift {action : Action Registry α}
    (ensured : action.Ensures meddles before fun exchanges value after =>
      post exchanges [] value after) :
    (lift action).Ensures meddles engine before post := by
  refine Action.Ensures.bind (Action.Ensures.imp ensured ?_)
  intro exchanges value after holds
  refine Action.Ensures.pure ⟨[], engine.append_nil.symm, ?_⟩
  rwa [List.append_nil]

theorem Ensures.call {call : DeviceCall} {post : List Exchange → List Payload → call.Reply →
      Registry → Prop}
    (holds : ∀ reply after, meddles before after →
      post [⟨.device call, reply⟩] [] reply after) :
    (EngineAction.call call).Ensures meddles engine before post :=
  .lift (.call holds)

theorem Ensures.write {payload : Payload} {post : List Exchange → List Payload → Unit →
      Registry → Prop} (holds : post [] [payload] () before) :
    (EngineAction.write (·.write payload)).Ensures meddles engine before post :=
  .of_done (start_write payload engine before) holds

theorem Ensures.record {result : Except Status Unit} {post : List Exchange → List Payload → Unit →
      Registry → Prop} (holds : post [] (errorsOf engine.entry result) () before) :
    (EngineAction.record result).Ensures meddles engine before post :=
  .of_done (start_record result engine before) holds

theorem Ensures.track {change : CommitTracker → CommitTracker} {post : List Exchange →
      List Payload → Unit → Registry → Prop} (holds : post [] [] () (before.tracked display change)) :
    (EngineAction.track display change).Ensures meddles engine before post := by
  refine .of_done ?_ holds
  rw [start_track, Engine.append_nil]

theorem Ensures.retrack {change : CommitTracker → CommitTracker} {post : List Exchange →
      List Payload → Except Status Unit → Registry → Prop}
    (failed : ∀ status, before.updateCommit display change = .error status →
      post [] [] (.error status) before)
    (changed : ∀ after, before.updateCommit display change = .ok after →
      post [] [] (.ok ()) after) :
    (EngineAction.retrack display change).Ensures meddles engine before post := by
  cases updated : before.updateCommit display change with
  | error status =>
      refine .of_done ?_ (failed status updated)
      rw [retrack_error updated, Engine.append_nil]
  | ok after =>
      refine .of_done ?_ (changed after updated)
      rw [retrack_ok updated, Engine.append_nil]

theorem Ensures.registry {next : Registry → EngineAction α}
    (ensured : (next before).Ensures meddles engine before post) :
    (EngineAction.registry >>= next).Ensures meddles engine before post := ensured

end Ensures

section Batch

variable (run : α → EngineAction Unit)

/-- Turns to the entry with the given number. -/
def enter (entry : Nat) : EngineAction Unit := modify fun engine => { engine with entry }

/-- The entries of a batch, one after the other under their numbers. -/
def runEntries (entries : List (α × Nat)) : EngineAction Unit :=
  entries.forM fun (command, entry) => do
    enter entry
    run command

theorem start_batch {entries : List α} (nonempty : entries ≠ []) (before : Registry) :
    ((batch run entries).run' {}).start before =
      (((runEntries run entries.zipIdx).run {}).start before).andThen fun result =>
        .done (.ok result.2.writer.pending) := by
  cases entries with
  | nil => exact absurd rfl nonempty
  | cons first rest => exact Run.andThen_assoc _ _ _

end Batch

end EngineAction

/-- A batch of either kind. -/
inductive Batch where
  | regular (commands : List DisplayCommand)
  | extended (commands : List ExtendedDisplayCommand)

namespace Batch

def execute : Batch → EngineAction (Except Status (List Payload))
  | regular commands => EngineAction.execute commands
  | extended commands => EngineAction.executeExtended commands

/-- Executes the batch with an engine of its own. -/
def action (batch : Batch) : Action Registry (Except Status (List Payload)) := batch.execute.run' {}

end Batch
end Scanout
