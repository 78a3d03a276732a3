import Scanout.Engine.Commit
import Scanout.Engine.Field

/-!
Batches. The fields of each entry are carried out one after another and the commit step last. A
field that fails leaves an error under the number of its entry, and the next field follows all the
same: nothing ends a batch early. An empty batch is refused.
-/

namespace Scanout

open EngineAction

def DisplayCommand.execute (command : DisplayCommand) : EngineAction Unit := do
  command.fields.forM fun field => do
    record (← lift (field.apply command.display))
  match command.commit with
  | none => return ()
  | some step => Scanout.commit command.display step command.expectedPresentTime

def ExtendedDisplayCommand.execute (command : ExtendedDisplayCommand) : EngineAction Unit :=
  command.fields.forM fun field => do
    record (← lift (field.apply command.display))

namespace EngineAction

/-- Runs the entries of a batch under their numbers and takes the payloads. -/
def batch {α : Type} (run : α → EngineAction Unit) (entries : List α) :
    EngineAction (Except Status (List Payload)) := do
  if entries.isEmpty then return .error .badParameter
  entries.zipIdx.forM fun (command, entry) => do
    modify fun engine => { engine with entry }
    run command
  modifyGet fun engine => (.ok engine.writer.take.1, { entry := 0, writer := engine.writer.take.2 })

def execute (commands : List DisplayCommand) : EngineAction (Except Status (List Payload)) :=
  batch DisplayCommand.execute commands

def executeExtended (commands : List ExtendedDisplayCommand) :
    EngineAction (Except Status (List Payload)) :=
  batch ExtendedDisplayCommand.execute commands

end EngineAction
end Scanout
