import Scanout.Proofs.Batches.Local

/-!
Batches turn by turn. Each entry is played with an engine of its own, after the requests of the
entries before it and on the registry that they left; what it writes is its group of payloads. The
answer to the batch is made of the groups, one after the other, with errors under the numbers of
their entries.
-/

namespace Scanout

open EngineAction

/-- An entry of a batch of either kind. -/
inductive Entry where
  | regular (command : DisplayCommand)
  | extended (command : ExtendedDisplayCommand)

namespace Entry

def display : Entry → DisplayId
  | regular command => command.display
  | extended command => command.display

def execute : Entry → EngineAction Unit
  | regular command => command.execute
  | extended command => command.execute

/-- Executes the entry with an engine of its own. Errors are under number zero. -/
def alone (entry : Entry) : Action Registry (List Payload) := do
  let (_, engine) ← entry.execute.run {}
  return engine.writer.pending

theorem local_execute (entry : Entry) : entry.execute.Local entry.display := by
  cases entry with
  | regular command => exact local_displayCommand command
  | extended command => exact local_extendedDisplayCommand command

theorem local_alone (entry : Entry) : entry.alone.Local entry.display := by
  obtain ⟨own, isLocal, runs⟩ := entry.local_execute
  rw [alone, runs, bind_assoc]
  exact isLocal.bind fun _ => .pure _

/-- Wherever an entry stands, it writes what it writes alone. -/
theorem run_execute (entry : Entry) (engine : Engine) :
    entry.execute.run engine = (do
      let group ← entry.alone
      return ((), engine.append (group.map (·.under engine.entry)))) := by
  obtain ⟨own, -, runs⟩ := entry.local_execute
  have renumbered (payloads : List Payload) :
      (payloads.map (·.under 0)).map (·.under engine.entry) = payloads.map (·.under engine.entry) := by
    rw [List.map_map]
    apply List.map_congr_left
    intro payload _
    cases payload <;> rfl
  rw [alone, runs, runs]
  simp [Engine.append, renumbered]

end Entry

def Batch.entries : Batch → List Entry
  | .regular commands => commands.map .regular
  | .extended commands => commands.map .extended

/-- The groups of payloads under the numbers of their entries, from the given one on. -/
def numbered (start : Nat) (groups : List (List Payload)) : List Payload :=
  (groups.zipIdx start).flatMap fun (group, entry) => group.map (·.under entry)

theorem numbered_cons (start : Nat) (group : List Payload) (groups : List (List Payload)) :
    numbered start (group :: groups) = group.map (·.under start) ++ numbered (start + 1) groups := by
  rw [numbered, List.zipIdx_cons, List.flatMap_cons]
  rfl

/-- What a batch answers when its entries have written these groups. -/
def answer (groups : List (List Payload)) : Except Status (List Payload) :=
  if groups.isEmpty then .error .badParameter else .ok (numbered 0 groups)

/-- The entries are played in turn, after the requests of the past. -/
inductive Turns (replies : Replies) : List Request → Registry → List Entry → List (List Payload) →
    List Exchange → Registry → Prop where
  | nil {past registry} : Turns replies past registry [] [] [] registry
  | cons {past registry entry rest groups exchanges final} {turn : Performance Registry (List Payload)}
      (played : entry.alone.play replies past registry = turn)
      (further : Turns replies (past ++ turn.requests) turn.state rest groups exchanges final) :
      Turns replies past registry (entry :: rest) (turn.value :: groups) (turn.exchanges ++ exchanges)
        final

namespace Turns

variable {replies : Replies} {past : List Request} {registry final : Registry}
  {entries : List Entry} {groups : List (List Payload)} {exchanges : List Exchange}

/-- The turns follow from the entries. -/
theorem unique {others : List (List Payload)} {more : List Exchange} {other : Registry}
    (turns : Turns replies past registry entries groups exchanges final)
    (again : Turns replies past registry entries others more other) :
    groups = others ∧ exchanges = more ∧ final = other := by
  induction turns generalizing others more other with
  | nil =>
      cases again
      exact ⟨rfl, rfl, rfl⟩
  | cons played further ih =>
      cases again with
      | cons replayed rest =>
          obtain rfl := played.symm.trans replayed
          obtain ⟨rfl, rfl, rfl⟩ := ih rest
          exact ⟨rfl, rfl, rfl⟩

theorem length_groups (turns : Turns replies past registry entries groups exchanges final) :
    groups.length = entries.length := by
  induction turns with
  | nil => rfl
  | cons played further ih => simp [ih]

end Turns

section Whole

theorem run_runEntries_cons (entry : Entry) (rest : List Entry) (start : Nat) (engine : Engine) :
    (runEntries Entry.execute ((entry :: rest).zipIdx start)).run engine = (do
      let group ← entry.alone
      (runEntries Entry.execute (rest.zipIdx (start + 1))).run
        (Engine.append { engine with entry := start } (group.map (·.under start)))) := by
  change (entry.execute.run { engine with entry := start } >>= fun result =>
    (runEntries Entry.execute (rest.zipIdx (start + 1))).run result.2) = _
  rw [Entry.run_execute, bind_assoc]
  rfl

theorem turns_of_runEntries (entries : List Entry) (start : Nat) (engine : Engine)
    (replies : Replies) (past : List Request) (registry : Registry) :
    let whole := ((runEntries Entry.execute (entries.zipIdx start)).run engine).play replies past
      registry
    ∃ groups, Turns replies past registry entries groups whole.exchanges whole.state ∧
      whole.value.2.writer.pending = engine.writer.pending ++ numbered start groups := by
  induction entries generalizing start engine past registry with
  | nil => exact ⟨[], .nil, (List.append_nil _).symm⟩
  | cons entry rest ih =>
      let turn := entry.alone.play replies past registry
      let reached := Engine.append { engine with entry := start } (turn.value.map (·.under start))
      obtain ⟨groups, turns, written⟩ := ih (start + 1) reached (past ++ turn.requests) turn.state
      rw [run_runEntries_cons, Action.play_bind]
      refine ⟨turn.value :: groups, .cons rfl turns, ?_⟩
      rw [numbered_cons, ← List.append_assoc]
      exact written

theorem batch_map {α β : Type} (run : β → EngineAction Unit) (change : α → β) (entries : List α) :
    batch run (entries.map change) = batch (fun entry => run (change entry)) entries := by
  unfold batch
  rw [List.isEmpty_map, List.zipIdx_map, List.forM_eq_forM, List.forM_map]
  rfl

theorem Batch.action_eq (batch : Batch) :
    batch.action = (EngineAction.batch Entry.execute batch.entries).run' {} := by
  cases batch with
  | regular commands =>
    exact congrArg (StateT.run' · {}) (batch_map Entry.execute Entry.regular commands).symm
  | extended commands =>
    exact congrArg (StateT.run' · {}) (batch_map Entry.execute Entry.extended commands).symm

/-- A batch takes its turns and answers with what was written at them. -/
theorem Batch.turns (batch : Batch) (replies : Replies) (registry : Registry) :
    let whole := batch.action.perform replies.quiet registry
    ∃ groups, Turns replies [] registry batch.entries groups whole.exchanges whole.state ∧
      whole.value = answer groups := by
  rw [Action.perform_eq_play, batch.action_eq]
  by_cases empty : batch.entries = []
  · rw [empty]
    exact ⟨[], .nil, rfl⟩
  · obtain ⟨groups, turns, written⟩ := turns_of_runEntries batch.entries 0 {} replies [] registry
    have nonempty : groups ≠ [] := by
      rintro rfl
      exact empty (List.eq_nil_of_length_eq_zero turns.length_groups.symm)
    have answered : answer groups = .ok (numbered 0 groups) := by
      simp [answer, nonempty]
    rw [Action.play, EngineAction.start_batch _ empty, Run.play_andThen]
    refine ⟨groups, ?_, ?_⟩
    · simp only [Performance.followedBy, Run.play, List.append_nil]
      exact turns
    · rw [answered]
      exact congrArg Except.ok written

end Whole

end Scanout
