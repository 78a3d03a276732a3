import Mathlib
import Scanout.Proofs.Batches.Turns

/-!
Batches that are put together from two. An engine that has been through a batch is as good as new,
so it makes no difference whether two batches are executed with one engine or with one each; nor,
but for the numbers in the errors, whether they are executed as one batch.
-/

namespace Scanout

open EngineAction

variable {β : Type}

/-- The payload as that of an entry with so many more before it. -/
def Payload.raised (count : Nat) : Payload → Payload
  | .error entry status => .error (count + entry) status
  | payload => payload

theorem Payload.raised_under (count entry : Nat) (payload : Payload) :
    (payload.under entry).raised count = payload.under (count + entry) := by
  cases payload <;> rfl

theorem numbered_add (count start : Nat) (groups : List (List Payload)) :
    numbered (count + start) groups = (numbered start groups).map (·.raised count) := by
  induction groups generalizing start with
  | nil => rfl
  | cons group groups ih =>
      rw [numbered_cons, numbered_cons, Nat.add_assoc, ih, List.map_append, List.map_map]
      simp [Function.comp_def, Payload.raised_under]

theorem numbered_append {count : Nat} {first : List (List Payload)} (counted : first.length = count)
    (second : List (List Payload)) :
    numbered 0 (first ++ second) =
      numbered 0 first ++ (numbered 0 second).map (·.raised count) := by
  rw [← numbered_add, ← counted, numbered, List.zipIdx_append, List.flatMap_append, Nat.zero_add]
  rfl

/-- What follows may count on one result for each entry of the list. -/
theorem mapM_bind_congr {m : Type → Type} [Monad m] [LawfulMonad m] {α γ : Type} (each : α → m β)
    (list : List α) {next other : List β → m γ}
    (same : ∀ results, results.length = list.length → next results = other results) :
    list.mapM each >>= next = list.mapM each >>= other := by
  induction list generalizing next other with
  | nil =>
      rw [List.mapM_nil, pure_bind, pure_bind]
      exact same [] rfl
  | cons entry rest ih =>
      rw [List.mapM_cons]
      simp only [bind_assoc, pure_bind]
      congr 1
      funext result
      apply ih
      intro results counted
      exact same (result :: results) (congrArg (· + 1) counted)

section Map

variable {σ α : Type}

def Performance.map (change : α → β) (performance : Performance σ α) : Performance σ β :=
  { performance with value := change performance.value }

theorem Run.interpret_map (run : Run σ α) (change : α → β) (surroundings : Surroundings σ)
    (past : List Exchange) :
    (run.andThen fun value state => .done (change value) state).interpret surroundings.answer past =
      let outcome := run.interpret surroundings.answer past
      ((change outcome.1.1, outcome.1.2), outcome.2) := by
  induction run generalizing past with
  | done value state => rfl
  | ask request state resume ih => exact ih _ _ _

theorem Action.perform_map (action : Action σ α) (change : α → β) (surroundings : Surroundings σ)
    (start : σ) :
    (change <$> action).perform surroundings start =
      (action.perform surroundings start).map change := by
  have mapped : (change <$> action).start start =
      (action.start start).andThen fun value state => .done (change value) state := by
    rw [map_eq_pure_bind]
    rfl
  rw [perform, mapped, Run.interpret_map]
  rfl

end Map

/-- The entries of a batch one after the other, each with an engine of its own. -/
def Batch.groups (batch : Batch) : Action Registry (List (List Payload)) :=
  batch.entries.mapM Entry.alone

/-- Entries write what each writes alone, behind what is written already. -/
theorem run_runEntries (entries : List Entry) (start : Nat) (engine : Engine)
    (last : List Payload → Action Registry β) :
    ((runEntries Entry.execute (entries.zipIdx start)).run engine >>= fun result =>
        last result.2.writer.pending) =
      entries.mapM Entry.alone >>= fun groups =>
        last (engine.writer.pending ++ numbered start groups) := by
  induction entries generalizing start engine with
  | nil =>
      have nothing : numbered start [] = [] := rfl
      rw [List.mapM_nil, pure_bind, nothing, List.append_nil]
      rfl
  | cons entry rest ih =>
      rw [run_runEntries_cons, List.mapM_cons, bind_assoc, bind_assoc]
      congr 1
      funext group
      rw [ih, bind_assoc]
      congr 1
      funext groups
      rw [pure_bind, numbered_cons, ← List.append_assoc]
      rfl

namespace Batch

theorem execute_eq (batch : Batch) :
    batch.execute = EngineAction.batch Entry.execute batch.entries := by
  cases batch with
  | regular commands => exact (batch_map Entry.execute Entry.regular commands).symm
  | extended commands => exact (batch_map Entry.execute Entry.extended commands).symm

/-- A new engine that executes a batch with entries is a new engine afterwards. -/
theorem run_execute {batch : Batch} (nonempty : batch.entries ≠ []) :
    batch.execute.run {} =
      (fun groups => (Except.ok (numbered 0 groups), ({} : Engine))) <$> batch.groups := by
  have begun : batch.execute.run {} =
      (runEntries Entry.execute batch.entries.zipIdx).run {} >>= fun result =>
        pure (Except.ok result.2.writer.pending, ({} : Engine)) := by
    rw [execute_eq, EngineAction.batch]
    cases entries : batch.entries with
    | nil => exact absurd entries nonempty
    | cons entry rest => rfl
  rw [begun, map_eq_pure_bind]
  exact run_runEntries batch.entries 0 {} fun pending => pure (Except.ok pending, ({} : Engine))

/-- An engine that has been through a batch is as good as new. -/
theorem run_execute_eq (batch : Batch) :
    batch.execute.run {} = (fun answered => (answered, ({} : Engine))) <$> batch.action := by
  by_cases empty : batch.entries = []
  · rw [action, execute_eq, empty]
    rfl
  · rw [action, StateT.run'_eq, run_execute empty, Functor.map_map, Functor.map_map]

theorem action_eq_groups {batch : Batch} (nonempty : batch.entries ≠ []) :
    batch.action = (fun groups => Except.ok (numbered 0 groups)) <$> batch.groups := by
  rw [action, StateT.run'_eq, run_execute nonempty, Functor.map_map]

/-- A batch of the entries of two batches of one kind. -/
inductive Joins : Batch → Batch → Batch → Prop where
  | regular {first second : List DisplayCommand} (begins : first ≠ []) (goesOn : second ≠ []) :
      Joins (.regular first) (.regular second) (.regular (first ++ second))
  | extended {first second : List ExtendedDisplayCommand} (begins : first ≠ [])
      (goesOn : second ≠ []) :
      Joins (.extended first) (.extended second) (.extended (first ++ second))

section Joins

variable {first second whole : Batch}

theorem Joins.nonempty (joins : Joins first second whole) :
    first.entries ≠ [] ∧ second.entries ≠ [] := by
  cases joins with
  | regular begins goesOn => simp [entries, begins, goesOn]
  | extended begins goesOn => simp [entries, begins, goesOn]

theorem Joins.entries (joins : Joins first second whole) :
    whole.entries = first.entries ++ second.entries := by
  cases joins with
  | regular => exact List.map_append
  | extended => exact List.map_append

/-- What the entries of the one batch write, and then those of the other. -/
def groupsOfBoth (first second : Batch) :
    Action Registry (List (List Payload) × List (List Payload)) := do
  let earlier ← first.groups
  let later ← second.groups
  return (earlier, later)

theorem Joins.run_execute (joins : Joins first second whole) :
    whole.execute.run {} =
      (fun both => (Except.ok (numbered 0 both.1 ++
        (numbered 0 both.2).map (·.raised first.entries.length)), ({} : Engine))) <$>
      groupsOfBoth first second := by
  have nonempty : whole.entries ≠ [] := by
    rw [joins.entries]
    exact List.append_ne_nil_of_left_ne_nil joins.nonempty.1 _
  rw [Batch.run_execute nonempty, groups, joins.entries, List.mapM_append, groupsOfBoth]
  simp only [map_eq_pure_bind, bind_assoc, pure_bind]
  apply mapM_bind_congr
  intro earlier counted
  simp only [numbered_append counted]
  rfl

/-- One engine executes both batches. -/
def reusing (first second : Batch) :
    EngineAction (Except Status (List Payload) × Except Status (List Payload)) := do
  let earlier ← first.execute
  let later ← second.execute
  return (earlier, later)

/-- Each batch is executed by an engine of its own. -/
def apart (first second : Batch) :
    Action Registry (Except Status (List Payload) × Except Status (List Payload)) := do
  let earlier ← first.action
  let later ← second.action
  return (earlier, later)

theorem apart_eq (begins : first.entries ≠ []) (goesOn : second.entries ≠ []) :
    apart first second =
      (fun both => (Except.ok (numbered 0 both.1), Except.ok (numbered 0 both.2))) <$>
        groupsOfBoth first second := by
  rw [apart, action_eq_groups begins, action_eq_groups goesOn, groupsOfBoth]
  simp only [map_eq_pure_bind, bind_assoc, pure_bind]

theorem run_reusing (first second : Batch) :
    (reusing first second).run {} = (fun answers => (answers, ({} : Engine))) <$>
      apart first second := by
  rw [reusing, apart]
  simp only [StateT.run_bind, StateT.run_pure, run_execute_eq, map_eq_pure_bind, bind_assoc,
    pure_bind]

/-- Two batches executed as one, by one engine one after the other, or by an engine each: whatever
the surroundings do, everything is exchanged with them alike and the registry is left alike. The
answer to the one batch is made of the answers to the two; only the numbers of the errors of the
second are raised by the length of the first. -/
theorem Joins.splits (joins : Joins first second whole) (surroundings : Surroundings Registry)
    (registry : Registry) :
    let once := (whole.execute.run {}).perform surroundings registry
    let reused := ((reusing first second).run {}).perform surroundings registry
    let fresh := (apart first second).perform surroundings registry
    reused.exchanges = once.exchanges ∧ fresh.exchanges = once.exchanges ∧
      reused.state = once.state ∧ fresh.state = once.state ∧
      ∃ earlier later, once.value = (.ok (earlier ++ later.map (·.raised first.entries.length)), {}) ∧
        reused.value = ((.ok earlier, .ok later), {}) ∧ fresh.value = (.ok earlier, .ok later) := by
  obtain ⟨begins, goesOn⟩ := joins.nonempty
  intro once reused fresh
  let both := (groupsOfBoth first second).perform surroundings registry
  have once_eq : once = both.map fun groups => (.ok (numbered 0 groups.1 ++
      (numbered 0 groups.2).map (·.raised first.entries.length)), {}) := by
    rw [← Action.perform_map, ← joins.run_execute]
  have fresh_eq : fresh = both.map fun groups =>
      (.ok (numbered 0 groups.1), .ok (numbered 0 groups.2)) := by
    rw [← Action.perform_map, ← apart_eq begins goesOn]
  have reused_eq : reused = fresh.map fun answers => (answers, {}) := by
    rw [← Action.perform_map, ← run_reusing]
  rw [reused_eq, fresh_eq, once_eq]
  exact ⟨rfl, rfl, rfl, rfl, numbered 0 both.value.1, numbered 0 both.value.2, rfl, rfl, rfl⟩

/-- In each of two batches the last entry names a display that is not there. Executed as one batch
the second failure counts the entries of both, and the frame is validated in between. -/
theorem splits_failing :
    let there : DisplayCommand := { display := ⟨0⟩, commit := some .validate }
    let missing : DisplayCommand := { display := ⟨1⟩, commit := some .acceptChanges }
    let registry := ((∅ : Registry).addDisplay ⟨0⟩ false 1 0).2
    let surroundings := (({} : SimulatedDevice).replies fun _ => false).quiet
    let whole := ((regular [there, missing, missing]).execute.run {}).perform surroundings registry
    let parts := ((reusing (regular [there, missing]) (regular [missing])).run {}).perform
      surroundings registry
    parts.exchanges = whole.exchanges ∧ parts.state = whole.state ∧
      ∃ validation, whole.value.1 =
          .ok (validation ++ [.error 1 .badDisplay, .error 2 .badDisplay]) ∧
        parts.value.1 = (.ok (validation ++ [.error 1 .badDisplay]), .ok [.error 0 .badDisplay]) := by
  intro there missing registry surroundings whole parts
  have joins : Joins (regular [there, missing]) (regular [missing])
      (regular [there, missing, missing]) := .regular (by simp) (by simp)
  obtain ⟨exchanges, -, state, -, -⟩ := joins.splits surroundings registry
  refine ⟨exchanges, state, [.changedCompositions ⟨0⟩ [], .displayRequest ⟨0⟩ .empty [],
    .targetProperty ⟨0⟩ {} clientTargetBrightness .none], ?_, ?_⟩ <;>
    simp only [whole, parts] <;> cbv

end Joins
end Batch
end Scanout
