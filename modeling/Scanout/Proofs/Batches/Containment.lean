import Mathlib
import Scanout.Proofs.Batches.Writing
import Scanout.Proofs.Field

/-!
Failures of setters are contained. What the device says to a setting is recorded and has no other
use: two runs of a batch whose devices differ in nothing else make the same requests in the same
order, leave the same registry and write the same payloads, errors apart.

The argument follows both runs in step. Their engines stay tied by a relation that lasts when both
write the same, and, where a setting may be answered differently, when both record what they were
told. Besides the relation between engines that differ in errors, this serves for engines that
began with different payloads and go on writing the same.
-/

namespace Scanout

/-- The request gives a display or a layer one of its settings. -/
def Request.Sets : Request → Prop
  | .device call => call.isSetter = true
  | _ => False

def Payload.isError : Payload → Bool
  | .error .. => true
  | _ => false

def withoutErrors (payloads : List Payload) : List Payload :=
  payloads.filter fun payload => !payload.isError

/-- A relation between engines that lasts while both are at work. -/
structure Engine.Tie (free : Request → Prop) (tied : Engine → Engine → Prop) : Prop where
  sets : ∀ {request}, free request → request.Sets
  entry : ∀ {first second}, tied first second → first.entry = second.entry
  write : ∀ {first second} (payload : Payload), tied first second →
    tied (first.append [payload]) (second.append [payload])
  told : ∀ {first second request} (one two : Except Status Unit), free request →
    tied first second →
      tied (first.append (errorsOf first.entry one)) (second.append (errorsOf second.entry two))

namespace Engine

variable {free : Request → Prop} {tied : Engine → Engine → Prop} {first second : Engine}

theorem Tie.record (tie : Tie free tied) (together : tied first second)
    (result : Except Status Unit) :
    tied (first.append (errorsOf first.entry result))
      (second.append (errorsOf second.entry result)) := by
  rw [tie.entry together]
  cases result with
  | ok _ => simpa [errorsOf] using together
  | error status => exact tie.write _ together

/-- Engines that differ in the errors they have written, and in nothing else. -/
structure SameResults (first second : Engine) : Prop where
  entry : first.entry = second.entry
  results : withoutErrors first.writer.pending = withoutErrors second.writer.pending

theorem withoutErrors_append (payloads more : List Payload) :
    withoutErrors (payloads ++ more) = withoutErrors payloads ++ withoutErrors more := by
  simp [withoutErrors]

theorem withoutErrors_errorsOf (entry : Nat) (result : Except Status Unit) :
    withoutErrors (errorsOf entry result) = [] := by
  cases result <;> rfl

theorem SameResults.told (together : SameResults first second) (one two : Except Status Unit) :
    SameResults (first.append (errorsOf first.entry one))
      (second.append (errorsOf second.entry two)) := by
  refine ⟨together.entry, ?_⟩
  simp [withoutErrors_append, withoutErrors_errorsOf, together.results]

theorem tie_sameResults : Tie Request.Sets SameResults where
  sets := id
  entry together := together.entry
  write payload together := ⟨together.entry, by simp [withoutErrors_append, together.results]⟩
  told one two _ together := together.told one two

/-- Engines that have written the same since they were at two given ones. -/
def Continue (start other first second : Engine) : Prop :=
  ∃ payloads, first = start.append payloads ∧ second = other.append payloads

theorem tie_continue {start other : Engine} (same : start.entry = other.entry) :
    Tie (fun _ => False) (Continue start other) where
  sets := False.elim
  entry := by
    rintro _ _ ⟨payloads, rfl, rfl⟩
    exact same
  write payload := by
    rintro ⟨payloads, rfl, rfl⟩
    exact ⟨payloads ++ [payload], by simp, by simp⟩
  told _ _ impossible := impossible.elim

end Engine

namespace EngineAction

variable {α β : Type} {free : Request → Prop} {tied : Engine → Engine → Prop}
  {display : DisplayId}

/-- Two results of an engine action that agree in all but the engines, which are tied. -/
def Tied (tied : Engine → Engine → Prop) (first second : α × Engine) : Prop :=
  first.1 = second.1 ∧ tied first.2 second.2

/-- Carried out by tied engines, the action stays in step with itself and leaves them tied. -/
def Parallel (free : Request → Prop) (tied : Engine → Engine → Prop) (action : EngineAction α) :
    Prop :=
  ∀ first second, tied first second →
    (action.run first).Coupled free (Tied tied) (action.run second)

theorem Parallel.pure (value : α) : (pure value : EngineAction α).Parallel free tied :=
  fun _ _ together => .pure ⟨rfl, together⟩

theorem Parallel.bind {first : EngineAction α} {next : α → EngineAction β}
    (parallel : first.Parallel free tied) (further : ∀ value, (next value).Parallel free tied) :
    (first >>= next).Parallel free tied := by
  intro one two together
  refine .bind (parallel one two together) ?_
  rintro ⟨value, left⟩ ⟨_, right⟩ ⟨rfl, after⟩
  exact further value left right after

theorem Parallel.forM {each : α → EngineAction Unit} (list : List α)
    (parallel : ∀ value, (each value).Parallel free tied) :
    (list.forM each).Parallel free tied := by
  induction list with
  | nil => exact .pure ()
  | cons value rest ih => exact .bind (parallel value) fun _ => ih

theorem Parallel.call {call : DeviceCall} (bound : ¬free (.device call)) :
    (EngineAction.call call).Parallel free tied := by
  intro first second together
  refine .bind (.ask bound) ?_
  rintro reply _ rfl
  exact .pure ⟨rfl, together⟩

theorem Parallel.write (tie : Engine.Tie free tied) (payload : Payload) :
    (write (·.write payload)).Parallel free tied := fun _ _ together state =>
  .done state ⟨rfl, tie.write payload together⟩

theorem coupled_record {first second : Engine} {one two : Except Status Unit}
    (together : tied (first.append (errorsOf first.entry one))
      (second.append (errorsOf second.entry two))) :
    ((record one).run first).Coupled free (Tied tied) ((record two).run second) := by
  intro state
  rw [start_record, start_record]
  exact .done state ⟨rfl, together⟩

theorem Parallel.record (tie : Engine.Tie free tied) (result : Except Status Unit) :
    (record result).Parallel free tied := fun _ _ together =>
  coupled_record (tie.record together result)

theorem Parallel.retrack (change : CommitTracker → CommitTracker) :
    (retrack display change).Parallel free tied := by
  intro first second together state
  cases updated : state.updateCommit display change with
  | error status =>
      rw [retrack_error updated, retrack_error updated]
      exact .done state ⟨rfl, together⟩
  | ok changed =>
      rw [retrack_ok updated, retrack_ok updated]
      exact .done changed ⟨rfl, together⟩

/-- A setting is told and its result recorded, whether or not both hear the same. -/
theorem parallel_tell (tie : Engine.Tie free tied) (setting : DisplaySetting) :
    (EngineAction.call (.setDisplay display setting) >>= EngineAction.record).Parallel free
      tied := by
  intro first second together state
  refine .ask fun one two after same => ?_
  rcases same with rfl | isFree
  · exact coupled_record (tie.record together one) after
  · exact coupled_record (tie.told one two isFree together) after

theorem parallel_of_commitStep (tie : Engine.Tie free tied) {action : EngineAction α}
    (step : CommitStep display action) : action.Parallel free tied := by
  induction step with
  | pure value => exact .pure value
  | bind begins goesOn first further => exact .bind first further
  | call call about asks =>
      refine .call fun isFree => ?_
      have sets : call.isSetter = true := tie.sets isFree
      rw [asks] at sets
      cases sets
  | tell setting => exact parallel_tell tie setting
  | tracker => exact fun _ _ together state => .done state ⟨rfl, together⟩
  | write payload about => exact .write tie payload
  | record result => exact .record tie result
  | retrack change => exact .retrack change

end EngineAction

section Fields

variable {display : DisplayId}

theorem Registry.coupled_lookup (display : DisplayId) (kind : BufferKind) (slot : Nat)
    (reuse : Bool) (handle : Option NativeHandle) :
    (lookup display kind slot reuse handle).Coupled Request.Sets Eq
      (lookup display kind slot reuse handle) := by
  unfold lookup
  cases reuse with
  | true => exact .get fun registry => .done registry rfl
  | false =>
      cases handle with
      | none => cases kind <;> exact .pure rfl
      | some native =>
          cases kind with
          | sidebandStream layer => exact .pure rfl
          | _ =>
              refine .bind (.ask id) ?_
              rintro (reason | ⟨⟩) _ rfl <;> exact .pure rfl

theorem Registry.coupled_release {α : Type} (handles : List Handle) (value : α) :
    (Action.release handles >>= fun _ => pure value : Action Registry α).Coupled Request.Sets Eq
      (Action.release handles >>= fun _ => pure value) :=
  .bind (.release (fun _ => id) handles) fun _ _ _ => .pure rfl

theorem Registry.coupled_update (display : DisplayId) (kind : BufferKind) (slot : Nat)
    (reuse : Bool) (buffer : ResolvedBuffer) :
    (update display kind slot reuse buffer).Coupled Request.Sets Eq
      (update display kind slot reuse buffer) := by
  unfold update
  cases reuse with
  | true => exact coupled_release _ _
  | false =>
      refine .get fun registry => ?_
      cases registry.store display kind slot buffer.handle? with
      | error status => exact coupled_release _ _ registry
      | ok result => exact coupled_release _ _ result.1

theorem Setting.coupled_tell (display : DisplayId) (setting : Setting) :
    (setting.tell display).Coupled Request.Sets (fun _ _ => True) (setting.tell display) := by
  cases setting with
  | display setting => exact .request (.device (.setDisplay display setting))
  | layer id setting => exact .request (.device (.setLayer display id setting))

/-- A field whose setter is answered differently goes on the same: the buffer is stored or given
back either way. Only its own result differs. -/
theorem FieldShape.coupled {action : Action Registry (Except Status Unit)}
    (shape : FieldShape display action) :
    action.Coupled Request.Sets (fun _ _ => True) action := by
  cases shape with
  | refused => exact .pure trivial
  | setter setting => exact setting.coupled_tell display
  | buffer use setting =>
      refine .bind (Registry.coupled_lookup display use.kind use.slot use.reuse use.handle) ?_
      rintro (status | buffer) _ rfl
      · exact .pure trivial
      · refine .bind ((setting buffer.native).coupled_tell display) fun told other _ => ?_
        refine .bind (Registry.coupled_update display use.kind use.slot use.reuse buffer) ?_
        rintro stored _ rfl
        cases told <;> cases other <;> exact .pure trivial

end Fields

namespace EngineAction

theorem parallel_field (display : DisplayId) (field : Field) :
    (lift (field.apply display) >>= record).Parallel Request.Sets Engine.SameResults := by
  intro first second together state
  have applied : (((lift (field.apply display)).run first).start state).Coupled Request.Sets
      (fun one two => one.2 = first ∧ two.2 = second)
      (((lift (field.apply display)).run second).start state) :=
    ((field.shape display).coupled state).andThen fun _ _ after _ => .done after ⟨rfl, rfl⟩
  refine applied.andThen ?_
  rintro ⟨one, _⟩ ⟨two, _⟩ after ⟨rfl, rfl⟩
  exact coupled_record (together.told one two) after

theorem parallel_displayCommand (command : DisplayCommand) :
    command.execute.Parallel Request.Sets Engine.SameResults := by
  refine .bind (.forM _ fun field => parallel_field command.display field) fun _ => ?_
  cases command.commit with
  | none => exact .pure ()
  | some step => exact parallel_of_commitStep Engine.tie_sameResults (.commit step _)

theorem parallel_extendedDisplayCommand (command : ExtendedDisplayCommand) :
    command.execute.Parallel Request.Sets Engine.SameResults :=
  .forM _ fun field => parallel_field command.display field

theorem parallel_runEntries {run : α → EngineAction Unit}
    (parallel : ∀ command, (run command).Parallel Request.Sets Engine.SameResults)
    (entries : List (α × Nat)) :
    (runEntries run entries).Parallel Request.Sets Engine.SameResults := by
  have entered (entry : Nat) : (enter entry).Parallel Request.Sets Engine.SameResults :=
    fun _ _ together state => .done state ⟨rfl, rfl, together.results⟩
  exact .forM entries fun (command, entry) => .bind (entered entry) fun _ => parallel command

theorem coupled_batch {run : α → EngineAction Unit}
    (parallel : ∀ command, (run command).Parallel Request.Sets Engine.SameResults)
    (entries : List α) :
    ((batch run entries).run' {}).Coupled Request.Sets
      (fun one two => one.map withoutErrors = two.map withoutErrors)
      ((batch run entries).run' {}) := by
  intro before
  by_cases empty : entries = []
  · subst empty
    exact .done before rfl
  · have executed := parallel_runEntries parallel entries.zipIdx {} {} ⟨rfl, rfl⟩ before
    rw [start_batch run empty]
    refine executed.andThen fun one two after together => .done after ?_
    exact congrArg Except.ok together.2.results

end EngineAction

theorem Batch.coupled (batch : Batch) :
    batch.action.Coupled Request.Sets
      (fun one two => one.map withoutErrors = two.map withoutErrors) batch.action := by
  cases batch with
  | regular commands => exact EngineAction.coupled_batch EngineAction.parallel_displayCommand commands
  | extended commands =>
      exact EngineAction.coupled_batch EngineAction.parallel_extendedDisplayCommand commands

/-- Two runs of a batch that differ in the errors they report, and in nothing else. -/
structure Performance.DiffersInErrors
    (one two : Performance Registry (Except Status (List Payload))) : Prop where
  requests : one.requests = two.requests
  state : one.state = two.state
  value : one.value.map withoutErrors = two.value.map withoutErrors

/-- Where two devices reply alike to all calls but setters, given the same calls so far, a batch
makes the same requests on both, leaves the same registry and returns the same payloads, errors
apart. -/
theorem Batch.setter_failures_contained (batch : Batch) (registry : Registry)
    {first second : Replies} (alike : first.Agree Request.Sets [] second []) :
    (batch.action.perform first.quiet registry).DiffersInErrors
      (batch.action.perform second.quiet registry) := by
  obtain ⟨requests, state, value⟩ := batch.coupled.perform alike registry
  exact ⟨requests, state, value⟩

/-- A device that refuses every setting, beside one that accepts them all: two more errors, and the
buffer is in its slot all the same. -/
theorem Batch.setter_failures_contained_refusing :
    let target : ClientTarget := { buffer := { slot := 0, handle := some ⟨⟨7⟩, [], []⟩ } }
    let batch : Batch := .regular
      [{ display := ⟨0⟩, brightness := some .one, clientTarget := some target,
         commit := some .validate }]
    let registry : Registry := ((∅ : Registry).addDisplay ⟨0⟩ false 1 0).2
    let accepting := ({} : SimulatedDevice).replies fun _ => false
    let refusing := ({} : SimulatedDevice).replies DeviceCall.isSetter
    let validated : List Payload := [.changedCompositions ⟨0⟩ [], .displayRequest ⟨0⟩ {} [],
      .targetProperty ⟨0⟩ {} .one .none]
    accepting.Agree Request.Sets [] refusing [] ∧
      (batch.action.perform accepting.quiet registry).DiffersInErrors
        (batch.action.perform refusing.quiet registry) ∧
      (batch.action.perform accepting.quiet registry).value = .ok validated ∧
      (batch.action.perform refusing.quiet registry).value =
        .ok ([.error 0 .unsupported, .error 0 .unsupported] ++ validated) ∧
      (batch.action.perform refusing.quiet registry).state.content ⟨0⟩ .clientTarget 0 =
        .ok (some (.owning ⟨⟨7⟩, [], []⟩)) := by
  intro target batch registry accepting refusing validated
  have alike : accepting.Agree Request.Sets [] refusing [] := by
    intro after request bound
    cases request with
    | device call =>
        have asks : call.isSetter = false := Bool.eq_false_iff.mpr bound
        simp [accepting, refusing, SimulatedDevice.replies, asks]
    | _ => rfl
  refine ⟨alike, batch.setter_failures_contained registry alike, ?_, ?_, ?_⟩
  · cbv
  · cbv
  · cbv

end Scanout
