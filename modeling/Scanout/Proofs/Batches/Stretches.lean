import Scanout.Engine.Batch
import Scanout.Proofs.Commit
import Scanout.Proofs.Field
import Scanout.Proofs.Reentry
import Scanout.Proofs.Registry

/-!
What a batch does to the registry between two requests. Whatever it is, it is made of two things:
storing a handle in a slot and changing a commit tracker. A relation that allows these is kept by
every stretch of a batch, however the surroundings change the registry in between.
-/

namespace Scanout

/-- The relation allows all that a batch does, any number of times. -/
structure Registry.Allows (permits : Registry → Registry → Prop) : Prop where
  refl : ∀ registry, permits registry registry
  trans : ∀ {first second third}, permits first second → permits second third →
    permits first third
  store : ∀ {registry after : Registry} {id : DisplayId} {kind : BufferKind} {slot : Nat}
    {content held : Option Handle},
    registry.store id kind slot content = .ok (after, held) → permits registry after
  track : ∀ {registry after : Registry} {id : DisplayId} {change : CommitTracker → CommitTracker},
    registry.updateCommit id change = .ok after → permits registry after

variable {α β : Type} {permits : Registry → Registry → Prop}

namespace Action

def Abides (permits : Registry → Registry → Prop) (action : Action Registry α) : Prop :=
  ∀ start, (action.start start).Abides permits start

variable (allows : Registry.Allows permits)

include allows

theorem Abides.pure (value : α) : (pure value : Action Registry α).Abides permits :=
  fun start => allows.refl start

theorem Abides.bind {first : Action Registry α} {next : α → Action Registry β}
    (begins : first.Abides permits) (further : ∀ value, (next value).Abides permits) :
    (first >>= next).Abides permits := fun start =>
  (begins start).andThen allows.trans fun value => further value

omit allows in
theorem Abides.get {next : Registry → Action Registry α}
    (further : ∀ registry, ((next registry).start registry).Abides permits registry) :
    (MonadState.get >>= next : Action Registry α).Abides permits := further

theorem Abides.ask (request : Request) :
    (ask request : Action Registry request.Reply).Abides permits := fun start =>
  ⟨allows.refl start, fun _ after => allows.refl after⟩

theorem Abides.release (handles : List Handle) :
    (release handles : Action Registry Unit).Abides permits := by
  unfold Action.release
  induction referencesOf handles with
  | nil => exact .pure allows ()
  | cons native natives ih => exact .bind allows (.ask allows (.freeBuffer native)) fun _ => ih

end Action

namespace Registry

variable (allows : Allows permits)

include allows

theorem abides_lookup (display : DisplayId) (kind : BufferKind) (slot : Nat) (reuse : Bool)
    (handle : Option NativeHandle) :
    (lookup display kind slot reuse handle).Abides permits := by
  unfold lookup
  cases reuse with
  | true => exact .get fun registry => allows.refl registry
  | false =>
      cases handle with
      | none => cases kind <;> exact .pure allows _
      | some native =>
          cases kind with
          | sidebandStream layer => exact .pure allows _
          -- All other kinds ask for an import.
          | _ =>
              apply Action.Abides.bind allows (.ask allows (.importBuffer native))
              intro answer
              cases answer <;> exact .pure allows _

theorem abides_update (display : DisplayId) (kind : BufferKind) (slot : Nat) (reuse : Bool)
    (buffer : ResolvedBuffer) : (update display kind slot reuse buffer).Abides permits := by
  have released (handles : List Handle) (answer : Except Status Unit) :
      (Action.release handles >>= fun _ => pure answer : Action Registry _).Abides permits :=
    .bind allows (.release allows handles) fun _ => .pure allows answer
  unfold update
  cases reuse with
  | true => exact released _ _
  | false =>
      apply Action.Abides.get
      intro registry
      cases stored : registry.store display kind slot buffer.handle? with
      | error status => exact released _ _ registry
      | ok result =>
          obtain ⟨after, held⟩ := result
          exact (released held.toList (.ok ()) after).from_earlier allows.trans (allows.store stored)

theorem abides_change {operation : Registry → Except Status (Registry × List Handle)}
    (permitted : ∀ {registry after released}, operation registry = .ok (after, released) →
      permits registry after) : (change operation).Abides permits := by
  intro registry
  simp only [change, Action.start_bind, Action.start_get, Run.done_andThen]
  cases outcome : operation registry with
  | error status => exact allows.refl registry
  | ok result =>
      obtain ⟨after, released⟩ := result
      have goesOn : (Action.release released >>= fun _ => pure (.ok ()) :
          Action Registry (Except Status Unit)).Abides permits :=
        .bind allows (.release allows released) fun _ => .pure allows _
      exact (goesOn after).from_earlier allows.trans (permitted outcome)

end Registry

section

variable (allows : Registry.Allows permits) {display : DisplayId}

include allows

theorem Setting.abides_tell (setting : Setting) : (setting.tell display).Abides permits := by
  cases setting with
  | display setting => exact .ask allows (.device (.setDisplay display setting))
  | layer id setting => exact .ask allows (.device (.setLayer display id setting))

theorem FieldShape.abides {action : Action Registry (Except Status Unit)}
    (shape : FieldShape display action) : action.Abides permits := by
  cases shape with
  | refused => exact .pure allows _
  | setter setting => exact setting.abides_tell allows
  | buffer use setting =>
      apply Action.Abides.bind allows (Registry.abides_lookup allows display _ _ _ _)
      intro found
      cases found with
      | error status => exact .pure allows _
      | ok buffer =>
          apply Action.Abides.bind allows ((setting buffer.native).abides_tell allows)
          intro told
          apply Action.Abides.bind allows (Registry.abides_update allows display _ _ _ buffer)
          intro stored
          cases told <;> exact .pure allows _

end

namespace EngineAction

def Abides (permits : Registry → Registry → Prop) (action : EngineAction α) : Prop :=
  ∀ engine, (action.run engine).Abides permits

variable (allows : Registry.Allows permits) {display : DisplayId}

include allows

theorem Abides.pure (value : α) : (pure value : EngineAction α).Abides permits := fun _ =>
  .pure allows _

theorem Abides.bind {first : EngineAction α} {next : α → EngineAction β}
    (begins : first.Abides permits) (further : ∀ value, (next value).Abides permits) :
    (first >>= next).Abides permits := fun engine =>
  .bind allows (begins engine) fun result => further result.1 result.2

theorem Abides.lift {action : Action Registry α} (abides : action.Abides permits) :
    (lift action).Abides permits := fun _ => .bind allows abides fun _ => .pure allows _

theorem Abides.modifyGet (change : Engine → α × Engine) :
    (modifyGet change : EngineAction α).Abides permits := fun _ => .pure allows _

theorem Abides.record (result : Except Status Unit) : (record result).Abides permits := by
  cases result with
  | ok _ => exact .pure allows ()
  | error status => exact .modifyGet allows _

theorem Abides.retrack (change : CommitTracker → CommitTracker) :
    (retrack display change).Abides permits := by
  intro engine registry
  cases updated : registry.updateCommit display change with
  | error status =>
      rw [retrack_error updated]
      exact allows.refl registry
  | ok after =>
      rw [retrack_ok updated]
      exact allows.track updated

theorem Abides.forM (entries : List α) {run : α → EngineAction Unit}
    (each : ∀ entry, (run entry).Abides permits) : (entries.forM run).Abides permits := by
  induction entries with
  | nil => exact .pure allows ()
  | cons entry rest ih => exact .bind allows (each entry) fun _ => ih

theorem abides_of_commitStep {action : EngineAction α} (step : CommitStep display action) :
    action.Abides permits := by
  induction step with
  | pure value => exact .pure allows value
  | bind _ _ ih₁ ih₂ => exact .bind allows ih₁ ih₂
  | call call _ _ => exact .lift allows (.ask allows (.device call))
  | tell setting =>
      exact .bind allows (.lift allows (.ask allows (.device (.setDisplay display setting))))
        (.record allows)
  | tracker => exact .lift allows fun registry => allows.refl registry
  | write payload _ => exact .modifyGet allows _
  | record result => exact .record allows result
  | retrack change => exact .retrack allows change

theorem abides_field (field : Field) :
    (lift (field.apply display) >>= record).Abides permits :=
  .bind allows (.lift allows ((field.shape display).abides allows)) (.record allows)

theorem abides_displayCommand (command : DisplayCommand) : command.execute.Abides permits := by
  apply Abides.bind allows (.forM allows _ fun field => abides_field allows field)
  intro _
  cases command.commit with
  | none => exact .pure allows ()
  | some step => exact abides_of_commitStep allows (.commit step _)

theorem abides_extendedDisplayCommand (command : ExtendedDisplayCommand) :
    command.execute.Abides permits :=
  .forM allows _ fun field => abides_field allows field

theorem abides_batch {run : α → EngineAction Unit} (abides : ∀ entry, (run entry).Abides permits)
    (entries : List α) : (batch run entries).Abides permits := by
  unfold batch
  cases entries.isEmpty with
  | true => exact .pure allows _
  | false =>
      have entered (entry : Nat) : (modify fun engine : Engine => { engine with entry } :
          EngineAction Unit).Abides permits := .modifyGet allows _
      apply Abides.bind allows (.forM allows _ fun (command, entry) =>
        .bind allows (entered entry) fun _ => abides command)
      intro _
      exact .modifyGet allows _

/-- Between two requests a batch, run with an engine of its own, does what is allowed. -/
theorem abides_run {action : EngineAction α} (abides : action.Abides permits) (engine : Engine) :
    (action.run' engine : Action Registry α).Abides permits :=
  .bind allows (abides engine) fun _ => .pure allows _

end EngineAction
end Scanout
