import Scanout.Engine.Batch
import Scanout.Proofs.Commit
import Scanout.Proofs.Field
import Scanout.Proofs.References.Displays

/-!
Batches keep the account. A field takes a reference in, tells the device of the buffer and puts the
reference into the slot or gives it back, so it begins and ends with empty hands; everything else
in a batch does not touch references at all.
-/

namespace Scanout

/-- The references of the buffer that a command looked up. -/
def ResolvedBuffer.references (buffer : ResolvedBuffer) : Multiset NativeHandle :=
  heldBy buffer.handle?.toList

/-- The account of the displays of a client. With `copying`, streams hold copies. -/
def Registry.books (copying : Prop) : Books Registry where
  owned registry := heldBy registry.handles
  Sound registry := copying → registry.StreamsCopied
  Relies _ := True
  Permits _ _ := True
  refl _ := trivial
  trans _ _ := trivial

namespace Registry

variable {copying : Prop}

theorem books_stable : (books copying).Stable := fun _ _ => trivial

theorem neutral_change {operation : Registry → Except Status (Registry × List Handle)}
    (conserves : Conserves operation) : (change operation).Neutral (books copying) := by
  refine Action.Carries.get fun registry sound _ => ?_
  cases outcome : operation registry with
  | error status => exact Action.Neutral.pure _ registry sound trivial
  | ok result =>
      obtain ⟨after, released⟩ := result
      refine .set trivial ((add_zero _).trans (conserves.held outcome).symm) ?_
      exact Action.Carries.release_pure books_stable released _ after
        (fun copies => conserves.copied outcome (sound copies)) trivial

/-- What a lookup ends with: the buffer's reference is in hand, if it has one. -/
def LookedUp (kind : BufferKind) : Except Status ResolvedBuffer → Multiset NativeHandle → Prop
  | .error _, rest => rest = 0
  | .ok buffer, rest => rest = buffer.references ∧ Display.Suits kind buffer.handle?

theorem carries_lookup (display : DisplayId) (kind : BufferKind) (slot : Nat) (reuse : Bool)
    (handle : Option NativeHandle) :
    (lookup display kind slot reuse handle).Carries (books copying) 0 (LookedUp kind) := by
  unfold lookup
  cases reuse with
  | true =>
      refine .get fun registry sound _ => ?_
      refine Action.Carries.pure ?_ registry sound trivial
      cases registry.content display kind slot with
      | error status => rfl
      | ok content => exact ⟨rfl, nofun⟩
  | false =>
      cases handle with
      | none => cases kind <;> exact .pure ⟨rfl, nofun⟩
      | some native =>
          cases kind with
          | sidebandStream layer =>
              refine .pure ⟨rfl, ?_⟩
              rintro _ _ _ ⟨⟩
              rfl
          | _ =>
              refine .bind books_stable (.importBuffer native) ?_
              rintro reply _ rfl
              cases reply with
              | ok _ => exact .pure ⟨zero_add _, nofun⟩
              | error reason => exact .pure (zero_add _)

theorem carries_update (display : DisplayId) (kind : BufferKind) (slot : Nat) (reuse : Bool)
    (buffer : ResolvedBuffer) (suits : copying → Display.Suits kind buffer.handle?) :
    (update display kind slot reuse buffer).Carries (books copying) buffer.references
      fun _ rest => rest = 0 := by
  unfold update
  cases reuse with
  | true => exact .release_pure books_stable _ _
  | false =>
      refine .get fun registry sound _ => ?_
      cases outcome : registry.store display kind slot buffer.handle? with
      | error status =>
          exact Action.Carries.release_pure books_stable _ _ registry sound trivial
      | ok result =>
          obtain ⟨after, held⟩ := result
          refine .set trivial (heldBy_store outcome).symm ?_
          exact Action.Carries.release_pure books_stable _ _ after
            (fun copies => (sound copies).store (suits copies) outcome) trivial

end Registry

section Fields

variable {copying : Prop}

theorem neutral_setBuffer (display : DisplayId) (kind : BufferKind) (slot : Nat) (reuse : Bool)
    (handle : Option NativeHandle)
    {tell : Option NativeHandle → Action Registry (Except Status Unit)}
    (told : ∀ native, (tell native).Neutral (Registry.books copying)) :
    (setBuffer display kind slot reuse handle tell).Neutral (Registry.books copying) := by
  refine Action.Carries.bind Registry.books_stable
    (Registry.carries_lookup display kind slot reuse handle) ?_
  intro answer rest found
  cases answer with
  | error status =>
      obtain rfl : rest = 0 := found
      exact .pure rfl
  | ok buffer =>
      obtain ⟨rfl, suits⟩ := found
      refine .bind Registry.books_stable ((told _).carries _) ?_
      rintro answer _ rfl
      refine .bind Registry.books_stable
        (Registry.carries_update display kind slot reuse buffer fun _ => suits) ?_
      rintro stored _ rfl
      cases answer <;> exact .pure rfl

theorem neutral_tell (display : DisplayId) (setting : Setting) :
    (setting.tell display).Neutral (Registry.books copying) := by
  cases setting with
  | display setting => exact .call _
  | layer id setting => exact .call _

theorem neutral_field {display : DisplayId} {action : Action Registry (Except Status Unit)}
    (shape : FieldShape display action) : action.Neutral (Registry.books copying) := by
  cases shape with
  | refused => exact .pure _
  | setter setting => exact neutral_tell display setting
  | buffer use setting =>
      exact neutral_setBuffer display use.kind use.slot use.reuse use.handle fun native =>
        neutral_tell display (setting native)

end Fields

namespace EngineAction

variable {copying : Prop} {α β : Type}

/-- Whatever the engine has written so far, the action begins and ends with empty hands. -/
def Neutral (copying : Prop) (action : EngineAction α) : Prop :=
  ∀ engine, (action.run engine).Neutral (Registry.books copying)

theorem Neutral.pure (value : α) : Neutral copying (pure value) := fun _ => .pure _

theorem Neutral.bind {first : EngineAction α} {next : α → EngineAction β}
    (neutral : Neutral copying first) (further : ∀ value, Neutral copying (next value)) :
    Neutral copying (first >>= next) := fun engine =>
  Action.Neutral.bind Registry.books_stable (neutral engine) fun (value, after) =>
    further value after

theorem Neutral.lift {action : Action Registry α}
    (neutral : action.Neutral (Registry.books copying)) : Neutral copying (lift action) :=
  fun _ => Action.Neutral.bind Registry.books_stable neutral fun _ => .pure _

theorem Neutral.call (request : DeviceCall) : Neutral copying (EngineAction.call request) :=
  .lift (.call request)

theorem Neutral.modify (change : Engine → Engine) :
    Neutral copying (modify change : EngineAction Unit) := fun _ => .pure _

theorem Neutral.write (change : PayloadWriter → PayloadWriter) :
    Neutral copying (write change) := .modify _

theorem Neutral.record (result : Except Status Unit) : Neutral copying (record result) := by
  cases result with
  | ok _ => exact .pure _
  | error status => exact .modify _

theorem Neutral.forM {each : α → EngineAction Unit} (list : List α)
    (neutral : ∀ value, Neutral copying (each value)) : Neutral copying (list.forM each) := by
  induction list with
  | nil => exact .pure _
  | cons value rest ih => exact .bind (neutral value) fun _ => ih

/-- Changing a tracker moves no handle. -/
theorem Neutral.retrack (display : DisplayId) (change : CommitTracker → CommitTracker) :
    Neutral copying (retrack display change) := by
  intro engine registry sound _
  unfold Action.CarriesFrom
  cases outcome : registry.updateCommit display change with
  | error status =>
      rw [retrack_error outcome]
      exact ⟨sound, trivial, 0, rfl, rfl⟩
  | ok changed =>
      rw [retrack_ok outcome]
      refine ⟨fun copies => (sound copies).updateCommit outcome, trivial, 0, rfl, ?_⟩
      exact congrArg (· + 0) (Registry.heldBy_updateCommit outcome).symm

theorem neutral_of_commitStep {display : DisplayId} {action : EngineAction α}
    (step : CommitStep display action) : Neutral copying action := by
  induction step with
  | pure value => exact .pure value
  | bind begins goesOn first further => exact .bind first further
  | call request about asks => exact .call request
  | tell setting => exact .bind (.call _) fun result => .record result
  | tracker => exact .lift fun registry sound _ => ⟨sound, trivial, 0, rfl, rfl⟩
  | write payload about => exact .write _
  | record result => exact .record result
  | retrack change => exact .retrack _ change

theorem neutral_displayCommand (command : DisplayCommand) : Neutral copying command.execute := by
  refine .bind (.forM _ fun field => .bind (.lift (neutral_field (field.shape _))) fun result =>
    .record result) fun _ => ?_
  cases command.commit with
  | none => exact .pure _
  | some step => exact neutral_of_commitStep (.commit step _)

theorem neutral_extendedDisplayCommand (command : ExtendedDisplayCommand) :
    Neutral copying command.execute :=
  .forM _ fun field => .bind (.lift (neutral_field (field.shape _))) fun result => .record result

theorem neutral_batch {run : α → EngineAction Unit} (neutral : ∀ entry, Neutral copying (run entry))
    (entries : List α) : Neutral copying (batch run entries) := by
  unfold batch
  cases entries with
  | nil => exact .pure _
  | cons first rest =>
      refine .bind (.forM _ fun entry => ?_) fun _ => fun _ => .pure _
      exact .bind (.modify _) fun _ => neutral entry.1

end EngineAction

end Scanout
