import Scanout.Proofs.Batches.Containment
import Scanout.Proofs.Batches.Turns
import Scanout.Proofs.Commits.Tracking

/-!
What comes with the outcome of a validation. The results are written right before it, and where they
could not be collected there is an error instead. One step is different: a device that has committed
the frame at once and then fails to say what it changed. The outcome stands alone there.
-/

namespace Scanout

/-- The request is one that carrying out a field may make. -/
def Request.PassesOn (request : Request) : Prop := request.isReference = true ∨ request.Sets

/-- The call tells what a validation has found. -/
def DeviceCall.isCollecting : DeviceCall → Bool
  | changedCompositionCount _ | changedCompositions .. | layerRequestCount _ | targetProperty _ => true
  | _ => false

namespace Exchange

/-- The device has committed the frame, with changes of its own. -/
inductive CommitsChanged (display : DisplayId) : Exchange → Prop where
  | mk (outcome : CommitOutcome) (committed : outcome.needsCommit = false)
      (changes : outcome.hasChanges = true) :
      CommitsChanged display ⟨.device (.commitOrPrepare display false), Except.ok outcome⟩

/-- The exchange tells nothing of a validation: it neither commits nor spoils one. -/
def Aside (display : DisplayId) (exchange : Exchange) : Prop :=
  ¬exchange.CommitsChanged display ∧ ∀ status, ¬exchange.Spoils display status

variable {display : DisplayId} {exchange : Exchange}

theorem not_spoils {call : DeviceCall} {reply : call.Reply} {status : Status}
    (other : call.isCollecting = false) : ¬Spoils display ⟨.device call, reply⟩ status := by
  intro spoils
  cases spoils <;> cases other

theorem aside_of_call {call : DeviceCall} {reply : call.Reply} (other : call.isCollecting = false)
    (stays : call ≠ .commitOrPrepare display false) : Aside display ⟨.device call, reply⟩ := by
  refine ⟨?_, fun _ => not_spoils other⟩
  intro commits
  cases commits
  exact stays rfl

theorem aside_of_passesOn (passes : exchange.request.PassesOn) : exchange.Aside display := by
  obtain ⟨request, reply⟩ := exchange
  constructor
  · intro commits
    cases commits
    cases passes <;> contradiction
  · intro status spoils
    cases spoils <;> cases passes <;> contradiction

theorem aside_of_times (times : exchange.Times display) : exchange.Aside display := by
  cases times
  exact ⟨nofun, nofun⟩

theorem complete_call {call : DeviceCall} {reply : call.Reply} {rest : List Exchange}
    (other : call.isCollecting = false) (complete : Complete display rest) :
    Complete display (⟨.device call, reply⟩ :: rest) :=
  complete_cons.mpr ⟨fun _ => not_spoils other, complete⟩

end Exchange

/-- The device committed the frame with changes, and failed a call that tells what they are. -/
def LosesChanges (display : DisplayId) (exchanges : List Exchange) : Prop :=
  (∃ exchange ∈ exchanges, exchange.CommitsChanged display) ∧ ¬Complete display exchanges

/-- The payload is the outcome of a validation. -/
def Payload.Validates (shown : DisplayId) (payload : Payload) : Prop :=
  payload = .presentOutcome shown .validated ∨ payload = .presentOutcome shown .validatedWithChanges

/-- What an entry tells of a validation, by what it exchanged. -/
structure Tells (display : DisplayId) (entry : Nat) (exchanges : List Exchange)
    (payloads : List Payload) : Prop where
  /-- Right before the outcome of a validation stand its results. -/
  content : ∀ shown lead outcome rest, payloads = lead ++ outcome :: rest →
    outcome.Validates shown → shown = display ∧ (¬LosesChanges display exchanges →
      ∃ earlier changed mask requests property,
        lead = earlier ++ validationPayloads display changed mask requests property)
  /-- Results that cannot be collected leave an error. -/
  failure : ¬LosesChanges display exchanges → ¬Complete display exchanges →
    ∃ exchange ∈ exchanges, ∃ status, exchange.Spoils display status ∧
      .error entry status ∈ payloads
  /-- Changes that were lost do not: their outcome comes after earlier errors, if there are any, and
  before the fences of the frame. -/
  bare : LosesChanges display exchanges → ∃ errors fences,
    payloads = errors ++ .presentOutcome display .validatedWithChanges :: fences ∧
      (∀ payload ∈ errors, payload.isError = true) ∧
        ∃ presentFence waits, FenceGroup display presentFence waits fences

/-- The entries under their numbers, with what each exchanges and writes. -/
inductive Accounts : List (Entry × Nat) → List Exchange → List Payload → Prop where
  | nil : Accounts [] [] []
  | cons {command entry rest exchanges more payloads others}
      (tells : Tells (Entry.display command) entry exchanges payloads)
      (further : Accounts rest more others) :
      Accounts ((command, entry) :: rest) (exchanges ++ more) (payloads ++ others)

section Tells

variable {display shown : DisplayId} {entry : Nat} {exchanges : List Exchange}
  {payloads : List Payload}

/-- Among the payloads is no outcome of a validation. -/
def Silent (payloads : List Payload) : Prop := ∀ payload ∈ payloads, ∀ shown, ¬payload.Validates shown

@[simp] theorem silent_nil : Silent [] := nofun

@[simp] theorem silent_cons {payload : Payload} :
    Silent (payload :: payloads) ↔ (∀ shown, ¬payload.Validates shown) ∧ Silent payloads := by
  simp [Silent]

@[simp] theorem silent_append {others : List Payload} :
    Silent (payloads ++ others) ↔ Silent payloads ∧ Silent others := by
  simp [Silent, or_imp, forall_and]

theorem silent_of_errors (errors : ∀ payload ∈ payloads, payload.isError = true) :
    Silent payloads := by
  intro payload member shown validates
  have error := errors payload member
  cases validates with
  | inl same =>
      subst same
      cases error
  | inr same =>
      subst same
      cases error

theorem silent_validationPayloads (changed : List ChangedLayer) (mask : Flags)
    (requests : List LayerRequest) (property : TargetProperty) :
    Silent (validationPayloads display changed mask requests property) := by
  simp [validationPayloads, Payload.Validates]

theorem errors_errorsOf (entry : Nat) (result : Except Status Unit) :
    ∀ payload ∈ errorsOf entry result, payload.isError = true := by
  cases result <;> simp [errorsOf, Payload.isError]

theorem FenceGroup.silent {fence : Option Fence} (fences : FenceGroup display fence exchanges payloads) :
    Silent payloads := by
  cases fences with
  | given releases whole => cases fence <;> simp [Payload.Validates]
  | withheld spoiled => exact silent_nil

/-- The only outcome among the payloads has a fixed place. -/
theorem lead_of_silent {before after lead rest : List Payload} {outcome other : Payload}
    (silent : Silent before) (quiet : Silent after) (validates : other.Validates shown)
    (split : before ++ outcome :: after = lead ++ other :: rest) : lead = before ∧ other = outcome := by
  rcases List.append_eq_append_iff.mp split with ⟨between, rfl, tail⟩ | ⟨between, rfl, tail⟩
  · cases between with
    | nil =>
        cases tail
        exact ⟨List.append_nil _, rfl⟩
    | cons first between =>
        cases tail
        exact absurd validates (quiet other (by simp) shown)
  · cases between with
    | nil =>
        cases tail
        exact ⟨(List.append_nil _).symm, rfl⟩
    | cons first between =>
        cases tail
        exact absurd validates (silent other (by simp) shown)

namespace Tells

theorem of_complete (complete : Complete display exchanges) (silent : Silent payloads) :
    Tells display entry exchanges payloads where
  content shown lead outcome rest split validates :=
    absurd validates (silent outcome (by simp [split]) shown)
  failure _ incomplete := absurd complete incomplete
  bare lost := absurd complete lost.2

theorem of_error {status : Status} (kept : ¬LosesChanges display exchanges)
    (spoiled : ∃ exchange ∈ exchanges, exchange.Spoils display status)
    (told : .error entry status ∈ payloads) (silent : Silent payloads) :
    Tells display entry exchanges payloads where
  content shown lead outcome rest split validates :=
    absurd validates (silent outcome (by simp [split]) shown)
  failure _ _ := by
    obtain ⟨exchange, member, spoils⟩ := spoiled
    exact ⟨exchange, member, status, spoils, told⟩
  bare lost := absurd lost kept

theorem of_content {outcome : Payload} {fences : List Payload} {changed : List ChangedLayer}
    {mask : Flags} {requests : List LayerRequest} {property : TargetProperty}
    (complete : Complete display exchanges) (validates : outcome.Validates display)
    (silent : Silent fences) :
    Tells display entry exchanges
      (validationPayloads display changed mask requests property ++ outcome :: fences) where
  content shown lead other rest split again := by
    obtain ⟨rfl, rfl⟩ := lead_of_silent (silent_validationPayloads changed mask requests property)
      silent again split
    refine ⟨?_, fun _ => ⟨[], changed, mask, requests, property, rfl⟩⟩
    rcases validates with rfl | rfl <;> rcases again with same | same <;> cases same <;> rfl
  failure _ incomplete := absurd complete incomplete
  bare lost := absurd complete lost.2

theorem of_bare {fence : Option Fence} {waits : List Exchange} {fences : List Payload}
    (lost : LosesChanges display exchanges) (group : FenceGroup display fence waits fences) :
    Tells display entry exchanges (.presentOutcome display .validatedWithChanges :: fences) where
  content shown lead other rest split again := by
    obtain ⟨rfl, rfl⟩ := lead_of_silent silent_nil group.silent again ((List.nil_append _).trans split)
    refine ⟨?_, fun kept => absurd lost kept⟩
    rcases again with same | same <;> cases same
    rfl
  failure kept := absurd lost kept
  bare _ := ⟨[], fences, rfl, nofun, fence, waits, group⟩

/-- What comes before a commit step makes no difference to what the step tells, as long as it is
errors that are written. -/
theorem after {lead : List Exchange} {errors : List Payload}
    (aside : ∀ exchange ∈ lead, exchange.Aside display)
    (only : ∀ payload ∈ errors, payload.isError = true)
    (tells : Tells display entry exchanges payloads) :
    Tells display entry (lead ++ exchanges) (errors ++ payloads) := by
  have complete : Complete display (lead ++ exchanges) ↔ Complete display exchanges := by
    have plain : Complete display lead := fun exchange member => (aside exchange member).2
    simp [plain]
  have loses : LosesChanges display (lead ++ exchanges) ↔ LosesChanges display exchanges := by
    have plain : ∀ exchange ∈ lead, ¬exchange.CommitsChanged display :=
      fun exchange member => (aside exchange member).1
    simp only [LosesChanges, complete, List.mem_append]
    grind
  constructor
  · intro shown front outcome rest split validates
    rw [loses]
    rcases List.append_eq_append_iff.mp split with ⟨between, rfl, tail⟩ | ⟨between, rfl, tail⟩
    · obtain ⟨same, content⟩ := tells.content shown between outcome rest tail validates
      refine ⟨same, fun kept => ?_⟩
      obtain ⟨earlier, changed, mask, requests, property, rfl⟩ := content kept
      exact ⟨errors ++ earlier, changed, mask, requests, property, (List.append_assoc ..).symm⟩
    · cases between with
      | nil =>
          obtain ⟨same, content⟩ := tells.content shown [] outcome rest tail.symm validates
          refine ⟨same, fun kept => ?_⟩
          obtain ⟨earlier, changed, mask, requests, property, absurdity⟩ := content kept
          simp [validationPayloads] at absurdity
      | cons first between =>
          cases tail
          exact absurd validates (silent_of_errors only outcome (by simp) shown)
  · rw [loses, complete]
    intro kept incomplete
    obtain ⟨exchange, member, status, spoils, told⟩ := tells.failure kept incomplete
    exact ⟨exchange, List.mem_append_right _ member, status, spoils, List.mem_append_right _ told⟩
  · rw [loses]
    intro lost
    obtain ⟨earlier, fences, rfl, before, group⟩ := tells.bare lost
    refine ⟨errors ++ earlier, fences, (List.append_assoc ..).symm, ?_, group⟩
    intro payload member
    rcases List.mem_append.mp member with first | second
    · exact only payload first
    · exact before payload second

end Tells
end Tells

section Fields

variable {σ : Type} {display : DisplayId}

/-- What is exchanged is what was asked. -/
theorem Run.Asks.exchanged {α : Type} {permits : Request → Prop} {meddles : σ → σ → Prop}
    {run : Run σ α} {exchanges : List Exchange} {value : α} {final : σ} (asks : run.Asks permits)
    (ended : run.Ends meddles exchanges value final) :
    ∀ exchange ∈ exchanges, permits exchange.request := by
  induction ended with
  | done value state => simp
  | ask reply meddled further ih =>
      intro exchange member
      cases member with
      | head => exact asks.1
      | tail _ later => exact ih (asks.2 _ _) exchange later

theorem Action.asks_released {α : Type} (handles : List Handle) (value : α) :
    (Action.release handles >>= fun _ => pure value : Action σ α).Asks Request.PassesOn :=
  (Action.asks_release handles fun _ => .inl rfl).bind fun _ _ => trivial

theorem Registry.asks_lookup (kind : BufferKind) (slot : Nat) (reuse : Bool)
    (handle : Option NativeHandle) :
    (lookup display kind slot reuse handle).Asks Request.PassesOn := by
  unfold lookup
  cases reuse with
  | true => exact fun _ => trivial
  | false =>
      cases handle with
      | none => cases kind <;> exact fun _ => trivial
      | some native =>
          cases kind with
          | sidebandStream layer => exact fun _ => trivial
          -- All other kinds ask for an import.
          | _ =>
              intro registry
              refine ⟨.inl rfl, fun reply after => ?_⟩
              cases reply <;> trivial

theorem Registry.asks_update (kind : BufferKind) (slot : Nat) (reuse : Bool)
    (buffer : ResolvedBuffer) :
    (update display kind slot reuse buffer).Asks Request.PassesOn := by
  unfold update
  cases reuse with
  | true => exact Action.asks_released _ _
  | false =>
      intro registry
      simp only [Bool.false_eq_true, if_false, Action.start_bind, Action.start_get,
        Run.done_andThen]
      cases registry.store display kind slot buffer.handle? with
      | error status => exact Action.asks_released _ _ registry
      | ok result => exact Action.asks_released _ _ result.1

theorem Setting.asks_tell (setting : Setting) : (setting.tell display).Asks Request.PassesOn := by
  cases setting with
  | display setting => exact fun _ => ⟨.inr rfl, fun _ _ => trivial⟩
  | layer id setting => exact fun _ => ⟨.inr rfl, fun _ _ => trivial⟩

theorem FieldShape.asks {action : Action Registry (Except Status Unit)}
    (shape : FieldShape display action) : action.Asks Request.PassesOn := by
  cases shape with
  | refused => exact fun _ => trivial
  | setter setting => exact setting.asks_tell
  | buffer use setting =>
      apply Action.Asks.bind (Registry.asks_lookup use.kind use.slot use.reuse use.handle)
      intro found
      cases found with
      | error status => exact fun _ => trivial
      | ok buffer =>
          apply Action.Asks.bind (setting buffer.native).asks_tell
          intro told
          apply Action.Asks.bind (Registry.asks_update use.kind use.slot use.reuse buffer)
          intro stored
          cases told <;> exact fun _ => trivial

end Fields

section Steps

open EngineAction

variable {display : DisplayId} {engine : Engine} {before : Registry}

/-- Fields write errors and nothing else, and tell nothing of a validation. -/
theorem ensures_fields (fields : List Field) (engine : Engine) (before : Registry) :
    (fields.forM fun field => lift (field.apply display) >>= record).Ensures Anything engine before
      fun exchanges payloads _ _ => (∀ exchange ∈ exchanges, exchange.Aside display) ∧
        ∀ payload ∈ payloads, payload.isError = true := by
  induction fields generalizing engine before with
  | nil => exact .pure ⟨by simp, by simp⟩
  | cons field rest ih =>
      refine .bind (.bind (.lift ?_))
      intro exchanges result after ended
      have asked := ((field.shape display).asks before).exchanged ended
      refine .record ((ih _ _).imp ?_)
      intro more others _ final further
      obtain ⟨aside, errors⟩ := further
      simp only [List.append_nil, List.nil_append, List.mem_append]
      constructor
      · intro exchange member
        cases member with
        | inl here => exact Exchange.aside_of_passesOn (asked exchange here)
        | inr later => exact aside exchange later
      · intro payload member
        cases member with
        | inl here => exact errors_errorsOf _ result payload here
        | inr later => exact errors payload later

theorem ensures_presentTime (time : Option Int) :
    (forwardPresentTime display time).Ensures Anything engine before fun exchanges payloads _ _ =>
      (∀ exchange ∈ exchanges, exchange.Aside display) ∧
        ∀ payload ∈ payloads, payload.isError = true := by
  cases time with
  | none => exact .pure ⟨by simp, by simp⟩
  | some time =>
      refine .bind (.call fun answer after _ => .record ⟨?_, errors_errorsOf _ answer⟩)
      intro exchange member
      rw [List.mem_singleton.mp member]
      exact Exchange.aside_of_times (.mk time.toNat answer)

/-- Beside the fences that it writes, ending a frame tells nothing of a validation. -/
theorem finishPresent_tells (fence : Option Fence) :
    (finishPresent display fence).Ensures Anything engine before fun exchanges payloads _ _ =>
      (∀ exchange ∈ exchanges, exchange.Aside display) ∧
        FenceGroup display fence exchanges payloads := by
  have asks : ((finishPresent display fence).run engine).Asks fun request =>
      request = .device (.releaseFenceCount display) ∨
        ∃ room, request = .device (.releaseFences display room) := by
    intro registry
    rw [finishPresent, start_bind, start_track, Run.done_andThen]
    refine ⟨.inl rfl, fun reply after => ?_⟩
    match reply with
    | .error status => trivial
    | .ok 0 => cases fence <;> trivial
    | .ok (room + 1) =>
        refine ⟨.inr ⟨room + 1, rfl⟩, fun reply after => ?_⟩
        cases reply <;> cases fence <;> trivial
  intro exchanges result final ended
  obtain ⟨payloads, written, group⟩ := finishPresent_ensures fence _ _ _ ended
  refine ⟨payloads, written, ?_, group⟩
  rintro ⟨request, reply⟩ member
  have asked := (asks before).exchanged ended _ member
  constructor
  · intro commits
    cases commits
    simp at asked
  · intro status spoils
    cases spoils <;> simp at asked

/-- The device is not asked to commit. -/
def Request.Uncommitting (request : Request) : Prop :=
  ∀ display validateOnly, request ≠ .device (.commitOrPrepare display validateOnly)

theorem asks_querySized {α : Type} [Inhabited α] {count : EngineAction (Except Status Nat)}
    {fill : Nat → EngineAction (Except Status (Filled α))} {permits : Request → Prop}
    (counts : ∀ engine, (count.run engine).Asks permits)
    (fills : ∀ room engine, ((fill room).run engine).Asks permits) (engine : Engine) :
    ((querySized count fill).run engine).Asks permits := by
  apply (counts engine).bind
  rintro ⟨reply, engine⟩
  match reply with
  | .error status => exact fun _ => trivial
  | .ok 0 => exact fun _ => trivial
  | .ok (room + 1) =>
      apply (fills (room + 1) engine).bind
      rintro ⟨reply, engine⟩
      cases reply <;> exact fun _ => trivial

theorem asks_call {permits : Request → Prop} {call : DeviceCall} (permitted : permits (.device call))
    (engine : Engine) : ((EngineAction.call call).run engine).Asks permits :=
  fun _ => ⟨permitted, fun _ _ => trivial⟩

theorem asks_collectRequests (engine : Engine) :
    ((collectRequests display).run engine).Asks Request.Uncommitting := by
  apply Action.Asks.bind (asks_call nofun engine)
  rintro ⟨reply, engine⟩
  match reply with
  | .error status => exact fun _ => trivial
  | .ok (mask, 0) => exact fun _ => trivial
  | .ok (mask, room + 1) =>
      apply Action.Asks.bind (asks_call nofun engine)
      rintro ⟨reply, engine⟩
      cases reply <;> exact fun _ => trivial

/-- While the results of a validation are collected, nothing is committed. -/
theorem asks_collectValidation (hasChanges : Bool) (engine : Engine) :
    ((collectValidation display hasChanges).run engine).Asks Request.Uncommitting := by
  apply Action.Asks.bind
    (asks_querySized (asks_call nofun) (fun room => asks_call nofun) engine)
  rintro ⟨changed, engine⟩
  cases changed with
  | error status => exact fun _ => trivial
  | ok changed =>
  apply Action.Asks.bind (asks_collectRequests engine)
  rintro ⟨requests, engine⟩
  cases requests with
  | error status => exact fun _ => trivial
  | ok requests =>
  apply Action.Asks.bind (asks_call nofun engine)
  rintro ⟨property, engine⟩
  cases property with
  | error status => exact fun _ => trivial
  | ok property =>
      -- The payloads are written without a request, and then the tracker is changed.
      intro registry
      change Run.Asks _ ((((track display _).run _).start registry).andThen _)
      rw [start_track]
      trivial

theorem collectValidation_tells (hasChanges : Bool) :
    (collectValidation display hasChanges).Ensures Anything engine before
      fun exchanges payloads result _ => Collection display exchanges result payloads ∧
        ∀ exchange ∈ exchanges, ¬exchange.CommitsChanged display := by
  intro exchanges result final ended
  obtain ⟨payloads, written, collected⟩ := collectValidation_ensures hasChanges _ _ _ ended
  refine ⟨payloads, written, collected, ?_⟩
  intro exchange member commits
  have asked := (asks_collectValidation hasChanges engine before).exchanged ended _ member
  cases commits
  exact asked display false rfl

/-- A commit step that was carried out tells what it has to. -/
def EngineAction.TellsOf (display : DisplayId) (action : EngineAction Unit) : Prop :=
  ∀ engine before, action.Ensures Anything engine before fun exchanges payloads _ _ =>
    Tells display engine.entry exchanges payloads

theorem not_losesChanges {exchanges : List Exchange}
    (none : ∀ exchange ∈ exchanges, ¬exchange.CommitsChanged display) :
    ¬LosesChanges display exchanges := by
  rintro ⟨⟨exchange, member, commits⟩, -⟩
  exact none exchange member commits

/-- After the device has validated the frame, the results follow, or an error. -/
theorem tells_collected {answered : Exchange} {queries : List Exchange} {entry : Nat}
    {result : Except Status Unit} {payloads last : List Payload}
    (plain : answered.Aside display) (collected : Collection display queries result payloads)
    (none : ∀ exchange ∈ queries, ¬exchange.CommitsChanged display)
    (ends : match result with
      | .ok _ => last = [] ∨ last = [.presentOutcome display .validated]
      | .error status => last = [.error entry status]) :
    Tells display entry (answered :: queries) (payloads ++ last) := by
  have kept : ¬LosesChanges display (answered :: queries) :=
    not_losesChanges (List.forall_mem_cons.mpr ⟨plain.1, none⟩)
  cases collected with
  | complete changed mask requests property whole =>
      have complete : Complete display (answered :: queries) :=
        List.forall_mem_cons.mpr ⟨plain.2, whole⟩
      rcases ends with rfl | rfl
      · rw [List.append_nil]
        exact .of_complete complete (silent_validationPayloads changed mask requests property)
      · exact .of_content complete (.inl rfl) silent_nil
  | broken spoiled =>
      obtain ⟨exchange, member, spoils⟩ := spoiled
      subst ends
      exact .of_error kept ⟨exchange, List.mem_cons_of_mem _ member, spoils⟩ (by simp)
        (by simp [Payload.Validates])

theorem tells_validate : (validate display >>= record).TellsOf display := by
  intro engine before
  refine .bind (.bind (.track (.bind (.call fun reply after _ => ?_))))
  rcases reply with status | outcome
  · refine .bind (.track (.pure (.record (.of_complete ?_ ?_))))
    · exact Exchange.complete_call rfl complete_nil
    · simp [errorsOf, Payload.Validates]
  · refine .bind ((collectValidation_tells outcome.hasChanges).imp ?_)
    intro queries payloads result middle ended
    obtain ⟨collected, none⟩ := ended
    have aside : Exchange.Aside display
        ⟨.device (.commitOrPrepare display true), Except.ok outcome⟩ :=
      Exchange.aside_of_call rfl (by simp)
    cases result with
    | error status =>
        refine .bind (.track (.pure (.record ?_)))
        simpa [errorsOf] using tells_collected aside collected none rfl
    | ok _ =>
        refine .pure (.record ?_)
        simpa [errorsOf] using tells_collected aside collected none (.inl rfl)

theorem tells_acceptChanges : (acceptChanges display >>= record).TellsOf display := by
  intro engine before
  apply (ensures_recorded acceptChanges_ensures).imp
  intro exchanges payloads _ after step
  cases step with
  | accepted result asked =>
      apply Tells.of_complete
      · rcases asked with rfl | ⟨answer, rfl⟩
        · exact complete_nil
        · exact Exchange.complete_call rfl complete_nil
      · exact silent_of_errors (errors_errorsOf _ result)

theorem tells_present : (present display >>= record).TellsOf display := by
  intro engine before
  refine .bind (.bind (.track (.bind (.call fun reply after _ => ?_))))
  rcases reply with status | fence
  · refine .bind (.track (.pure (.record (.of_complete ?_ ?_))))
    · exact Exchange.complete_call rfl complete_nil
    · simp [errorsOf, Payload.Validates]
  · refine .bind ((finishPresent_tells fence).imp ?_)
    intro waits fences _ middle ended
    obtain ⟨aside, group⟩ := ended
    refine .pure (.record (.of_complete ?_ ?_))
    · have complete : Complete display waits := fun exchange member => (aside exchange member).2
      simpa using Exchange.complete_call rfl complete
    · simpa [errorsOf] using group.silent

/-- The frame was committed: whatever is missing then, the outcome is written, and the fences. -/
theorem tells_committed {outcome : CommitOutcome} {queries waits : List Exchange}
    (accepting : List Exchange) {result : Except Status Unit} {payloads fences : List Payload}
    {entry : Nat}
    (commits : Exchange.CommitsChanged display
      ⟨.device (.commitOrPrepare display false), Except.ok outcome⟩)
    (collected : Collection display queries result payloads)
    (aside : ∀ exchange ∈ accepting ++ waits, exchange.Aside display)
    (group : FenceGroup display outcome.presentFence waits fences) :
    Tells display entry
      (⟨.device (.commitOrPrepare display false), Except.ok outcome⟩ ::
        (queries ++ (accepting ++ waits)))
      (payloads ++ .presentOutcome display .validatedWithChanges :: fences) := by
  have plain : Complete display (accepting ++ waits) := fun exchange member =>
    (aside exchange member).2
  have answered : ∀ status, ¬Exchange.Spoils display
      ⟨.device (.commitOrPrepare display false), Except.ok outcome⟩ status :=
    fun _ => Exchange.not_spoils rfl
  cases collected with
  | complete changed mask requests property whole =>
      have whole : Complete display queries := whole
      apply Tells.of_content _ (.inr rfl) group.silent
      rw [complete_cons, complete_append]
      exact ⟨answered, whole, plain⟩
  | broken spoiled =>
      obtain ⟨exchange, member, spoils⟩ := spoiled
      refine .of_bare ⟨⟨_, List.mem_cons_self, commits⟩, ?_⟩ group
      exact not_complete spoils (by simp [member])

theorem tells_presentOrValidate : (presentOrValidate display).TellsOf display := by
  intro engine before
  refine .bind (.track (.bind (.call fun reply after _ => ?_)))
  rcases reply with status | ⟨hasChanges, needsCommit, presentFence⟩
  · refine .bind (.track (.record (.of_complete ?_ ?_)))
    · exact Exchange.complete_call rfl complete_nil
    · simp [errorsOf, Payload.Validates]
  cases needsCommit with
  | true =>
      refine .bind ((collectValidation_tells hasChanges).imp ?_)
      intro queries payloads result middle ended
      obtain ⟨collected, none⟩ := ended
      have aside : Exchange.Aside display ⟨.device (.commitOrPrepare display false),
          Except.ok ⟨hasChanges, true, presentFence⟩⟩ := by
        refine ⟨?_, fun _ => Exchange.not_spoils rfl⟩
        intro commits
        cases commits with
        | mk _ committed _ => cases committed
      cases result with
      | error status =>
          refine .bind (.track (.record ?_))
          simpa [errorsOf] using tells_collected aside collected none rfl
      | ok _ =>
          refine .write ?_
          simpa using tells_collected aside collected none (.inr rfl)
  | false =>
      cases hasChanges with
      | true =>
          have commits : Exchange.CommitsChanged display ⟨.device (.commitOrPrepare display false),
              Except.ok ⟨true, false, presentFence⟩⟩ := .mk _ rfl rfl
          refine .bind ((collectValidation_ensures true).imp ?_)
          intro queries payloads result middle collected
          cases result with
          | error status =>
              refine .bind (.write ((finishPresent_tells presentFence).imp ?_))
              intro waits fences _ final ended
              obtain ⟨aside, group⟩ := ended
              simpa using tells_committed [] commits collected aside group
          | ok _ =>
              refine .bind (.call fun answer after _ => .bind (.write ?_))
              refine (finishPresent_tells presentFence).imp ?_
              intro waits fences _ final ended
              obtain ⟨aside, group⟩ := ended
              have accepting : Exchange.Aside display ⟨.device (.acceptChanges display), answer⟩ :=
                Exchange.aside_of_call rfl (by simp)
              simpa using tells_committed [_] commits collected
                (List.forall_mem_cons.mpr ⟨accepting, aside⟩) group
      | false =>
          refine .bind (.write ((finishPresent_tells presentFence).imp ?_))
          intro waits fences _ final ended
          obtain ⟨aside, group⟩ := ended
          have complete : Complete display waits := fun exchange member => (aside exchange member).2
          refine .of_complete ?_ ?_
          · simpa using Exchange.complete_call rfl complete
          · simpa [Payload.Validates] using group.silent

theorem tells_timed {action : EngineAction Unit} (time : Option Int)
    (tells : action.TellsOf display) :
    (forwardPresentTime display time >>= fun _ => action).TellsOf display := by
  intro engine before
  refine .bind ((ensures_presentTime time).imp ?_)
  intro lead errors _ middle ended
  obtain ⟨aside, only⟩ := ended
  exact (tells _ middle).imp fun _ _ _ _ told => told.after aside only

theorem tells_commit (command : CommitCommand) (time : Option Int) :
    (commit display command time).TellsOf display := by
  cases command with
  | validate => exact tells_timed time tells_validate
  | acceptChanges => exact tells_acceptChanges
  | present => exact tells_present
  | presentOrValidate => exact tells_timed time tells_presentOrValidate

theorem Entry.tells (entry : Entry) : entry.execute.TellsOf entry.display := by
  have silent {lead : List Exchange} {errors : List Payload} {number : Nat} {display : DisplayId}
      (aside : ∀ exchange ∈ lead, exchange.Aside display)
      (only : ∀ payload ∈ errors, payload.isError = true) : Tells display number lead errors := by
    simpa using Tells.after aside only (.of_complete complete_nil silent_nil)
  intro engine before
  cases entry with
  | extended command =>
      apply (ensures_fields command.fields engine before).imp
      intro lead errors _ after ended
      exact silent ended.1 ended.2
  | regular command =>
      refine .bind ((ensures_fields command.fields engine before).imp ?_)
      intro lead errors _ middle ended
      obtain ⟨aside, only⟩ := ended
      cases command.commit with
      | none =>
          apply Ensures.pure
          rw [List.append_nil, List.append_nil]
          exact silent aside only
      | some step =>
          apply (tells_commit step command.expectedPresentTime _ middle).imp
          exact fun _ _ _ _ told => told.after aside only

theorem accounts_runEntries (entries : List (Entry × Nat)) (engine : Engine) (before : Registry) :
    ((runEntries Entry.execute entries).run engine).Ensures Anything before
      fun exchanges result _ => ∃ payloads,
        result.2.writer.pending = engine.writer.pending ++ payloads ∧
          Accounts entries exchanges payloads := by
  induction entries generalizing engine before with
  | nil => exact .pure ⟨[], (List.append_nil _).symm, .nil⟩
  | cons first rest ih =>
      obtain ⟨command, entry⟩ := first
      -- Entering an entry only sets its number; the command then writes to what is there.
      change Action.Ensures Anything before _
        (command.execute.run { engine with entry } >>= fun result =>
          (runEntries Entry.execute rest).run result.2)
      refine .bind (Action.Ensures.imp (command.tells { engine with entry } before) ?_)
      rintro exchanges ⟨_, reached⟩ middle ⟨payloads, written, told⟩
      obtain rfl : reached = Engine.append { engine with entry } payloads := written
      refine (ih _ middle).imp ?_
      rintro more result after ⟨others, pending, further⟩
      refine ⟨payloads ++ others, ?_, .cons told further⟩
      rw [pending, Engine.pending_append, List.append_assoc]

end Steps

/-- Whatever the surroundings do, a batch that is not refused answers with what its entries wrote,
and every entry tells of its validation what it exchanged: right before an outcome stand the results
that belong to it, and results that could not be collected leave an error. Only changes that the
device committed at once and then failed to list have an outcome without either. -/
theorem Batch.outcomes_told (batch : Batch) (surroundings : Surroundings Registry)
    (registry : Registry) :
    let performance := batch.action.perform surroundings registry
    (batch.entries = [] ∧ performance.value = .error .badParameter ∧ performance.exchanges = []) ∨
      ∃ payloads, performance.value = .ok payloads ∧
        Accounts batch.entries.zipIdx performance.exchanges payloads := by
  intro performance
  have ended : (batch.action.start registry).Ends Anything performance.exchanges
      performance.value performance.state :=
    Action.perform_ends (fun _ _ _ => trivial) _ registry
  rw [batch.action_eq] at ended
  by_cases empty : batch.entries = []
  · have refused : (((EngineAction.batch Entry.execute batch.entries).run' {}).start
        registry).Ensures Anything fun exchanges value _ =>
          value = .error .badParameter ∧ exchanges = [] := by
      rw [empty]
      exact .done ⟨rfl, rfl⟩
    exact .inl ⟨empty, refused _ _ _ ended⟩
  · have told : (((EngineAction.batch Entry.execute batch.entries).run' {}).start registry).Ensures
        Anything fun exchanges value _ => ∃ payloads, value = .ok payloads ∧
          Accounts batch.entries.zipIdx exchanges payloads := by
      rw [EngineAction.start_batch _ empty]
      refine Run.Ensures.andThen ((accounts_runEntries batch.entries.zipIdx {} registry).imp ?_)
      rintro exchanges ⟨_, reached⟩ after ⟨payloads, written, accounts⟩
      refine .done ⟨payloads, congrArg Except.ok written, ?_⟩
      rwa [List.append_nil]
    exact .inr (told _ _ _ ended)

/-- The device fails to count what it changed: an outcome and fences, and nothing in between. -/
example :
    let device : SimulatedDevice := { script := { outcome := { hasChanges := true } } }
    let replies := device.replies fun call => call = .changedCompositionCount ⟨0⟩
    let registry := ((∅ : Registry).addDisplay ⟨0⟩ false 1 0).2
    let batch : Batch := .regular [{ display := ⟨0⟩, commit := some .presentOrValidate }]
    (batch.action.perform replies.quiet registry).value =
      .ok [.presentOutcome ⟨0⟩ .validatedWithChanges, .releaseFences ⟨0⟩ []] := by
  cbv

end Scanout
