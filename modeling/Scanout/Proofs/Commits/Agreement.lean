import Scanout.Proofs.Batches.Containment
import Scanout.Proofs.Commits.Payloads
import Scanout.Proofs.Table

/-!
Presenting or validating agrees with the two separate commands. A frame that still needs its commit
is treated as by a validation, one that was committed without changes as by a presentation; what is
told besides is the outcome.
-/

namespace Scanout

theorem Registry.tracked_tracked (registry : Registry) (display : DisplayId)
    (first second : CommitTracker → CommitTracker) :
    (registry.tracked display first).tracked display second =
      registry.tracked display fun tracker => second (first tracker) := by
  cases found : registry.displays[display]? with
  | none => simp [tracked, updateCommit, Registry.display, found, bind, Except.bind]
  | some kept =>
      simp [tracked, updateCommit, Registry.display, found, bind, Except.bind, putDisplay,
        Table.insert_insert]

/-- A commit that leaves the frame to be presented answers like a validation. -/
inductive CommitOutcome.Corresponds :
    Except Status CommitOutcome → Except Status CommitOutcome → Prop where
  | failed (status : Status) : Corresponds (.error status) (.error status)
  | validated {prepared validated : CommitOutcome} (needed : prepared.needsCommit = true)
      (same : prepared.hasChanges = validated.hasChanges) : Corresponds (.ok prepared) (.ok validated)

/-- The outcome that follows what a validation has written, unless that is an error. -/
def validatedOutcome (display : DisplayId) (payloads : List Payload) : List Payload :=
  if payloads.any Payload.isError then [] else [.presentOutcome display .validated]

namespace EngineAction

variable {α β : Type} {display : DisplayId} {engine : Engine} {before : Registry}

/-- The collected results are the same on both sides, and so is what follows them. -/
theorem coupled_collectValidation {hasChanges : Bool} {related : α × Engine → β × Engine → Prop}
    {next : Except Status Unit → EngineAction α} {last : Except Status Unit → EngineAction β}
    (further : ∀ exchanges result payloads after, Collection display exchanges result payloads →
      (((next result).run (engine.append payloads)).start after).Coupled (fun _ => False) related
        (((last result).run (engine.append payloads)).start after)) :
    (((collectValidation display hasChanges >>= next).run engine).start before).Coupled
      (fun _ => False) related
      (((collectValidation display hasChanges >>= last).run engine).start before) := by
  have collected : (((collectValidation display hasChanges).run engine).start before).Ensures
      Anything fun exchanges result _ => ∃ payloads, result.2 = engine.append payloads ∧
        Collection display exchanges result.1 payloads := collectValidation_ensures hasChanges
  rw [start_bind, start_bind]
  refine collected.coupled.andThen ?_
  rintro ⟨result, reached⟩ _ after ⟨rfl, exchanges, final, payloads, same, holds⟩
  obtain rfl : reached = engine.append payloads := same
  exact further exchanges result payloads after holds

end EngineAction

open EngineAction

/-- Both have gone on writing, the first what the second has written and what goes with it. -/
def Writes {α β : Type} (engine : Engine) (adds : List Payload → List Payload)
    (first : α × Engine) (second : β × Engine) : Prop :=
  ∃ payloads, first.2 = engine.append (adds payloads) ∧ second.2 = engine.append payloads

/-- Two performances that differ in their first call only, as far as the device and the registry
are concerned. -/
structure Performance.DifferInCall {α β : Type} (first second : DeviceCall)
    (one : Performance Registry α) (two : Performance Registry β) : Prop where
  requests : ∃ rest, one.requests = .device first :: rest ∧ two.requests = .device second :: rest
  state : one.state = two.state

section

variable {display : DisplayId} {engine : Engine} {registry : Registry} {first second : Replies}

/-- Two steps that change the tracker and turn to the device, and agree once it has answered. -/
theorem perform_trackedCalls {α β : Type} {change other : CommitTracker → CommitTracker}
    {call asked : DeviceCall} {next : call.Reply → EngineAction α}
    {last : asked.Reply → EngineAction β} {related : α × Engine → β × Engine → Prop}
    (agree : first.Agree (fun _ => False) [.device call] second [.device asked])
    (coupled : (((next (first [] (.device call))).run engine).start
        (registry.tracked display change)).Coupled (fun _ => False) related
      (((last (second [] (.device asked))).run engine).start (registry.tracked display other))) :
    let one := Action.perform
      ((track display change >>= fun _ => EngineAction.call call >>= next).run engine)
      first.quiet registry
    let two := Action.perform
      ((track display other >>= fun _ => EngineAction.call asked >>= last).run engine)
      second.quiet registry
    one.DifferInCall call asked two ∧ related one.value two.value := by
  have begins : ((track display change >>= fun _ =>
      EngineAction.call call >>= next).run engine).start registry =
        .ask (.device call) (registry.tracked display change) fun reply =>
          ((next reply).run engine).start := by
    rw [start_bind, start_track]
    rfl
  have starts : ((track display other >>= fun _ =>
      EngineAction.call asked >>= last).run engine).start registry =
        .ask (.device asked) (registry.tracked display other) fun reply =>
          ((last reply).run engine).start := by
    rw [start_bind, start_track]
    rfl
  obtain ⟨requests, state, value⟩ := Action.perform_apart begins starts coupled agree
  exact ⟨⟨requests, state⟩, value⟩

theorem presentOrValidate_validates
    (agree : first.Agree (fun _ => False) [.device (.commitOrPrepare display false)]
      second [.device (.commitOrPrepare display true)])
    (corresponds : CommitOutcome.Corresponds
      (first [] (.device (.commitOrPrepare display false)))
      (second [] (.device (.commitOrPrepare display true)))) :
    let one := Action.perform ((presentOrValidate display).run engine) first.quiet registry
    let two := Action.perform ((validate display >>= record).run engine) second.quiet registry
    one.DifferInCall (.commitOrPrepare display false) (.commitOrPrepare display true) two ∧
      Writes engine (fun payloads => payloads ++ validatedOutcome display payloads)
        one.value two.value := by
  unfold validate
  simp only [bind_assoc]
  refine perform_trackedCalls agree ?_
  generalize first [] (.device (.commitOrPrepare display false)) = reply at corresponds ⊢
  generalize second [] (.device (.commitOrPrepare display true)) = answer at corresponds ⊢
  cases corresponds with
  | failed status =>
      simp only [bind_assoc, pure_bind, start_bind, start_track, start_record, Run.done_andThen]
      exact .done _ ⟨[.error engine.entry status], rfl, rfl⟩
  | @validated prepared validated needed same =>
      simp only [needed, same, if_true, bind_assoc]
      refine coupled_collectValidation fun exchanges result payloads after collected => ?_
      cases collected with
      | @broken status spoiled =>
          simp only [bind_assoc, pure_bind, start_bind, start_track, start_record, Run.done_andThen,
            Engine.append_nil]
          exact .done _ ⟨[.error engine.entry status], rfl, rfl⟩
      | complete changed mask requests property whole =>
          simp only [pure_bind, start_write, start_record]
          refine .done _ ⟨validationPayloads display changed mask requests property, ?_, ?_⟩
          · exact engine.append_append _ _
          · exact (engine.append _).append_nil

/-- What the tracker held does not matter to a frame that is presented. -/
theorem start_finishPresent_tracked (fence : Option Fence)
    (change : CommitTracker → CommitTracker) :
    ((finishPresent display fence).run engine).start (registry.tracked display change) =
      ((finishPresent display fence).run engine).start registry := by
  unfold finishPresent
  rw [start_bind, start_bind, start_track, start_track, Registry.tracked_tracked]
  rfl

theorem presentOrValidate_presents {fence : Option Fence}
    (agree : first.Agree (fun _ => False) [.device (.commitOrPrepare display false)]
      second [.device (.present display)])
    (committed : first [] (.device (.commitOrPrepare display false)) =
      Except.ok ⟨false, false, fence⟩)
    (presented : second [] (.device (.present display)) = Except.ok fence) :
    let one := Action.perform ((presentOrValidate display).run engine) first.quiet registry
    let two := Action.perform ((present display >>= record).run engine) second.quiet registry
    one.DifferInCall (.commitOrPrepare display false) (.present display) two ∧
      Writes engine (fun payloads => .presentOutcome display .presented :: payloads)
        one.value two.value := by
  unfold present
  simp only [bind_assoc]
  refine perform_trackedCalls agree ?_
  rw [committed, presented]
  have recorded : (finishPresent display fence >>= fun _ => record (.ok ())) =
      finishPresent display fence := bind_pure_unit
  simp only [Bool.false_eq_true, if_false, bind_assoc, pure_bind, recorded]
  rw [start_bind, start_write, Run.done_andThen, start_finishPresent_tracked,
    start_finishPresent_tracked]
  have together : (engine.append [.presentOutcome display .presented]).Continue engine
      (engine.append [.presentOutcome display .presented]) engine := ⟨[], by simp, by simp⟩
  have parallel : (finishPresent display fence).Parallel (fun _ => False)
      ((engine.append [.presentOutcome display .presented]).Continue engine) :=
    parallel_of_commitStep (Engine.tie_continue (engine.entry_append _)) (.finishPresent fence)
  refine (parallel _ _ together registry).imp ?_
  rintro ⟨_, reached⟩ ⟨_, other⟩ ⟨_, payloads, same, alike⟩
  refine ⟨payloads, ?_, alike⟩
  rw [Engine.append_append] at same
  exact same

end

/-- With two devices that answer all other calls alike, presenting or validating on the first makes
the calls of a validation on the second, if their answers to the commit correspond, and those of a
presentation, if the frame was committed without changes. It leaves the same registry, and writes
the same payloads and its outcome. -/
theorem Registry.presentOrValidate_agrees (registry : Registry) (engine : Engine)
    (display : DisplayId) (first second : Replies) :
    let perform (command : CommitCommand) (replies : Replies) :=
      Action.perform ((commit display command none).run engine) replies.quiet registry
    let one := perform .presentOrValidate first
    (first.Agree (fun _ => False) [.device (.commitOrPrepare display false)]
        second [.device (.commitOrPrepare display true)] →
      CommitOutcome.Corresponds (first [] (.device (.commitOrPrepare display false)))
        (second [] (.device (.commitOrPrepare display true))) →
      one.DifferInCall (.commitOrPrepare display false) (.commitOrPrepare display true)
          (perform .validate second) ∧
        Writes engine (fun payloads => payloads ++ validatedOutcome display payloads)
          one.value (perform .validate second).value) ∧
    ∀ fence, first.Agree (fun _ => False) [.device (.commitOrPrepare display false)]
        second [.device (.present display)] →
      first [] (.device (.commitOrPrepare display false)) = Except.ok ⟨false, false, fence⟩ →
      second [] (.device (.present display)) = Except.ok fence →
      one.DifferInCall (.commitOrPrepare display false) (.present display)
          (perform .present second) ∧
        Writes engine (fun payloads => .presentOutcome display .presented :: payloads)
          one.value (perform .present second).value := by
  intro perform one
  constructor
  · intro agree corresponds
    exact presentOrValidate_validates agree corresponds
  · intro fence agree committed presented
    exact presentOrValidate_presents agree committed presented

/-- A device that leaves its frames to be presented, and one that commits them without changes. -/
theorem Registry.presentOrValidate_agrees_simulated :
    let device (outcome : CommitOutcome) : Replies :=
      ({ script := { outcome, presentFence := outcome.presentFence } } : SimulatedDevice).replies
        fun _ => false
    let preparing := device ⟨true, true, none⟩
    let committing := device ⟨false, false, some ⟨5⟩⟩
    let registry : Registry := ((∅ : Registry).addDisplay ⟨0⟩ false 1 0).2
    let perform (command : CommitCommand) (replies : Replies) :=
      Action.perform ((commit ⟨0⟩ command none).run {}) replies.quiet registry
    let written (performance : Performance Registry (Unit × Engine)) : List Payload :=
      performance.value.2.writer.pending
    let validated : List Payload := [.changedCompositions ⟨0⟩ [], .displayRequest ⟨0⟩ {} [],
      .targetProperty ⟨0⟩ {} .one .none]
    let fences : List Payload := [.presentFence ⟨0⟩ ⟨5⟩, .releaseFences ⟨0⟩ []]
    (perform .presentOrValidate preparing).DifferInCall (.commitOrPrepare ⟨0⟩ false)
        (.commitOrPrepare ⟨0⟩ true) (perform .validate preparing) ∧
      written (perform .presentOrValidate preparing) =
        validated ++ [.presentOutcome ⟨0⟩ .validated] ∧
      written (perform .validate preparing) = validated ∧
    (perform .presentOrValidate committing).DifferInCall (.commitOrPrepare ⟨0⟩ false)
        (.present ⟨0⟩) (perform .present committing) ∧
      written (perform .presentOrValidate committing) =
        .presentOutcome ⟨0⟩ .presented :: fences ∧
      written (perform .present committing) = fences := by
  intro device preparing committing registry perform written validated fences
  have alike (first second : List Request) (replies : CommitOutcome) :
      (device replies).Agree (fun _ => False) first (device replies) second := fun _ _ _ => rfl
  have prepared := (registry.presentOrValidate_agrees {} ⟨0⟩ preparing preparing).1
    (alike _ _ _) (.validated rfl rfl)
  have committed := (registry.presentOrValidate_agrees {} ⟨0⟩ committing committing).2
    (some ⟨5⟩) (alike _ _ _) rfl rfl
  refine ⟨prepared.1, ?_, ?_, committed.1, ?_, ?_⟩
  · cbv
  · cbv
  · cbv
  · cbv

end Scanout
