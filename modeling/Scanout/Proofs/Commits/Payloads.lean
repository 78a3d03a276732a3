import Scanout.Proofs.Batches.Writing

/-!
What a commit step reports. The payloads of a step follow from its command and from what the device
answered: the three results of a validation come together or not at all, the fences of a frame come
last and only for a frame that was committed, and a step that fails leaves one error. Nothing here
depends on the registry, so a device may do to it what it likes in the middle of a step.
-/

namespace Scanout

/-- The device fails a call that a validation cannot do without. -/
inductive Exchange.Spoils (display : DisplayId) : Exchange → Status → Prop where
  | changedCount (status : Status) :
      Spoils display ⟨.device (.changedCompositionCount display), Except.error status⟩ status
  | changedFill (room : Nat) (status : Status) :
      Spoils display ⟨.device (.changedCompositions display room), Except.error status⟩ status
  | requestCount (status : Status) :
      Spoils display ⟨.device (.layerRequestCount display), Except.error status⟩ status
  | property (status : Status) :
      Spoils display ⟨.device (.targetProperty display), Except.error status⟩ status

/-- The device fails to give the release fences of a frame. -/
inductive Exchange.Withholds (display : DisplayId) : Exchange → Status → Prop where
  | count (status : Status) :
      Withholds display ⟨.device (.releaseFenceCount display), Except.error status⟩ status
  | fill (room : Nat) (status : Status) :
      Withholds display ⟨.device (.releaseFences display room), Except.error status⟩ status

def validationPayloads (display : DisplayId) (changed : List ChangedLayer) (mask : Flags)
    (requests : List LayerRequest) (property : TargetProperty) : List Payload :=
  [.changedCompositions display changed, .displayRequest display mask requests,
    .targetProperty display property clientTargetBrightness .none]

/-- How the results of a validation are collected: all of them are written, or one of the calls
that they need has failed and none is. -/
inductive Collection (display : DisplayId) (exchanges : List Exchange) :
    Except Status Unit → List Payload → Prop where
  | complete (changed : List ChangedLayer) (mask : Flags) (requests : List LayerRequest)
      (property : TargetProperty)
      (whole : ∀ exchange ∈ exchanges, ∀ status, ¬exchange.Spoils display status) :
      Collection display exchanges (.ok ())
        (validationPayloads display changed mask requests property)
  | broken {status : Status} (spoiled : ∃ exchange ∈ exchanges, exchange.Spoils display status) :
      Collection display exchanges (.error status) []

/-- The fences of a frame: its present fence, if it has one, with the release fences, or neither
where the device does not give the release fences. -/
inductive FenceGroup (display : DisplayId) (presentFence : Option Fence)
    (exchanges : List Exchange) : List Payload → Prop where
  | given (releases : List (LayerId × Fence))
      (whole : ∀ exchange ∈ exchanges, ∀ status, ¬exchange.Withholds display status) :
      FenceGroup display presentFence exchanges
        ((presentFence.map (.presentFence display)).toList ++ [.releaseFences display releases])
  | withheld {status : Status} (spoiled : ∃ exchange ∈ exchanges, exchange.Withholds display status) :
      FenceGroup display presentFence exchanges []

/-- The payloads of a commit step, by its command and what it exchanged with the device. -/
inductive CommitPayloads (display : DisplayId) (entry : Nat) :
    CommitCommand → List Exchange → List Payload → Prop where
  | invalid (status : Status) :
      CommitPayloads display entry .validate
        [⟨.device (.commitOrPrepare display true), Except.error status⟩] [.error entry status]
  | validated (outcome : CommitOutcome) {queries result payloads}
      (collected : Collection display queries result payloads) :
      CommitPayloads display entry .validate
        (⟨.device (.commitOrPrepare display true), Except.ok outcome⟩ :: queries)
        (payloads ++ errorsOf entry result)
  | accepted {exchanges} (result : Except Status Unit)
      (asked : exchanges = [] ∨ ∃ answer, exchanges = [⟨.device (.acceptChanges display), answer⟩]) :
      CommitPayloads display entry .acceptChanges exchanges (errorsOf entry result)
  | notPresented (status : Status) :
      CommitPayloads display entry .present
        [⟨.device (.present display), Except.error status⟩] [.error entry status]
  | presented (fence : Option Fence) {queries payloads}
      (fences : FenceGroup display fence queries payloads) :
      CommitPayloads display entry .present
        (⟨.device (.present display), Except.ok fence⟩ :: queries) payloads
  | notCommitted (status : Status) :
      CommitPayloads display entry .presentOrValidate
        [⟨.device (.commitOrPrepare display false), Except.error status⟩] [.error entry status]
  | needsCommit (outcome : CommitOutcome) (needed : outcome.needsCommit = true) {queries payloads}
      (collected : Collection display queries (.ok ()) payloads) :
      CommitPayloads display entry .presentOrValidate
        (⟨.device (.commitOrPrepare display false), Except.ok outcome⟩ :: queries)
        (payloads ++ [.presentOutcome display .validated])
  | notValidated (outcome : CommitOutcome) (needed : outcome.needsCommit = true) {queries status}
      (broken : Collection display queries (.error status) []) :
      CommitPayloads display entry .presentOrValidate
        (⟨.device (.commitOrPrepare display false), Except.ok outcome⟩ :: queries)
        [.error entry status]
  | committedWithChanges (outcome : CommitOutcome) (done : outcome.needsCommit = false)
      (changes : outcome.hasChanges = true) {queries accepting waits result payloads fences}
      (collected : Collection display queries result payloads)
      (asked : match result with
        | .ok () => ∃ answer, accepting = [⟨.device (.acceptChanges display), answer⟩]
        | .error _ => accepting = [])
      (group : FenceGroup display outcome.presentFence waits fences) :
      CommitPayloads display entry .presentOrValidate
        (⟨.device (.commitOrPrepare display false), Except.ok outcome⟩ ::
          (queries ++ accepting ++ waits))
        (payloads ++ [.presentOutcome display .validatedWithChanges] ++ fences)
  | committed (outcome : CommitOutcome) (done : outcome.needsCommit = false)
      (unchanged : outcome.hasChanges = false) {waits fences}
      (group : FenceGroup display outcome.presentFence waits fences) :
      CommitPayloads display entry .presentOrValidate
        (⟨.device (.commitOrPrepare display false), Except.ok outcome⟩ :: waits)
        (.presentOutcome display .presented :: fences)

/-- The present time goes to the device ahead of a step that validates, if one is given. -/
inductive ForwardsTime (display : DisplayId) (entry : Nat) :
    CommitCommand → Option Int → List Exchange → List Payload → Prop where
  | unset (command : CommitCommand) : ForwardsTime display entry command none [] []
  | unused (command : CommitCommand) (time : Option Int)
      (plain : command = .acceptChanges ∨ command = .present) :
      ForwardsTime display entry command time [] []
  | told (command : CommitCommand) (time : Int) (answer : Except Status Unit)
      (validates : command = .validate ∨ command = .presentOrValidate) :
      ForwardsTime display entry command (some time)
        [⟨.device (.setDisplay display (.expectedPresentTime time.toNat)), answer⟩]
        (errorsOf entry answer)

section Queries

variable {β γ : Type} {fails : Exchange → Status → Prop} {display : DisplayId} {engine : Engine}
  {before : Registry}

/-- No exchange has failed, or one has failed with the status of the result. -/
def ToldBy (fails : Exchange → Status → Prop) (exchanges : List Exchange) :
    Except Status β → Prop
  | .ok _ => ∀ exchange ∈ exchanges, ∀ status, ¬fails exchange status
  | .error status => ∃ exchange ∈ exchanges, fails exchange status

abbrev Anything (_ _ : Registry) : Prop := True

/-- The action asks without writing, and fails exactly if one of its exchanges does. -/
def EngineAction.Queries (fails : Exchange → Status → Prop)
    (action : EngineAction (Except Status β)) : Prop :=
  ∀ engine before, action.Ensures Anything engine before fun exchanges payloads result _ =>
    payloads = [] ∧ ToldBy fails exchanges result

namespace EngineAction

/-- After a query, what it asked adds to what is asked further. -/
theorem Queries.ensures {first : EngineAction (Except Status β)}
    {next : Except Status β → EngineAction γ}
    {last : List Exchange → List Payload → γ → Registry → Prop} (queries : first.Queries fails)
    (broken : ∀ exchanges status middle, ToldBy fails exchanges (.error status : Except Status β) →
      (next (.error status)).Ensures Anything engine middle fun rest => last (exchanges ++ rest))
    (whole : ∀ exchanges value middle, ToldBy fails exchanges (.ok value : Except Status β) →
      (next (.ok value)).Ensures Anything engine middle fun rest => last (exchanges ++ rest)) :
    (first >>= next).Ensures Anything engine before last := by
  refine .bind ((queries engine before).imp ?_)
  rintro exchanges payloads (status | value) middle ⟨rfl, told⟩
  · simpa using broken exchanges status middle told
  · simpa using whole exchanges value middle told

theorem Queries.pure (value : β) : (pure (.ok value) : EngineAction (Except Status β)).Queries fails :=
  fun _ _ => .pure ⟨rfl, fun _ member => absurd member List.not_mem_nil⟩

theorem Queries.chain {first : EngineAction (Except Status β)}
    {next : Except Status β → EngineAction (Except Status γ)} (queries : first.Queries fails)
    (stops : ∀ status, next (.error status) = Pure.pure (.error status))
    (further : ∀ value, (next (.ok value)).Queries fails) : (first >>= next).Queries fails := by
  intro engine before
  refine queries.ensures ?_ ?_
  · intro exchanges status middle told
    rw [stops]
    refine .pure ⟨rfl, ?_⟩
    rwa [List.append_nil]
  · intro exchanges value middle told
    refine (further value engine middle).imp ?_
    rintro rest payloads (status | result) after ⟨written, toldRest⟩
    · obtain ⟨exchange, member, failed⟩ := toldRest
      exact ⟨written, exchange, List.mem_append_right _ member, failed⟩
    · refine ⟨written, fun exchange member => ?_⟩
      rcases List.mem_append.mp member with earlier | later
      · exact told exchange earlier
      · exact toldRest exchange later

/-- A single call is a query, if it fails as its answer says. -/
theorem Queries.of_call {action : EngineAction (Except Status β)}
    (sent : Except Status β → Exchange)
    (calls : ∀ engine before (post : List Exchange → List Payload → Except Status β →
      Registry → Prop), (∀ reply after, post [sent reply] [] reply after) →
        action.Ensures Anything engine before post)
    (failed : ∀ status, fails (sent (.error status)) status)
    (answered : ∀ value status, ¬fails (sent (.ok value)) status) : action.Queries fails := by
  intro engine before
  refine calls engine before _ fun reply after => ⟨rfl, ?_⟩
  cases reply with
  | error status => exact ⟨_, List.mem_singleton_self _, failed status⟩
  | ok value =>
      intro exchange member status
      rw [List.mem_singleton.mp member]
      exact answered value status

theorem Queries.querySized {α : Type} [Inhabited α] {count : EngineAction (Except Status Nat)}
    {fill : Nat → EngineAction (Except Status (Filled α))} (counts : count.Queries fails)
    (fills : ∀ room, (fill room).Queries fails) :
    (Scanout.querySized count fill).Queries fails := by
  refine .chain counts (fun _ => rfl) fun room => ?_
  match room with
  | 0 => exact .pure []
  | room + 1 => exact .chain (fills (room + 1)) (fun _ => rfl) fun filled => .pure _

end EngineAction

open EngineAction

theorem queries_changed :
    (querySized (call (.changedCompositionCount display))
      fun room => call (.changedCompositions display room)).Queries (Exchange.Spoils display) := by
  have counts : (call (.changedCompositionCount display)).Queries (Exchange.Spoils display) :=
    .of_call (fun reply => ⟨.device (.changedCompositionCount display), reply⟩)
      (fun _ _ post holds => @Ensures.call _ _ _ (.changedCompositionCount display) post fun reply after _ =>
        holds reply after) .changedCount nofun
  have fills (room : Nat) :
      (call (.changedCompositions display room)).Queries (Exchange.Spoils display) :=
    .of_call (fun reply => ⟨.device (.changedCompositions display room), reply⟩)
      (fun _ _ post holds => @Ensures.call _ _ _ (.changedCompositions display room) post fun reply after _ =>
        holds reply after) (.changedFill room) nofun
  exact .querySized counts fills

theorem queries_property :
    (call (.targetProperty display)).Queries (Exchange.Spoils display) :=
  .of_call (fun reply => ⟨.device (.targetProperty display), reply⟩)
    (fun _ _ post holds => @Ensures.call _ _ _ (.targetProperty display) post fun reply after _ =>
      holds reply after) .property nofun

theorem queries_fences :
    (querySized (call (.releaseFenceCount display))
      fun room => call (.releaseFences display room)).Queries (Exchange.Withholds display) := by
  have counts : (call (.releaseFenceCount display)).Queries (Exchange.Withholds display) :=
    .of_call (fun reply => ⟨.device (.releaseFenceCount display), reply⟩)
      (fun _ _ post holds => @Ensures.call _ _ _ (.releaseFenceCount display) post fun reply after _ =>
        holds reply after) .count nofun
  have fills (room : Nat) :
      (call (.releaseFences display room)).Queries (Exchange.Withholds display) :=
    .of_call (fun reply => ⟨.device (.releaseFences display room), reply⟩)
      (fun _ _ post holds => @Ensures.call _ _ _ (.releaseFences display room) post fun reply after _ =>
        holds reply after) (.fill room) nofun
  exact .querySized counts fills

/-- A failure to fill in the requests spoils nothing: there are none then. -/
theorem queries_requests : (collectRequests display).Queries (Exchange.Spoils display) := by
  have counts : (call (.layerRequestCount display)).Queries (Exchange.Spoils display) :=
    .of_call (fun reply => ⟨.device (.layerRequestCount display), reply⟩)
      (fun _ _ post holds => @Ensures.call _ _ _ (.layerRequestCount display) post fun reply after _ =>
        holds reply after) .requestCount nofun
  refine .chain counts (fun _ => rfl) fun (mask, room) => ?_
  match room with
  | 0 => exact .pure (mask, [])
  | room + 1 =>
      intro engine before
      refine .bind (.call fun reply after _ => ?_)
      have unspoiled : ∀ exchange ∈ ([⟨.device (.layerRequests display (room + 1)), reply⟩] :
          List Exchange) ++ [], ∀ status, ¬exchange.Spoils display status := by
        intro exchange member status
        rw [List.append_nil] at member
        rw [List.mem_singleton.mp member]
        nofun
      cases reply with
      | error status => exact .pure ⟨rfl, unspoiled⟩
      | ok filled => exact .pure ⟨rfl, unspoiled⟩

theorem collectValidation_ensures (hasChanges : Bool) :
    (collectValidation display hasChanges).Ensures Anything engine before
      fun exchanges payloads result _ => Collection display exchanges result payloads := by
  refine queries_changed.ensures (fun exchanges status middle told => ?_) ?_
  · obtain ⟨exchange, member, spoiled⟩ := told
    exact .pure (.broken ⟨exchange, by simp [member], spoiled⟩)
  intro first changed middle wholeFirst
  refine queries_requests.ensures (fun exchanges status middle told => ?_) ?_
  · obtain ⟨exchange, member, spoiled⟩ := told
    exact .pure (.broken ⟨exchange, by simp [member], spoiled⟩)
  intro second requests middle wholeSecond
  obtain ⟨mask, requests⟩ := requests
  refine queries_property.ensures (fun exchanges status middle told => ?_) ?_
  · obtain ⟨exchange, member, spoiled⟩ := told
    exact .pure (.broken ⟨exchange, by simp [member], spoiled⟩)
  intro third property middle wholeThird
  refine .bind (.write (.bind (.write (.bind (.write (.bind (.track (.pure ?_))))))))
  refine .complete changed mask requests property fun exchange member => ?_
  simp only [List.append_nil, List.mem_append] at member
  rcases member with member | member | member
  · exact wholeFirst exchange member
  · exact wholeSecond exchange member
  · exact wholeThird exchange member

theorem ensures_writePresentFence (fence : Option Fence) :
    (EngineAction.write (·.writePresentFence display fence)).Ensures Anything engine before
      fun exchanges payloads _ _ =>
        exchanges = [] ∧ payloads = (fence.map (.presentFence display)).toList := by
  cases fence with
  | none => exact .pure ⟨rfl, rfl⟩
  | some fence => exact .write ⟨rfl, rfl⟩

theorem finishPresent_ensures (fence : Option Fence) :
    (finishPresent display fence).Ensures Anything engine before
      fun exchanges payloads _ _ => FenceGroup display fence exchanges payloads := by
  refine .bind (.track (queries_fences.ensures ?_ ?_))
  · intro exchanges status middle told
    obtain ⟨exchange, member, withheld⟩ := told
    exact .pure (.withheld ⟨exchange, by simp [member], withheld⟩)
  · intro exchanges fences middle told
    refine .bind ((ensures_writePresentFence fence).imp ?_)
    rintro _ _ _ after ⟨rfl, rfl⟩
    refine .write ?_
    refine .given _ fun exchange member => told exchange ?_
    simpa using member

end Queries

section Steps

open EngineAction

variable {display : DisplayId} {engine : Engine} {before : Registry}

/-- Whatever a step has written, recording its result adds the error, if it is one. -/
theorem ensures_recorded {action : EngineAction (Except Status Unit)} {command : CommitCommand}
    (ensured : action.Ensures Anything engine before fun exchanges payloads result _ =>
      CommitPayloads display engine.entry command exchanges
        (payloads ++ errorsOf engine.entry result)) :
    (action >>= record).Ensures Anything engine before fun exchanges payloads _ _ =>
      CommitPayloads display engine.entry command exchanges payloads := by
  refine .bind (ensured.imp ?_)
  intro exchanges payloads result after holds
  refine .record ?_
  rwa [List.append_nil]

theorem validate_ensures :
    (validate display).Ensures Anything engine before fun exchanges payloads result _ =>
      CommitPayloads display engine.entry .validate exchanges
        (payloads ++ errorsOf engine.entry result) := by
  refine .bind (.track (.bind (.call fun reply after _ => ?_)))
  cases reply with
  | error status => exact .bind (.track (.pure (.invalid status)))
  | ok outcome =>
      refine .bind ((collectValidation_ensures outcome.hasChanges).imp ?_)
      rintro exchanges payloads (status | ⟨⟩) middle collected
      · refine .bind (.track (.pure ?_))
        simpa using CommitPayloads.validated outcome collected
      · refine .pure ?_
        simpa using CommitPayloads.validated outcome collected

theorem acceptChanges_ensures :
    (acceptChanges display).Ensures Anything engine before fun exchanges payloads result _ =>
      CommitPayloads display engine.entry .acceptChanges exchanges
        (payloads ++ errorsOf engine.entry result) := by
  have unasked (result : Except Status Unit) :
      CommitPayloads display engine.entry .acceptChanges [] ([] ++ errorsOf engine.entry result) :=
    .accepted result (.inl rfl)
  refine .registry ?_
  cases before.commitTracker display with
  | error status => exact .pure (unasked _)
  | ok tracker =>
      obtain ⟨state, pendingChanges⟩ := tracker
      cases pendingChanges with
      | false => exact .pure (unasked _)
      | true =>
          refine .bind (.call fun reply after _ => ?_)
          have asked (result : Except Status Unit) :
              CommitPayloads display engine.entry .acceptChanges
                [⟨.device (.acceptChanges display), reply⟩] ([] ++ errorsOf engine.entry result) :=
            .accepted result (.inr ⟨reply, rfl⟩)
          rcases reply with status | ⟨⟩
          · exact .pure (asked _)
          · exact .retrack (fun _ _ => asked _) fun _ _ => asked _

theorem present_ensures :
    (present display).Ensures Anything engine before fun exchanges payloads result _ =>
      CommitPayloads display engine.entry .present exchanges
        (payloads ++ errorsOf engine.entry result) := by
  refine .bind (.track (.bind (.call fun reply after _ => ?_)))
  cases reply with
  | error status => exact .bind (.track (.pure (.notPresented status)))
  | ok fence =>
      refine .bind ((finishPresent_ensures fence).imp ?_)
      intro exchanges payloads _ middle fences
      refine .pure ?_
      simpa [errorsOf] using CommitPayloads.presented fence fences

theorem presentOrValidate_ensures :
    (presentOrValidate display).Ensures Anything engine before fun exchanges payloads _ _ =>
      CommitPayloads display engine.entry .presentOrValidate exchanges payloads := by
  refine .bind (.track (.bind (.call fun reply after _ => ?_)))
  match reply with
  | .error status => exact .bind (.track (.record (.notCommitted status)))
  | .ok ⟨hasChanges, true, presentFence⟩ =>
      refine .bind ((collectValidation_ensures hasChanges).imp ?_)
      rintro exchanges payloads (status | ⟨⟩) middle collected
      · cases collected with
        | broken spoiled =>
            refine .bind (.track (.record ?_))
            simpa [errorsOf] using CommitPayloads.notValidated ⟨hasChanges, true, presentFence⟩ rfl
              (.broken spoiled)
      · refine .write ?_
        simpa using CommitPayloads.needsCommit ⟨hasChanges, true, presentFence⟩ rfl collected
  | .ok ⟨true, false, presentFence⟩ =>
      refine .bind ((collectValidation_ensures true).imp ?_)
      rintro exchanges payloads (status | ⟨⟩) middle collected
      · refine .bind (.write ((finishPresent_ensures presentFence).imp ?_))
        intro waits fences _ final group
        simpa using CommitPayloads.committedWithChanges ⟨true, false, presentFence⟩ rfl rfl
          collected rfl group
      · refine .bind (.call fun answer after _ => .bind (.write ?_))
        refine (finishPresent_ensures presentFence).imp ?_
        intro waits fences _ final group
        simpa using CommitPayloads.committedWithChanges ⟨true, false, presentFence⟩ rfl rfl
          collected ⟨answer, rfl⟩ group
  | .ok ⟨false, false, presentFence⟩ =>
      refine .bind (.write ((finishPresent_ensures presentFence).imp ?_))
      intro waits fences _ final group
      simpa using CommitPayloads.committed ⟨false, false, presentFence⟩ rfl rfl group

theorem forwardPresentTime_ensures {command : CommitCommand} (time : Option Int)
    (validates : command = .validate ∨ command = .presentOrValidate) :
    (forwardPresentTime display time).Ensures Anything engine before fun exchanges payloads _ _ =>
      ForwardsTime display engine.entry command time exchanges payloads := by
  cases time with
  | none => exact .pure (.unset command)
  | some time => exact .bind (.call fun answer after _ => .record (.told command time answer
      validates))

/-- A commit appends the payloads of its step, after the error of the present time if that could not
be set. -/
theorem commit_ensures (command : CommitCommand) (time : Option Int) :
    (commit display command time).Ensures Anything engine before fun exchanges payloads _ _ =>
      ∃ earlier own lead step, exchanges = earlier ++ own ∧ payloads = lead ++ step ∧
        ForwardsTime display engine.entry command time earlier lead ∧
          CommitPayloads display engine.entry command own step := by
  cases command with
  | validate =>
      refine .bind ((forwardPresentTime_ensures time (.inl rfl)).imp ?_)
      intro earlier lead _ middle forwards
      refine (ensures_recorded validate_ensures).imp ?_
      intro own step _ after holds
      exact ⟨earlier, own, lead, step, rfl, rfl, forwards, holds⟩
  | acceptChanges =>
      refine (ensures_recorded acceptChanges_ensures).imp ?_
      intro own step _ after holds
      exact ⟨[], own, [], step, rfl, rfl, .unused _ time (.inl rfl), holds⟩
  | present =>
      refine (ensures_recorded present_ensures).imp ?_
      intro own step _ after holds
      exact ⟨[], own, [], step, rfl, rfl, .unused _ time (.inr rfl), holds⟩
  | presentOrValidate =>
      refine .bind ((forwardPresentTime_ensures time (.inr rfl)).imp ?_)
      intro earlier lead _ middle forwards
      refine presentOrValidate_ensures.imp ?_
      intro own step _ after holds
      exact ⟨earlier, own, lead, step, rfl, rfl, forwards, holds⟩

end Steps

/-- The payload protocol of a commit, whatever display it is for, whatever its tracker holds and
whatever the surroundings do. -/
theorem Registry.commit_payloads (registry : Registry) (surroundings : Surroundings Registry)
    (engine : Engine) (display : DisplayId) (command : CommitCommand) (time : Option Int) :
    let performance :=
      Action.perform ((commit display command time).run engine) surroundings registry
    ∃ earlier own lead step, performance.exchanges = earlier ++ own ∧
      performance.value.2 = engine.append (lead ++ step) ∧
        ForwardsTime display engine.entry command time earlier lead ∧
          CommitPayloads display engine.entry command own step := by
  intro performance
  have ended : (((commit display command time).run engine).start registry).Ends Anything
      performance.exchanges performance.value performance.state :=
    Action.perform_ends (fun _ _ _ => trivial) _ registry
  obtain ⟨payloads, written, earlier, own, lead, step, rest⟩ :=
    commit_ensures command time _ _ _ ended
  obtain ⟨exchanged, rfl, forwards, holds⟩ := rest
  exact ⟨earlier, own, lead, step, exchanged, written, forwards, holds⟩

end Scanout
