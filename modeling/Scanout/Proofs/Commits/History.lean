import Scanout.Proofs.Commits.Tracking
import Scanout.Proofs.Outstanding

/-!
What the tracker of a display remembers of the commands that were committed on it. Changes are
pending if a validation reported some and nothing has settled them since: no validation without
changes or in vain, no acceptance, no presentation. Only then an acceptance turns to the device.
-/

namespace Scanout

open EngineAction

/-- A commit command that was executed, with all that it exchanged. -/
structure CommitEvent where
  command : CommitCommand
  exchanges : List Exchange

namespace CommitEvent

variable (display : DisplayId) (event : CommitEvent)

/-- The device answered the command's attempt to commit. -/
def Attempts (validateOnly : Bool) (answer : Except Status CommitOutcome) : Prop :=
  event.command.validateOnly? = some validateOnly ∧
    ⟨.device (.commitOrPrepare display validateOnly), answer⟩ ∈ event.exchanges

/-- The device validated the frame, and left it to be presented. -/
def Validates (outcome : CommitOutcome) : Prop :=
  ∃ validateOnly, event.Attempts display validateOnly (.ok outcome) ∧
    (validateOnly = true ∨ outcome.needsCommit = true)

/-- A validation was collected as a whole, and there are changes to accept. -/
def ReportsChanges : Prop :=
  ∃ outcome, event.Validates display outcome ∧ Complete display event.exchanges ∧
    (outcome.hasChanges = true ∨ ListsChanges display event.exchanges)

def ReportsNone : Prop :=
  ∃ outcome, event.Validates display outcome ∧ Complete display event.exchanges ∧
    outcome.hasChanges = false ∧ ¬ListsChanges display event.exchanges

/-- The device did not validate the frame, or the results could not be collected. -/
def FailsValidation : Prop :=
  (∃ validateOnly status, event.Attempts display validateOnly (.error status)) ∨
    ∃ outcome, event.Validates display outcome ∧ ¬Complete display event.exchanges

def Accepts : Prop :=
  event.command = .acceptChanges ∧
    ⟨.device (.acceptChanges display), Except.ok ()⟩ ∈ event.exchanges

/-- The device presented the frame, on demand or instead of a validation. -/
def Presents : Prop :=
  (event.command = .present ∧ ∃ fence : Option Fence,
    ⟨.device (.present display), Except.ok fence⟩ ∈ event.exchanges) ∨
  ∃ outcome, event.Attempts display false (.ok outcome) ∧ outcome.needsCommit = false

/-- The changes of an earlier validation are of no concern any more. -/
def Settles : Prop :=
  event.ReportsNone display ∨ event.FailsValidation display ∨ event.Accepts display ∨
    event.Presents display

end CommitEvent

/-- A validation reported changes, and nothing has settled them since. -/
def ChangesPending (display : DisplayId) (events : List CommitEvent) : Prop :=
  Outstanding (·.ReportsChanges display) (·.Settles display) events

/-- A state of a frame between commands. -/
def CommitState.Resting (state : CommitState) : Prop :=
  state = .idle ∨ state = .validated ∨ state = .validatedWithChanges ∨ state = .presented

/-- The display was added, and then these commands were committed on it, all in turn. Whatever else
is done, between commands or from inside the device's calls, leaves its tracker alone. -/
inductive CommitHistory (display : DisplayId) : List CommitEvent → Registry → Prop where
  | added {before after : Registry} {isVirtual clientTargetSlots outputSlots}
      (added : before.addDisplay display isVirtual clientTargetSlots outputSlots = (true, after)) :
      CommitHistory display [] after
  | elsewhere {events before after} (history : CommitHistory display events before)
      (kept : before.KeepsTracker display after) : CommitHistory display events after
  | commit {events before after engine exchanges written}
      (history : CommitHistory display events before) (command : CommitCommand) (time : Option Int)
      (ended : (((commit display command time).run engine).start before).Ends
        (Registry.KeepsTracker display) exchanges ((), written) after) :
      CommitHistory display (events ++ [⟨command, exchanges⟩]) after

namespace CommitEvent

section Attempted

variable {display : DisplayId} {command : CommitCommand} {validateOnly : Bool}
  {lead rest : List Exchange} {answer : Except Status CommitOutcome}

theorem complete_attempted (timed : ∀ exchange ∈ lead, exchange.Times display) :
    Complete display (lead ++ ⟨.device (.commitOrPrepare display validateOnly), answer⟩ :: rest) ↔
      Complete display rest := by
  have plain : Complete display lead := by
    intro exchange member status
    cases timed exchange member
    nofun
  simp [plain]
  nofun

theorem listsChanges_attempted (timed : ∀ exchange ∈ lead, exchange.Times display) :
    ListsChanges display
        (lead ++ ⟨.device (.commitOrPrepare display validateOnly), answer⟩ :: rest) ↔
      ListsChanges display rest := by
  have plain : ¬ListsChanges display lead := by
    rintro ⟨exchange, member, changes⟩
    cases timed exchange member
    cases changes
  simp [plain]
  nofun

variable (asks : command.validateOnly? = some validateOnly)
  (timed : ∀ exchange ∈ lead, exchange.Times display) (uncommitted : Uncommitted rest)

include asks timed uncommitted

/-- A command attempts to commit once. -/
theorem attempts_iff {only : Bool} {other : Except Status CommitOutcome} :
    (CommitEvent.mk command
        (lead ++ ⟨.device (.commitOrPrepare display validateOnly), answer⟩ :: rest)).Attempts
          display only other ↔ only = validateOnly ∧ other = answer := by
  have elsewhere (exchange : Exchange) (commits : exchange.Commits) :
      exchange ∉ lead ∧ exchange ∉ rest := by
    refine ⟨fun member => ?_, fun member => uncommitted exchange member commits⟩
    cases timed exchange member
    cases commits
  have absent := elsewhere _ (.mk display only other)
  simp only [Attempts, asks, List.mem_append, List.mem_cons, absent]
  constructor
  · rintro ⟨same, found⟩
    cases same
    simpa using found
  · rintro ⟨rfl, rfl⟩
    simp

theorem validates_iff {outcome : CommitOutcome} :
    (CommitEvent.mk command
        (lead ++ ⟨.device (.commitOrPrepare display validateOnly), answer⟩ :: rest)).Validates
          display outcome ↔
      .ok outcome = answer ∧ (validateOnly = true ∨ outcome.needsCommit = true) := by
  simp [Validates, attempts_iff asks timed uncommitted, and_assoc]

theorem reportsChanges_attempted :
    (CommitEvent.mk command
        (lead ++ ⟨.device (.commitOrPrepare display validateOnly), answer⟩ :: rest)).ReportsChanges
          display ↔
      ∃ outcome, .ok outcome = answer ∧ (validateOnly = true ∨ outcome.needsCommit = true) ∧
        Complete display rest ∧ (outcome.hasChanges = true ∨ ListsChanges display rest) := by
  simp [ReportsChanges, validates_iff asks timed uncommitted, complete_attempted timed,
    listsChanges_attempted timed, and_assoc]

theorem settles_attempted :
    (CommitEvent.mk command
        (lead ++ ⟨.device (.commitOrPrepare display validateOnly), answer⟩ :: rest)).Settles
          display ↔
      (∃ status, .error status = answer) ∨
      (∃ outcome, .ok outcome = answer ∧ (validateOnly = true ∨ outcome.needsCommit = true) ∧
        (Complete display rest → outcome.hasChanges = false ∧ ¬ListsChanges display rest)) ∨
      ∃ outcome, .ok outcome = answer ∧ validateOnly = false ∧ outcome.needsCommit = false := by
  have unaccepting : command ≠ .acceptChanges := by
    rintro rfl
    cases asks
  have unpresenting : command ≠ .present := by
    rintro rfl
    cases asks
  simp only [Settles, ReportsNone, FailsValidation, Accepts, Presents, unaccepting, unpresenting,
    attempts_iff asks timed uncommitted, validates_iff asks timed uncommitted,
    complete_attempted timed, listsChanges_attempted timed]
  cases answer with
  | error status => simp
  | ok outcome =>
      simp
      grind

end Attempted

section Unattempted

variable {display : DisplayId} {command : CommitCommand} {exchanges : List Exchange}
  (plain : command.validateOnly? = none)

include plain

theorem not_reportsChanges : ¬(CommitEvent.mk command exchanges).ReportsChanges display := by
  simp [ReportsChanges, Validates, Attempts, plain]

theorem settles_unattempted : (CommitEvent.mk command exchanges).Settles display ↔
    (CommitEvent.mk command exchanges).Accepts display ∨
      (CommitEvent.mk command exchanges).Presents display := by
  simp [Settles, ReportsNone, FailsValidation, Validates, Attempts, plain]

end Unattempted

end CommitEvent

open CommitEvent in
/-- A step that reports changes leaves them pending, one that settles them does not, and no other
step makes a difference. -/
theorem CommitTurn.pending_iff {display : DisplayId} {tracker reached : CommitTracker}
    {command : CommitCommand} {exchanges : List Exchange}
    (turn : CommitTurn display tracker command exchanges reached) :
    reached.pendingChanges = true ↔
      (CommitEvent.mk command exchanges).ReportsChanges display ∨
        tracker.pendingChanges = true ∧ ¬(CommitEvent.mk command exchanges).Settles display := by
  have unaccepting : CommitCommand.acceptChanges.validateOnly? = none := rfl
  have unpresenting : CommitCommand.present.validateOnly? = none := rfl
  cases turn with
  | refused asks timed status =>
      simp [reportsChanges_attempted asks timed, settles_attempted asks timed]
  | validated asks timed outcome needed uncommitted collects =>
      cases collects with
      | whole changed whole listed =>
          have changes : (changed.isEmpty = false) ↔ changed ≠ [] := by cases changed <;> simp
          simp [reportsChanges_attempted asks timed uncommitted,
            settles_attempted asks timed uncommitted, whole, listed, needed,
            CommitTracker.validated, changes]
          grind
  | invalid asks timed outcome needed uncommitted incomplete =>
      simp [reportsChanges_attempted asks timed uncommitted,
        settles_attempted asks timed uncommitted, incomplete, needed]
  | committed timed outcome done uncommitted =>
      have asks : CommitCommand.presentOrValidate.validateOnly? = some false := rfl
      simp [reportsChanges_attempted asks timed uncommitted,
        settles_attempted asks timed uncommitted, done]
  | unasked settled => simp [not_reportsChanges unaccepting, settled]
  | declined pending status =>
      simp [not_reportsChanges unaccepting, settles_unattempted unaccepting, pending, Accepts,
        Presents, Attempts]
  | accepted pending =>
      simp [not_reportsChanges unaccepting, settles_unattempted unaccepting, Accepts,
        CommitTracker.validated]
  | withheld status =>
      simp [not_reportsChanges unpresenting, settles_unattempted unpresenting, Accepts, Presents,
        Attempts, CommitTracker.enter]
  | presented fence waits =>
      simp [not_reportsChanges unpresenting, settles_unattempted unpresenting, Presents]

theorem CommitTurn.resting {display : DisplayId} {tracker reached : CommitTracker}
    {command : CommitCommand} {exchanges : List Exchange}
    (turn : CommitTurn display tracker command exchanges reached)
    (rests : tracker.state.Resting) : reached.state.Resting := by
  cases turn with
  | validated asks timed outcome needed uncommitted collects =>
      cases collects with
      | whole changed whole listed =>
          unfold CommitTracker.validated
          cases outcome.hasChanges || !changed.isEmpty <;> simp [CommitState.Resting]
  | unasked settled => exact rests
  | declined pending status => exact rests
  | _ => simp [CommitState.Resting, CommitTracker.validated, CommitTracker.enter]

section History

variable {display : DisplayId} {events : List CommitEvent} {registry : Registry}

theorem Registry.tracks_addDisplay {before after : Registry} {isVirtual : Bool}
    {clientTargetSlots outputSlots : Nat}
    (added : before.addDisplay display isVirtual clientTargetSlots outputSlots = (true, after)) :
    after.Tracks display {} := by
  unfold addDisplay at added
  cases present : before.contains display <;> simp [present] at added
  subst added
  simp [Tracks, commitTracker, Registry.display, putDisplay]
  rfl

/-- What the tracker remembers, as long as the display stays. -/
theorem CommitHistory.tracks (history : CommitHistory display events registry) :
    ∃ tracker, registry.Tracks display tracker ∧ tracker.state.Resting ∧
      (tracker.pendingChanges = true ↔ ChangesPending display events) := by
  induction history with
  | added added =>
      have fresh := Registry.tracks_addDisplay added
      exact ⟨{}, fresh, .inl rfl, by simp [ChangesPending]⟩
  | elsewhere history kept ih =>
      obtain ⟨tracker, tracks, rests, remembers⟩ := ih
      exact ⟨tracker, kept.trans tracks, rests, remembers⟩
  | commit history command time ended ih =>
      obtain ⟨tracker, tracks, rests, remembers⟩ := ih
      obtain ⟨payloads, -, reached, tracks, turn⟩ := moves_commit command time _ _ tracks _ _ _ ended
      refine ⟨reached, tracks, turn.resting rests, ?_⟩
      rw [turn.pending_iff, remembers]
      exact outstanding_append_singleton.symm

/-- Without changes to accept the device is not asked, and nothing is written. -/
theorem start_acceptChanges {tracker : CommitTracker} (tracks : registry.Tracks display tracker)
    (settled : tracker.pendingChanges = false) (time : Option Int) (engine : Engine) :
    ((commit display .acceptChanges time).run engine).start registry =
      .done ((), engine) registry := by
  obtain ⟨state, pendingChanges⟩ := tracker
  cases settled
  unfold commit acceptChanges
  rw [start_bind, start_registry, tracks]
  rfl

/-- The device is asked to accept changes exactly if some are pending. -/
theorem CommitTurn.asks_iff {tracker reached : CommitTracker} {exchanges : List Exchange}
    (turn : CommitTurn display tracker .acceptChanges exchanges reached) :
    (∃ answer : Except Status Unit, ⟨.device (.acceptChanges display), answer⟩ ∈ exchanges) ↔
      tracker.pendingChanges = true := by
  cases turn with
  | refused asks timed status => cases asks
  | validated asks timed outcome needed uncommitted collects => cases asks
  | invalid asks timed outcome needed uncommitted incomplete => cases asks
  | unasked settled => simp [settled]
  | declined pending status => simp [pending]
  | accepted pending => simp [pending]

/-- After every command of a history the tracker rests, and remembers exactly whether there are
changes that the client may accept. An acceptance turns to the device exactly then; otherwise, as
always between an accepted one and the next report of changes, it does nothing at all. -/
theorem CommitHistory.pending_changes (history : CommitHistory display events registry) :
    (∃ tracker, registry.commitTracker display = .ok tracker ∧ tracker.state.Resting ∧
      (tracker.pendingChanges = true ↔ ChangesPending display events)) ∧
    ∀ engine time exchanges written after,
      (((Scanout.commit display .acceptChanges time).run engine).start registry).Ends
        (Registry.KeepsTracker display) exchanges ((), written) after →
      ((∃ answer : Except Status Unit, ⟨.device (.acceptChanges display), answer⟩ ∈ exchanges) ↔
        ChangesPending display events) ∧
      (¬ChangesPending display events → exchanges = [] ∧ written = engine ∧ after = registry) ∧
      ∀ earlier accepted later, events = earlier ++ accepted :: later →
        accepted.Accepts display → (∀ event ∈ later, ¬event.ReportsChanges display) →
          exchanges = [] ∧ written = engine ∧ after = registry := by
  obtain ⟨tracker, tracks, rests, remembers⟩ := history.tracks
  refine ⟨⟨tracker, tracks, rests, remembers⟩, ?_⟩
  intro engine time exchanges written after ended
  obtain ⟨payloads, -, reached, -, turn⟩ :=
    moves_commit .acceptChanges time _ _ tracks _ _ _ ended
  have idle (settled : ¬ChangesPending display events) :
      exchanges = [] ∧ written = engine ∧ after = registry := by
    rw [← remembers, Bool.not_eq_true] at settled
    rw [start_acceptChanges tracks settled] at ended
    cases ended
    exact ⟨rfl, rfl, rfl⟩
  refine ⟨turn.asks_iff.trans remembers, idle, ?_⟩
  intro earlier accepted later split accepts silent
  obtain ⟨command, heard⟩ := accepted
  obtain ⟨same, accepts⟩ := accepts
  cases same
  have plain : CommitCommand.acceptChanges.validateOnly? = none := rfl
  have settles := (CommitEvent.settles_unattempted plain).mpr (.inl ⟨rfl, accepts⟩)
  apply idle
  rw [split]
  apply not_outstanding_of_settled settles
  simpa [CommitEvent.not_reportsChanges plain] using silent

/-- A validation that reports changes and an acceptance of them. Another acceptance does nothing. -/
theorem CommitHistory.pending_changes_accepted :
    ∃ validated accepted registry,
      CommitHistory ⟨0⟩ [⟨.validate, validated⟩, ⟨.acceptChanges, accepted⟩] registry ∧
        accepted = [⟨.device (.acceptChanges ⟨0⟩), Except.ok ()⟩] ∧
          ∀ exchanges written after,
            (((Scanout.commit ⟨0⟩ .acceptChanges none).run {}).start registry).Ends
              (Registry.KeepsTracker ⟨0⟩) exchanges ((), written) after →
            exchanges = [] ∧ written = {} ∧ after = registry := by
  let device : SimulatedDevice := { script := { outcome := { hasChanges := true } } }
  let surroundings : Surroundings Registry := (device.replies fun _ => false).quiet
  let registry := ((∅ : Registry).addDisplay ⟨0⟩ false 1 0).2
  let perform (command : CommitCommand) (registry : Registry) :=
    Action.perform ((Scanout.commit ⟨0⟩ command none).run {}) surroundings registry
  let validated := perform .validate registry
  let accepted := perform .acceptChanges validated.state
  have ended (command : CommitCommand) (registry : Registry) :
      (((Scanout.commit ⟨0⟩ command none).run {}).start registry).Ends
        (Registry.KeepsTracker ⟨0⟩) (perform command registry).exchanges
        ((), (perform command registry).value.2) (perform command registry).state :=
    Action.perform_ends (fun _ _ _ => rfl) _ registry
  have present : (∅ : Registry).addDisplay ⟨0⟩ false 1 0 = (true, registry) := rfl
  have history := ((CommitHistory.added present).commit .validate none
    (ended .validate registry)).commit .acceptChanges none (ended .acceptChanges validated.state)
  have asked : accepted.exchanges = [⟨.device (.acceptChanges ⟨0⟩), Except.ok ()⟩] := by cbv
  have accepts : (CommitEvent.mk .acceptChanges accepted.exchanges).Accepts ⟨0⟩ := by
    rw [asked]
    exact ⟨rfl, List.mem_singleton_self _⟩
  refine ⟨validated.exchanges, accepted.exchanges, accepted.state, history, asked, ?_⟩
  intro exchanges written after further
  obtain ⟨-, acceptances⟩ := history.pending_changes
  obtain ⟨-, -, idle⟩ := acceptances _ _ _ _ _ further
  exact idle [_] _ [] rfl accepts nofun

end History
end Scanout
