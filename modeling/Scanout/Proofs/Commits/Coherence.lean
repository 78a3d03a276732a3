import Scanout.Proofs.Commits.History

/-!
How the state of a tracker goes together with its pending changes. A validation that reports changes
brings both about, and what settles the changes moves the state on as well. Only a presentation that
the device withholds parts the two: the display is idle again, and the changes of the validation
before it can still be accepted.
-/

namespace Scanout

namespace CommitEvent

/-- The device was asked to present the frame and would not. -/
def Withholds (display : DisplayId) (event : CommitEvent) : Prop :=
  event.command = .present ∧
    ∃ status, event.exchanges = [⟨.device (.present display), Except.error status⟩]

theorem not_withholds {display : DisplayId} {command : CommitCommand} {exchanges : List Exchange}
    (other : command ≠ .present) : ¬(CommitEvent.mk command exchanges).Withholds display :=
  fun withholds => other withholds.1

end CommitEvent

/-- The device withheld a frame while changes were pending, and since then no validation has reported
changes and nothing has settled those. -/
def ChangesWithheld (display : DisplayId) (events : List CommitEvent) : Prop :=
  ∃ earlier event later, events = earlier ++ event :: later ∧ ChangesPending display earlier ∧
    event.Withholds display ∧
    ∀ other ∈ later, ¬other.ReportsChanges display ∧ ¬other.Settles display

@[simp] theorem not_changesWithheld_nil {display : DisplayId} : ¬ChangesWithheld display [] := by
  rintro ⟨earlier, event, later, split, -⟩
  simp at split

theorem changesWithheld_append_singleton {display : DisplayId} {events : List CommitEvent}
    {event : CommitEvent} :
    ChangesWithheld display (events ++ [event]) ↔
      ChangesPending display events ∧ event.Withholds display ∨
        ChangesWithheld display events ∧ ¬event.ReportsChanges display ∧
          ¬event.Settles display := by
  constructor
  · rintro ⟨earlier, first, later, split, pending, withholds, kept⟩
    rcases split_append_singleton split with ⟨rfl, rfl, rfl⟩ | ⟨between, rfl, rfl⟩
    · exact .inl ⟨pending, withholds⟩
    · have before : ∀ other ∈ between, ¬other.ReportsChanges display ∧ ¬other.Settles display :=
        fun other member => kept other (List.mem_append_left _ member)
      exact .inr ⟨⟨earlier, first, between, rfl, pending, withholds, before⟩, kept event (by simp)⟩
  · rintro (⟨pending, withholds⟩ | ⟨withheld, plain⟩)
    · exact ⟨events, event, [], rfl, pending, withholds, by simp⟩
    · obtain ⟨earlier, first, later, rfl, pending, withholds, kept⟩ := withheld
      refine ⟨earlier, first, later ++ [event], by simp, pending, withholds, ?_⟩
      intro other member
      cases List.mem_append.mp member with
      | inl before => exact kept other before
      | inr last => exact List.mem_singleton.mp last ▸ plain

namespace CommitTracker

/-- Changes are pending that the state does not show. -/
def Parted (tracker : CommitTracker) : Prop :=
  tracker.pendingChanges = true ∧ tracker.state ≠ .validatedWithChanges

/-- Only an idle display has changes pending that its state does not show. -/
structure Regular (tracker : CommitTracker) : Prop where
  shown : tracker.state = .validatedWithChanges → tracker.pendingChanges = true
  idle : tracker.Parted → tracker.state = .idle

theorem not_parted_validated (tracker : CommitTracker) (pending : Bool) :
    ¬(tracker.validated pending).Parted := by
  unfold validated Parted
  cases pending <;> simp

theorem Regular.pending_iff {tracker : CommitTracker} (regular : tracker.Regular) :
    tracker.pendingChanges = true ↔ tracker.state = .validatedWithChanges ∨ tracker.Parted := by
  constructor
  · intro pending
    by_cases shown : tracker.state = .validatedWithChanges
    · exact .inl shown
    · exact .inr ⟨pending, shown⟩
  · rintro (shown | parted)
    · exact regular.shown shown
    · exact parted.1

end CommitTracker

namespace CommitTurn

open CommitEvent

variable {display : DisplayId} {tracker reached : CommitTracker} {command : CommitCommand}
  {exchanges : List Exchange}

/-- Whatever attempts to commit is no presentation. -/
theorem ne_present {validateOnly : Bool} (asks : command.validateOnly? = some validateOnly) :
    command ≠ .present := by
  rintro rfl
  cases asks

/-- A frame that is withheld parts what was pending from the state, and what reports or settles
changes brings them together. -/
theorem parted_iff (turn : CommitTurn display tracker command exchanges reached) :
    reached.Parted ↔
      tracker.pendingChanges = true ∧ (CommitEvent.mk command exchanges).Withholds display ∨
        tracker.Parted ∧ ¬(CommitEvent.mk command exchanges).ReportsChanges display ∧
          ¬(CommitEvent.mk command exchanges).Settles display := by
  have unaccepting : CommitCommand.acceptChanges.validateOnly? = none := rfl
  have unpresenting : CommitCommand.present.validateOnly? = none := rfl
  have different : CommitCommand.acceptChanges ≠ .present := nofun
  cases turn with
  | refused asks timed status =>
      simp [CommitTracker.Parted, not_withholds (ne_present asks), settles_attempted asks timed]
  | validated asks timed outcome needed uncommitted collects =>
      -- What was collected as a whole either reports changes or settles them.
      cases collects with
      | whole changed whole listed =>
          simp [CommitTracker.not_parted_validated, not_withholds (ne_present asks),
            reportsChanges_attempted asks timed uncommitted,
            settles_attempted asks timed uncommitted, whole, needed]
          grind
  | invalid asks timed outcome needed uncommitted incomplete =>
      simp [CommitTracker.Parted, not_withholds (ne_present asks),
        settles_attempted asks timed uncommitted, incomplete, needed]
  | committed timed outcome done uncommitted =>
      have asks : CommitCommand.presentOrValidate.validateOnly? = some false := rfl
      simp [CommitTracker.Parted, not_withholds (ne_present asks),
        settles_attempted asks timed uncommitted, done]
  | unasked settled =>
      simp [CommitTracker.Parted, not_withholds different, settled]
  | declined pending status =>
      simp [CommitTracker.Parted, not_withholds different, not_reportsChanges unaccepting,
        settles_unattempted unaccepting, pending, Accepts, Presents, Attempts]
  | accepted pending =>
      simp [CommitTracker.Parted, CommitTracker.validated, not_withholds different,
        settles_unattempted unaccepting, Accepts]
  | withheld status =>
      simp [CommitTracker.Parted, CommitTracker.enter, Withholds]
      grind
  | presented fence waits =>
      simp [CommitTracker.Parted, settles_unattempted unpresenting, Presents, Withholds]

theorem regular (turn : CommitTurn display tracker command exchanges reached)
    (regular : tracker.Regular) : reached.Regular := by
  cases turn with
  | validated asks timed outcome needed uncommitted collects =>
      cases collects with
      | whole changed whole listed =>
          refine ⟨?_, fun parted => absurd parted (CommitTracker.not_parted_validated _ _)⟩
          unfold CommitTracker.validated
          cases outcome.hasChanges || !changed.isEmpty <;> simp
  | unasked settled => exact regular
  | declined pending status => exact regular
  | withheld status => exact ⟨nofun, fun _ => rfl⟩
  | _ => exact ⟨nofun, fun parted => nomatch parted.1⟩

/-- An acceptance changes nothing unless changes are pending. -/
theorem accepts_pending (turn : CommitTurn display tracker .acceptChanges exchanges reached) :
    reached = tracker ∨ tracker.pendingChanges = true ∧ reached = { state := .validated } := by
  cases turn with
  | refused asks timed status => cases asks
  | validated asks timed outcome needed uncommitted collects => cases asks
  | invalid asks timed outcome needed uncommitted incomplete => cases asks
  | unasked settled => exact .inl rfl
  | declined pending status => exact .inl rfl
  | accepted pending => exact .inr ⟨pending, rfl⟩

/-- A display becomes validated by a validation without changes, or by an acceptance of those that
are pending. -/
theorem validates (turn : CommitTurn display tracker command exchanges reached)
    (validated : reached.state = .validated) :
    tracker.state = .validated ∨ (CommitEvent.mk command exchanges).ReportsNone display ∨
      (CommitEvent.mk command exchanges).Accepts display ∧ tracker.pendingChanges = true := by
  cases turn with
  | validated asks timed outcome needed uncommitted collects =>
      cases collects with
      | whole changed whole listed =>
          have none : (outcome.hasChanges || !changed.isEmpty) = false := by
            unfold CommitTracker.validated at validated
            cases reported : outcome.hasChanges || !changed.isEmpty
            · rfl
            · simp [reported] at validated
          refine .inr (.inl ⟨outcome, ?_, ?_, ?_, ?_⟩)
          · exact (validates_iff asks timed uncommitted).mpr ⟨rfl, needed⟩
          · exact (complete_attempted timed).mpr whole
          · exact (Bool.or_eq_false_iff.mp none).1
          · rw [listsChanges_attempted timed, listed]
            simpa using (Bool.or_eq_false_iff.mp none).2
  | unasked settled => exact .inl validated
  | declined pending status => exact .inl validated
  | accepted pending => exact .inr (.inr ⟨⟨rfl, List.mem_singleton_self _⟩, pending⟩)
  | _ => cases validated

end CommitTurn

section History

variable {display : DisplayId} {events : List CommitEvent} {registry : Registry}

theorem CommitHistory.parts (history : CommitHistory display events registry) :
    ∃ tracker, registry.Tracks display tracker ∧ tracker.Regular ∧
      (tracker.Parted ↔ ChangesWithheld display events) := by
  induction history with
  | added added =>
      exact ⟨{}, Registry.tracks_addDisplay added, ⟨nofun, fun parted => nomatch parted.1⟩,
        by simp [CommitTracker.Parted]⟩
  | elsewhere history kept ih =>
      obtain ⟨tracker, tracks, regular, parted⟩ := ih
      exact ⟨tracker, kept.trans tracks, regular, parted⟩
  | commit history command time ended ih =>
      obtain ⟨tracker, tracks, regular, parted⟩ := ih
      obtain ⟨same, remembered, -, pending⟩ := history.tracks
      obtain rfl : same = tracker := Except.ok.inj (remembered.symm.trans tracks)
      obtain ⟨-, -, reached, arrived, turn⟩ := moves_commit command time _ _ tracks _ _ _ ended
      refine ⟨reached, arrived, turn.regular regular, ?_⟩
      rw [turn.parted_iff, pending, parted]
      exact changesWithheld_append_singleton.symm

/-- Changes are pending if the state shows them, or if the device withheld a frame since they were
reported; then the display is idle. A command that accepts changes does nothing unless some are
pending, and no other than that leaves a display validated without a validation. -/
theorem CommitHistory.coherent_unless_withheld (history : CommitHistory display events registry) :
    ∃ tracker, registry.commitTracker display = .ok tracker ∧
      (tracker.pendingChanges = true ↔
        tracker.state = .validatedWithChanges ∨ ChangesWithheld display events) ∧
      (ChangesWithheld display events → tracker.state = .idle) ∧
      ∀ command time engine exchanges written after,
        (((Scanout.commit display command time).run engine).start registry).Ends
          (Registry.KeepsTracker display) exchanges ((), written) after →
        ∃ reached, after.commitTracker display = .ok reached ∧
          (command = .acceptChanges →
            reached = tracker ∨ tracker.pendingChanges = true ∧ reached = { state := .validated }) ∧
          (reached.state = .validated → tracker.state = .validated ∨
            (CommitEvent.mk command exchanges).ReportsNone display ∨
            (CommitEvent.mk command exchanges).Accepts display ∧
              tracker.pendingChanges = true) := by
  obtain ⟨tracker, tracks, regular, parted⟩ := history.parts
  refine ⟨tracker, tracks, ?_, fun withheld => regular.idle (parted.mpr withheld), ?_⟩
  · rw [regular.pending_iff, parted]
  · intro command time engine exchanges written after ended
    obtain ⟨-, -, reached, arrived, turn⟩ := moves_commit command time _ _ tracks _ _ _ ended
    refine ⟨reached, arrived, ?_, turn.validates⟩
    rintro rfl
    exact turn.accepts_pending

/-- The device reports changes and then withholds the frame. The display is idle with changes pending,
and accepting them makes it validated. -/
theorem CommitHistory.coherent_unless_withheld_accepted :
    ∃ events registry, CommitHistory ⟨0⟩ events registry ∧ ChangesWithheld ⟨0⟩ events ∧
      registry.commitTracker ⟨0⟩ = .ok { state := .idle, pendingChanges := true } ∧
      ∃ exchanges written after,
        (((Scanout.commit ⟨0⟩ .acceptChanges none).run {}).start registry).Ends
          (Registry.KeepsTracker ⟨0⟩) exchanges ((), written) after ∧
        after.commitTracker ⟨0⟩ = .ok { state := .validated } := by
  let device : SimulatedDevice := { script := { outcome := { hasChanges := true } } }
  let surroundings : Surroundings Registry := (device.replies fun
    | .present _ => true
    | _ => false).quiet
  let registry := ((∅ : Registry).addDisplay ⟨0⟩ false 1 0).2
  let perform (command : CommitCommand) (registry : Registry) :=
    Action.perform ((Scanout.commit ⟨0⟩ command none).run {}) surroundings registry
  let validated := perform .validate registry
  let withheld := perform .present validated.state
  let accepted := perform .acceptChanges withheld.state
  have ended (command : CommitCommand) (registry : Registry) :
      (((Scanout.commit ⟨0⟩ command none).run {}).start registry).Ends
        (Registry.KeepsTracker ⟨0⟩) (perform command registry).exchanges
        ((), (perform command registry).value.2) (perform command registry).state :=
    Action.perform_ends (fun _ _ _ => rfl) _ registry
  have present : (∅ : Registry).addDisplay ⟨0⟩ false 1 0 = (true, registry) := rfl
  have history := ((CommitHistory.added present).commit .validate none
    (ended .validate registry)).commit .present none (ended .present validated.state)
  have tracked : withheld.state.commitTracker ⟨0⟩ =
      .ok { state := .idle, pendingChanges := true } := by
    simp only [withheld, validated, perform]
    decide +kernel
  have settled : accepted.state.commitTracker ⟨0⟩ = .ok { state := .validated } := by
    simp only [accepted, withheld, validated, perform]
    decide +kernel
  obtain ⟨tracker, same, pending, -⟩ := history.coherent_unless_withheld
  obtain rfl : _ = tracker := Except.ok.inj (tracked.symm.trans same)
  have parted : ChangesWithheld ⟨0⟩ _ := (pending.mp rfl).resolve_left nofun
  exact ⟨_, withheld.state, history, parted, tracked, _, _, accepted.state,
    ended .acceptChanges withheld.state, settled⟩

end History
end Scanout
