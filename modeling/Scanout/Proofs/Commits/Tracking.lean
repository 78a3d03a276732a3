import Scanout.Proofs.Commits.Payloads
import Scanout.Proofs.Registry

/-!
What a commit step makes of the tracker of its display, as long as the display stays. A validation
that is collected as a whole decides anew whether there are changes to accept; one that fails, an
acceptance and a presentation leave none.
-/

namespace Scanout

/-- How the command asks the device to commit, if it does: to validate only or to present at once
where it can. -/
def CommitCommand.validateOnly? : CommitCommand → Option Bool
  | validate => some true
  | presentOrValidate => some false
  | acceptChanges | present => none

namespace Exchange

/-- The device is asked to commit a frame. -/
inductive Commits : Exchange → Prop where
  | mk (display : DisplayId) (validateOnly : Bool) (answer : Except Status CommitOutcome) :
      Commits ⟨.device (.commitOrPrepare display validateOnly), answer⟩

theorem not_commits {call : DeviceCall} {reply : call.Reply}
    (other : ∀ display validateOnly, call ≠ .commitOrPrepare display validateOnly) :
    ¬Commits ⟨.device call, reply⟩ := by
  rintro ⟨display, validateOnly, answer⟩
  exact other display validateOnly rfl

/-- The device lists a layer whose composition it changed. -/
inductive Changes (display : DisplayId) : Exchange → Prop where
  | mk (room : Nat) (filled : Filled ChangedLayer) (listed : filled.entries room ≠ []) :
      Changes display ⟨.device (.changedCompositions display room), Except.ok filled⟩

theorem changes_iff {display : DisplayId} {room : Nat} {filled : Filled ChangedLayer} :
    Changes display ⟨.device (.changedCompositions display room), Except.ok filled⟩ ↔
      filled.entries room ≠ [] := by
  refine ⟨?_, .mk room filled⟩
  rintro ⟨_, _, listed⟩
  exact listed

/-- The device is told when the frame should be shown. -/
inductive Times (display : DisplayId) : Exchange → Prop where
  | mk (time : Nat) (answer : Except Status Unit) :
      Times display ⟨.device (.setDisplay display (.expectedPresentTime time)), answer⟩

end Exchange

/-- The device failed no call that a validation cannot do without. -/
def Complete (display : DisplayId) (exchanges : List Exchange) : Prop :=
  ∀ exchange ∈ exchanges, ∀ status, ¬exchange.Spoils display status

def ListsChanges (display : DisplayId) (exchanges : List Exchange) : Prop :=
  ∃ exchange ∈ exchanges, exchange.Changes display

/-- Among the exchanges is no attempt to commit. -/
def Uncommitted (exchanges : List Exchange) : Prop := ∀ exchange ∈ exchanges, ¬exchange.Commits

/-- What is exchanged to ask for a list in two calls, and what comes of it. -/
inductive Queried {α : Type} [Inhabited α] (count : Except Status Nat → Exchange)
    (fill : Nat → Except Status (Filled α) → Exchange) :
    List Exchange → Except Status (List α) → Prop where
  | uncounted (status : Status) : Queried count fill [count (.error status)] (.error status)
  | empty : Queried count fill [count (.ok 0)] (.ok [])
  | unfilled (room : Nat) (status : Status) :
      Queried count fill [count (.ok room), fill room (.error status)] (.error status)
  | filled (room : Nat) (filled : Filled α) :
      Queried count fill [count (.ok room), fill room (.ok filled)] (.ok (filled.entries room))

/-- How collecting the results of a validation ends, and the tracker it leaves. -/
inductive Collects (display : DisplayId) (hasChanges : Bool) (tracker : CommitTracker)
    (exchanges : List Exchange) : Except Status Unit → CommitTracker → Prop where
  | whole (changed : List ChangedLayer) (complete : Complete display exchanges)
      (listed : ListsChanges display exchanges ↔ changed ≠ []) :
      Collects display hasChanges tracker exchanges (.ok ())
        (tracker.validated (hasChanges || !changed.isEmpty))
  | broken (status : Status) (incomplete : ¬Complete display exchanges) :
      Collects display hasChanges tracker exchanges (.error status) tracker

/-- What a commit step makes of the tracker, by its command and what it exchanged. -/
inductive CommitTurn (display : DisplayId) (tracker : CommitTracker) :
    CommitCommand → List Exchange → CommitTracker → Prop where
  | refused {command validateOnly} (asks : command.validateOnly? = some validateOnly)
      {lead} (timed : ∀ exchange ∈ lead, exchange.Times display) (status : Status) :
      CommitTurn display tracker command
        (lead ++ [⟨.device (.commitOrPrepare display validateOnly), Except.error status⟩]) {}
  | validated {command validateOnly} (asks : command.validateOnly? = some validateOnly)
      {lead} (timed : ∀ exchange ∈ lead, exchange.Times display) (outcome : CommitOutcome)
      (needed : validateOnly = true ∨ outcome.needsCommit = true) {queries started reached}
      (uncommitted : Uncommitted queries)
      (collects : Collects display outcome.hasChanges started queries (.ok ()) reached) :
      CommitTurn display tracker command
        (lead ++ ⟨.device (.commitOrPrepare display validateOnly), Except.ok outcome⟩ :: queries)
        reached
  | invalid {command validateOnly} (asks : command.validateOnly? = some validateOnly)
      {lead} (timed : ∀ exchange ∈ lead, exchange.Times display) (outcome : CommitOutcome)
      (needed : validateOnly = true ∨ outcome.needsCommit = true) {queries}
      (uncommitted : Uncommitted queries) (incomplete : ¬Complete display queries) :
      CommitTurn display tracker command
        (lead ++ ⟨.device (.commitOrPrepare display validateOnly), Except.ok outcome⟩ :: queries) {}
  | committed {lead} (timed : ∀ exchange ∈ lead, exchange.Times display) (outcome : CommitOutcome)
      (done : outcome.needsCommit = false) {rest} (uncommitted : Uncommitted rest) :
      CommitTurn display tracker .presentOrValidate
        (lead ++ ⟨.device (.commitOrPrepare display false), Except.ok outcome⟩ :: rest)
        { state := .presented }
  | unasked (settled : tracker.pendingChanges = false) :
      CommitTurn display tracker .acceptChanges [] tracker
  | declined (pending : tracker.pendingChanges = true) (status : Status) :
      CommitTurn display tracker .acceptChanges
        [⟨.device (.acceptChanges display), Except.error status⟩] tracker
  | accepted (pending : tracker.pendingChanges = true) :
      CommitTurn display tracker .acceptChanges
        [⟨.device (.acceptChanges display), Except.ok ()⟩] (tracker.validated false)
  | withheld (status : Status) :
      CommitTurn display tracker .present [⟨.device (.present display), Except.error status⟩]
        (tracker.enter .idle)
  | presented (fence : Option Fence) (waits : List Exchange) :
      CommitTurn display tracker .present
        (⟨.device (.present display), Except.ok fence⟩ :: waits)
        { state := .presented }

@[simp] theorem CommitTracker.reset_eq (tracker : CommitTracker) : tracker.reset = {} := rfl

@[simp] theorem CommitTracker.presented_eq (tracker : CommitTracker) :
    tracker.presented = { state := .presented } := rfl

section Lists

variable {display : DisplayId} {first second : List Exchange} {exchange : Exchange}

theorem not_complete {exchanges : List Exchange} {status : Status}
    (spoiled : exchange.Spoils display status) (member : exchange ∈ exchanges) :
    ¬Complete display exchanges := fun complete => complete exchange member status spoiled

@[simp] theorem complete_nil : Complete display [] := by simp [Complete]

@[simp] theorem complete_append :
    Complete display (first ++ second) ↔ Complete display first ∧ Complete display second := by
  simp [Complete, or_imp, forall_and]

@[simp] theorem complete_cons : Complete display (exchange :: second) ↔
    (∀ status, ¬exchange.Spoils display status) ∧ Complete display second := by
  simp [Complete]

@[simp] theorem listsChanges_nil : ¬ListsChanges display [] := by simp [ListsChanges]

@[simp] theorem listsChanges_append : ListsChanges display (first ++ second) ↔
    ListsChanges display first ∨ ListsChanges display second := by
  simp [ListsChanges, or_and_right, exists_or]

@[simp] theorem listsChanges_cons : ListsChanges display (exchange :: second) ↔
    exchange.Changes display ∨ ListsChanges display second := by
  simp [ListsChanges]

@[simp] theorem uncommitted_nil : Uncommitted [] := by simp [Uncommitted]

@[simp] theorem uncommitted_append :
    Uncommitted (first ++ second) ↔ Uncommitted first ∧ Uncommitted second := by
  simp [Uncommitted, or_imp, forall_and]

@[simp] theorem uncommitted_cons :
    Uncommitted (exchange :: second) ↔ ¬exchange.Commits ∧ Uncommitted second := by
  simp [Uncommitted]

end Lists

namespace Registry

variable {display : DisplayId} {before after : Registry} {tracker : CommitTracker}

/-- The display is there and has come so far. -/
def Tracks (registry : Registry) (display : DisplayId) (tracker : CommitTracker) : Prop :=
  registry.commitTracker display = .ok tracker

/-- The display stays and so does its tracker. -/
def KeepsTracker (display : DisplayId) (before after : Registry) : Prop :=
  after.commitTracker display = before.commitTracker display

theorem Tracks.update (tracks : before.Tracks display tracker)
    (change : CommitTracker → CommitTracker) :
    ∃ after, before.updateCommit display change = .ok after ∧
      after.Tracks display (change tracker) := by
  obtain ⟨entry, found, same⟩ := bind_ok tracks
  cases same
  unfold updateCommit
  rw [found]
  refine ⟨_, rfl, ?_⟩
  simp [Tracks, commitTracker, Registry.display, putDisplay]
  rfl

end Registry

namespace EngineAction

variable {α β : Type} {display : DisplayId} {tracker : CommitTracker}

/-- Begun while the display has come so far, the action ends as stated, with how far the display
has come then. -/
def Moves (display : DisplayId) (tracker : CommitTracker)
    (post : List Exchange → α → CommitTracker → Prop) (action : EngineAction α) : Prop :=
  ∀ engine before, before.Tracks display tracker →
    action.Ensures (Registry.KeepsTracker display) engine before fun exchanges _ value after =>
      ∃ reached, after.Tracks display reached ∧ post exchanges value reached

variable {post : List Exchange → α → CommitTracker → Prop}

theorem Moves.pure {value : α} (holds : post [] value tracker) :
    (pure value : EngineAction α).Moves display tracker post := fun _ _ tracks =>
  .pure ⟨tracker, tracks, holds⟩

theorem Moves.bind {first : EngineAction α} {next : α → EngineAction β}
    {last : List Exchange → β → CommitTracker → Prop}
    (moves : first.Moves display tracker fun exchanges value reached =>
      (next value).Moves display reached fun rest => last (exchanges ++ rest)) :
    (first >>= next).Moves display tracker last := by
  intro engine before tracks
  apply Ensures.bind
  apply (moves engine before tracks).imp
  intro exchanges payloads value middle moved
  obtain ⟨reached, tracks, further⟩ := moved
  exact further _ _ tracks

theorem Moves.imp {other : List Exchange → α → CommitTracker → Prop} {action : EngineAction α}
    (moves : action.Moves display tracker post)
    (implies : ∀ exchanges value reached, post exchanges value reached →
      other exchanges value reached) : action.Moves display tracker other := by
  intro engine before tracks
  apply (moves engine before tracks).imp
  intro exchanges payloads value after moved
  obtain ⟨reached, tracks, holds⟩ := moved
  exact ⟨reached, tracks, implies _ _ _ holds⟩

theorem Moves.call {call : DeviceCall} {post : List Exchange → call.Reply → CommitTracker → Prop}
    (holds : ∀ reply, post [⟨.device call, reply⟩] reply tracker) :
    (EngineAction.call call).Moves display tracker post := by
  intro engine before tracks
  apply Ensures.call
  intro reply after kept
  exact ⟨tracker, kept.trans tracks, holds reply⟩

theorem Moves.write {payload : Payload} {post : List Exchange → Unit → CommitTracker → Prop}
    (holds : post [] () tracker) :
    (EngineAction.write (·.write payload)).Moves display tracker post := fun _ _ tracks =>
  .write ⟨tracker, tracks, holds⟩

theorem Moves.record {result : Except Status Unit}
    {post : List Exchange → Unit → CommitTracker → Prop} (holds : post [] () tracker) :
    (EngineAction.record result).Moves display tracker post := fun _ _ tracks =>
  .record ⟨tracker, tracks, holds⟩

theorem Moves.track {change : CommitTracker → CommitTracker}
    {post : List Exchange → Unit → CommitTracker → Prop} (holds : post [] () (change tracker)) :
    (EngineAction.track display change).Moves display tracker post := by
  intro engine before tracks
  obtain ⟨after, updated, changed⟩ := tracks.update change
  apply Ensures.track
  rw [Registry.tracked, updated]
  exact ⟨_, changed, holds⟩

theorem Moves.retrack {change : CommitTracker → CommitTracker}
    {post : List Exchange → Except Status Unit → CommitTracker → Prop}
    (holds : post [] (.ok ()) (change tracker)) :
    (EngineAction.retrack display change).Moves display tracker post := by
  intro engine before tracks
  obtain ⟨after, updated, changed⟩ := tracks.update change
  have finished : ((EngineAction.retrack display change).run engine).start before =
      .done (.ok (), engine.append []) after := by
    rw [Engine.append_nil]
    exact retrack_ok updated engine
  exact .of_done finished ⟨_, changed, holds⟩

/-- The action sends one call and no more. -/
def Sends (sent : α → Exchange) (action : EngineAction α) : Prop :=
  ∀ {display tracker} {post : List Exchange → α → CommitTracker → Prop},
    (∀ reply, post [sent reply] reply tracker) → action.Moves display tracker post

theorem sends_call (call : DeviceCall) :
    (EngineAction.call call).Sends fun reply => ⟨.device call, reply⟩ := fun holds => .call holds

theorem moves_querySized [Inhabited α] {count : EngineAction (Except Status Nat)}
    {fill : Nat → EngineAction (Except Status (Filled α))} {counted : Except Status Nat → Exchange}
    {filled : Nat → Except Status (Filled α) → Exchange} (counts : count.Sends counted)
    (fills : ∀ room, (fill room).Sends (filled room)) :
    (querySized count fill).Moves display tracker fun exchanges result reached =>
      reached = tracker ∧ Queried counted filled exchanges result := by
  apply Moves.bind
  apply counts
  intro answer
  match answer with
  | .error status => exact .pure ⟨rfl, .uncounted status⟩
  | .ok 0 => exact .pure ⟨rfl, .empty⟩
  | .ok (room + 1) =>
      apply Moves.bind
      apply fills
      intro answer
      cases answer with
      | error status => exact .pure ⟨rfl, .unfilled _ status⟩
      | ok list => exact .pure ⟨rfl, .filled _ list⟩

end EngineAction

section Steps

open EngineAction

variable {display : DisplayId} {tracker : CommitTracker}

theorem moves_changed :
    (querySized (call (.changedCompositionCount display))
      fun room => call (.changedCompositions display room)).Moves display tracker
        fun exchanges result reached => reached = tracker ∧ Uncommitted exchanges ∧
          match result with
          | .ok changed => Complete display exchanges ∧
              (ListsChanges display exchanges ↔ changed ≠ [])
          | .error _ => ¬Complete display exchanges := by
  have counts : Sends
      (fun reply : Except Status Nat => ⟨.device (.changedCompositionCount display), reply⟩)
      (call (.changedCompositionCount display)) :=
    sends_call (.changedCompositionCount display)
  have fills (room : Nat) : Sends
      (fun reply : Except Status (Filled ChangedLayer) => ⟨.device (.changedCompositions display room), reply⟩)
      (call (.changedCompositions display room)) := sends_call (.changedCompositions display room)
  apply (moves_querySized counts fills).imp
  intro exchanges result reached moved
  obtain ⟨same, queried⟩ := moved
  refine ⟨same, ?_⟩
  cases queried with
  | uncounted status =>
      exact ⟨by simp [Exchange.not_commits], not_complete (.changedCount status) (by simp)⟩
  | empty => exact ⟨by simp [Exchange.not_commits], by simp; nofun, by simp; nofun⟩
  | unfilled room status =>
      exact ⟨by simp [Exchange.not_commits], not_complete (.changedFill room status) (by simp)⟩
  | filled room filled =>
      have plain : ¬Exchange.Changes display
          ⟨.device (.changedCompositionCount display), (Except.ok room : Except Status Nat)⟩ := nofun
      refine ⟨by simp [Exchange.not_commits], by simp; exact ⟨nofun, nofun⟩, ?_⟩
      simp [plain, Exchange.changes_iff]

/-- A failure to fill in the requests does not spoil a validation. -/
theorem moves_requests :
    (collectRequests display).Moves display tracker fun exchanges result reached =>
      reached = tracker ∧ Uncommitted exchanges ∧ ¬ListsChanges display exchanges ∧
        (Complete display exchanges ↔ ∃ requests, result = .ok requests) := by
  apply Moves.bind
  apply Moves.call
  intro reply
  match reply with
  | .error status =>
      refine .pure ⟨rfl, by simp [Exchange.not_commits], by simp; nofun, ?_⟩
      simpa using ⟨status, Exchange.Spoils.requestCount status⟩
  | .ok (mask, 0) =>
      exact .pure ⟨rfl, by simp [Exchange.not_commits], by simp; nofun, by simp; nofun⟩
  | .ok (mask, room + 1) =>
      apply Moves.bind
      apply Moves.call
      intro reply
      cases reply with
      | error status =>
          refine .pure ⟨rfl, by simp [Exchange.not_commits], by simp; exact ⟨nofun, nofun⟩, ?_⟩
          simp
          exact ⟨nofun, nofun⟩
      | ok filled =>
          refine .pure ⟨rfl, by simp [Exchange.not_commits], by simp; exact ⟨nofun, nofun⟩, ?_⟩
          simp
          exact ⟨nofun, nofun⟩

theorem moves_property :
    (call (.targetProperty display)).Moves display tracker fun exchanges result reached =>
      reached = tracker ∧ Uncommitted exchanges ∧ ¬ListsChanges display exchanges ∧
        (Complete display exchanges ↔ ∃ property : TargetProperty, result = Except.ok property) := by
  have sends : Sends
      (fun reply : Except Status TargetProperty => ⟨.device (.targetProperty display), reply⟩)
      (call (.targetProperty display)) := sends_call (.targetProperty display)
  apply sends
  intro reply
  refine ⟨rfl, by simp [Exchange.not_commits], by simp; nofun, ?_⟩
  cases reply with
  | error status =>
      simpa using ⟨status, Exchange.Spoils.property status⟩
  | ok property =>
      simp
      nofun

theorem moves_collectValidation (hasChanges : Bool) :
    (collectValidation display hasChanges).Moves display tracker fun exchanges result reached =>
      Uncommitted exchanges ∧ Collects display hasChanges tracker exchanges result reached := by
  apply Moves.bind
  apply moves_changed.imp
  intro first changed reached moved
  obtain ⟨rfl, plainFirst, moved⟩ := moved
  cases changed with
  | error status => exact .pure ⟨by simpa using plainFirst, .broken status (by simpa using moved)⟩
  | ok changed =>
  obtain ⟨complete, listed⟩ := moved
  apply Moves.bind
  apply moves_requests.imp
  intro second requests reached moved
  obtain ⟨rfl, plainSecond, unlisted, whole⟩ := moved
  cases requests with
  | error status =>
      exact .pure ⟨by simp [plainFirst, plainSecond], .broken status (by simp [whole])⟩
  | ok requests =>
  obtain ⟨mask, requests⟩ := requests
  apply Moves.bind
  apply moves_property.imp
  intro third property reached moved
  obtain ⟨rfl, plainThird, unlistedThird, wholeThird⟩ := moved
  cases property with
  | error status =>
      refine .pure ⟨by simp [plainFirst, plainSecond, plainThird], .broken status ?_⟩
      simp [whole, wholeThird]
  | ok property =>
      refine .bind (.write (.bind (.write (.bind (.write (.bind (.track (.pure ?_))))))))
      refine ⟨by simp [plainFirst, plainSecond, plainThird], .whole changed ?_ ?_⟩
      · simp [complete, whole, wholeThird]
      · simp [unlisted, unlistedThird, listed]

theorem moves_writePresentFence (fence : Option Fence) :
    (EngineAction.write (·.writePresentFence display fence)).Moves display tracker
      fun exchanges _ reached => exchanges = [] ∧ reached = tracker := by
  cases fence with
  | none => exact .pure ⟨rfl, rfl⟩
  | some fence => exact .write ⟨rfl, rfl⟩

theorem moves_finishPresent (fence : Option Fence) :
    (finishPresent display fence).Moves display tracker fun exchanges _ reached =>
      reached = { state := .presented } ∧ Uncommitted exchanges := by
  have counts : Sends
      (fun reply : Except Status Nat => ⟨.device (.releaseFenceCount display), reply⟩)
      (call (.releaseFenceCount display)) := sends_call (.releaseFenceCount display)
  have fills (room : Nat) : Sends
      (fun reply : Except Status (Filled ReleaseFence) => ⟨.device (.releaseFences display room), reply⟩)
      (call (.releaseFences display room)) := sends_call (.releaseFences display room)
  apply Moves.bind
  apply Moves.track
  apply Moves.bind
  apply (moves_querySized counts fills).imp
  intro exchanges result reached moved
  obtain ⟨rfl, queried⟩ := moved
  have plain : Uncommitted exchanges := by cases queried <;> simp [Exchange.not_commits]
  cases result with
  | error status => exact .pure ⟨rfl, by simpa using plain⟩
  | ok fences =>
      apply Moves.bind
      apply (moves_writePresentFence fence).imp
      intro written _ reached moved
      obtain ⟨rfl, rfl⟩ := moved
      exact .write ⟨rfl, by simpa using plain⟩

theorem moves_validate {lead : List Exchange} (timed : ∀ exchange ∈ lead, exchange.Times display) :
    (validate display).Moves display tracker fun exchanges _ reached =>
      CommitTurn display tracker .validate (lead ++ exchanges) reached := by
  apply Moves.bind
  apply Moves.track
  apply Moves.bind
  apply Moves.call
  intro reply
  cases reply with
  | error status => exact .bind (.track (.pure (.refused rfl timed status)))
  | ok outcome =>
      apply Moves.bind
      apply (moves_collectValidation outcome.hasChanges).imp
      intro queries result reached moved
      obtain ⟨plain, collects⟩ := moved
      cases result with
      | error status =>
          have invalid : ¬Complete display queries := by cases collects; assumption
          refine .bind (.track (.pure ?_))
          simpa using CommitTurn.invalid rfl timed outcome (.inl rfl) plain invalid
      | ok _ =>
          apply Moves.pure
          simpa using CommitTurn.validated rfl timed outcome (.inl rfl) plain collects

theorem moves_acceptChanges :
    (acceptChanges display).Moves display tracker fun exchanges _ reached =>
      CommitTurn display tracker .acceptChanges exchanges reached := by
  intro engine before tracks
  apply Ensures.registry
  rw [tracks]
  obtain ⟨state, pendingChanges⟩ := tracker
  cases pendingChanges with
  | false => exact Moves.pure (.unasked rfl) engine before tracks
  | true =>
      have asks : (accept display).Moves display ⟨state, true⟩ fun exchanges _ reached =>
          CommitTurn display ⟨state, true⟩ .acceptChanges exchanges reached := by
        apply Moves.bind
        apply Moves.call
        intro answer
        cases answer with
        | error status => exact .pure (.declined rfl status)
        | ok _ => exact .retrack (.accepted rfl)
      exact asks engine before tracks

theorem moves_present :
    (present display).Moves display tracker fun exchanges _ reached =>
      CommitTurn display tracker .present exchanges reached := by
  apply Moves.bind
  apply Moves.track
  apply Moves.bind
  apply Moves.call
  intro reply
  cases reply with
  | error status => exact .bind (.track (.pure (.withheld status)))
  | ok fence =>
      apply Moves.bind
      apply (moves_finishPresent fence).imp
      intro waits _ reached moved
      obtain ⟨rfl, plain⟩ := moved
      apply Moves.pure
      simpa using CommitTurn.presented fence waits

theorem moves_presentOrValidate {lead : List Exchange}
    (timed : ∀ exchange ∈ lead, exchange.Times display) :
    (presentOrValidate display).Moves display tracker fun exchanges _ reached =>
      CommitTurn display tracker .presentOrValidate (lead ++ exchanges) reached := by
  apply Moves.bind
  apply Moves.track
  apply Moves.bind
  apply Moves.call
  intro reply
  match reply with
  | .error status => exact .bind (.track (.record (.refused rfl timed status)))
  | .ok ⟨hasChanges, true, presentFence⟩ =>
      apply Moves.bind
      apply (moves_collectValidation hasChanges).imp
      intro queries result reached moved
      obtain ⟨plain, collects⟩ := moved
      cases result with
      | error status =>
          have invalid : ¬Complete display queries := by cases collects; assumption
          refine .bind (.track (.record ?_))
          simpa using CommitTurn.invalid rfl timed ⟨hasChanges, true, presentFence⟩ (.inr rfl)
            plain invalid
      | ok _ =>
          apply Moves.write
          simpa using CommitTurn.validated rfl timed ⟨hasChanges, true, presentFence⟩ (.inr rfl)
            plain collects
  | .ok ⟨true, false, presentFence⟩ =>
      apply Moves.bind
      apply (moves_collectValidation true).imp
      intro queries result middle moved
      obtain ⟨plainQueries, -⟩ := moved
      have finishes (accepting : List Exchange) (plain : Uncommitted accepting) :
          (EngineAction.write (·.write (.presentOutcome display .validatedWithChanges)) >>= fun _ =>
            finishPresent display presentFence).Moves display middle fun exchanges _ reached =>
              CommitTurn display tracker .presentOrValidate (lead ++
                ⟨.device (.commitOrPrepare display false), Except.ok ⟨true, false, presentFence⟩⟩ ::
                  (queries ++ (accepting ++ exchanges))) reached := by
        refine .bind (.write ((moves_finishPresent presentFence).imp ?_))
        intro waits _ reached moved
        obtain ⟨rfl, plainWaits⟩ := moved
        apply CommitTurn.committed timed _ rfl
        simp [plainQueries, plain, plainWaits]
      cases result with
      | error status => simpa using finishes [] uncommitted_nil
      | ok _ =>
          apply Moves.bind
          apply Moves.call
          intro answer
          have plain : Uncommitted [⟨.device (.acceptChanges display), answer⟩] := by
            simp [Exchange.not_commits]
          simpa using finishes _ plain
  | .ok ⟨false, false, presentFence⟩ =>
      refine .bind (.write ((moves_finishPresent presentFence).imp ?_))
      intro waits _ reached moved
      obtain ⟨rfl, plain⟩ := moved
      exact .committed timed _ rfl (by simpa using plain)

theorem moves_forwardPresentTime (time : Option Int) :
    (forwardPresentTime display time).Moves display tracker fun exchanges _ reached =>
      reached = tracker ∧ ∀ exchange ∈ exchanges, exchange.Times display := by
  cases time with
  | none => exact .pure ⟨rfl, by simp⟩
  | some time =>
      apply Moves.bind
      apply Moves.call
      intro answer
      exact .record ⟨rfl, by simpa using Exchange.Times.mk time.toNat answer⟩

theorem moves_recorded {action : EngineAction (Except Status Unit)}
    {post : List Exchange → CommitTracker → Prop}
    (moves : action.Moves display tracker fun exchanges _ reached => post exchanges reached) :
    (action >>= record).Moves display tracker fun exchanges _ reached => post exchanges reached := by
  apply Moves.bind
  apply moves.imp
  intro exchanges result reached holds
  exact .record (by simpa using holds)

theorem moves_commit (command : CommitCommand) (time : Option Int) :
    (commit display command time).Moves display tracker fun exchanges _ reached =>
      CommitTurn display tracker command exchanges reached := by
  cases command with
  | validate =>
      apply Moves.bind
      apply (moves_forwardPresentTime time).imp
      intro lead _ reached moved
      obtain ⟨rfl, timed⟩ := moved
      exact moves_recorded (moves_validate timed)
  | acceptChanges => exact moves_recorded moves_acceptChanges
  | present => exact moves_recorded moves_present
  | presentOrValidate =>
      apply Moves.bind
      apply (moves_forwardPresentTime time).imp
      intro lead _ reached moved
      obtain ⟨rfl, timed⟩ := moved
      exact moves_presentOrValidate timed

end Steps
end Scanout
