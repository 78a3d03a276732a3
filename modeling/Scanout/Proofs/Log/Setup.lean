import Mathlib.Tactic.Common
import Scanout.Log.Journal

/-!
Setting up the log, once and again. The subscriber that is installed first stays, with the file that
it writes to. The guard of that file is kept until a later set-up gets as far as offering a
subscriber of its own, for then the guard that came with that one takes its place. A set-up that
fails before changes nothing.
-/

namespace Scanout.Log

theorem Level.ofName?_eq_none_iff {name : String} :
    ofName? name = none ↔ name ∉ ["trace", "debug", "info", "warn", "error"] := by
  simp [ofName?, all, Level.name, eq_comm (a := name)]

namespace Journal

variable {journal : Journal} {settings : LogSettings} {reload : Bool}
variable {subscriber : Subscriber} {layer : FileLayer}

/-- How the opening of a log file can end. -/
inductive Starts (journal : Journal) : Except Fault (FileLayer × Journal) → Prop
  | failed (reason place cause : String) : Starts journal (.error (.filesystem reason place cause))
  | opened (place : Location) (files : Files) :
      Starts journal (.ok ({ place, worker := ⟨journal.workers⟩ },
        { journal with files, workers := journal.workers + 1 }))

theorem openEnd_starts (journal : Journal) (files : Files) (folder name path : String) :
    Starts journal (do
      let (place, files) ← (files.openEnd folder name).mapError fun reason =>
        .filesystem "Could not open log file" path reason.message
      return ({ place, worker := ⟨journal.workers⟩ },
        { journal with files, workers := journal.workers + 1 })) := by
  cases files.openEnd folder name with
  | error reason => exact .failed ..
  | ok opened => exact .opened ..

theorem startFile_starts (journal : Journal) (path : String) :
    Starts journal (journal.startFile path) := by
  unfold startFile
  generalize (Path.fileName? path).getD "composer.log" ++ "." ++ journal.day = name
  generalize ((Path.parent? path).filter (· != "")).getD "." = folder
  simp only
  split
  · exact openEnd_starts journal journal.files folder name path
  · cases made : journal.files.makeFolders folder with
    | error reason => exact .failed ..
    | ok files => exact openEnd_starts journal files folder name path

def unknownLevel (name : String) : Fault :=
  .logging (.initialization s!"Invalid log level in config: {name}")

/-- The fault of a set-up after another one that was to be the first. -/
def refusal : Fault := .logging (.initialization alreadyInstalled)

theorem unknownLevel_ne_refusal (name : String) : unknownLevel name ≠ refusal := by
  intro same
  have texts : "Invalid log level in config: " ++ name = alreadyInstalled := by
    injection same with same
    injection same
  have first := congrArg (fun text => text.toList.head?) texts
  rw [String.toList_append, List.head?_append] at first
  have failed : alreadyInstalled.toList.head? = some 'F' := by decide +kernel
  simp [failed] at first

def offer (settings : LogSettings) (level : Level) (file : Option FileLayer) : Subscriber where
  console := .output
  format := (Format.ofName? (Text.lower settings.format)).getD .text
  filter := .atLeast level
  file

/-- A set-up with these settings gets past its level and its log file: the level is one of the five,
and the file can be opened if one is named. -/
structure Ready (journal : Journal) (settings : LogSettings) : Prop where
  level : Text.lower settings.level ∈ ["trace", "debug", "info", "warn", "error"]
  file : ∀ path, settings.file = some path → ∃ opened, journal.startFile path = .ok opened

/-- How a set-up can end: without a level, without the file that it names, or with a subscriber to
offer. -/
inductive SetsUp (journal : Journal) (settings : LogSettings) (reload : Bool) :
    Except Fault Unit → Journal → Prop
  | unknown (absent : Level.ofName? (Text.lower settings.level) = none) :
      SetsUp journal settings reload (.error (unknownLevel (Text.lower settings.level))) journal
  | unopened {path : String} (reason place cause : String) (named : settings.file = some path)
      (failed : journal.startFile path = .error (.filesystem reason place cause)) :
      SetsUp journal settings reload (.error (.filesystem reason place cause)) journal
  | offered {level : Level} (file : Option FileLayer) (files : Files) (workers : Nat)
      (ready : journal.Ready settings)
      (known : Level.ofName? (Text.lower settings.level) = some level)
      (worker : file.map FileLayer.worker = settings.file.map fun _ => ⟨journal.workers⟩)
      (more : workers = journal.workers + settings.file.toList.length) :
      SetsUp journal settings reload
        (if journal.subscriber.isNone || reload then .ok () else .error refusal)
        { journal with
          files, workers
          subscriber := journal.subscriber.or (some (offer settings level file))
          guarded := file.map FileLayer.worker }

theorem init_setsUp (journal : Journal) (settings : LogSettings) (reload : Bool) :
    SetsUp journal settings reload (journal.init settings reload).1
      (journal.init settings reload).2 := by
  cases known : Level.ofName? (Text.lower settings.level) with
  | none =>
      simp only [init, known]
      exact .unknown known
  | some level =>
      have listed : Text.lower settings.level ∈ ["trace", "debug", "info", "warn", "error"] := by
        by_contra strange
        rw [Level.ofName?_eq_none_iff.mpr strange] at known
        cases known
      cases named : settings.file with
      | none =>
          have offered : SetsUp journal settings reload _ _ :=
            .offered none journal.files journal.workers ⟨listed, by simp [named]⟩ known
              (by simp [named]) (by simp [named])
          cases installed : journal.subscriber <;> cases reload <;>
            simpa [init, known, named, install, installed, offer, refusal] using offered
      | some path =>
          have starts := startFile_starts journal path
          cases started : journal.startFile path with
          | error fault =>
              rw [started] at starts
              cases starts
              simp only [init, known, named, started, Except.map]
              exact .unopened _ _ _ named started
          | ok pair =>
              rw [started] at starts
              cases starts with
              | opened place files =>
                  have offered : SetsUp journal settings reload _ _ :=
                    .offered (some { place, worker := ⟨journal.workers⟩ }) files
                      (journal.workers + 1) ⟨listed, by simp [named, started]⟩ known
                      (by simp [named]) (by simp [named])
                  cases installed : journal.subscriber <;> cases reload <;>
                    simpa [init, known, named, started, Except.map, install, installed, offer,
                      refusal] using offered

/-- The file that the installed subscriber writes to, if it has one, keeps its worker. -/
def Matched (journal : Journal) : Prop :=
  ∀ subscriber layer, journal.subscriber = some subscriber → subscriber.file = some layer →
    journal.guarded = some layer.worker

theorem not_matched (installed : journal.subscriber = some subscriber)
    (layered : subscriber.file = some layer) (lost : journal.guarded = none) :
    ¬journal.Matched := by
  intro matched
  have kept := matched subscriber layer installed layered
  rw [lost] at kept
  cases kept

/-- The number of the installed file's worker is given to no other one. -/
def Numbered (journal : Journal) : Prop :=
  ∀ subscriber layer, journal.subscriber = some subscriber → subscriber.file = some layer →
    layer.worker.number < journal.workers

/-- The log before the settings are known writes to no file. -/
theorem initMinimal_of_layered {environment : Option String}
    (installed : (journal.initMinimal environment).subscriber = some subscriber)
    (layered : subscriber.file = some layer) : journal.initMinimal environment = journal := by
  cases found : journal.subscriber with
  | none =>
      simp only [initMinimal, install, found, Option.some.injEq] at installed
      subst installed
      contradiction
  | some subscriber => simp [initMinimal, install, found]

/-- A line that passes reaches the file as long as the file keeps its worker. -/
theorem write_fileLines {target message : String} {level : Level}
    (installed : journal.subscriber = some subscriber) (layered : subscriber.file = some layer)
    (passed : subscriber.filter.passes target level) :
    (journal.write target level message).fileLines = journal.fileLines ++
      if journal.guarded = some layer.worker then
        [(layer.place, { format := subscriber.format, level, message })]
      else [] := by
  by_cases kept : journal.guarded = some layer.worker <;>
    simp [write, installed, layered, passed, kept, Option.filter]

/-- How a set-up ends, and what it may do to the installed subscriber and to the guard. -/
structure Orderly (journal : Journal) (settings : LogSettings) (reload : Bool)
    (answer : Except Fault Unit) (after : Journal) : Prop where
  stays : ∀ subscriber, journal.subscriber = some subscriber → after.subscriber = some subscriber
  /-- What is ready ends well as a reload, and else if nothing is installed. -/
  succeeds : answer = .ok () ↔
    journal.Ready settings ∧ (reload = true ∨ journal.subscriber = none)
  installs : answer = .ok () → journal.subscriber = none →
    after.subscriber.isSome ∧ after.Matched
  /-- The guard of the new file, or of none, takes the place of the one before. -/
  swaps : answer = .ok () → after.guarded = settings.file.map fun _ => ⟨journal.workers⟩
  /-- No file that was installed before has that guard. -/
  fresh : ∀ subscriber layer, journal.subscriber = some subscriber →
    subscriber.file = some layer → layer.worker ≠ ⟨journal.workers⟩
  fails : ∀ fault, answer = .error fault → after.subscriber = journal.subscriber
  /-- What is ready and fails is refused. -/
  faults : ∀ fault, answer = .error fault → (fault = refusal ↔ journal.Ready settings)
  guards : ¬journal.Ready settings → after.guarded = journal.guarded

namespace SetsUp

variable {answer : Except Fault Unit} {after : Journal} {fault : Fault}

theorem subscriber_stays (ends : SetsUp journal settings reload answer after)
    (installed : journal.subscriber = some subscriber) : after.subscriber = some subscriber := by
  cases ends <;> simp [installed]

theorem subscriber_of_error (ends : SetsUp journal settings reload (.error fault) after) :
    after.subscriber = journal.subscriber := by
  generalize failed : Except.error fault = answer at ends
  cases ends with
  | unknown absent => rfl
  | unopened reason place cause named stuck => rfl
  | offered file files workers ready known worker more =>
      cases installed : journal.subscriber with
      | none => simp [installed] at failed
      | some subscriber => rfl

/-- A set-up that ends well offers a subscriber and keeps the guard that comes with it. -/
theorem offered_of_ok (ends : SetsUp journal settings reload (.ok ()) after) :
    ∃ (level : Level) (file : Option FileLayer),
      Level.ofName? (Text.lower settings.level) = some level ∧
        file.map FileLayer.worker = settings.file.map (fun _ => ⟨journal.workers⟩) ∧
        after.subscriber = journal.subscriber.or (some (offer settings level file)) ∧
        after.guarded = file.map FileLayer.worker := by
  generalize finished : Except.ok () = answer at ends
  cases ends with
  | unknown absent => cases finished
  | unopened reason place cause named stuck => cases finished
  | offered file files workers ready known worker more => exact ⟨_, file, known, worker, rfl, rfl⟩

/-- Only a set-up that is ready has a subscriber to offer. -/
theorem answer_cases (ends : SetsUp journal settings reload answer after) :
    (¬journal.Ready settings ∧ (∃ fault ≠ refusal, answer = .error fault) ∧
        after.guarded = journal.guarded) ∨
      (journal.Ready settings ∧
        answer = if reload = true ∨ journal.subscriber = none then .ok () else .error refusal) := by
  cases ends with
  | unknown absent =>
      refine .inl ⟨fun ready => ?_, ⟨_, unknownLevel_ne_refusal _, rfl⟩, rfl⟩
      exact Level.ofName?_eq_none_iff.mp absent ready.level
  | unopened reason place cause named stuck =>
      have other : Fault.filesystem reason place cause ≠ refusal := nofun
      refine .inl ⟨fun ready => ?_, ⟨_, other, rfl⟩, rfl⟩
      obtain ⟨opened, started⟩ := ready.file _ named
      rw [stuck] at started
      cases started
  | offered file files workers ready known worker more =>
      refine .inr ⟨ready, ?_⟩
      cases reload <;> simp

theorem numbered (ends : SetsUp journal settings reload answer after) (used : journal.Numbered) :
    after.Numbered := by
  intro subscriber layer installed layered
  cases ends with
  | unknown absent => exact used subscriber layer installed layered
  | unopened reason place cause named stuck => exact used subscriber layer installed layered
  | offered file files workers ready known worker more =>
      cases found : journal.subscriber with
      | some kept =>
          have below := used subscriber layer (by simpa [found] using installed) layered
          simp only [more]
          omega
      | none =>
          obtain rfl : offer settings _ file = subscriber := by simpa [found] using installed
          obtain rfl : file = some layer := layered
          cases named : settings.file with
          | none => simp [named] at worker
          | some path =>
              simp only [named, Option.map_some, Option.some.injEq] at worker
              simp [worker, more, named]

/-- What a set-up installs has the guard that the same set-up leaves. -/
theorem matched (ends : SetsUp journal settings reload answer after) (before : journal.Matched)
    (alone : ¬(journal.subscriber.isSome ∧ journal.Ready settings)) : after.Matched := by
  intro subscriber layer installed layered
  cases ends with
  | unknown absent => exact before subscriber layer installed layered
  | unopened reason place cause named stuck => exact before subscriber layer installed layered
  | offered file files workers ready known worker more =>
      cases found : journal.subscriber with
      | none =>
          obtain rfl : offer settings _ file = subscriber := by simpa [found] using installed
          obtain rfl : file = some layer := layered
          rfl
      | some kept => exact absurd ⟨by simp [found], ready⟩ alone

theorem ne_unknownLevel {level : Level} (ends : SetsUp journal settings reload answer after)
    (known : Level.ofName? (Text.lower settings.level) = some level) (name : String) :
    answer ≠ .error (unknownLevel name) := by
  cases ends with
  | unknown absent => simp [known] at absent
  | unopened reason place cause named stuck => nofun
  | offered file files workers ready found worker more =>
      split
      · nofun
      · simpa using (unknownLevel_ne_refusal name).symm

/-- Where nothing was installed, the level of the settings is the threshold of what is. -/
theorem filter_of_ok {level : Level} (ends : SetsUp journal settings reload (.ok ()) after)
    (known : Level.ofName? (Text.lower settings.level) = some level)
    (bare : journal.subscriber = none) :
    after.subscriber.map Subscriber.filter = some (.atLeast level) := by
  obtain ⟨found, file, named, -, installed, -⟩ := ends.offered_of_ok
  obtain rfl := Option.some.inj (named.symm.trans known)
  simp [installed, bare, offer]

theorem orderly (ends : SetsUp journal settings reload answer after) (used : journal.Numbered) :
    Orderly journal settings reload answer after where
  stays subscriber installed := ends.subscriber_stays installed
  succeeds := by
    obtain ⟨unready, ⟨fault, -, rfl⟩, -⟩ | ⟨ready, rfl⟩ := ends.answer_cases
    · simp [unready]
    · rw [and_iff_right ready]
      split <;> simp [*]
  installs := by
    rintro rfl bare
    obtain ⟨level, file, -, -, installed, -⟩ := ends.offered_of_ok
    exact ⟨by simp [installed], ends.matched (by simp [Matched, bare]) (by simp [bare])⟩
  swaps := by
    rintro rfl
    obtain ⟨level, file, -, worker, -, kept⟩ := ends.offered_of_ok
    exact kept.trans worker
  fresh := by
    rintro subscriber layer installed layered same
    have below := used subscriber layer installed layered
    simp [same] at below
  fails := by
    rintro fault rfl
    exact ends.subscriber_of_error
  faults := by
    rintro fault rfl
    obtain ⟨unready, ⟨reason, other, failed⟩, -⟩ | ⟨ready, refused⟩ := ends.answer_cases
    · cases failed
      simp [unready, other]
    · split at refused
      · cases refused
      · cases refused
        simp [ready]
  guards unready := by
    obtain ⟨-, -, kept⟩ | ⟨ready, -⟩ := ends.answer_cases
    · exact kept
    · exact absurd ready unready

end SetsUp
end Journal

/-- A call that sets up the log, with the log as it found it. -/
structure SetUp where
  found : Journal
  settings : LogSettings
  reload : Bool

namespace SetUp

/-- The call came as far as to offer a subscriber, but another one was there already. -/
def Supersedes (call : SetUp) : Prop :=
  call.found.subscriber.isSome ∧ call.found.Ready call.settings

end SetUp

/-- The calls that set up the log of a process, in order, and the log that they lead to. Between
them lines are written and the surroundings change. -/
inductive LogHistory : List SetUp → Journal → Prop
  | start {journal : Journal} (bare : journal.subscriber = none) : LogHistory [] journal
  | setUp {calls : List SetUp} {journal : Journal} (earlier : LogHistory calls journal)
      (settings : LogSettings) (reload : Bool) :
      LogHistory (calls ++ [⟨journal, settings, reload⟩]) (journal.init settings reload).2
  | minimal {calls : List SetUp} {journal : Journal} (earlier : LogHistory calls journal)
      (environment : Option String) : LogHistory calls (journal.initMinimal environment)
  | meanwhile {calls : List SetUp} {journal : Journal} (earlier : LogHistory calls journal)
      (files : Files) (day : String) (lines : List (Console × Line))
      (fileLines : List (Location × Line)) :
      LogHistory calls { journal with files, day, lines, fileLines }

namespace LogHistory

variable {calls : List SetUp} {journal : Journal}

theorem numbered (history : LogHistory calls journal) : journal.Numbered := by
  induction history with
  | start bare => simp [Journal.Numbered, bare]
  | setUp earlier settings reload ih => exact (Journal.init_setsUp ..).numbered ih
  | minimal earlier environment ih =>
      intro subscriber layer installed layered
      have same := Journal.initMinimal_of_layered installed layered
      rw [same] at installed ⊢
      exact ih subscriber layer installed layered
  | meanwhile earlier files day lines fileLines ih => exact ih

theorem matched (history : LogHistory calls journal) (alone : ∀ call ∈ calls, ¬call.Supersedes) :
    journal.Matched := by
  induction history with
  | start bare => simp [Journal.Matched, bare]
  | setUp earlier settings reload ih =>
      rw [List.forall_mem_append, List.forall_mem_singleton] at alone
      exact (Journal.init_setsUp ..).matched (ih alone.1) alone.2
  | minimal earlier environment ih =>
      intro subscriber layer installed layered
      have same := Journal.initMinimal_of_layered installed layered
      rw [same] at installed ⊢
      exact ih alone subscriber layer installed layered
  | meanwhile earlier files day lines fileLines ih => exact ih alone

/-- As long as no call offers a subscriber where there is one already, the installed file keeps its
worker. Whatever call comes next, what is installed stays; a reload that gets past its level and its
file ends well, with the guard of its own file or of none; and a call that fails for its level or its
file leaves the guard alone. -/
theorem file_kept (history : LogHistory calls journal) :
    ((∀ call ∈ calls, ¬call.Supersedes) → journal.Matched) ∧
      ∀ settings reload, Journal.Orderly journal settings reload
        (journal.init settings reload).1 (journal.init settings reload).2 :=
  ⟨history.matched, fun _ _ => (journal.init_setsUp ..).orderly history.numbered⟩

/-- The log is set up with a file, once more with a level that there is not, and then as a reload
without a file. -/
theorem file_kept_unknown_level :
    let bare : Journal := { files := {}, day := "2024-01-01" }
    let logged := (bare.init { file := some "a.log" } false).2
    let again := (logged.init { level := "all" } true).2
    let reloaded := again.init {} true
    (again.subscriber.bind Subscriber.file).isSome ∧ again.Matched ∧
      again.guarded = some ⟨0⟩ ∧ reloaded.1 = .ok () ∧ reloaded.2.guarded = none := by
  intro bare logged again reloaded
  have history : LogHistory
      [⟨bare, { file := some "a.log" }, false⟩, ⟨logged, { level := "all" }, true⟩] again :=
    .setUp (.setUp (.start rfl) _ _) _ _
  have unready : ¬logged.Ready { level := "all" } := by
    intro ready
    have level := ready.level
    revert level
    decide +kernel
  have ready : again.Ready {} := ⟨by decide +kernel, nofun⟩
  have orderly := history.file_kept.2 {} true
  have finished : reloaded.1 = .ok () := orderly.succeeds.mpr ⟨ready, .inl rfl⟩
  refine ⟨by decide +kernel, history.file_kept.1 ?_, by decide +kernel, finished,
    orderly.swaps finished⟩
  simp [SetUp.Supersedes, unready, bare]

/-- The log is set up with a file, and once more without one. As a reload, the second call ends well.
As a first set-up it is refused, but although it fails and what is installed stays, the guard is gone
as well. Either way the installed file has no worker from then on. -/
theorem file_lost_on_second_set_up :
    let bare : Journal := { files := {}, day := "2024-01-01" }
    let logged := bare.init { file := some "a.log" } false
    let reloaded := logged.2.init {} true
    let refused := logged.2.init {} false
    (LogHistory [⟨bare, { file := some "a.log" }, false⟩, ⟨logged.2, {}, true⟩] reloaded.2 ∧
      logged.1 = .ok () ∧ reloaded.1 = .ok () ∧ ¬reloaded.2.Matched ∧
      (reloaded.2.write "app" .info "two").fileLines = []) ∧
    LogHistory [⟨bare, { file := some "a.log" }, false⟩, ⟨logged.2, {}, false⟩] refused.2 ∧
      refused.1 = .error Journal.refusal ∧ refused.2.subscriber = logged.2.subscriber ∧
      logged.2.guarded = some ⟨0⟩ ∧ refused.2.guarded = none ∧ ¬refused.2.Matched ∧
      (refused.2.write "app" .info "two").fileLines = [] := by
  intro bare logged reloaded refused
  let file : FileLayer := { place := ["a.log.2024-01-01"], worker := ⟨0⟩ }
  let writing : Subscriber :=
    { console := .output, format := .text, filter := .atLeast .info, file }
  have kept : reloaded.2.subscriber = some writing ∧ refused.2.subscriber = some writing := by
    decide +kernel
  have lost : reloaded.2.guarded = none ∧ refused.2.guarded = none := by decide +kernel
  refine ⟨⟨.setUp (.setUp (.start rfl) _ _) _ _, ?_, ?_, Journal.not_matched kept.1 rfl lost.1, ?_⟩,
    .setUp (.setUp (.start rfl) _ _) _ _, ?_, ?_, ?_, lost.2,
    Journal.not_matched kept.2 rfl lost.2, ?_⟩
  all_goals decide +kernel

end LogHistory
end Scanout.Log
