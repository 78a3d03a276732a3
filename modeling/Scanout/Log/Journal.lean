import Scanout.Fault
import Scanout.Files.Tree
import Scanout.Log.Filter
import Scanout.Settings.Basic
import Scanout.Text.LetterCase
import Scanout.Text.Terminal

/-!
The log of a process. The first subscriber that is set up stays for the whole run. One that also
writes to a file hands its lines to a worker, and the worker lives as long as the guard that came
with it is kept. Only one guard is kept, the latest, so setting up the log once more ends the worker
of the file before, whether a new file takes its place or not.
-/

namespace Scanout.Log

structure Line where
  format : Format
  level : Level
  message : String
  deriving DecidableEq, Repr, Inhabited

/-- The message as it stands in the line. Lines of text may end up on a terminal, so they give it no
orders; at a line break they end, and what follows is no part of them. -/
def Line.shown (line : Line) : String :=
  match line.format with
  | .text => Text.tamed (Text.firstLine line.message)
  | .json => line.message

inductive Console where
  | output | error
  deriving DecidableEq, Repr, Inhabited

/-- Keeps the worker of one file alive. -/
structure Guard where
  number : Nat
  deriving DecidableEq, Repr, Inhabited

/-- The part of a subscriber that writes to a file. -/
structure FileLayer where
  place : Location
  /-- The guard of the worker that does the writing. -/
  worker : Guard
  deriving DecidableEq, Repr, Inhabited

structure Subscriber where
  console : Console
  format : Format
  filter : Filter
  file : Option FileLayer := none
  deriving DecidableEq, Repr, Inhabited

structure Journal where
  files : Files
  /-- What the names of log files end in, one for each day. -/
  day : String
  subscriber : Option Subscriber := none
  /-- The guard that is kept. -/
  guarded : Option Guard := none
  /-- The workers started so far. -/
  workers : Nat := 0
  /-- The lines on each console, and those in each file. -/
  lines : List (Console × Line) := []
  fileLines : List (Location × Line) := []

namespace Journal

def alreadyInstalled : String :=
  "Failed to set global tracing subscriber. Was it already initialized? " ++
    "Error: a global default trace dispatcher has already been set"

/-- The first subscriber is installed, every further one is not. -/
def install (journal : Journal) (subscriber : Subscriber) : Bool × Journal :=
  match journal.subscriber with
  | none => (true, { journal with subscriber := some subscriber })
  | some _ => (false, journal)

/-- Logging before the settings are known: to the error console, with the filter of the environment
if that can be read. -/
def initMinimal (journal : Journal) (environment : Option String) : Journal :=
  (journal.install {
    console := .error, format := .text
    filter := (environment.bind Filter.ofText?).getD (.atLeast .info) }).2

/-- Opens the log file of the day, in a folder that is made if it is missing, and starts a worker
for it. -/
def startFile (journal : Journal) (path : String) : Except Fault (FileLayer × Journal) := do
  let folder := ((Path.parent? path).filter (· != "")).getD "."
  let files ←
    if (journal.files.find folder).isOk then pure journal.files
    else (journal.files.makeFolders folder).mapError fun reason =>
      .filesystem "Could not create log directory" folder reason.message
  let name := (Path.fileName? path).getD "composer.log" ++ "." ++ journal.day
  let (place, files) ← (files.openEnd folder name).mapError fun reason =>
    .filesystem "Could not open log file" path reason.message
  return ({ place, worker := ⟨journal.workers⟩ },
    { journal with files, workers := journal.workers + 1 })

/-- Sets up the log. With `reload` it does not matter that one was set up before. In any case the
guard of the new file, or of none, takes the place of the one that was kept. -/
def init (journal : Journal) (settings : LogSettings) (reload : Bool) :
    Except Fault Unit × Journal :=
  let name := Text.lower settings.level
  match Level.ofName? name with
  | none =>
      (.error (.logging (.initialization s!"Invalid log level in config: {name}")), journal)
  | some level =>
      let format := (Format.ofName? (Text.lower settings.format)).getD .text
      let started : Except Fault (Option FileLayer × Journal) :=
        match settings.file with
        | none => .ok (none, journal)
        | some path => (journal.startFile path).map fun (layer, journal) => (some layer, journal)
      match started with
      | .error fault => (.error fault, journal)
      | .ok (file, journal) =>
          let (installed, journal) :=
            journal.install { console := .output, format, filter := .atLeast level, file }
          let journal := { journal with guarded := file.map FileLayer.worker }
          if installed || reload then (.ok (), journal)
          else (.error (.logging (.initialization alreadyInstalled)), journal)

def write (journal : Journal) (target : String) (level : Level) (message : String) : Journal :=
  match journal.subscriber with
  | none => journal
  | some subscriber =>
      if subscriber.filter.passes target level then
        let line : Line := { format := subscriber.format, level, message }
        let alive := subscriber.file.filter fun layer => journal.guarded == some layer.worker
        { journal with
          lines := journal.lines ++ [(subscriber.console, line)]
          fileLines := journal.fileLines ++ (alive.map fun layer => (layer.place, line)).toList }
      else journal

def shown (journal : Journal) (console : Console) : List Line :=
  journal.lines.filterMap fun (place, line) => if place = console then some line else none

def written (journal : Journal) (place : Location) : List Line :=
  journal.fileLines.filterMap fun (other, line) => if other = place then some line else none

end Journal
end Scanout.Log
