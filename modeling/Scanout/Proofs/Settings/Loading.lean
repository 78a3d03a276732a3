import Scanout.Proofs.Log.Setup
import Scanout.Proofs.Settings.Uncased
import Scanout.Proofs.Text.LetterCase
import Scanout.Proofs.Toml.Blank
import Scanout.Settings.Load

/-!
Loading of settings. A document that conforms is overlaid on the usual settings, level and format
are put in lower case, and then the first check that fails decides about the fault.
-/

namespace Scanout.Settings

def lowered (settings : Settings) : Settings :=
  { settings with
    logging := { settings.logging with
      level := Text.lower settings.logging.level
      format := Text.lower settings.logging.format } }

/-- What is checked of the values, in this order. -/
inductive Check where
  | level | format | buffers | threadName
  deriving DecidableEq

namespace Check

def all : List Check := [level, format, buffers, threadName]

/-- The value lies in its domain, level and format being in lower case. -/
def Passes (settings : Settings) : Check → Prop
  | level => settings.logging.level ∈ ["trace", "debug", "info", "warn", "error"]
  | format => settings.logging.format ∈ ["text", "json"]
  | buffers => 0 < settings.buffers.maxImportedBuffers
  | threadName =>
      ∃ char ∈ settings.captures.threadName.toList, ¬Text.whiteSpace.contains char

instance (settings : Settings) : (check : Check) → Decidable (check.Passes settings)
  | level => inferInstanceAs (Decidable (_ ∈ _))
  | format => inferInstanceAs (Decidable (_ ∈ _))
  | buffers => inferInstanceAs (Decidable (_ < _))
  -- Search may find the instance that tries every character there is.
  | threadName => List.decidableBEx _ settings.captures.threadName.toList

/-- What is told about settings that do not pass. -/
def violation (settings : Settings) : Check → Violation
  | level => .level settings.logging.level
  | format => .format settings.logging.format
  | buffers => .noBuffers
  | threadName => .blankThreadName

/-- The first check that does not pass. -/
def failing? (settings : Settings) : Option Check :=
  all.find? fun check => ¬check.Passes settings

theorem failing?_eq_none_iff {settings : Settings} :
    failing? settings = none ↔ ∀ check : Check, check.Passes settings := by
  have complete (check : Check) : check ∈ all := by cases check <;> decide
  simp [failing?, complete]

instance (settings : Settings) : Decidable (∀ check : Check, check.Passes settings) :=
  decidable_of_iff _ failing?_eq_none_iff

end Check

variable {settings : Settings} {check : Check} {document : Toml.Table} {text : String}

theorem format_eq_none_iff {name : String} :
    Log.Format.ofName? name = none ↔ name ∉ ["text", "json"] := by
  simp [Log.Format.ofName?, Log.Format.all, Log.Format.name, eq_comm (a := name)]

theorem Check.passes_threadName :
    threadName.Passes settings ↔ ¬Text.isBlank settings.captures.threadName := by
  simp [Passes, Text.isBlank_iff]

theorem validated_eq (settings : Settings) :
    settings.validated =
      match Check.failing? settings.lowered with
      | none => .ok settings.lowered
      | some check => .error (check.violation settings) := by
  have checks : settings.validated =
      if ¬Check.level.Passes settings.lowered then .error (Check.level.violation settings)
      else if ¬Check.format.Passes settings.lowered then .error (Check.format.violation settings)
      else if ¬Check.buffers.Passes settings.lowered then .error (Check.buffers.violation settings)
      else if ¬Check.threadName.Passes settings.lowered then
        .error (Check.threadName.violation settings)
      else .ok settings.lowered := by
    simp only [Check.passes_threadName]
    simp only [validated, Option.isNone_iff_eq_none, Log.Level.ofName?_eq_none_iff,
      format_eq_none_iff, Check.Passes, Check.violation, lowered, Nat.pos_iff_ne_zero, not_not]
  rw [checks, Check.failing?, Check.all]
  split_ifs <;> simp [*]

/-- A blank text has the empty document, which says nothing either. -/
theorem ofText_of_tree (tree : Toml.Table.ofText? text = some document) :
    ofText text =
      match ofTable? document with
      | some settings => settings.checked
      | none => .error (.config .malformed) := by
  by_cases blank : Text.isBlank text
  · obtain rfl := Toml.Table.eq_nil_of_blank blank tree
    simp only [ofText, blank, if_true]
    rfl
  · simp only [ofText, blank, ofDocument?, tree]
    rfl

/-- Values in their domains are in lower case as they stand. -/
theorem lowered_of_passes (passes : ∀ check : Check, check.Passes settings) :
    settings.lowered = settings := by
  have levels : ∀ name ∈ ["trace", "debug", "info", "warn", "error"], Text.lower name = name := by
    decide +kernel
  have formats : ∀ name ∈ ["text", "json"], Text.lower name = name := by decide +kernel
  simp [lowered, levels _ (passes .level), formats _ (passes .format)]

/-- The case of ASCII letters in level and format makes no difference. -/
theorem lowered_uncased :
    (overlay (said (uncased document))).lowered = (overlay (said document)).lowered := by
  simp [overlay_uncased, lowered, Text.lower_toLower]

theorem checked_eq (settings : Settings) :
    settings.checked =
      match Check.failing? settings.lowered with
      | none => .ok settings.lowered
      | some check => .error (.config (.invalid (check.violation settings).message)) := by
  rw [checked, validated_eq]
  cases Check.failing? settings.lowered <;> rfl

theorem checked_eq_ok_iff {result : Settings} :
    settings.checked = .ok result ↔
      (∀ check : Check, check.Passes settings.lowered) ∧ result = settings.lowered := by
  rw [checked_eq, ← Check.failing?_eq_none_iff]
  cases Check.failing? settings.lowered <;> simp [eq_comm]

theorem ofText_of_conforms (tree : Toml.Table.ofText? text = some document)
    (tabular : Tabular document) (conforms : Conforms document) :
    ofText text = (overlay (said document)).checked := by
  rw [ofText_of_tree tree, (ofTable?_eq_some_iff tabular).mpr ⟨conforms, rfl⟩]

theorem ofText_of_not_conforms (tree : Toml.Table.ofText? text = some document)
    (tabular : Tabular document) (strange : ¬Conforms document) :
    ofText text = .error (.config .malformed) := by
  have unread : ofTable? document = none := by
    rw [Option.eq_none_iff_forall_ne_some]
    intro settings read
    exact strange ((ofTable?_eq_some_iff tabular).mp read).1
  rw [ofText_of_tree tree, unread]

theorem ofText_ok_iff (tree : Toml.Table.ofText? text = some document)
    (tabular : Tabular document) {result : Settings} :
    ofText text = .ok result ↔
      Conforms document ∧ (∀ check : Check, check.Passes (overlay (said document)).lowered) ∧
        result = (overlay (said document)).lowered := by
  by_cases conforms : Conforms document
  · rw [ofText_of_conforms tree tabular conforms, checked_eq_ok_iff, and_iff_right conforms]
  · simp [ofText_of_not_conforms tree tabular conforms, conforms]

/-- The log takes a level, and the subscriber that it installs has it as its threshold. -/
structure Logs (settings : LogSettings) (level : Log.Level) : Prop where
  named : level.name = settings.level
  taken : ∀ (journal : Log.Journal) (reload : Bool) (name : String),
    (journal.init settings reload).1 ≠ .error (Log.Journal.unknownLevel name)
  installed : ∀ (journal : Log.Journal) (reload : Bool), journal.subscriber = none →
    (journal.init settings reload).1 = .ok () →
      (journal.init settings reload).2.subscriber.map Log.Subscriber.filter = some (.atLeast level)

theorem logs_of_passes (passes : ∀ check : Check, check.Passes settings) :
    ∃ level, Logs settings.logging level := by
  have same : Text.lower settings.logging.level = settings.logging.level :=
    congrArg (·.logging.level) (lowered_of_passes passes)
  cases found : Log.Level.ofName? settings.logging.level with
  | none => exact absurd (passes .level) (Log.Level.ofName?_eq_none_iff.mp found)
  | some level =>
      have known : Log.Level.ofName? (Text.lower settings.logging.level) = some level :=
        same.symm ▸ found
      refine ⟨level, Log.Level.name_of_ofName? found, ?taken, ?installed⟩
      case taken => exact fun _ _ name => (Log.Journal.init_setsUp ..).ne_unknownLevel known name
      case installed =>
        intro journal reload bare ready
        have ends := Log.Journal.init_setsUp journal settings.logging reload
        rw [ready] at ends
        exact ends.filter_of_ok known bare

/-- What loading a text comes to that has the document as its tree. -/
structure Loads (document : Toml.Table) (answer : Except Fault Settings) : Prop where
  succeeds : ∀ result, answer = .ok result ↔
    Conforms document ∧ (∀ check : Check, check.Passes (overlay (said document)).lowered) ∧
      result = (overlay (said document)).lowered
  refuses : ¬Conforms document → answer = .error (.config .malformed)
  /-- The first check that fails decides. -/
  decides : ∀ check, Conforms document →
    Check.failing? (overlay (said document)).lowered = some check →
      answer = .error (.config (.invalid (check.violation (overlay (said document))).message))
  stays : ∀ result, answer = .ok result → result.checked = .ok result
  logs : ∀ result, answer = .ok result → ∃ level, Logs result.logging level

theorem ofText_loads (tree : Toml.Table.ofText? text = some document)
    (tabular : Tabular document) :
    Loads document (ofText text) where
  succeeds result := ofText_ok_iff tree tabular
  refuses strange := ofText_of_not_conforms tree tabular strange
  decides check conforms failed := by
    rw [ofText_of_conforms tree tabular conforms, checked_eq, failed]
  stays result loaded := by
    obtain ⟨-, passes, rfl⟩ := (ofText_ok_iff tree tabular).mp loaded
    have same := lowered_of_passes passes
    exact checked_eq_ok_iff.mpr ⟨same.symm ▸ passes, same.symm⟩
  logs result loaded := by
    obtain ⟨-, passes, rfl⟩ := (ofText_ok_iff tree tabular).mp loaded
    exact logs_of_passes passes

/-- Loading a text overlays what it says on the usual settings, checks the values and keeps them in
lower case. The case of ASCII letters in level and format makes no difference to the result. -/
theorem ofText_overlay (tree : Toml.Table.ofText? text = some document)
    (tabular : Tabular document) :
    Loads document (ofText text) ∧
      ∀ (other : String) (twin : Toml.Table), Toml.Table.ofText? other = some twin →
        uncased twin = uncased document → (ofText other).toOption = (ofText text).toOption := by
  refine ⟨ofText_loads tree tabular, fun other twin branch same => ?_⟩
  have tables : Tabular twin := by rwa [← tabular_uncased, same, tabular_uncased]
  have conform : Conforms twin ↔ Conforms document := by
    rw [← conforms_uncased, same, conforms_uncased]
  have values : (overlay (said twin)).lowered = (overlay (said document)).lowered := by
    rw [← lowered_uncased, same, lowered_uncased]
  have alike (result : Settings) : ofText other = .ok result ↔ ofText text = .ok result := by
    rw [ofText_ok_iff branch tables, ofText_ok_iff tree tabular, conform, values]
  cases loaded : ofText text with
  | ok result => rw [(alike result).mpr loaded]
  | error fault =>
      cases again : ofText other with
      | ok result => simp [(alike result).mp again] at loaded
      | error _ => rfl

/-- A level in capitals, a file and a number that are given, an empty section and one that is left
out. -/
theorem ofText_overlay_partial :
    let text := "[logging]\nlevel = \"WARN\"\nfile_path = \"novade.log\"\n\n" ++
      "[buffer_cache]\nmax_imported_buffers = 12\n\n[client]\n"
    (∃ document, Toml.Table.ofText? text = some document ∧ Tabular document) ∧
      ofText text = .ok {
        logging := { level := "warn", file := some "novade.log", format := "text" }
        buffers := { initialClientTargetSlots := 0, maxImportedBuffers := 12 }
        captures := { threadName := "novade-cwb" }
        clients := { handoverTimeout := 1000 } } := by
  intro text
  have read : (Toml.Table.ofText? text).isSome := by decide +kernel
  have tree : Toml.Table.ofText? text = some ((Toml.Table.ofText? text).getD []) :=
    (Option.eq_some_of_isSome read).trans (congrArg some (Option.get_eq_getD _))
  have tabular : Tabular ((Toml.Table.ofText? text).getD []) := by decide +kernel
  have loads := (ofText_overlay tree tabular).1
  refine ⟨⟨_, tree, tabular⟩, (loads.succeeds _).mpr ⟨?conforms, ?passes, ?result⟩⟩
  all_goals decide +kernel

end Scanout.Settings
