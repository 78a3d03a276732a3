import Mathlib.Tactic.Common
import Scanout.Settings.Overlay

/-!
Settings as an overlay. What a document says about a field replaces the usual value, and what it
says depends only on the field: a section that is left out says as much as an empty one. A document
gives settings when it knows no other sections and fields and every value is of its field's kind.
-/

namespace Scanout.Settings

open Toml (Value)

/-- What the value of a field may be. -/
inductive Kind where
  | text
  | natural (width : Nat)

def Kind.Admits : Kind → Value → Prop
  | text, value => ∃ content, value = .text content
  | natural width, value => ∃ number : Nat, value = .integer number ∧ number < Nat.pow 2 width

def logFields : List (String × Kind) :=
  [("level", .text), ("file_path", .text), ("format", .text)]

def bufferFields : List (String × Kind) :=
  [("initial_client_target_slot_count", .natural 32), ("max_imported_buffers", .natural 64)]

def captureFields : List (String × Kind) := [("thread_name_prefix", .text)]

def clientFields : List (String × Kind) := [("handover_timeout_ms", .natural 64)]

/-- The sections with their fields. -/
def schema : List (String × List (String × Kind)) := [
  ("logging", logFields), ("buffer_cache", bufferFields), ("writeback", captureFields),
  ("client", clientFields)]

/-- The sections that a document has are tables. -/
def Tabular (document : Toml.Table) : Prop :=
  ∀ part ∈ schema.map Prod.fst, ∀ value ∈ document.lookup part, ∃ entries, value = .table entries

def entriesOf (document : Toml.Table) (part : String) : Toml.Table :=
  match document.lookup part with
  | some (.table entries) => entries
  | _ => []

instance : (value : Value) → Decidable (∃ entries, value = .table entries)
  | .table entries => isTrue ⟨entries, rfl⟩
  | .text _ | .integer _ | .float _ | .boolean _ | .moment _ | .array _ => isFalse nofun

instance (document : Toml.Table) : Decidable (Tabular document) :=
  inferInstanceAs (Decidable (∀ part ∈ schema.map Prod.fst, ∀ value ∈ document.lookup part, _))

/-- What a document says about a field. -/
def said (document : Toml.Table) (part field : String) : Option Value :=
  (entriesOf document part).lookup field

/-- A section has no other fields, and a value of its kind for each that it has. -/
structure Fits (fields : List (String × Kind)) (entries : Toml.Table) : Prop where
  known : ∀ name ∈ entries.map Prod.fst, name ∈ fields.map Prod.fst
  admitted : ∀ field ∈ fields, ∀ value ∈ entries.lookup field.1, field.2.Admits value

structure Conforms (document : Toml.Table) : Prop where
  known : ∀ part ∈ document.map Prod.fst, part ∈ schema.map Prod.fst
  fits : ∀ part ∈ schema, Fits part.2 (entriesOf document part.1)

/-- The text that is given, or the usual one. -/
def textOr (usual : String) : Option Value → String
  | some (.text content) => content
  | _ => usual

def textGiven : Option Value → Option String
  | some (.text content) => some content
  | _ => none

def numberOr (usual : Nat) : Option Value → Nat
  | some (.integer number) => number.toNat
  | _ => usual

/-- The usual settings, overlaid with what is said about the fields. -/
def overlay (said : String → String → Option Value) : Settings where
  logging := {
    level := textOr "info" (said "logging" "level")
    file := textGiven (said "logging" "file_path")
    format := textOr "text" (said "logging" "format") }
  buffers := {
    initialClientTargetSlots := numberOr 0 (said "buffer_cache" "initial_client_target_slot_count")
    maxImportedBuffers := numberOr 4096 (said "buffer_cache" "max_imported_buffers") }
  captures := { threadName := textOr "novade-cwb" (said "writeback" "thread_name_prefix") }
  clients := { handoverTimeout := numberOr 1000 (said "client" "handover_timeout_ms") }

variable {value : Value} {entries document : Toml.Table} {given : Option Value}

@[simp]
theorem text?_isSome_iff : (value.text?).isSome ↔ Kind.text.Admits value := by
  cases value <;> simp [Kind.Admits, Value.text?]

@[simp]
theorem natural?_isSome_iff {width : Nat} :
    (value.natural? width).isSome ↔ (Kind.natural width).Admits value := by
  cases value with
  | integer number =>
      simp only [Kind.Admits, Value.natural?, Nat.pow_eq, Option.isSome_ite, Value.integer.injEq]
      constructor
      · rintro ⟨sign, small⟩
        exact ⟨number.toNat, by omega, small⟩
      · rintro ⟨size, rfl, small⟩
        exact ⟨by omega, by simpa using small⟩
  | _ => simp [Kind.Admits, Value.natural?]

instance : (kind : Kind) → (value : Value) → Decidable (kind.Admits value)
  | .text, _ => decidable_of_iff _ text?_isSome_iff
  | .natural _, _ => decidable_of_iff _ natural?_isSome_iff

theorem fits_iff {fields : List (String × Kind)} :
    Fits fields entries ↔
      (∀ name ∈ entries.map Prod.fst, name ∈ fields.map Prod.fst) ∧
        ∀ field ∈ fields, ∀ value ∈ entries.lookup field.1, field.2.Admits value :=
  ⟨fun fits => ⟨fits.known, fits.admitted⟩, fun ⟨known, admitted⟩ => ⟨known, admitted⟩⟩

instance (fields : List (String × Kind)) (entries : Toml.Table) :
    Decidable (Fits fields entries) :=
  decidable_of_iff _ fits_iff.symm

theorem conforms_iff :
    Conforms document ↔
      (∀ part ∈ document.map Prod.fst, part ∈ schema.map Prod.fst) ∧
        ∀ part ∈ schema, Fits part.2 (entriesOf document part.1) :=
  ⟨fun conforms => ⟨conforms.known, conforms.fits⟩, fun ⟨known, fits⟩ => ⟨known, fits⟩⟩

instance (document : Toml.Table) : Decidable (Conforms document) :=
  decidable_of_iff _ conforms_iff.symm

/-- A field is read if its value is of the right kind. -/
theorem fieldOr_text_iff {usual result : String} :
    fieldOr Value.text? usual given = some result ↔
      (∀ value, given = some value → Kind.text.Admits value) ∧ textOr usual given = result := by
  cases given with
  | none => simp [fieldOr, textOr]
  | some value => cases value <;> simp [fieldOr, textOr, Value.text?, Kind.Admits]

theorem fieldOr_optional_iff {result : Option String} :
    fieldOr (fun value => value.text?.map some) none given = some result ↔
      (∀ value, given = some value → Kind.text.Admits value) ∧ textGiven given = result := by
  cases given with
  | none => simp [fieldOr, textGiven]
  | some value => cases value <;> simp [fieldOr, textGiven, Value.text?, Kind.Admits]

theorem fieldOr_natural_iff {width usual result : Nat} :
    fieldOr (Value.natural? width) usual given = some result ↔
      (∀ value, given = some value → (Kind.natural width).Admits value) ∧
        numberOr usual given = result := by
  cases given with
  | none => simp [fieldOr, numberOr]
  | some value =>
      simp only [Option.some.injEq, forall_eq', ← natural?_isSome_iff, fieldOr]
      cases value with
      | integer number => simp [numberOr, Value.natural?]
      | _ => simp [Value.natural?]

@[simp]
theorem fields?_table {names : List String} {field : String → Option Value} :
    (Value.table entries).fields? names = some field ↔
      (∀ name ∈ entries.map Prod.fst, name ∈ names) ∧
        (fun name => entries.lookup name) = field := by
  simp [Value.fields?]

theorem logging?_eq_some_iff {settings : LogSettings} :
    logging? (.table entries) = some settings ↔
      Fits logFields entries ∧ (overlay fun _ name => entries.lookup name).logging = settings := by
  simp [logging?, Option.bind_eq_some_iff, fieldOr_text_iff, fieldOr_optional_iff, fits_iff,
    logFields, overlay, and_assoc]

theorem buffers?_eq_some_iff {settings : BufferSettings} :
    buffers? (.table entries) = some settings ↔
      Fits bufferFields entries ∧
        (overlay fun _ name => entries.lookup name).buffers = settings := by
  simp [buffers?, Option.bind_eq_some_iff, fieldOr_natural_iff, fits_iff, bufferFields, overlay,
    and_assoc]

theorem captures?_eq_some_iff {settings : CaptureSettings} :
    captures? (.table entries) = some settings ↔
      Fits captureFields entries ∧
        (overlay fun _ name => entries.lookup name).captures = settings := by
  simp [captures?, Option.bind_eq_some_iff, fieldOr_text_iff, fits_iff, captureFields, overlay,
    and_assoc]

theorem clients?_eq_some_iff {settings : ClientSettings} :
    clients? (.table entries) = some settings ↔
      Fits clientFields entries ∧
        (overlay fun _ name => entries.lookup name).clients = settings := by
  simp [clients?, Option.bind_eq_some_iff, fieldOr_natural_iff, fits_iff, clientFields, overlay,
    and_assoc]

/-- Reading a section, or leaving it at its usual value, is reading what is there of it: the usual
values of its fields make up its own. -/
theorem fieldOr_section {α : Type} {read : Value → Option α} {usual : α} {part : String}
    (tabular : Tabular document) (known : part ∈ schema.map Prod.fst)
    (empty : read (.table []) = some usual) :
    fieldOr read usual (document.lookup part) = read (.table (entriesOf document part)) := by
  rw [entriesOf]
  cases found : document.lookup part with
  | none => exact empty.symm
  | some value =>
      obtain ⟨entries, rfl⟩ := tabular part known value found
      rfl

/-- The settings of a section are decided by what is said in it. -/
theorem overlay_said :
    overlay (said document) = {
      logging := (overlay fun _ name => (entriesOf document "logging").lookup name).logging
      buffers := (overlay fun _ name => (entriesOf document "buffer_cache").lookup name).buffers
      captures := (overlay fun _ name => (entriesOf document "writeback").lookup name).captures
      clients := (overlay fun _ name => (entriesOf document "client").lookup name).clients } :=
  rfl

/-- A document gives settings when it conforms, and then the overlay of what it says. -/
theorem ofTable?_eq_some_iff (tabular : Tabular document) {settings : Settings} :
    ofTable? document = some settings ↔
      Conforms document ∧ overlay (said document) = settings := by
  have log : fieldOr logging? {} (document.lookup "logging") =
      logging? (.table (entriesOf document "logging")) :=
    fieldOr_section tabular (by decide) rfl
  have buffers : fieldOr buffers? {} (document.lookup "buffer_cache") =
      buffers? (.table (entriesOf document "buffer_cache")) :=
    fieldOr_section tabular (by decide) rfl
  have captures : fieldOr captures? {} (document.lookup "writeback") =
      captures? (.table (entriesOf document "writeback")) :=
    fieldOr_section tabular (by decide) rfl
  have clients : fieldOr clients? {} (document.lookup "client") =
      clients? (.table (entriesOf document "client")) :=
    fieldOr_section tabular (by decide) rfl
  simp [ofTable?, Option.bind_eq_some_iff, log, buffers, captures, clients, logging?_eq_some_iff,
    buffers?_eq_some_iff, captures?_eq_some_iff, clients?_eq_some_iff, conforms_iff, overlay_said,
    schema, and_assoc]

end Scanout.Settings
