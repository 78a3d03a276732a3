import Scanout.Proofs.Settings.Overlay

/-!
Documents up to the case of the ASCII letters in the level and the format. Putting these letters in
lower case changes neither whether a document conforms nor any other setting.
-/

namespace Scanout.Settings

open Toml (Value)

variable {document entries : Toml.Table} {name part : String} {value : Value} {kind : Kind}

/-- Changes the values of a table and leaves its keys. -/
def mapValues (change : String → Value → Value) (entries : Toml.Table) : Toml.Table :=
  entries.map fun entry => (entry.1, change entry.1 entry.2)

def uncasedField (name : String) : Value → Value
  | .text content => .text (if name ∈ ["level", "format"] then content.toLower else content)
  | value => value

def uncasedPart (part : String) : Value → Value
  | .table entries => .table (if part = "logging" then mapValues uncasedField entries else entries)
  | value => value

/-- The document with the ASCII letters of level and format in lower case. -/
def uncased (document : Toml.Table) : Toml.Table := mapValues uncasedPart document

@[simp]
theorem keys_mapValues (change : String → Value → Value) (entries : Toml.Table) :
    (mapValues change entries).map Prod.fst = entries.map Prod.fst := by
  simp [mapValues]

@[simp]
theorem lookup_mapValues (change : String → Value → Value) (entries : Toml.Table)
    (name : String) :
    (mapValues change entries).lookup name = (entries.lookup name).map (change name) := by
  induction entries with
  | nil => rfl
  | cons entry rest ih =>
      obtain ⟨key, value⟩ := entry
      by_cases same : name = key
      · simp [mapValues, same]
      · simpa [mapValues, List.lookup_cons, beq_false_of_ne same] using ih

@[simp]
theorem admits_uncasedField : kind.Admits (uncasedField name value) ↔ kind.Admits value := by
  cases kind <;> cases value <;> simp [Kind.Admits, uncasedField]

theorem tabular_uncased : Tabular (uncased document) ↔ Tabular document := by
  have table (part : String) (value : Value) :
      (∃ entries, uncasedPart part value = .table entries) ↔ ∃ entries, value = .table entries := by
    cases value <;> simp [uncasedPart]
  simp [Tabular, uncased, table]

theorem entriesOf_uncased :
    entriesOf (uncased document) part =
      if part = "logging" then mapValues uncasedField (entriesOf document part)
      else entriesOf document part := by
  simp only [entriesOf, uncased, lookup_mapValues]
  cases document.lookup part with
  | none => simp [mapValues]
  | some value => cases value <;> simp [uncasedPart, mapValues]

theorem fits_uncased {fields : List (String × Kind)} :
    Fits fields (mapValues uncasedField entries) ↔ Fits fields entries := by
  simp [fits_iff, -List.mem_map]

theorem conforms_uncased : Conforms (uncased document) ↔ Conforms document := by
  have fits (part : String) (fields : List (String × Kind)) :
      Fits fields (entriesOf (uncased document) part) ↔ Fits fields (entriesOf document part) := by
    rw [entriesOf_uncased]
    split <;> simp only [fits_uncased]
  have keys : (uncased document).map Prod.fst = document.map Prod.fst := keys_mapValues ..
  simp only [conforms_iff, fits, keys]

theorem said_uncased (field : String) :
    said (uncased document) part field =
      (said document part field).map (if part = "logging" then uncasedField field else id) := by
  rw [said, entriesOf_uncased]
  split <;> simp [said]

/-- A level or a format is put in lower case if one is given, and the usual one has no capitals. -/
theorem textOr_uncased {given : Option Value} {usual : String} (cased : name ∈ ["level", "format"])
    (small : usual.toLower = usual) :
    textOr usual (given.map (uncasedField name)) = (textOr usual given).toLower := by
  cases given with
  | none => exact small.symm
  | some value =>
      cases value with
      | text content => simp [uncasedField, cased, textOr]
      | _ => exact small.symm

theorem textGiven_uncased {given : Option Value} :
    textGiven (given.map (uncasedField "file_path")) = textGiven given := by
  cases given with
  | none => rfl
  | some value => cases value <;> simp [uncasedField, textGiven]

theorem overlay_uncased :
    overlay (said (uncased document)) =
      let settings := overlay (said document)
      { settings with
        logging := { settings.logging with
          level := settings.logging.level.toLower
          format := settings.logging.format.toLower } } := by
  have level (given : Option Value) : textOr "info" (given.map (uncasedField "level")) =
      (textOr "info" given).toLower :=
    textOr_uncased (by simp) (by decide +kernel)
  have format (given : Option Value) : textOr "text" (given.map (uncasedField "format")) =
      (textOr "text" given).toLower :=
    textOr_uncased (by simp) (by decide +kernel)
  simp [overlay, said_uncased, level, textGiven_uncased, format]

end Scanout.Settings
