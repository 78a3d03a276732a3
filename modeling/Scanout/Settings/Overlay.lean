import Scanout.Settings.Basic
import Scanout.Toml.Basic

/-!
Settings from a document. Every section and every field may be left out and then has its usual
value; what is there has to be known and of the right kind. A section is a table of its fields, or
an array that gives them in order.
-/

namespace Scanout

namespace Toml.Value

def text? : Value → Option String
  | text content => some content
  | _ => none

def natural? (width : Nat) : Value → Option Nat
  | integer number => if 0 ≤ number ∧ number.toNat < Nat.pow 2 width then some number.toNat else none
  | _ => none

def fields? (names : List String) : Value → Option (String → Option Value)
  | table entries =>
      if entries.all fun (name, _) => names.contains name then
        some fun name => entries.lookup name
      else none
  | array elements => some fun name => elements[names.idxOf name]?
  | _ => none

end Toml.Value

namespace Settings

open Toml

/-- The value of a field, or the usual one if nothing is given. -/
def fieldOr {α : Type} (read : Value → Option α) (usual : α) : Option Value → Option α
  | none => some usual
  | some value => read value

def logging? (value : Value) : Option LogSettings := do
  let usual : LogSettings := {}
  let field ← value.fields? ["level", "file_path", "format"]
  return {
    level := ← fieldOr Value.text? usual.level (field "level")
    file := ← fieldOr (fun value => some <$> value.text?) usual.file (field "file_path")
    format := ← fieldOr Value.text? usual.format (field "format") }

def buffers? (value : Value) : Option BufferSettings := do
  let usual : BufferSettings := {}
  let field ← value.fields? ["initial_client_target_slot_count", "max_imported_buffers"]
  return {
    initialClientTargetSlots := ← fieldOr (Value.natural? 32) usual.initialClientTargetSlots
      (field "initial_client_target_slot_count")
    maxImportedBuffers := ← fieldOr (Value.natural? 64) usual.maxImportedBuffers
      (field "max_imported_buffers") }

def captures? (value : Value) : Option CaptureSettings := do
  let usual : CaptureSettings := {}
  let field ← value.fields? ["thread_name_prefix"]
  return { threadName := ← fieldOr Value.text? usual.threadName (field "thread_name_prefix") }

def clients? (value : Value) : Option ClientSettings := do
  let usual : ClientSettings := {}
  let field ← value.fields? ["handover_timeout_ms"]
  return {
    handoverTimeout := ← fieldOr (Value.natural? 64) usual.handoverTimeout
      (field "handover_timeout_ms") }

/-- The settings that a document gives, before their values are checked. -/
def ofTable? (document : Toml.Table) : Option Settings := do
  let usual : Settings := {}
  let field ← (Value.table document).fields? ["logging", "buffer_cache", "writeback", "client"]
  return {
    logging := ← fieldOr logging? usual.logging (field "logging")
    buffers := ← fieldOr buffers? usual.buffers (field "buffer_cache")
    captures := ← fieldOr captures? usual.captures (field "writeback")
    clients := ← fieldOr clients? usual.clients (field "client") }

end Settings
end Scanout
