import Scanout.Device

/-!
Rules that pick calls of a simulated device: by the name of the call, its display and its layer. A
rule lets its first matches pass and then fires for a number of them.
-/

namespace Scanout

namespace DeviceCall

/-- The name of a call. The two calls for a list differ in their ending. -/
def name : DeviceCall → String
  | setEventReceiver _ => "register_event_handler"
  | capabilityCount | capabilities _ => "capabilities"
  | createLayer _ => "create_layer"
  | destroyLayer .. => "destroy_layer"
  | createVirtualDisplay .. => "create_virtual_display"
  | destroyVirtualDisplay _ => "destroy_virtual_display"
  | commitOrPrepare .. => "commit_or_prepare"
  | present _ => "present_display"
  | acceptChanges _ => "accept_display_changes"
  | changedCompositionCount _ => "changed_composition_types:size"
  | changedCompositions .. => "changed_composition_types:fill"
  | layerRequestCount _ => "display_requests:size"
  | layerRequests .. => "display_requests:fill"
  | releaseFenceCount _ => "release_fences:size"
  | releaseFences .. => "release_fences:fill"
  | targetProperty _ => "client_target_property"
  | refresh _ => "refresh"
  | setDisplay _ setting =>
      match setting with
      | .brightness _ => "set_display_brightness"
      | .colorTransform _ => "set_color_transform"
      | .clientTarget .. => "set_client_target"
      | .outputBuffer .. => "set_output_buffer"
      | .expectedPresentTime _ => "set_expected_present_time"
      | .elapsedTime _ => "set_display_elapse_time"
  | setLayer _ _ setting =>
      match setting with
      | .cursorPosition _ => "set_layer_cursor_position"
      | .buffer .. => "set_layer_buffer"
      | .damage _ => "set_layer_surface_damage"
      | .blendMode _ => "set_layer_blend_mode"
      | .composition _ => "set_layer_composition_type"
      | .color _ => "set_layer_color"
      | .dataspace _ => "set_layer_dataspace"
      | .displayFrame _ => "set_layer_display_frame"
      | .planeAlpha _ => "set_layer_plane_alpha"
      | .sidebandStream _ => "set_layer_sideband_stream"
      | .sourceCrop _ => "set_layer_source_crop"
      | .visibleRegion _ => "set_layer_visible_region"
      | .transform _ => "set_layer_transform"
      | .zOrder _ => "set_layer_z_order"
      | .metadata _ => "set_layer_per_frame_metadata"
      | .metadataBlobs _ => "set_layer_per_frame_metadata_blobs"
      | .brightness _ => "set_layer_brightness"
      | .blockingRegion _ => "set_layer_blocking_region"
      | .layerType _ => "set_layer_type"
      | .layerFlags _ => "set_layer_flags"
  | submitCapture .. => "submit_readback_buffer"

def layer? : DeviceCall → Option LayerId
  | destroyLayer _ layer | setLayer _ layer _ => some layer
  | _ => none

end DeviceCall

/-- Picks calls, and says what happens at them. -/
structure CallRule (α : Type) where
  effect : α
  /-- The name of the calls, or every name. -/
  name : Option String := none
  display : Option DisplayId := none
  layer : Option LayerId := none
  /-- How many matching calls pass before the rule fires. -/
  skip : Nat := 0
  /-- How often the rule fires, if not for ever. -/
  times : Option Nat := none

namespace CallRule

variable {α : Type}

/-- Whether a call is of the kind that the rule is for. A call without a display counts as one on
display zero. Capabilities can always be asked for. -/
def covers (rule : CallRule α) (call : DeviceCall) : Bool :=
  call.name != "capabilities" &&
  rule.name.all (· == call.name) &&
  rule.display.all (· == call.display?.getD ⟨0⟩) &&
  rule.layer.all (some · == call.layer?)

def strike (rule : CallRule α) (call : DeviceCall) : Option α × CallRule α :=
  if !rule.covers call then (none, rule)
  else if 0 < rule.skip then (none, { rule with skip := rule.skip - 1 })
  else match rule.times with
    | none => (some rule.effect, rule)
    | some 0 => (none, rule)
    | some (times + 1) => (some rule.effect, { rule with times := some times })

/-- Counts a call against every rule, and returns what fires. -/
def strikeAll (rules : List (CallRule α)) (call : DeviceCall) : List α × List (CallRule α) :=
  let struck := rules.map (·.strike call)
  (struck.filterMap (·.1), struck.map (·.2))

/-- Counts a call against the rules up to the first that fires. -/
def strikeFirst (call : DeviceCall) : List (CallRule α) → Option α × List (CallRule α)
  | [] => (none, [])
  | rule :: rest =>
      match rule.strike call with
      | (some effect, struck) => (some effect, struck :: rest)
      | (none, struck) =>
          let (effect, remaining) := strikeFirst call rest
          (effect, struck :: remaining)

end CallRule
end Scanout
