import Scanout.Service.Basic

/-!
Display events on their way from the device to a client's listener. A display that is connected is
known before the listener hears of it; one that is disconnected is forgotten afterwards, with its
captures, and the primary display is refreshed in between.
-/

namespace Scanout.Service

/-- Brings an event to a client. Nothing happens while the client has no one to tell. -/
def receive (id : ClientId) (event : DisplayEvent) : Action Service Unit := do
  match ((← get).client id).activeListener with
  | none => return ()
  | some listener =>
      let tell : Action Service Unit := Action.ask (.notify id listener event)
      match event.kind with
      | .hotplug true =>
          modify fun service => service.modifyClient id fun client =>
            { client with
              registry :=
                (client.registry.addDisplay event.display false
                  service.initialClientTargetSlots 0).2 }
          tell
      | .hotplug false =>
          tell
          let _ ← Action.call (.refresh primaryDisplay)
          let _ ← dropDisplay id event.display
          dropCaptures event.display
      | _ => tell

end Scanout.Service
