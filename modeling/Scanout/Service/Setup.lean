import Scanout.Buffer.Pool
import Scanout.Service.Basic
import Scanout.Settings.Basic

/-!
The service and its surroundings as the settings make them.
-/

namespace Scanout.Settings

def service (settings : Settings) : Service where
  initialClientTargetSlots := settings.buffers.initialClientTargetSlots
  handoverTimeout := settings.clients.handoverTimeout

def pool (settings : Settings) : Pool where
  capacity := settings.buffers.maxImportedBuffers

/-- The name of the thread that tells of a display's captures. -/
def workerName (settings : Settings) (display : DisplayId) : String :=
  s!"{settings.captures.threadName}-{display}"

end Scanout.Settings
