import Scanout.Id

/-!
What happens to displays without a request: hotplug, refresh and vertical synchronisation.
-/

namespace Scanout

structure PeriodTimeline where
  appliedTime : Int := 0
  refreshRequired : Bool := false
  refreshTime : Int := 0
  deriving DecidableEq, Repr, Inhabited

inductive EventKind where
  | hotplug (connected : Bool)
  | refresh
  | vsync (timestamp period : Int)
  | periodTimingChanged (timeline : PeriodTimeline)
  | seamlessPossible
  | vsyncIdle
  deriving DecidableEq, Repr

/-- How an event is called in notes about it. -/
def EventKind.name : EventKind → String
  | hotplug _ => "hotplug"
  | refresh => "refresh"
  | vsync .. => "vsync"
  | periodTimingChanged _ => "vsync_period_timing_changed"
  | seamlessPossible => "seamless_possible"
  | vsyncIdle => "vsync_idle"

structure DisplayEvent where
  display : DisplayId
  kind : EventKind
  deriving DecidableEq, Repr

end Scanout
