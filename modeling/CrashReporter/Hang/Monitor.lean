/-
**Monitors: watchers that keep time.**

A monitor watches the token in one buffer. It sleeps between its looks (`Monitor.wakes?` says until when),
and `Monitor.wake` lets it look. While it is inside its hook it neither sleeps nor looks;
`Monitor.rest` ends that.
-/

import CrashReporter.Hang.Buffer
import CrashReporter.Hang.Watch

namespace CrashReporter.Hang

/-- A watcher of the token in a buffer, with the time of its next look. -/
structure Monitor where
  buffer : Buffer
  /-- The time between looks in nanoseconds. -/
  interval : Nat
  /-- When it looks next, if it is asleep. -/
  due : Int
  watcher : Watcher
  deriving DecidableEq, Repr

namespace Monitor

/-- A monitor that starts with a look. An interval of zero counts as one. -/
def start (buffer : Buffer) (threshold interval : Nat) (sight : Sight) : Monitor where
  buffer := buffer
  interval := max interval 1
  due := sight.time + (max interval 1 : Nat)
  watcher := (Watcher.fresh threshold).round sight

/-- Tells the monitor to stop. -/
def stop (monitor : Monitor) : Monitor :=
  { monitor with watcher := { monitor.watcher with stopped := true } }

/-- It has ended. -/
def hasEnded (monitor : Monitor) : Bool := monitor.watcher.phase = .ended

/-- It is inside its hook. -/
def isCalling (monitor : Monitor) : Bool := monitor.watcher.phase.isCalling

/-- When the monitor wakes, if it is asleep. One that was told to stop wakes at once. -/
def wakes? (monitor : Monitor) (now : Int) : Option Int :=
  match monitor.watcher.phase with
  | .waiting _ => some (if monitor.watcher.stopped then now else monitor.due)
  | _ => none

/-- Wakes the monitor: it looks, unless it was told to stop. -/
def wake (monitor : Monitor) (sight : Sight) : Monitor :=
  { monitor with
    due := sight.time + monitor.interval
    watcher := monitor.watcher.round sight }

/-- Ends the call of the hook. The monitor sleeps until its next look, a whole interval away. -/
def rest (monitor : Monitor) (sight : Sight) (hook : HookEnd) : Monitor :=
  { monitor with
    due := sight.time + monitor.interval
    watcher := monitor.watcher.step sight hook }

end Monitor

end CrashReporter.Hang
