/-
**Watching does not depend on the origin of time.**

Times are counted from some origin, and monitors only ever compare them. A monitor whose times are counted
from another origin (`Monitor.relativeTo`) looks, stops and rests as before, if what it sees is counted from
there too.
-/

import CrashReporter.Hang.Monitor

namespace CrashReporter.Hang

/-- The same look, with times counted from an origin. -/
def Sight.relativeTo (origin : Int) (sight : Sight) : Sight :=
  { sight with time := sight.time - origin }

/-! ### Detectors -/

namespace Detector

/-- The same detector, with times counted from an origin. -/
def relativeTo (origin : Int) (detector : Detector) : Detector :=
  { detector with since := detector.since - origin }

theorem start_relativeTo (origin : Int) (threshold : Nat) (sight : Sight) :
    (start threshold sight).relativeTo origin = start threshold (sight.relativeTo origin) := rfl

theorem observe_relativeTo (origin : Int) (detector : Detector) (sight : Sight) :
    (detector.relativeTo origin).observe (sight.relativeTo origin) =
      ((detector.observe sight).1, (detector.observe sight).2.relativeTo origin) := by
  have span : sight.time - origin - (detector.since - origin) = sight.time - detector.since := by omega
  unfold observe relativeTo Sight.relativeTo
  dsimp only
  rw [span]
  by_cases changed : sight.token ≠ detector.token
  · rw [if_pos changed, if_pos changed]
  · rw [if_neg changed, if_neg changed]
    by_cases reported : detector.reported
    · rw [if_pos reported, if_pos reported]
    · rw [if_neg reported, if_neg reported]
      by_cases long : detector.threshold ≤ (sight.time - detector.since).toNat
      · rw [if_pos long, if_pos long]
      · rw [if_neg long, if_neg long]

end Detector

/-! ### Watchers -/

/-- The same phase, with times counted from an origin. -/
def Phase.relativeTo (origin : Int) : Phase → Phase
  | .starting => .starting
  | .waiting detector => .waiting (detector.relativeTo origin)
  | .looking detector => .looking (detector.relativeTo origin)
  | .alarmed detector => .alarmed (detector.relativeTo origin)
  | .cleared detector => .cleared (detector.relativeTo origin)
  | .calling detector => .calling (detector.relativeTo origin)
  | .ended => .ended

namespace Watcher

/-- The same watcher, with times counted from an origin. -/
def relativeTo (origin : Int) (watcher : Watcher) : Watcher :=
  { watcher with phase := watcher.phase.relativeTo origin }

theorem step_relativeTo (origin : Int) (watcher : Watcher) (sight : Sight) (hook : HookEnd) :
    (watcher.step sight hook).relativeTo origin =
      (watcher.relativeTo origin).step (sight.relativeTo origin) hook := by
  obtain ⟨threshold, stopped, phase⟩ := watcher
  cases phase with
  | waiting detector => cases stopped <;> rfl
  | looking detector =>
    dsimp only [step, relativeTo, Phase.relativeTo]
    rw [Detector.observe_relativeTo]
    cases (detector.observe sight).1 <;> rfl
  | alarmed detector => cases stopped <;> rfl
  | calling detector => cases hook <;> rfl
  | _ => rfl

theorem goOn_relativeTo (origin : Int) (watcher : Watcher) (sight : Sight) (count : Nat) :
    (watcher.goOn sight count).relativeTo origin =
      (watcher.relativeTo origin).goOn (sight.relativeTo origin) count := by
  induction count generalizing watcher with
  | zero => rfl
  | succ count ih =>
    unfold goOn
    dsimp only
    rw [← step_relativeTo]
    generalize watcher.step sight .returned = later
    obtain ⟨threshold, stopped, phase⟩ := later
    cases phase with
    | looking detector => exact ih _
    | alarmed detector => exact ih _
    | cleared detector => exact ih _
    | _ => rfl

end Watcher

/-! ### Monitors -/

namespace Monitor

/-- The same monitor, with times counted from an origin. -/
def relativeTo (origin : Int) (monitor : Monitor) : Monitor :=
  { monitor with
    due := monitor.due - origin
    watcher := monitor.watcher.relativeTo origin }

variable (origin : Int) (monitor : Monitor) (sight : Sight)

theorem start_relativeTo (buffer : Buffer) (threshold interval : Nat) :
    (start buffer threshold interval sight).relativeTo origin =
      start buffer threshold interval (sight.relativeTo origin) := by
  have due : sight.time + (max interval 1 : Nat) - origin = sight.time - origin + (max interval 1 : Nat) := by
    omega
  unfold start relativeTo Watcher.round
  dsimp only
  rw [due, Watcher.goOn_relativeTo]
  rfl

theorem stop_relativeTo : monitor.stop.relativeTo origin = (monitor.relativeTo origin).stop := rfl

theorem wake_relativeTo :
    (monitor.wake sight).relativeTo origin = (monitor.relativeTo origin).wake (sight.relativeTo origin) := by
  have due : sight.time + (monitor.interval : Int) - origin = sight.time - origin + monitor.interval := by
    omega
  unfold wake relativeTo Watcher.round
  dsimp only
  rw [due, Watcher.goOn_relativeTo]
  rfl

theorem rest_relativeTo (hook : HookEnd) :
    (monitor.rest sight hook).relativeTo origin =
      (monitor.relativeTo origin).rest (sight.relativeTo origin) hook := by
  have due : sight.time + (monitor.interval : Int) - origin = sight.time - origin + monitor.interval := by
    omega
  unfold rest relativeTo
  dsimp only
  rw [due, Watcher.step_relativeTo]
  rfl

theorem hasEnded_relativeTo : (monitor.relativeTo origin).hasEnded = monitor.hasEnded := by
  obtain ⟨buffer, interval, due, threshold, stopped, phase⟩ := monitor
  cases phase <;> rfl

theorem isCalling_relativeTo : (monitor.relativeTo origin).isCalling = monitor.isCalling := by
  obtain ⟨buffer, interval, due, threshold, stopped, phase⟩ := monitor
  cases phase <;> rfl

theorem wakes?_relativeTo (now : Int) :
    (monitor.relativeTo origin).wakes? (now - origin) = (monitor.wakes? now).map (· - origin) := by
  obtain ⟨buffer, interval, due, threshold, stopped, phase⟩ := monitor
  cases phase with
  | waiting detector => cases stopped <;> rfl
  | _ => rfl

end Monitor

end CrashReporter.Hang
