/-
**Clocks.**

A clock gives one reading after another. Nothing is assumed about them: a clock may stand still or go
backwards.
-/

import CrashReporter.Instant.Basic

namespace CrashReporter

/-- The readings of a clock, and how many have been taken. -/
structure Clock where
  reading : Nat → Instant
  taken : Nat

namespace Clock

/-- Takes a reading. -/
def read (clock : Clock) : Instant × Clock :=
  (clock.reading clock.taken, { clock with taken := clock.taken + 1 })

/-- A clock that stands still. -/
def still (instant : Instant) : Clock :=
  ⟨fun _ => instant, 0⟩

end Clock

end CrashReporter
