/-
**Hang detection.**

A detector is shown the liveness token time and again. It reports a hang once the token has stayed the
same for as long as the threshold, and not again before the token has changed.
-/

import CrashReporter.Event.Context

namespace CrashReporter

/-- A span of time in nanoseconds. -/
def Duration.toNanoseconds (span : Duration) : Nat :=
  span.seconds.toNat * 1000000000 + span.nanoseconds

namespace Hang

/-- A look at the liveness token. -/
structure Sight where
  token : UInt64
  /-- The time of the look in nanoseconds, from some origin. -/
  time : Int
  deriving DecidableEq, Repr

/-- What is known of the liveness token. -/
structure Detector where
  /-- The time in nanoseconds after which an unchanged token is a hang. -/
  threshold : Nat
  token : UInt64
  /-- The time of the look that found the token changed. -/
  since : Int
  /-- The present hang has been reported. -/
  reported : Bool
  deriving DecidableEq, Repr

namespace Detector

/-- A detector that starts with a look. -/
def start (threshold : Nat) (sight : Sight) : Detector :=
  ⟨threshold, sight.token, sight.time, false⟩

/-- Takes another look, and tells whether it finds a hang to report. A time before the last change
counts as no time. -/
def observe (detector : Detector) (sight : Sight) : Bool × Detector :=
  if sight.token ≠ detector.token then
    (false, { detector with token := sight.token, since := sight.time, reported := false })
  else if detector.reported then (false, detector)
  else if detector.threshold ≤ (sight.time - detector.since).toNat then
    (true, { detector with reported := true })
  else (false, detector)

/-- Takes one look after the other. -/
def observeAll (detector : Detector) : List Sight → List Bool
  | [] => []
  | sight :: rest =>
    let (hang, detector) := detector.observe sight
    hang :: observeAll detector rest

end Detector

end Hang

end CrashReporter
