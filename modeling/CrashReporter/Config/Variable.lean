/-
**Environment variables.**

The variables that the agent reads. Their values are octets of the host's making: one that is not UTF-8 or
is empty counts as unset (`Environment.value?`).
-/

import CrashReporter.Text.Utf8

namespace CrashReporter

/-- A variable that the agent reads. -/
inductive Variable where
  | maxBreadcrumbs
  | hangThreshold
  | pollInterval
  | enabledReleaseStages
  | discardClasses
  | logLevel
  | configFile
  deriving DecidableEq, Repr

namespace Variable

/-- All variables. -/
def all : List Variable :=
  [.maxBreadcrumbs, .hangThreshold, .pollInterval, .enabledReleaseStages, .discardClasses, .logLevel,
    .configFile]

/-- The name of a variable. -/
def name : Variable → String
  | .maxBreadcrumbs => "LOOM_CRASH_MAX_BREADCRUMBS"
  | .hangThreshold => "LOOM_CRASH_ANR_THRESHOLD_MS"
  | .pollInterval => "LOOM_CRASH_ANR_POLL_INTERVAL_MS"
  | .enabledReleaseStages => "LOOM_CRASH_ENABLED_RELEASE_STAGES"
  | .discardClasses => "LOOM_CRASH_DISCARD_CLASSES"
  | .logLevel => "LOOM_CRASH_LOG_LEVEL"
  | .configFile => "LOOM_CRASH_CONFIG_FILE"

end Variable

/-- The octets that each variable is set to. -/
abbrev Environment := Variable → Option (List UInt8)

/-- The value of a variable; none if it is unset, empty or not UTF-8. -/
def Environment.value? (environment : Environment) (key : Variable) : Option String := do
  let octets ← environment key
  let characters ← Utf8.decode? octets
  if characters = [] then none else some (String.ofList characters)

end CrashReporter
