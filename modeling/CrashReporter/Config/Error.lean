/-
**Why a configuration is refused.**

A configuration fails at its file, at a variable that has to be a number, or as a whole, when the
settings of all sources together break a rule. `ConfigError.name` names each cause, and
`ConfigError.message` words it.
-/

import CrashReporter.Config.Variable

namespace CrashReporter

/-- A rule that settings break. -/
inductive Infraction where
  /-- The trail may hold no breadcrumb. -/
  | noCapacity
  /-- There is no time between two looks at the liveness token. -/
  | noPollInterval
  /-- A hang would be shorter than the time between two looks. -/
  | thresholdBelowPollInterval (threshold pollInterval : UInt64)
  deriving DecidableEq, Repr

/-- A cause for refusing a configuration. -/
inductive ConfigError where
  /-- The file exists and is no UTF-8 text. -/
  | unreadableFile (path : String)
  /-- The text of the file is no layer of settings. -/
  | malformedFile (path : String)
  /-- The value of a variable is no number. -/
  | invalidNumber (key : Variable) (value : String)
  /-- The settings break a rule. -/
  | invalid (infraction : Infraction)
  deriving DecidableEq, Repr

/-- The wording of a broken rule. -/
def Infraction.message : Infraction → String
  | .noCapacity => "max_breadcrumbs must be at least 1"
  | .noPollInterval => "anr.poll_interval_ms must be at least 1"
  | .thresholdBelowPollInterval threshold pollInterval =>
    "anr.threshold_ms (" ++ toString threshold.toNat ++
      ") must not be shorter than anr.poll_interval_ms (" ++ toString pollInterval.toNat ++ ")"

/-- The name of a refusal. -/
def ConfigError.name : ConfigError → String
  | .unreadableFile _ => "FileRead"
  | .malformedFile _ => "TomlParse"
  | .invalidNumber _ _ => "InvalidValue"
  | .invalid _ => "Validation"

/-- The wording of a refusal. -/
def ConfigError.message : ConfigError → String
  | .unreadableFile path => "failed to read " ++ path
  | .malformedFile path => "TOML parse error in " ++ path
  | .invalidNumber key value =>
    "Invalid value for " ++ key.name ++ ": invalid number '" ++ value ++ "'"
  | .invalid infraction => "Validation error: " ++ infraction.message

end CrashReporter
