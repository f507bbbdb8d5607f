/-
**Settings: a layer with defaults for what it leaves open.**

* `Layer.resolve` fills in the defaults;
* `Settings.infraction?` finds the first rule that settings break;
* `Layer.finalize` does both.
-/

import CrashReporter.Config.Error
import CrashReporter.Config.Layer
import CrashReporter.Event.Context

namespace CrashReporter

/-- Settings of the trail of breadcrumbs. -/
structure BreadcrumbsSettings where
  maxBreadcrumbs : UInt64
  deriving DecidableEq, Repr

/-- Settings of the detection of hangs, in milliseconds. -/
structure HangSettings where
  threshold : UInt64
  pollInterval : UInt64
  deriving DecidableEq, Repr

/-- Settings of which events are reported. -/
structure ReleaseSettings where
  /-- Every release stage counts as enabled if this is none. -/
  enabledStages : Option (List String)
  /-- Error classes that are never reported. -/
  discardClasses : List String
  deriving DecidableEq, Repr

/-- Settings of the agent's own log. -/
structure LogSettings where
  level : String
  deriving DecidableEq, Repr

/-- Resolved settings. -/
structure Settings where
  breadcrumbs : BreadcrumbsSettings
  hang : HangSettings
  release : ReleaseSettings
  log : LogSettings
  deriving DecidableEq, Repr

/-- A section with defaults for the fields that it leaves open. -/
def BreadcrumbsLayer.resolve (layer : BreadcrumbsLayer) : BreadcrumbsSettings :=
  ⟨layer.maxBreadcrumbs.getD 100⟩

/-- A section with defaults for the fields that it leaves open. -/
def HangLayer.resolve (layer : HangLayer) : HangSettings :=
  ⟨layer.threshold.getD 5000, layer.pollInterval.getD 100⟩

/-- A section with defaults for the fields that it leaves open. -/
def ReleaseLayer.resolve (layer : ReleaseLayer) : ReleaseSettings :=
  ⟨layer.enabledStages, layer.discardClasses.getD []⟩

/-- A section with defaults for the fields that it leaves open. -/
def LogLayer.resolve (layer : LogLayer) : LogSettings :=
  ⟨layer.level.getD "info"⟩

/-- A layer with defaults for all that it leaves open. -/
def Layer.resolve (layer : Layer) : Settings :=
  { breadcrumbs := (layer.breadcrumbs.getD .empty).resolve
    hang := (layer.hang.getD .empty).resolve
    release := (layer.release.getD .empty).resolve
    log := (layer.log.getD .empty).resolve }

namespace HangSettings

/-- How long the liveness token may stay unchanged. -/
def thresholdSpan (settings : HangSettings) : Duration :=
  .ofMilliseconds settings.threshold

/-- How long the monitor waits between two looks at the token. -/
def pollSpan (settings : HangSettings) : Duration :=
  .ofMilliseconds settings.pollInterval

end HangSettings

namespace ReleaseSettings

/-- Events of a release stage may be reported. An event without one always may. -/
def allows (settings : ReleaseSettings) (stage : Option String) : Bool :=
  match settings.enabledStages, stage with
  | some stages, some stage => stages.contains stage
  | _, _ => true

/-- Events of an error class are never reported. Classes are compared exactly. -/
def discards (settings : ReleaseSettings) (errorClass : Option String) : Bool :=
  match errorClass with
  | some errorClass => settings.discardClasses.contains errorClass
  | none => false

end ReleaseSettings

namespace Settings

/-- The settings when nothing is specified. -/
def defaults : Settings := Layer.empty.resolve

instance : Inhabited Settings := ⟨defaults⟩

/-- The first rule that settings break. -/
def infraction? (settings : Settings) : Option Infraction :=
  if settings.breadcrumbs.maxBreadcrumbs = 0 then some .noCapacity
  else if settings.hang.pollInterval = 0 then some .noPollInterval
  else if settings.hang.threshold < settings.hang.pollInterval then
    some (.thresholdBelowPollInterval settings.hang.threshold settings.hang.pollInterval)
  else none

/-- Settings that break no rule. -/
def validate (settings : Settings) : Except ConfigError Settings :=
  match settings.infraction? with
  | some infraction => .error (.invalid infraction)
  | none => .ok settings

end Settings

/-- The settings of a layer, if they break no rule. -/
def Layer.finalize (layer : Layer) : Except ConfigError Settings :=
  layer.resolve.validate

end CrashReporter
