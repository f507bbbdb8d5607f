/-
**Layers and settings as JSON objects.**

A layer names every section and every field, and what it leaves open is null.
-/

import CrashReporter.Config.Settings
import CrashReporter.Event.Context

namespace CrashReporter

namespace Json

/-- A word as a number. -/
def ofWord (value : UInt64) : Json := .ofInt value.toNat

/-- A list of strings as an array. -/
def ofStrings (values : List String) : Json := .array (values.map .string)

end Json

namespace BreadcrumbsLayer

/-- The JSON object of a section. -/
def toJson (layer : BreadcrumbsLayer) : Json :=
  .object [("max_breadcrumbs", .ofOption .ofWord layer.maxBreadcrumbs)]

end BreadcrumbsLayer

namespace HangLayer

/-- The JSON object of a section. -/
def toJson (layer : HangLayer) : Json :=
  .object
    [("threshold_ms", .ofOption .ofWord layer.threshold),
      ("poll_interval_ms", .ofOption .ofWord layer.pollInterval)]

end HangLayer

namespace ReleaseLayer

/-- The JSON object of a section. -/
def toJson (layer : ReleaseLayer) : Json :=
  .object
    [("enabled_release_stages", .ofOption .ofStrings layer.enabledStages),
      ("discard_classes", .ofOption .ofStrings layer.discardClasses)]

end ReleaseLayer

namespace LogLayer

/-- The JSON object of a section. -/
def toJson (layer : LogLayer) : Json :=
  .object [("level", .ofOption .string layer.level)]

end LogLayer

/-- The JSON object of a layer. -/
def Layer.toJson (layer : Layer) : Json :=
  .object
    [("breadcrumbs", .ofOption BreadcrumbsLayer.toJson layer.breadcrumbs),
      ("anr", .ofOption HangLayer.toJson layer.hang),
      ("release", .ofOption ReleaseLayer.toJson layer.release),
      ("logging", .ofOption LogLayer.toJson layer.log)]

/-- The layer that specifies all settings. -/
def Settings.toLayer (settings : Settings) : Layer :=
  { breadcrumbs := some ⟨some settings.breadcrumbs.maxBreadcrumbs⟩
    hang := some ⟨some settings.hang.threshold, some settings.hang.pollInterval⟩
    release := some ⟨settings.release.enabledStages, some settings.release.discardClasses⟩
    log := some ⟨some settings.log.level⟩ }

end CrashReporter
