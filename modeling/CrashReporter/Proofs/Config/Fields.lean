/-
**Layers and settings, field by field.**

A layer specifies some of the fields (`Layer.field?`), settings have a value for every one of them
(`Settings.field`), and what is not specified takes its default (`Layer.Field.resolve`). Sections are only a way of
writing: where they are absent, and where they are present and specify nothing, the fields are the same.

* `field?_merge`: a field of merged layers is the upper one's if it specifies it, and else the lower one's;
* `resolve_eq`: settings follow from a layer field by field.
-/

import CrashReporter.Config.Settings
import Mathlib.Tactic.Common

namespace CrashReporter

/-- A field that a source may specify. -/
inductive Layer.Field where
  | maxBreadcrumbs
  | threshold
  | pollInterval
  | enabledStages
  | discardClasses
  | logLevel
  deriving DecidableEq, Repr

namespace Layer

/-- What a source specifies for a field. -/
abbrev Field.Value : Field → Type
  | .maxBreadcrumbs | .threshold | .pollInterval => UInt64
  | .enabledStages | .discardClasses => List String
  | .logLevel => String

/-- What a field is in settings: without enabled stages, every stage is. -/
abbrev Field.Resolved : Field → Type
  | .enabledStages => Option (List String)
  | field => field.Value

/-- What a layer specifies for a field. -/
def field? (layer : Layer) : (field : Field) → Option field.Value
  | .maxBreadcrumbs => layer.breadcrumbs.bind BreadcrumbsLayer.maxBreadcrumbs
  | .threshold => layer.hang.bind HangLayer.threshold
  | .pollInterval => layer.hang.bind HangLayer.pollInterval
  | .enabledStages => layer.release.bind ReleaseLayer.enabledStages
  | .discardClasses => layer.release.bind ReleaseLayer.discardClasses
  | .logLevel => layer.log.bind LogLayer.level

end Layer

namespace Settings

/-- The value of a field. -/
def field (settings : Settings) : (field : Layer.Field) → field.Resolved
  | .maxBreadcrumbs => settings.breadcrumbs.maxBreadcrumbs
  | .threshold => settings.hang.threshold
  | .pollInterval => settings.hang.pollInterval
  | .enabledStages => settings.release.enabledStages
  | .discardClasses => settings.release.discardClasses
  | .logLevel => settings.log.level

/-- Settings that have the given values. -/
def ofFields (value : (field : Layer.Field) → field.Resolved) : Settings :=
  { breadcrumbs := ⟨value .maxBreadcrumbs⟩
    hang := ⟨value .threshold, value .pollInterval⟩
    release := ⟨value .enabledStages, value .discardClasses⟩
    log := ⟨value .logLevel⟩ }

/-- Settings are told by their fields. -/
theorem ofFields_field (settings : Settings) : ofFields settings.field = settings := rfl

end Settings

/-- A field in settings: what is specified, and the default if nothing is. -/
def Layer.Field.resolve : (field : Layer.Field) → Option field.Value → field.Resolved
  | .enabledStages, value => value <|> Settings.defaults.field .enabledStages
  | .maxBreadcrumbs, value => value.getD (Settings.defaults.field .maxBreadcrumbs)
  | .threshold, value => value.getD (Settings.defaults.field .threshold)
  | .pollInterval, value => value.getD (Settings.defaults.field .pollInterval)
  | .discardClasses, value => value.getD (Settings.defaults.field .discardClasses)
  | .logLevel, value => value.getD (Settings.defaults.field .logLevel)

namespace Layer

@[simp] theorem field?_empty (field : Field) : Layer.empty.field? field = none := by
  cases field <;> rfl

/-- Merging sections merges a field of theirs. -/
theorem bind_merge {σ φ : Type} {merge : σ → σ → σ} {read : σ → Option φ}
    (reads : ∀ lower upper, read (merge lower upper) = (read upper <|> read lower)) (lower upper : Option σ) :
    (Option.merge merge lower upper).bind read = (upper.bind read <|> lower.bind read) := by
  cases lower with
  | none =>
    cases upper with
    | none => rfl
    | some upper =>
      show read upper = (read upper <|> none)
      cases read upper <;> rfl
  | some lower =>
    cases upper with
    | none => rfl
    | some upper => exact reads lower upper

/-- **A field of merged layers** is the upper layer's if it specifies it, and the lower one's if not. -/
theorem field?_merge (lower upper : Layer) (field : Field) :
    (lower.merge upper).field? field = (upper.field? field <|> lower.field? field) := by
  cases field
  all_goals exact bind_merge (fun _ _ => rfl) _ _

/-- A field in settings is what the layer specifies, or the default. -/
theorem field_resolve (layer : Layer) (field : Field) :
    layer.resolve.field field = field.resolve (layer.field? field) := by
  obtain ⟨breadcrumbs, hang, release, log⟩ := layer
  cases field with
  | maxBreadcrumbs => cases breadcrumbs <;> rfl
  | threshold => cases hang <;> rfl
  | pollInterval => cases hang <;> rfl
  | enabledStages =>
    cases release with
    | none => rfl
    | some release =>
      obtain ⟨stages, classes⟩ := release
      cases stages <;> rfl
  | discardClasses => cases release <;> rfl
  | logLevel => cases log <;> rfl

/-- **Settings follow from a layer field by field.** -/
theorem resolve_eq (layer : Layer) :
    layer.resolve = Settings.ofFields fun field => field.resolve (layer.field? field) := by
  rw [← funext layer.field_resolve, Settings.ofFields_field]

end Layer

end CrashReporter
