/-
**Layers read from data.**

Sections and fields have the same names in every data format. A `Format` answers the few questions that
reading a layer asks of a value; there is one for JSON, where null is absent, and one for TOML, which
has no null and where a section may also be an array of its fields or a moment, which specifies none.
-/

import CrashReporter.Config.Settings
import CrashReporter.Event.Decode
import CrashReporter.Toml.Document

namespace CrashReporter

/-- What reading a layer asks of a value. -/
structure Format (α : Type) where
  /-- The declared fields of a record. -/
  fields? : List String → α → Option (List (Field α))
  /-- The value stands for nothing. -/
  isNull : α → Bool
  /-- A natural number of sixty-four bits. -/
  word? : α → Option UInt64
  /-- A string. -/
  string? : α → Option String
  /-- The items of an array. -/
  items? : α → Option (List α)

namespace Format

variable {α β : Type}

/-- A value that may stand for nothing. -/
def nullable? (format : Format α) (decode : α → Option β) (value : α) : Option (Option β) :=
  if format.isNull value then some none else (decode value).map some

/-- An array of strings. -/
def strings? (format : Format α) (value : α) : Option (List String) :=
  (format.items? value).bind fun items => items.mapM format.string?

/-- A section on the trail. -/
def breadcrumbs? (format : Format α) (value : α) : Option BreadcrumbsLayer := do
  match ← format.fields? ["max_breadcrumbs"] value with
  | [maxBreadcrumbs] => do
    let maxBreadcrumbs ← maxBreadcrumbs.optional (format.nullable? format.word?)
    pure ⟨maxBreadcrumbs⟩
  | _ => none

/-- A section on hangs. -/
def hang? (format : Format α) (value : α) : Option HangLayer := do
  match ← format.fields? ["threshold_ms", "poll_interval_ms"] value with
  | [threshold, pollInterval] => do
    let threshold ← threshold.optional (format.nullable? format.word?)
    let pollInterval ← pollInterval.optional (format.nullable? format.word?)
    pure ⟨threshold, pollInterval⟩
  | _ => none

/-- A section on releases. -/
def release? (format : Format α) (value : α) : Option ReleaseLayer := do
  match ← format.fields? ["enabled_release_stages", "discard_classes"] value with
  | [enabledStages, discardClasses] => do
    let enabledStages ← enabledStages.optional (format.nullable? format.strings?)
    let discardClasses ← discardClasses.optional (format.nullable? format.strings?)
    pure ⟨enabledStages, discardClasses⟩
  | _ => none

/-- A section on the log. -/
def log? (format : Format α) (value : α) : Option LogLayer := do
  match ← format.fields? ["level"] value with
  | [level] => do
    let level ← level.optional (format.nullable? format.string?)
    pure ⟨level⟩
  | _ => none

/-- A layer. -/
def layer? (format : Format α) (value : α) : Option Layer := do
  match ← format.fields? ["breadcrumbs", "anr", "release", "logging"] value with
  | [breadcrumbs, hang, release, log] => do
    let breadcrumbs ← breadcrumbs.optional (format.nullable? format.breadcrumbs?)
    let hang ← hang.optional (format.nullable? format.hang?)
    let release ← release.optional (format.nullable? format.release?)
    let log ← log.optional (format.nullable? format.log?)
    pure ⟨breadcrumbs, hang, release, log⟩
  | _ => none

/-! ### JSON and TOML -/

/-- Settings in JSON. -/
def json : Format Json.Node where
  fields? := Decode.fields?
  isNull
    | .null => true
    | _ => false
  word? := Decode.word?
  string? := Decode.string?
  items?
    | .array items => some items
    | _ => none

/-- Settings in TOML. -/
def toml : Format Toml.Item where
  fields? names
    | .table _ entries => Field.ofMembers? names entries
    | .array items => some (Field.ofItems names items)
    | .tables elements => some (Field.ofItems names (elements.map (.table .explicit)))
    | .moment => Field.ofMembers? names []
    | _ => none
  isNull _ := false
  word?
    | .integer value =>
      if 0 ≤ value ∧ value < 0x10000000000000000 then some (UInt64.ofNat value.toNat) else none
    | _ => none
  string?
    | .string value => some value
    | _ => none
  items?
    | .array items => some items
    | .tables elements => some (elements.map (.table .explicit))
    | _ => none

end Format

/-- The layer of a JSON text. -/
def Layer.ofJson? (text : String) : Option Layer :=
  Decode.fromText? (fun _ => Format.json.layer?) text

/-- The layer of a TOML document. -/
def Layer.ofToml? (text : String) : Option Layer :=
  (Toml.parse? text).bind fun entries => Format.toml.layer? (.table .explicit entries)

/-- The settings of which events are reported, of a JSON text. Every stage is enabled and no class
discarded where it says nothing. -/
def ReleaseSettings.ofJson? (text : String) : Option ReleaseSettings :=
  Decode.fromText?
    (fun _ node => do
      match ← Decode.fields? ["enabled_release_stages", "discard_classes"] node with
      | [enabledStages, discardClasses] => do
        let enabledStages ← enabledStages.optional (Format.json.nullable? Format.json.strings?)
        let discardClasses ← discardClasses.defaulted [] Format.json.strings?
        pure ⟨enabledStages, discardClasses⟩
      | _ => none)
    text

end CrashReporter
