/-
**Events read from JSON text.**

Each record is read by name or by position (`fields?`). Unknown members are skipped unseen; a known
name may occur once. Absent and null mean the same for optional fields, texts have to be texts,
integers have to be spelled as integers, and an alternative is written as its name or as an object with
its name and null. Nesting is limited, counted from the outermost record.
-/

import CrashReporter.Decode.Field
import CrashReporter.Event.Basic

namespace CrashReporter

open CrashReporter.Json (Node Piece)

namespace Decode

/-! ### Leaves -/

/-- A string. -/
def string? : Node → Option String
  | .text pieces => Json.pieces? pieces
  | _ => none

/-- A text. -/
def text? (node : Node) : Option Text :=
  (string? node).bind Text.ofString?

/-- A truth value. -/
def bool? : Node → Option Bool
  | .bool value => some value
  | _ => none

/-- An integer, spelled without fraction and exponent. -/
def integer? : Node → Option Int
  | .numeral numeral =>
    match numeral.value? with
    | some (.integer value _) => some value
    | _ => none
  | _ => none

/-- A signed integer of thirty-two bits. -/
def int32? (node : Node) : Option Int32 := do
  let value ← integer? node
  if -0x80000000 ≤ value ∧ value < 0x80000000 then some (Int32.ofInt value) else none

/-- An unsigned integer of sixty-four bits. -/
def word? (node : Node) : Option UInt64 := do
  let value ← integer? node
  if 0 ≤ value ∧ value < 0x10000000000000000 then some (UInt64.ofNat value.toNat) else none

/-- A span of whole seconds. -/
def seconds? (node : Node) : Option Duration :=
  (word? node).map Duration.ofSeconds

/-- An instant. -/
def instant? (node : Node) : Option Instant :=
  (string? node).bind Instant.parse?

/-- A value that may be null. -/
def nullable? {α : Type} (decode : Node → Option α) : Node → Option (Option α)
  | .null => some none
  | node => (decode node).map some

/-! ### Containers -/

/-- The members of an object under their names. -/
def members? : List (List Piece × Node) → Option (List (String × Node))
  | [] => some []
  | (pieces, node) :: rest => do
    let name ← Json.pieces? pieces
    let members ← members? rest
    pure ((name, node) :: members)

/-- The declared fields of a record. -/
def fields? (names : List String) : Node → Option (List (Field Node))
  | .object members => (members? members).bind (Field.ofMembers? names)
  | .array items =>
    if items.length ≤ names.length then some (Field.ofItems names items) else none
  | _ => none

/-- One of several alternatives, given by its name. -/
def alternative? {α : Type} (levels : Nat) (ofName? : String → Option α) : Node → Option α
  | .object [(pieces, .null)] => if 0 < levels then (Json.pieces? pieces).bind ofName? else none
  | node => (string? node).bind ofName?

/-- The items of an array. -/
def list? {α : Type} (levels : Nat) (decode : Nat → Node → Option α) : Node → Option (List α)
  | .array items =>
    match levels with
    | 0 => none
    | levels + 1 => items.mapM (decode levels)
  | _ => none

/-- The members of an object as a dictionary, in which the last repetition of a name counts. -/
def dictionary? {α : Type} (levels : Nat) (decode : Nat → Node → Option α) :
    Node → Option (Dictionary α)
  | .object members =>
    match levels with
    | 0 => none
    | levels + 1 => do
      let members ← members? members
      let entries ← members.mapM fun (name, node) => (decode levels node).map (name, ·)
      pure (Dictionary.ofList entries)
  | _ => none

/-! ### Records -/

/-- A severity by its name. -/
def severity? (levels : Nat) : Node → Option Severity :=
  alternative? levels fun name => (Severity.ofName name).toOption

/-- A kind of breadcrumb by its name. -/
def breadcrumbKind? (levels : Nat) : Node → Option BreadcrumbKind :=
  alternative? levels fun name => (BreadcrumbKind.ofName name).toOption

/-- The values of one section of metadata, or the metadata of a breadcrumb. -/
def values? (levels : Nat) : Node → Option (Dictionary Json) :=
  dictionary? levels Json.ofNode?

/-- Metadata. -/
def metadata? (levels : Nat) (node : Node) : Option Metadata :=
  (dictionary? levels values? node).map Metadata.mk

/-- The declared fields of a breadcrumb. -/
def breadcrumbNames : List String := ["timestamp", "message", "type", "metadata"]

/-- A breadcrumb. -/
def breadcrumb? : Nat → Node → Option Breadcrumb
  | 0, _ => none
  | levels + 1, node => do
    let fields ← fields? breadcrumbNames node
    match fields with
    | [timestamp, message, kind, metadata] => do
      let timestamp ← timestamp.required instant?
      let message ← message.required text?
      let kind ← kind.required (breadcrumbKind? levels)
      let metadata ← metadata.defaulted [] (values? levels)
      pure ⟨timestamp, message, kind, metadata⟩
    | _ => none

/-- The declared fields of an app. -/
def appNames : List String :=
  ["binary_arch", "build_uuid", "id", "release_stage", "type", "version", "version_code",
    "duration", "duration_in_foreground", "in_foreground"]

/-- An app. -/
def app? : Nat → Node → Option AppInfo
  | 0, _ => none
  | _ + 1, node => do
    let fields ← fields? appNames node
    match fields with
    | [binaryArch, buildUuid, id, releaseStage, type, version, versionCode, duration,
        durationInForeground, inForeground] => do
      let binaryArch ← binaryArch.optional (nullable? text?)
      let buildUuid ← buildUuid.optional (nullable? text?)
      let id ← id.optional (nullable? text?)
      let releaseStage ← releaseStage.optional (nullable? text?)
      let type ← type.optional (nullable? text?)
      let version ← version.optional (nullable? text?)
      let versionCode ← versionCode.optional (nullable? int32?)
      let duration ← duration.defaulted none (nullable? seconds?)
      let durationInForeground ← durationInForeground.defaulted none (nullable? seconds?)
      let inForeground ← inForeground.optional (nullable? bool?)
      pure ⟨binaryArch, buildUuid, id, releaseStage, type, version, versionCode, duration,
        durationInForeground, inForeground⟩
    | _ => none

/-- The declared fields of a user. -/
def userNames : List String := ["id", "email", "name"]

/-- A user. -/
def user? : Nat → Node → Option UserInfo
  | 0, _ => none
  | _ + 1, node => do
    let fields ← fields? userNames node
    match fields with
    | [id, email, name] => do
      let id ← id.optional (nullable? text?)
      let email ← email.optional (nullable? text?)
      let name ← name.optional (nullable? text?)
      pure ⟨id, email, name⟩
    | _ => none

/-- The declared fields of an error. -/
def errorNames : List String := ["error_class", "message"]

/-- An error. -/
def error? : Nat → Node → Option ErrorInfo
  | 0, _ => none
  | _ + 1, node => do
    let fields ← fields? errorNames node
    match fields with
    | [errorClass, message] => do
      let errorClass ← errorClass.required text?
      let message ← message.optional (nullable? text?)
      pure ⟨errorClass, message⟩
    | _ => none

/-- The declared fields of an event. -/
def eventNames : List String :=
  ["timestamp", "context", "app", "user", "error", "severity", "unhandled", "breadcrumbs",
    "metadata"]

/-- An event. -/
def event? : Nat → Node → Option EventRecord
  | 0, _ => none
  | levels + 1, node => do
    let fields ← fields? eventNames node
    match fields with
    | [timestamp, context, app, user, error, severity, unhandled, breadcrumbs, metadata] => do
      let timestamp ← timestamp.required instant?
      let context ← context.optional (nullable? text?)
      let app ← app.required (app? levels)
      let user ← user.required (user? levels)
      let error ← error.optional (nullable? (error? levels))
      let severity ← severity.required (severity? levels)
      let unhandled ← unhandled.required bool?
      let breadcrumbs ← breadcrumbs.required (list? levels breadcrumb?)
      let metadata ← metadata.defaulted .empty (metadata? levels)
      pure ⟨timestamp, context, app, user, error, severity, unhandled, breadcrumbs, metadata⟩
    | _ => none

/-- Reads a JSON text with a decoder, at the outermost level. -/
def fromText? {α : Type} (decode : Nat → Node → Option α) (text : String) : Option α :=
  (Node.parse? text).bind (decode Json.nestingLimit)

end Decode

/-- The event of a JSON text. -/
def EventRecord.parse? (text : String) : Option EventRecord :=
  Decode.fromText? Decode.event? text

/-- The breadcrumb of a JSON text. -/
def Breadcrumb.parse? (text : String) : Option Breadcrumb :=
  Decode.fromText? Decode.breadcrumb? text

end CrashReporter
