/-
**Events: one error, crash or hang each.**

The record that travels through the reporting pipeline, its setters, and its JSON text (`toJson`,
`toText`).
-/

import CrashReporter.Event.Breadcrumb
import CrashReporter.Event.Context
import CrashReporter.Event.Metadata
import CrashReporter.Event.Severity

namespace CrashReporter

/-- A captured error, crash or hang. -/
structure EventRecord where
  timestamp : Instant
  context : Option Text
  app : AppInfo
  user : UserInfo
  error : Option ErrorInfo
  severity : Severity
  /-- The host did not raise the event itself. -/
  unhandled : Bool
  breadcrumbs : List Breadcrumb
  metadata : Metadata

namespace EventRecord

/-- An event of the moment `now` of which nothing else is known. -/
def make (now : Instant) : EventRecord :=
  { timestamp := now
    context := none
    app := .unknown
    user := .unknown
    error := none
    severity := default
    unhandled := false
    breadcrumbs := []
    metadata := .empty }

/-! ### Setters

A text field is set from an optional string and absent whenever that gives no text. -/

/-- Sets the context. -/
def setContext (event : EventRecord) (value : Option String) : EventRecord :=
  { event with context := Text.ofOption? value }

/-- Sets the instruction set of the app. -/
def setBinaryArch (event : EventRecord) (value : Option String) : EventRecord :=
  { event with app := { event.app with binaryArch := Text.ofOption? value } }

/-- Sets the build of the app. -/
def setBuildUuid (event : EventRecord) (value : Option String) : EventRecord :=
  { event with app := { event.app with buildUuid := Text.ofOption? value } }

/-- Sets the package name of the app. -/
def setAppId (event : EventRecord) (value : Option String) : EventRecord :=
  { event with app := { event.app with id := Text.ofOption? value } }

/-- Sets the release stage of the app. -/
def setReleaseStage (event : EventRecord) (value : Option String) : EventRecord :=
  { event with app := { event.app with releaseStage := Text.ofOption? value } }

/-- Sets the platform of the app. -/
def setAppType (event : EventRecord) (value : Option String) : EventRecord :=
  { event with app := { event.app with type := Text.ofOption? value } }

/-- Sets the version of the app. -/
def setVersion (event : EventRecord) (value : Option String) : EventRecord :=
  { event with app := { event.app with version := Text.ofOption? value } }

/-- Sets the version code of the app. -/
def setVersionCode (event : EventRecord) (value : Option Int32) : EventRecord :=
  { event with app := { event.app with versionCode := value } }

/-- Sets the time since the start of the app. -/
def setDuration (event : EventRecord) (value : Option Duration) : EventRecord :=
  { event with app := { event.app with duration := value } }

/-- Sets the time that the app was in the foreground. -/
def setDurationInForeground (event : EventRecord) (value : Option Duration) : EventRecord :=
  { event with app := { event.app with durationInForeground := value } }

/-- Sets whether the app is in the foreground. -/
def setInForeground (event : EventRecord) (value : Option Bool) : EventRecord :=
  { event with app := { event.app with inForeground := value } }

/-- Sets all fields of the user. -/
def setUser (event : EventRecord) (id email name : Option String) : EventRecord :=
  { event with user := UserInfo.make id email name }

/-- Sets the error, whose class has to be a text. -/
def setError (event : EventRecord) (errorClass : String) (message : Option String) :
    Except EventError EventRecord :=
  (ErrorInfo.make errorClass message).map fun error => { event with error := some error }

/-! ### Views -/

/-- The class of the error. -/
def errorClass? (event : EventRecord) : Option Text :=
  event.error.map ErrorInfo.errorClass

/-- The message of the error. -/
def errorMessage? (event : EventRecord) : Option Text :=
  event.error.bind ErrorInfo.message

/-- An event as a JSON object; empty metadata is left out. -/
def toJson (event : EventRecord) : Json :=
  .object
    ([("timestamp", .string event.timestamp.write),
      ("context", .ofOption .ofText event.context),
      ("app", event.app.toJson),
      ("user", event.user.toJson),
      ("error", .ofOption ErrorInfo.toJson event.error),
      ("severity", .string event.severity.name),
      ("unhandled", .bool event.unhandled),
      ("breadcrumbs", .array (event.breadcrumbs.map Breadcrumb.toJson))] ++
      if event.metadata.isEmpty then [] else [("metadata", event.metadata.toJson)])

/-- The JSON text of an event. -/
def toText (event : EventRecord) : String :=
  event.toJson.render

/-- Equality of events. -/
def same (first second : EventRecord) : Bool :=
  first.timestamp = second.timestamp && first.context = second.context &&
    first.app = second.app && first.user = second.user && first.error = second.error &&
    first.severity = second.severity && first.unhandled = second.unhandled &&
    first.breadcrumbs == second.breadcrumbs && first.metadata == second.metadata

instance : BEq EventRecord := ⟨same⟩

end EventRecord

end CrashReporter
