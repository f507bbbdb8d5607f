/-
**Writes of native callers to the fields of events and of the template.**

A native caller passes C strings and numbers in which some values mean none: null and the empty string for a
text, a negative number for a duration. The same `FieldWrite` can be made to the template
(`FieldWrite.change?`) and to an event (`EventRecord.writeField`).
-/

import CrashReporter.Native.CText
import CrashReporter.Template.Write

namespace CrashReporter

/-- A text field of the app. -/
inductive AppText where
  | binaryArch
  | buildUuid
  | id
  | releaseStage
  | type
  | version
  deriving DecidableEq, Repr

namespace AppText

/-- All text fields of the app. -/
def all : List AppText := [.binaryArch, .buildUuid, .id, .releaseStage, .type, .version]

/-- The name of a text field of the app. -/
def name : AppText → String
  | .binaryArch => "binary_arch"
  | .buildUuid => "build_uuid"
  | .id => "id"
  | .releaseStage => "release_stage"
  | .type => "type"
  | .version => "version"

/-- The text field of a name. -/
def ofName? (name : String) : Option AppText :=
  all.find? fun field => field.name = name

end AppText

/-- A write to a field that both events and the template have. -/
inductive FieldWrite where
  | context (value : CText)
  | user (id email name : CText)
  | appText (field : AppText) (value : CText)
  | versionCode (value : Int32)
  /-- The time since the start of the app in seconds; a negative number means none. -/
  | duration (value : Int64)
  /-- The time that the app was in the foreground in seconds; a negative number means none. -/
  | durationInForeground (value : Int64)
  | inForeground (value : Bool)
  /-- Sets a string in the metadata; null removes it. Without a section or a key nothing is done. -/
  | metadataText (heading key value : CText)
  /-- Removes a key, or a whole section if the key is null. Without a section nothing is done. -/
  | clearMetadata (heading key : CText)

/-- The duration of a number of seconds; none if that is negative. -/
def Duration.ofSeconds? (seconds : Int64) : Option Duration :=
  if seconds < 0 then none else some (.ofSeconds seconds.toUInt64)

/-! ### The template -/

/-- The template's name of a text field of the app. -/
def AppText.toField : AppText → TextField
  | .binaryArch => .binaryArch
  | .buildUuid => .buildUuid
  | .id => .appId
  | .releaseStage => .releaseStage
  | .type => .appType
  | .version => .version

/-- What a write changes in the template; none if it does nothing. -/
def FieldWrite.change? : FieldWrite → Option Write
  | .context value => some (.text .context value.read?)
  | .user id email name => some (.user id.read? email.read? name.read?)
  | .appText field value => some (.text field.toField value.read?)
  | .versionCode value => some (.versionCode (some value))
  | .duration value => some (.duration (Duration.ofSeconds? value))
  | .durationInForeground value => some (.durationInForeground (Duration.ofSeconds? value))
  | .inForeground value => some (.inForeground (some value))
  | .metadataText heading key value =>
    match heading.read?, key.read? with
    | some heading, some key =>
      match value.read? with
      | some value => some (.metadata heading key (.string value))
      | none => some (.clearKey heading key)
    | _, _ => none
  | .clearMetadata heading key =>
    match heading.read? with
    | some heading =>
      match key.read? with
      | some key => some (.clearKey heading key)
      | none => some (.clearSection heading)
    | none => none

/-! ### Events -/

namespace EventRecord

/-- Sets a text field of the app of an event. -/
def writeAppText (event : EventRecord) (field : AppText) (value : Option String) : EventRecord :=
  match field with
  | .binaryArch => event.setBinaryArch value
  | .buildUuid => event.setBuildUuid value
  | .id => event.setAppId value
  | .releaseStage => event.setReleaseStage value
  | .type => event.setAppType value
  | .version => event.setVersion value

/-- Sets a value in the metadata of an event, of which null removes the key. Without a section or a key
nothing is done. -/
def addMetadata (event : EventRecord) (heading key : CText) (value : Json) : EventRecord :=
  match heading.read?, key.read? with
  | some heading, some key => { event with metadata := event.metadata.add heading key value }
  | _, _ => event

/-- Makes a write to an event. -/
def writeField (event : EventRecord) : FieldWrite → EventRecord
  | .context value => event.setContext value.read?
  | .user id email name => event.setUser id.read? email.read? name.read?
  | .appText field value => event.writeAppText field value.read?
  | .versionCode value => event.setVersionCode (some value)
  | .duration value => event.setDuration (Duration.ofSeconds? value)
  | .durationInForeground value => event.setDurationInForeground (Duration.ofSeconds? value)
  | .inForeground value => event.setInForeground (some value)
  | .metadataText heading key value =>
    event.addMetadata heading key (.ofOption .string value.read?)
  | .clearMetadata heading key =>
    match heading.read?, key.read? with
    | some heading, some key => { event with metadata := event.metadata.clearKey heading key }
    | some heading, none => { event with metadata := event.metadata.clearSection heading }
    | none, _ => event

end EventRecord

end CrashReporter
