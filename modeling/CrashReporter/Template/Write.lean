/-
**Writes to the fields that an app keeps up to date.**

A `Write` names one change of the fields that events are made with. `EventRecord.write` is its meaning on
an event, by the event's own setters.
-/

import CrashReporter.Event.Basic

namespace CrashReporter

/-- A field that holds an optional text. -/
inductive TextField where
  | context
  | userId
  | userEmail
  | userName
  | binaryArch
  | buildUuid
  | appId
  | releaseStage
  | appType
  | version
  deriving DecidableEq, Repr

namespace TextField

/-- All fields that hold an optional text. -/
def all : List TextField :=
  [.context, .userId, .userEmail, .userName, .binaryArch, .buildUuid, .appId, .releaseStage,
    .appType, .version]

/-- The name of a field. -/
def name : TextField → String
  | .context => "context"
  | .userId => "user_id"
  | .userEmail => "user_email"
  | .userName => "user_name"
  | .binaryArch => "binary_arch"
  | .buildUuid => "build_uuid"
  | .appId => "app_id"
  | .releaseStage => "release_stage"
  | .appType => "app_type"
  | .version => "version"

/-- The field of a name. -/
def ofName? (name : String) : Option TextField :=
  all.find? fun field => field.name = name

end TextField

/-- A change of the fields that events are made with. -/
inductive Write where
  | text (field : TextField) (value : Option String)
  | user (id email name : Option String)
  | versionCode (value : Option Int32)
  | duration (value : Option Duration)
  | durationInForeground (value : Option Duration)
  | inForeground (value : Option Bool)
  | metadata (heading key : String) (value : Json)
  | clearSection (heading : String)
  | clearKey (heading key : String)

namespace EventRecord

/-- Sets a text field of an event. -/
def setText (event : EventRecord) (field : TextField) (value : Option String) : EventRecord :=
  match field with
  | .context => event.setContext value
  | .userId => { event with user := { event.user with id := Text.ofOption? value } }
  | .userEmail => { event with user := { event.user with email := Text.ofOption? value } }
  | .userName => { event with user := { event.user with name := Text.ofOption? value } }
  | .binaryArch => event.setBinaryArch value
  | .buildUuid => event.setBuildUuid value
  | .appId => event.setAppId value
  | .releaseStage => event.setReleaseStage value
  | .appType => event.setAppType value
  | .version => event.setVersion value

/-- Makes a write to an event. -/
def write (event : EventRecord) : Write → EventRecord
  | .text field value => event.setText field value
  | .user id email name => event.setUser id email name
  | .versionCode value => event.setVersionCode value
  | .duration value => event.setDuration value
  | .durationInForeground value => event.setDurationInForeground value
  | .inForeground value => event.setInForeground value
  | .metadata heading key value => { event with metadata := event.metadata.add heading key value }
  | .clearSection heading => { event with metadata := event.metadata.clearSection heading }
  | .clearKey heading key => { event with metadata := event.metadata.clearKey heading key }

end EventRecord

end CrashReporter
