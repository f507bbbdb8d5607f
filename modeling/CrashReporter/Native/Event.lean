/-
**Events in the hands of native callers.**

A native caller reads and writes an event through its address. Null is an address too: reading from it gives
what an unset field gives, and writing to it does nothing. Numbers say that a field is unset by a value:
minus one for the version code, zero for a duration.
-/

import CrashReporter.Native.Field

namespace CrashReporter

/-- A text field of an event. -/
inductive EventText where
  | context
  | errorClass
  | errorMessage
  | userId
  | userEmail
  | userName
  | app (field : AppText)
  deriving DecidableEq, Repr

namespace EventText

/-- All text fields of an event. -/
def all : List EventText :=
  [.context, .errorClass, .errorMessage, .userId, .userEmail, .userName] ++ AppText.all.map .app

/-- The name of a text field. -/
def name : EventText → String
  | .context => "context"
  | .errorClass => "error_class"
  | .errorMessage => "error_message"
  | .userId => "user_id"
  | .userEmail => "user_email"
  | .userName => "user_name"
  | .app field => field.name

/-- The text field of a name. -/
def ofName? (name : String) : Option EventText :=
  all.find? fun field => field.name = name

end EventText

/-- A write to an event. -/
inductive EventWrite where
  | field (change : FieldWrite)
  /-- Sets the severity of a code; an unknown code does nothing. -/
  | severity (code : Int32)
  | metadataBool (heading key : CText) (value : Bool)
  /-- Sets the double of a bit pattern in the metadata; one that is not finite removes the key. -/
  | metadataDouble (heading key : CText) (bits : UInt64)

namespace AppInfo

/-- A text field of an app. -/
def text? (app : AppInfo) : AppText → Option Text
  | .binaryArch => app.binaryArch
  | .buildUuid => app.buildUuid
  | .id => app.id
  | .releaseStage => app.releaseStage
  | .type => app.type
  | .version => app.version

end AppInfo

namespace EventRecord

/-- A text field of an event. -/
def text? (event : EventRecord) : EventText → Option Text
  | .context => event.context
  | .errorClass => event.errorClass?
  | .errorMessage => event.errorMessage?
  | .userId => event.user.id
  | .userEmail => event.user.email
  | .userName => event.user.name
  | .app field => event.app.text? field

/-- Makes a native write to an event. -/
def writeNative (event : EventRecord) : EventWrite → EventRecord
  | .field change => event.writeField change
  | .severity code =>
    match Severity.ofCode code with
    | .ok severity => { event with severity := severity }
    | .error _ => event
  | .metadataBool heading key value => event.addMetadata heading key (.bool value)
  | .metadataDouble heading key bits =>
    event.addMetadata heading key (.ofOption (fun double => .number (.double double)) (Double.ofBits? bits))

end EventRecord

/-- The address of an event: null, or an event that is alive. -/
abbrev EventAddress := Option EventRecord

namespace EventAddress

/-- The C string of a text field; null if it is unset. -/
def text (address : EventAddress) (field : EventText) : CText :=
  .ofText? (address.bind (·.text? field))

/-- The code of the severity. -/
def severity (address : EventAddress) : Int32 :=
  (address.map EventRecord.severity).getD default |>.code

/-- Whether the host did not raise the event itself. -/
def unhandled (address : EventAddress) : Bool :=
  address.any EventRecord.unhandled

/-- The version code; minus one if it is unset. -/
def versionCode (address : EventAddress) : Int32 :=
  (address.bind fun event => event.app.versionCode).getD (-1)

/-- The whole seconds of a duration, as many as sixty-four bits with a sign hold; zero if it is unset. -/
def seconds (span : Option Duration) : Int64 :=
  match span with
  | some span => Int64.ofInt (min span.seconds.toNat 0x7FFFFFFFFFFFFFFF)
  | none => 0

/-- The time since the start of the app in seconds. -/
def duration (address : EventAddress) : Int64 :=
  seconds (address.bind fun event => event.app.duration)

/-- The time that the app was in the foreground in seconds. -/
def durationInForeground (address : EventAddress) : Int64 :=
  seconds (address.bind fun event => event.app.durationInForeground)

/-- Whether the app is in the foreground; not if that is unknown. -/
def inForeground (address : EventAddress) : Bool :=
  address.any fun event => event.app.isInForeground

/-- Makes a write, unless the address is null. -/
def write (address : EventAddress) (change : EventWrite) : EventAddress :=
  address.map (·.writeNative change)

end EventAddress

end CrashReporter
